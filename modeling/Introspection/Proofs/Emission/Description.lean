import Introspection.Proofs.Emission.Parameters
import Introspection.Proofs.Emission.Runs
import Introspection.Proofs.Recovery.Loading

/-!
# What emitted fragments describe

The text that a build makes of a declared element is read as a fragment, and the fragment says of
the element what its declaration says, with ids in the place of identifiers. Two things have to be
kept apart in the build: the paths to id constants, which stand for ids, and the expressions for
the types of arguments, which do not, whatever the type is.

## Main definitions

* `Emission.fragmentOf` — the fragment of a declared element
* `Emission.Emits` — an element is emitted as a fragment

## Main results

* `Emission.value_idAccess_some`, `Emission.value_hintExpression` — the values of expressions
* `Emission.exists_parameterNodes` — every parameter of a function is described
* `Emission.emits_module`, `Emission.emits_class`, `Emission.emits_function`
* `Emission.Emits.readsFragment` — the text that a build makes is read as the fragment
-/

namespace Introspection.Emission

open Introspection.Api (Kind Parameter)
open Introspection.Binding (Argument Signature)
open Introspection.Metadata (Clean Concatenation Node Plain idAccess defaultIdConstant
  itemsClean_iff mem_itemExpressions_iff)
open Introspection.Recovery (HasText HasMembers DescribesParameter DescribesClass
  DescribesFunction ReadsFragment)

/-! ### The values of expressions -/

/-- The path to the id constant of an element refers to that element. -/
theorem referent?_idAccess (ident idConstant : String) :
    referent? idConstant (idAccess (some ident) idConstant) = some ident := by
  have hpath : (idAccess (some ident) idConstant).toList =
      ident.toList ++ (':' :: ':' :: idConstant.toList) := by
    simp [idAccess]
  have hsuffix : (':' :: ':' :: idConstant.toList).isSuffixOf
      (ident.toList ++ (':' :: ':' :: idConstant.toList)) = true :=
    List.isSuffixOf_iff_suffix.mpr (List.suffix_append _ _)
  rw [referent?, hpath]
  simp only [hsuffix, if_true, List.length_append, Nat.add_sub_cancel_right]
  rw [List.take_left', String.ofList_toList]
  rfl

/-- An expression that ends in another character than an id constant refers to no element. -/
theorem referent?_eq_none {idConstant expression : String} {c : Char}
    (hconstant : idConstant.toList.getLast? = some c)
    (hne : expression.toList.getLast? ≠ some c) : referent? idConstant expression = none := by
  rw [referent?, if_neg]
  intro hsuffix
  obtain ⟨before, heq⟩ := List.isSuffixOf_iff_suffix.mp hsuffix
  rw [← heq, List.getLast?_append, List.getLast?_cons, List.getLast?_cons, hconstant] at hne
  exact hne rfl

/-- The expression for an annotation ends in another character than the id constant. -/
theorem getLast?_hintExpression (cratePath : String) (argument : Argument) :
    (hintExpression cratePath argument).toList.getLast? ≠ some 'D' := by
  rw [hintExpression]
  split
  · have hlast : (")" : String).toList.getLast? = some ')' := rfl
    rw [Concatenation.expression, String.toList_append, List.getLast?_append, hlast]
    simp
  · have hlast : ("::impl_::extract_argument::PyFunctionArgument>::INPUT_TYPE" :
        String).toList.getLast? = some 'E' := rfl
    rw [inputType, String.toList_append, List.getLast?_append, hlast]
    simp

section Values

variable (build : Build) (own : String) (default : build.idConstant = defaultIdConstant)
include default

/-- The bare name of the id constant stands for the id of the element itself. -/
theorem value_idAccess_none :
    build.value own (idAccess none defaultIdConstant) = build.idOf own := by
  rw [Build.value, if_pos (by rw [default]; rfl)]

theorem value_idAccess_some (ident : String) :
    build.value own (idAccess (some ident) defaultIdConstant) = build.idOf ident := by
  have hne : idAccess (some ident) defaultIdConstant ≠ build.idConstant := by
    intro heq
    have hlength := congrArg String.length heq
    rw [default, idAccess, String.length_append, String.length_append] at hlength
    have hcolons : ("::" : String).length = 2 := rfl
    omega
  rw [Build.value, if_neg hne, default, referent?_idAccess]

/-- The expression for an annotation has a value of its own. -/
theorem value_hintExpression (cratePath : String) (argument : Argument) :
    build.value own (hintExpression cratePath argument) =
      build.others (hintExpression cratePath argument) := by
  have hlast : build.idConstant.toList.getLast? = some 'D' := by
    rw [default]
    rfl
  have hne : hintExpression cratePath argument ≠ build.idConstant := by
    intro heq
    exact getLast?_hintExpression cratePath argument (heq ▸ hlast)
  rw [Build.value, if_neg hne,
    referent?_eq_none hlast (getLast?_hintExpression cratePath argument)]

end Values

/-! ### Parameters -/

/-- The meanings of items are those of each item. -/
theorem itemMeanings_eq_map (idConstant : String) (valueOf : String → String) (items : List Node) :
    Node.itemMeanings idConstant valueOf items = items.map (Node.meaning idConstant valueOf) := by
  induction items with
  | nil => rfl
  | cons item items ih => rw [Node.itemMeanings, ih, List.map_cons]

/-- A tree in the fragment of an element describes a parameter, and can be built. -/
structure NodeDescribes (build : Build) (own : String) (node : Node) (parameter : Parameter) :
    Prop where
  describes : DescribesParameter (node.meaning defaultIdConstant (build.value own)) parameter
  clean : node.Clean
  plain : ∀ expression ∈ node.expressions defaultIdConstant, Plain (build.value own expression)

theorem clean_tag (kind : Kind) : Clean kind.tag := by
  cases kind <;> decide

theorem nodeDescribes_variadicNode (build : Build) (own : String) {name : String}
    (clean : Clean name) (kind : Kind) :
    NodeDescribes build own (variadicNode name kind) (variadicParameter kind name) where
  describes := by
    have hcollected : Json.collected [("name", .str name), ("kind", .str kind.tag)] = _ :=
      Json.collected_of_nodup (show ["name", "kind"].Nodup by decide)
    refine ⟨_, congrArg Json.object hcollected, ?_, ?_, ?_, ?_⟩ <;> simp [HasText, Json.get?_cons,
      variadicParameter, Json.isTruthy]
  clean := ⟨by decide, clean, by decide, clean_tag kind, trivial⟩
  plain := by simp [variadicNode, Node.expressions, Node.memberExpressions]

section Parameters

variable (build : Build) (own : String) (default : build.idConstant = defaultIdConstant)
  (plain : ∀ expression, Plain (build.others expression))
include default plain

theorem nodeDescribes_parameterNode {name : String} (clean : Clean name) (kind : Kind)
    (argument : Argument) :
    NodeDescribes build own (parameterNode ({} : Names).cratePath name kind.tag argument)
      (declaredParameter build.others kind name argument) := by
  have hhint := value_hintExpression build own default ({} : Names).cratePath argument
  have hclean : Metadata.MembersClean [("name", .str name), ("kind", .str kind.tag),
      ("has_default", .bool argument.default.isSome)] :=
    ⟨by decide, clean, by decide, clean_tag kind, by decide, trivial, trivial⟩
  rw [parameterNode]
  cases hconverter : argument.converter with
  | none =>
    refine ⟨?_, ?_, ?_⟩
    · have hcollected : Json.collected [("name", .str name), ("kind", .str kind.tag),
          ("has_default", .bool argument.default.isSome), ("annotation",
            .str (build.value own (hintExpression ({} : Names).cratePath argument)))] = _ :=
        Json.collected_of_nodup
          (show ["name", "kind", "has_default", "annotation"].Nodup by decide)
      refine ⟨_, congrArg Json.object hcollected, ?_, ?_, ?_, ?_⟩ <;> simp [HasText,
        Json.get?_cons, declaredParameter, Json.isTruthy, hconverter, Json.asString?, hhint]
    · exact ⟨by decide, clean, by decide, clean_tag kind, by decide, trivial, by decide, trivial,
        trivial⟩
    · simp [Node.expressions, Node.memberExpressions, hhint, plain]
  | some converter =>
    refine ⟨?_, hclean, ?_⟩
    · have hcollected : Json.collected [("name", .str name), ("kind", .str kind.tag),
          ("has_default", .bool argument.default.isSome)] = _ :=
        Json.collected_of_nodup (show ["name", "kind", "has_default"].Nodup by decide)
      refine ⟨_, congrArg Json.object hcollected, ?_, ?_, ?_, ?_⟩ <;> simp [HasText,
        Json.get?_cons, declaredParameter, Json.isTruthy, hconverter]
    · simp [Node.expressions, Node.memberExpressions]

theorem nodeDescribes_entry {entry : Entry} (clean : Clean entry.name) :
    NodeDescribes build own (entry.node ({} : Names).cratePath) (entry.parameter build.others) := by
  cases entry with
  | matched kind name argument =>
    exact nodeDescribes_parameterNode build own default plain clean kind argument
  | variadic kind name => exact nodeDescribes_variadicNode build own clean kind

/-- Every parameter of a declared function is described. -/
theorem exists_parameterNodes {signature : Signature} (proper : ProperSignature signature) :
    ∃ nodes, parameterNodes? ({} : Names).cratePath signature = some nodes ∧
      List.Forall₂ (NodeDescribes build own) nodes
        (declaredParameters build.others signature) := by
  have enough : ¬ LacksArguments signature := Nat.not_lt.mpr proper.enough
  refine ⟨_, parameterNodes?_eq_some _ enough, ?_⟩
  rw [← map_parameter_signatureEntries, List.forall₂_map_left_iff, List.forall₂_map_right_iff,
    List.forall₂_same]
  intro entry hentry
  refine nodeDescribes_entry build own default plain (proper.clean _ ?_)
  rw [← map_name_signatureEntries enough]
  exact List.mem_map_of_mem hentry

end Parameters

/-! ### Fragments -/

/-- The fragment of a declared element. -/
def fragmentOf (build : Build) (declaration : Declaration) : Recovery.Fragment :=
  match (declaredNode declaration).map
      (Node.meaning defaultIdConstant (build.value declaration.ident)) with
  | some (.object entries) => entries
  | _ => []

/-- A declared element is emitted as a fragment: it has a tree that can be serialized, means the
fragment, and holds expressions with plain values only. -/
structure Emits (build : Build) (declaration : Declaration) (fragment : Recovery.Fragment) :
    Prop where
  exists_entries : ∃ entries, declaredNode declaration = some (.object entries) ∧
    Metadata.MembersClean entries ∧
    Json.collected (Node.memberMeanings defaultIdConstant (build.value declaration.ident) entries) =
      fragment ∧
    ∀ expression ∈ Node.memberExpressions defaultIdConstant entries,
      Plain (build.value declaration.ident expression)

section Emits

variable {build : Build} {declaration : Declaration} {fragment : Recovery.Fragment}
  (emits : Emits build declaration fragment)
include emits

theorem Emits.fragmentOf_eq : fragmentOf build declaration = fragment := by
  obtain ⟨entries, hnode, -, hmeaning, -⟩ := emits.exists_entries
  rw [fragmentOf, hnode, Option.map_some, Node.meaning, hmeaning]

theorem Emits.emittable : Emittable declaration := by
  obtain ⟨entries, hnode, hclean, -, -⟩ := emits.exists_entries
  exact ⟨_, hnode, hclean⟩

/-- The text that a build makes of an element is read as its fragment. -/
theorem Emits.readsFragment {text : String} (built : Built build declaration text) :
    ReadsFragment text fragment := by
  obtain ⟨entries, hnode, -, hmeaning, hplain⟩ := emits.exists_entries
  obtain ⟨node, content, hnode', hserialize, rfl⟩ := built
  rw [hnode] at hnode'
  cases hnode'
  have hdenotes := Metadata.denotes_of_serialize (build.value declaration.ident) hserialize
  have hplain : ∀ expression ∈ (Node.object entries).expressions defaultIdConstant,
      Plain (build.value declaration.ident expression) := hplain
  have hreads := Metadata.reads_of_denotes hplain hdenotes
  rw [Node.meaning, hmeaning] at hreads
  exact ⟨hreads, Metadata.exists_inside_of_serialize _ hserialize⟩

end Emits

/-- The entries that every fragment begins with. -/
def commonEntries (build : Build) (declaration : Declaration) (type : String) :
    Recovery.Fragment :=
  [("type", .str type), ("id", .str (build.idOf declaration.ident)),
    ("name", .str declaration.name)]

section Fragments

variable {build : Build} {declaration : Declaration}
  (default : build.idConstant = defaultIdConstant) (clean : Clean declaration.name)
include default clean

theorem emits_module {members : List String} (body : declaration.body = .ofModule members)
    (plain : ∀ ident ∈ declaration.ident :: members, Plain (build.idOf ident)) :
    Emits build declaration (commonEntries build declaration "module" ++
      [("members", .array ((members.map build.idOf).map .str))]) := by
  have hmembers : Node.itemMeanings defaultIdConstant (build.value declaration.ident)
      (members.map fun member => .ref (some member)) = (members.map build.idOf).map .str := by
    rw [itemMeanings_eq_map, List.map_map, List.map_map]
    refine List.map_congr_left fun member _ => ?_
    exact congrArg Json.str (value_idAccess_some build declaration.ident default member)
  have hclean : Metadata.ItemsClean (members.map fun member => .ref (some member)) := by
    rw [itemsClean_iff]
    intro item hitem
    obtain ⟨member, -, rfl⟩ := List.mem_map.mp hitem
    trivial
  refine ⟨_, by rw [declaredNode, body]; rfl, ?_, ?_, ?_⟩
  · have htype : Clean "module" := by decide
    exact ⟨by decide, htype, by decide, trivial, by decide, clean, by decide, hclean, trivial⟩
  · simp only [Node.meaning, Node.memberMeanings, hmembers,
      value_idAccess_none build declaration.ident default]
    exact Json.collected_of_nodup (show ["type", "id", "name", "members"].Nodup by decide)
  · intro expression hexpression
    simp only [Node.memberExpressions, Node.expressions, List.nil_append, List.append_nil,
      List.mem_append, List.mem_singleton, mem_itemExpressions_iff, List.mem_map] at hexpression
    rcases hexpression with rfl | ⟨item, ⟨member, hmember, rfl⟩, hexpression⟩
    · rw [value_idAccess_none build declaration.ident default]
      exact plain _ List.mem_cons_self
    · rw [List.mem_singleton.mp hexpression,
        value_idAccess_some build declaration.ident default member]
      exact plain _ (List.mem_cons_of_mem _ hmember)

theorem emits_class (body : declaration.body = .ofClass)
    (plain : Plain (build.idOf declaration.ident)) :
    Emits build declaration (commonEntries build declaration "class") := by
  have hvalue := value_idAccess_some build declaration.ident default declaration.ident
  refine ⟨_, by rw [declaredNode, body]; rfl, ?_, ?_, ?_⟩
  · have htype : Clean "class" := by decide
    exact ⟨by decide, htype, by decide, trivial, by decide, clean, trivial⟩
  · simp only [Node.meaning, Node.memberMeanings, hvalue]
    exact Json.collected_of_nodup (show ["type", "id", "name"].Nodup by decide)
  · simp [Node.expressions, Node.memberExpressions, hvalue, plain]

theorem emits_function {signature : Signature}
    (body : declaration.body = .ofFunction (some signature)) (proper : ProperSignature signature)
    (plain : Plain (build.idOf declaration.ident))
    (others : ∀ expression, Plain (build.others expression)) :
    ∃ values, Emits build declaration (commonEntries build declaration "function" ++
        [("signature", .object [("parameters", .array values)])]) ∧
      List.Forall₂ DescribesParameter values (declaredParameters build.others signature) := by
  obtain ⟨nodes, hnodes, hdescribes⟩ :=
    exists_parameterNodes build declaration.ident default others proper
  have hvalue := value_idAccess_some build declaration.ident default declaration.ident
  have hnode : declaredNode declaration = some (functionNode declaration.ident declaration.name
      (.object [("parameters", .array nodes)])) := by
    rw [declaredNode, body]
    dsimp only
    rw [signatureNode?, hnodes]
    rfl
  have hclean : Metadata.ItemsClean nodes := by
    rw [itemsClean_iff]
    intro node hmem
    obtain ⟨_, -, h⟩ := exists_of_forall₂ hdescribes hmem
    exact h.clean
  refine ⟨nodes.map (Node.meaning defaultIdConstant (build.value declaration.ident)),
    ⟨_, hnode, ?_, ?_, ?_⟩, ?_⟩
  · have htype : Clean "function" := by decide
    exact ⟨by decide, htype, by decide, trivial, by decide, clean, by decide,
      ⟨by decide, hclean, trivial⟩, trivial⟩
  · have hsignature : Json.collected [("parameters", Json.array (nodes.map
        (Node.meaning defaultIdConstant (build.value declaration.ident))))] = _ :=
      Json.collected_of_nodup (show ["parameters"].Nodup by decide)
    simp only [Node.meaning, Node.memberMeanings, itemMeanings_eq_map, hsignature, hvalue]
    exact Json.collected_of_nodup (show ["type", "id", "name", "signature"].Nodup by decide)
  · intro expression hexpression
    simp only [Node.memberExpressions, Node.expressions, List.nil_append, List.append_nil,
      List.mem_append, List.mem_singleton, mem_itemExpressions_iff] at hexpression
    rcases hexpression with rfl | ⟨node, hmem, hexpression⟩
    · rw [hvalue]
      exact plain
    · obtain ⟨_, -, h⟩ := exists_of_forall₂ hdescribes hmem
      exact h.plain expression hexpression
  · rw [List.forall₂_map_left_iff]
    exact hdescribes.imp fun _ _ h => h.describes

end Fragments

end Introspection.Emission
