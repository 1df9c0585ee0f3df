import Introspection.Proofs.Emission.Source
import Introspection.Proofs.Metadata.Operands
import Introspection.Proofs.Stub.CallingConvention

/-!
# Modules in their scopes

The constant and the fragment of a module are put into a scope, and its lines are indented there. A
fragment stands on one line, as the item that stores it, so nothing should happen to it. The text of
the module's name is inside that line, and escaping refuses only the control characters below the
blank. Three of the others end a line of a text all the same: the next-line character and the two
Unicode separators. A name with one of them is torn apart, and a name without them is safe:
`staticItem_kept_iff` says so in both directions.

Classes and functions have no scope, and nothing happens to their names.

## Scope

Reading source here means finding the item that stores a fragment and evaluating its expression. It
is no reader of Rust at large: an item is on a line of its own, and lines end with line feeds.

## Main definitions

* `Rust.static?` — the expression of a static item
* `Emission.storedText?` — the text that is stored by a static item, once expressions have values

## Main results

* `Emission.mem_staticItem_iff` — the line ends in an item are those of the name
* `Emission.storedText?_scopeLines` — the item is found in its scope
* `Emission.staticItem_kept_iff` — which modules are kept by their scopes
-/

namespace Introspection

namespace Rust

/-- The expression of a static item, if it stands on a line. -/
def staticOn? (name : String) (line : List Char) : Option (List Char) :=
  let item := line.dropWhile (· == ' ')
  let start := ("static " ++ name ++ ": &'static str = ").toList
  if start.isPrefixOf item && item.getLast? == some ';' then
    some ((item.drop start.length).dropLast)
  else none

/-- The expression of the first static item of a name. -/
def static? (name : String) (source : List Char) : Option (List Char) :=
  (source.splitOn '\n').findSome? (staticOn? name)

/-- An item starts with a letter of its own. -/
theorem staticOn?_eq_none {name : String} {line : List Char}
    (h : (line.dropWhile (· == ' ')).head? ≠ some 's') : staticOn? name line = none := by
  rw [staticOn?, if_neg]
  intro hitem
  obtain ⟨tail, htail⟩ := List.isPrefixOf_iff_prefix.mp (Bool.and_eq_true_iff.mp hitem).1
  rw [← htail] at h
  exact h (by simp [String.toList_append])

theorem staticOn?_eq_some (name : String) (blanks expression : List Char)
    (hblanks : blanks.all (· == ' ') = true) :
    staticOn? name
        (blanks ++ (("static " ++ name ++ ": &'static str = ").toList ++ (expression ++ [';']))) =
      some expression := by
  have hitem : (blanks ++ (("static " ++ name ++ ": &'static str = ").toList ++
      (expression ++ [';']))).dropWhile (· == ' ') =
        ("static " ++ name ++ ": &'static str = ").toList ++ (expression ++ [';']) := by
    rw [List.dropWhile_append_of_pos (List.all_eq_true.mp hblanks)]
    simp [String.toList_append]
  rw [staticOn?, hitem, if_pos]
  · rw [List.drop_left, List.dropLast_concat]
  · rw [Bool.and_eq_true_iff]
    refine ⟨List.isPrefixOf_iff_prefix.mpr (List.prefix_append _ _), ?_⟩
    rw [← List.append_assoc, List.getLast?_concat]
    rfl

end Rust

namespace Emission

open Introspection.Metadata (Clean Concatenation IsOperand ItemsClean Node Piece clean_of_denotes
  defaultIdConstant denotes_of_serialize idAccess itemsClean_iff mem_expression_iff
  mem_itemExpressions_iff mem_itemTexts_iff readExpression readExpression_of_serialize)
open Introspection.Stub (IsName)
open Introspection.Text (infix_joinLines_of_mem isLineEnd)

/-- The text that a build stores in the static item of a name, if the item is found and its
expression is a concatenation. -/
def storedText? (valueOf : String → String) (name source : String) : Option String :=
  ((Rust.static? name source.toList).bind
    (readExpression Rust.literals ({} : Names).cratePath)).map fun pieces =>
      String.join (pieces.map (Piece.value valueOf))

/-! ### Runs taken apart -/

theorem Run.ofExcept_eq_ok_iff {ε α : Type} {wrap : ε → Fault} {result : Except ε α} {value : α}
    {state state' : State} :
    Run.ofExcept wrap result state = .ok value state' ↔ result = .ok value ∧ state = state' := by
  cases result with
  | ok other =>
    rw [Run.ofExcept_ok]
    exact (EStateM.Result.ok.injEq ..).to_iff.trans
      (and_congr_left' (Except.ok.injEq ..).to_iff.symm)
  | error fault =>
    constructor
    · intro h
      cases h
    · rintro ⟨h, -⟩
      cases h

/-- A fragment holds what its tree is serialized to, and its item is numbered. -/
theorem of_emitNode {node : Node} {seed : Datum} {fragment : Fragment} {state state' : State}
    (h : emitNode {} node seed state = .ok fragment state') :
    node.serialize defaultIdConstant = .ok fragment.content ∧
      ∃ n : Nat, fragment.staticName = ({} : Names).fragmentStart ++ toString n := by
  obtain ⟨content, middle, hcontent, h⟩ := bind_eq_ok_iff.mp h
  obtain ⟨id, middle', -, h⟩ := bind_eq_ok_iff.mp h
  obtain ⟨-, last, -, h⟩ := bind_eq_ok_iff.mp h
  obtain rfl := ((EStateM.Result.ok.injEq ..).mp h).1
  exact ⟨(Run.ofExcept_eq_ok_iff.mp hcontent).1, id.toNat, rfl⟩

/-- The id constant of a module is a number, in lines of its own. -/
theorem of_idConstantFor {ident : String} {constant : IdConstant} {state state' : State}
    (h : idConstantFor {} "module" ident state = .ok constant state') :
    constant.source = sourceText (constantLines constant.value) ∧
      ∃ n : Nat, constant.value = toString n := by
  obtain ⟨id, middle, -, h⟩ := bind_eq_ok_iff.mp h
  obtain ⟨source, last, hsource, h⟩ := bind_eq_ok_iff.mp h
  obtain rfl := ((EStateM.Result.ok.injEq ..).mp h).1
  have hrendered := (Run.ofExcept_eq_ok_iff.mp hsource).1
  exact ⟨Except.ok.inj (hrendered.symm.trans (render_idConstant_eq ident _)), id.toNat, rfl⟩

/-- An element that was emitted is rendered from its fragment and its id constant. -/
theorem of_emitElement {declaration : Declaration} {element : Element} {state state' : State}
    (h : emitElement {} declaration state = .ok element state') :
    ∃ fragment constant middle middle',
      declaredFragment {} declaration state = .ok fragment middle ∧
      idConstantFor {} declaration.typeName declaration.ident middle = .ok constant middle' ∧
      element.staticName = fragment.staticName ∧ element.idConstant = constant.source ∧
      renderFragment {} fragment = .ok element.fragment ∧
      renderElement {} declaration.typeName declaration.ident constant fragment =
        .ok element.source := by
  obtain ⟨fragment, middle, hfragment, h⟩ := bind_eq_ok_iff.mp h
  obtain ⟨constant, middle', hconstant, h⟩ := bind_eq_ok_iff.mp h
  obtain ⟨text, _, htext, h⟩ := bind_eq_ok_iff.mp h
  obtain ⟨source, _, hsource, h⟩ := bind_eq_ok_iff.mp h
  obtain rfl := ((EStateM.Result.ok.injEq ..).mp h).1
  exact ⟨fragment, constant, middle, middle', hfragment, hconstant, rfl, rfl,
    (Run.ofExcept_eq_ok_iff.mp htext).1, (Run.ofExcept_eq_ok_iff.mp hsource).1⟩

theorem forall₂_of_emitAll {declarations : List Declaration} {elements : List Element}
    {state state' : State} (h : emitAll {} declarations state = .ok elements state') :
    List.Forall₂ (fun declaration element =>
      ∃ before after, emitElement {} declaration before = .ok element after)
        declarations elements := by
  induction declarations generalizing state state' elements with
  | nil =>
    obtain rfl := ((EStateM.Result.ok.injEq ..).mp h).1
    exact .nil
  | cons declaration rest ih =>
    obtain ⟨element, middle, helement, h⟩ := bind_eq_ok_iff.mp h
    obtain ⟨elements, last, hrest, h⟩ := bind_eq_ok_iff.mp h
    obtain rfl := ((EStateM.Result.ok.injEq ..).mp h).1
    exact .cons ⟨state, middle, helement⟩ (ih hrest)

/-- Elements are emitted one for each declaration. -/
theorem forall₂_of_emit {declarations : List Declaration} {elements : List Element}
    {state state' : State} (h : emit {} declarations state = .ok elements state') :
    List.Forall₂ (fun declaration element =>
      ∃ before after, emitElement {} declaration before = .ok element after)
        declarations elements := by
  obtain ⟨elements, middle, helements, h⟩ := bind_eq_ok_iff.mp h
  obtain ⟨-, last, -, h⟩ := bind_eq_ok_iff.mp h
  obtain rfl := ((EStateM.Result.ok.injEq ..).mp h).1
  exact forall₂_of_emitAll helements

/-! ### The tree of a module -/

variable {name : String} {members : List String} {fragment : Fragment} {content : Concatenation}

theorem oneLine_of_isName {text : List Char} (h : IsName text) : OneLine text := by
  rw [oneLine_iff]
  intro c hend hc
  have hblank := isBlank_of_isLineEnd hend
  rw [Stub.isBlank_of_isNameChar (h.2 c hc)] at hblank
  cases hblank

/-- A module can be serialized if its name can. -/
theorem clean_moduleNode (clean : Clean name) : (moduleNode name members).Clean := by
  have hitems : ItemsClean (members.map fun member => .ref (some member)) := by
    rw [itemsClean_iff]
    intro item hitem
    obtain ⟨member, -, rfl⟩ := List.mem_map.mp hitem
    trivial
  have htype : Clean "module" := by decide
  exact ⟨by decide, htype, by decide, trivial, by decide, clean, by decide, hitems, trivial⟩

theorem mem_texts_moduleNode_iff {text : String} :
    text ∈ (moduleNode name members).texts ↔
      text ∈ ["type", "module", "id", "name", "members"] ∨ text = name := by
  have hitems : Node.itemTexts (members.map fun member => Node.ref (some member)) = [] := by
    rw [List.eq_nil_iff_forall_not_mem]
    intro text htext
    obtain ⟨item, hitem, htext⟩ := mem_itemTexts_iff.mp htext
    obtain ⟨member, -, rfl⟩ := List.mem_map.mp hitem
    cases htext
  simp only [moduleNode, Node.texts, Node.memberTexts, hitems, List.mem_cons, List.mem_append,
    List.not_mem_nil, or_false, false_or]
  grind

theorem mem_expressions_moduleNode_iff {expression : String} :
    expression ∈ (moduleNode name members).expressions defaultIdConstant ↔
      expression = defaultIdConstant ∨
        ∃ member ∈ members, expression = member ++ "::" ++ defaultIdConstant := by
  simp [moduleNode, Node.expressions, Node.memberExpressions, mem_itemExpressions_iff, idAccess]

/-- An id access is an operand. -/
theorem isOperand_of_mem_expressions (named : ∀ member ∈ members, IsName member.toList)
    {expression : String}
    (h : expression ∈ (moduleNode name members).expressions defaultIdConstant) :
    IsOperand expression := by
  have hconstant : IsOperand defaultIdConstant := by decide
  rcases mem_expressions_moduleNode_iff.mp h with rfl | ⟨member, hmember, rfl⟩
  · exact hconstant
  · refine ⟨by simp, fun c hc => ?_⟩
    rw [String.toList_append, String.toList_append, List.mem_append, List.mem_append] at hc
    rcases hc with (hc | hc) | hc
    · have hname := (named member hmember).2 c hc
      exact ⟨Stub.ne_of_isNameChar hname rfl, Stub.ne_of_isNameChar hname rfl⟩
    · obtain rfl : c = ':' := by simpa using hc
      exact ⟨by decide, by decide⟩
    · exact hconstant.2 c hc

/-- The line ends in the expression of a module are those of its name. -/
theorem mem_expression_moduleNode_iff (named : ∀ member ∈ members, IsName member.toList)
    (h : (moduleNode name members).serialize defaultIdConstant = .ok content) {c : Char}
    (hend : isLineEnd c = true) :
    c ∈ (content.expression ({} : Names).cratePath).toList ↔ c ∈ name.toList := by
  have hnot {text : List Char} (hline : OneLine text) : c ∉ text := hline.not_mem hend
  have hexpressions : ¬ ∃ expression ∈ (moduleNode name members).expressions defaultIdConstant,
      c ∈ expression.toList := by
    rintro ⟨expression, hexpression, hc⟩
    rcases mem_expressions_moduleNode_iff.mp hexpression with rfl | ⟨member, hmember, rfl⟩
    · exact hnot (by decide) hc
    · rw [String.toList_append, String.toList_append, List.mem_append, List.mem_append] at hc
      rcases hc with (hc | hc) | hc
      · exact hnot (oneLine_of_isName (named member hmember)) hc
      · exact hnot (by decide) hc
      · exact hnot (by decide) hc
  have hcrate : c ∉ ({} : Names).cratePath.toList := hnot (by decide)
  rw [mem_expression_iff h (unwritten_of_isLineEnd hend), or_iff_right hcrate,
    or_iff_left hexpressions]
  constructor
  · rintro ⟨text, htext, hc⟩
    rcases mem_texts_moduleNode_iff.mp htext with hfixed | rfl
    · have hlines : ∀ text ∈ ["type", "module", "id", "name", "members"], OneLine text.toList := by
        decide
      exact absurd hc (hnot (hlines text hfixed))
    · exact hc
  · exact fun hc => ⟨name, mem_texts_moduleNode_iff.mpr (.inr rfl), hc⟩

/-! ### The item of a fragment -/

/-- A fragment is that of a module of this name and with these members. -/
structure Describes (name : String) (members : List String) (fragment : Fragment) : Prop where
  content : (moduleNode name members).serialize defaultIdConstant = .ok fragment.content
  numbered : ∃ n : Nat, fragment.staticName = ({} : Names).fragmentStart ++ toString n

theorem Describes.clean (h : Describes name members fragment) : Clean name :=
  clean_of_denotes (denotes_of_serialize id h.content) name
    (mem_texts_moduleNode_iff.mpr (.inr rfl))

/-- The line ends in the item of a module's fragment are those of the name. -/
theorem mem_staticItem_iff (named : ∀ member ∈ members, IsName member.toList)
    (describes : Describes name members fragment) {c : Char} (hend : isLineEnd c = true) :
    c ∈ staticItem fragment ↔ c ∈ name.toList := by
  have hnot {text : List Char} (hline : OneLine text) : c ∉ text := hline.not_mem hend
  obtain ⟨n, hn⟩ := describes.numbered
  have hname : c ∉ fragment.staticName.toList := by
    rw [hn, String.toList_append]
    exact hnot (oneLine_append.mpr ⟨by decide, oneLine_toString n⟩)
  have hopening : c ∉ "static ".toList := hnot (by decide)
  have hmiddle : c ∉ ": &'static str = ".toList := hnot (by decide)
  have hclosing : c ∉ ";".toList := hnot (by decide)
  simp only [staticItem, String.toList_append, List.mem_append, hopening, hname, hmiddle, hclosing,
    false_or, or_false, mem_expression_moduleNode_iff named describes.content hend]

theorem oneLine_staticItem_iff (named : ∀ member ∈ members, IsName member.toList)
    (describes : Describes name members fragment) :
    OneLine (staticItem fragment) ↔ OneLine name.toList := by
  simp only [oneLine_iff]
  exact forall₂_congr fun c hend => not_congr (mem_staticItem_iff named describes hend)

/-- The lines of a module without its scope stay lines, if its item does. -/
theorem oneLine_of_mem_bodyLines (h : OneLine (staticItem fragment)) (n : Nat) :
    ∀ line ∈ bodyLines (toString n) fragment, OneLine line := by
  have hliteral : OneLine (Json.markupLiteral (toString n)).toList := by
    rw [toList_markupLiteral_toString]
    show OneLine (['"'] ++ ((toString n).toList ++ ['"']))
    exact oneLine_append.mpr ⟨by decide, oneLine_append.mpr ⟨oneLine_toString n, by decide⟩⟩
  intro line hline
  simp only [bodyLines, constantLines, fragmentLines, List.cons_append, List.nil_append,
    List.mem_cons, List.not_mem_nil, or_false] at hline
  rcases hline with rfl | rfl | rfl | rfl | rfl | rfl | rfl | rfl
  · decide
  · exact oneLine_append.mpr ⟨oneLine_append.mpr ⟨by decide, hliteral⟩, by decide⟩
  · decide
  · decide
  · decide
  · decide
  · exact oneLine_append.mpr ⟨by decide, h⟩
  · decide

/-- The lines of a scope stay lines, if those inside do. -/
theorem oneLine_of_mem_scopeLines {ident : String} (hident : OneLine ident.toList)
    {lines : List (List Char)} (h : ∀ line ∈ lines, OneLine line) :
    ∀ line ∈ scopeLines ident lines, OneLine line := by
  intro line hline
  simp only [scopeLines, List.cons_append, List.nil_append, List.mem_cons, List.mem_append,
    List.mem_map, List.not_mem_nil, or_false] at hline
  rcases hline with rfl | rfl | rfl | rfl | ⟨original, horiginal, rfl⟩ | rfl
  · decide
  · exact oneLine_append.mpr ⟨oneLine_append.mpr ⟨by decide, hident⟩, by decide⟩
  · decide
  · decide
  · rw [inScope]
    split
    · exact h original horiginal
    · show OneLine ("    ".toList ++ original)
      exact oneLine_append.mpr ⟨by decide, h original horiginal⟩
  · decide

/-- An item is found on its line, and its expression with it. -/
theorem staticOn?_staticItem (fragment : Fragment) :
    Rust.staticOn? fragment.staticName ("        ".toList ++ staticItem fragment) =
      some (fragment.content.expression ({} : Names).cratePath).toList := by
  have hitem : "        ".toList ++ staticItem fragment = "        ".toList ++
      (("static " ++ fragment.staticName ++ ": &'static str = ").toList ++
        ((fragment.content.expression ({} : Names).cratePath).toList ++ [';'])) := by
    simp only [staticItem, String.toList_append, List.append_assoc]
    rfl
  rw [hitem]
  exact Rust.staticOn?_eq_some _ _ _ (by decide)

/-- The item of a fragment is found in its scope, and no other line is taken for it. -/
theorem static?_scopeLines {ident value : String}
    (h : ∀ line ∈ scopeLines ident (bodyLines value fragment), OneLine line) :
    Rust.static? fragment.staticName
        (sourceText (scopeLines ident (bodyLines value fragment))).toList =
      some (fragment.content.expression ({} : Names).cratePath).toList := by
  let before : List (List Char) :=
    ["#[doc(hidden)]".toList, "pub mod ".toList ++ ident.toList ++ " \x7b".toList,
      "    use super::*;".toList, [], "    #[doc(hidden)]".toList,
      "    pub const _PYO3_INTROSPECTION_ID: &'static str = ".toList ++
        (Json.markupLiteral value).toList ++ [';'], [],
      "    const _: () = \x7b".toList, "        #[used]".toList, "        #[no_mangle]".toList]
  have hlines : (sourceText (scopeLines ident (bodyLines value fragment))).toList.splitOn '\n' =
      before ++ ("        ".toList ++ staticItem fragment) ::
        ["    \x7d;".toList, ['\x7d'], []] :=
    splitOn_sourceText (List.cons_ne_nil _ _) h
  have hbefore : before.findSome? (Rust.staticOn? fragment.staticName) = none := by
    rw [List.findSome?_eq_none_iff]
    intro line hline
    simp only [before, List.mem_cons, List.not_mem_nil, or_false] at hline
    rcases hline with rfl | rfl | rfl | rfl | rfl | rfl | rfl | rfl | rfl | rfl
    · exact Rust.staticOn?_eq_none (show some '#' ≠ some 's' by decide)
    · exact Rust.staticOn?_eq_none (show some 'p' ≠ some 's' by decide)
    · exact Rust.staticOn?_eq_none (show some 'u' ≠ some 's' by decide)
    · exact Rust.staticOn?_eq_none (show none ≠ some 's' by decide)
    · exact Rust.staticOn?_eq_none (show some '#' ≠ some 's' by decide)
    · exact Rust.staticOn?_eq_none (show some 'p' ≠ some 's' by decide)
    · exact Rust.staticOn?_eq_none (show none ≠ some 's' by decide)
    · exact Rust.staticOn?_eq_none (show some 'c' ≠ some 's' by decide)
    · exact Rust.staticOn?_eq_none (show some '#' ≠ some 's' by decide)
    · exact Rust.staticOn?_eq_none (show some '#' ≠ some 's' by decide)
  rw [Rust.static?, hlines, List.findSome?_append, hbefore, Option.none_or, List.findSome?_cons,
    staticOn?_staticItem]

/-- What a fragment stands for comes back from its scope. -/
theorem storedText?_scopeLines {ident value : String}
    (named : ∀ member ∈ members, IsName member.toList) (describes : Describes name members fragment)
    (h : ∀ line ∈ scopeLines ident (bodyLines value fragment), OneLine line)
    (valueOf : String → String) :
    storedText? valueOf fragment.staticName
        (sourceText (scopeLines ident (bodyLines value fragment))) =
      some (fragment.content.evaluate valueOf) := by
  rw [storedText?, static?_scopeLines h, Option.bind_some,
    readExpression_of_serialize describes.content
      fun expression hexpression => isOperand_of_mem_expressions named hexpression]
  rfl

theorem staticItem_infix_scopeLines (ident value : String) :
    staticItem fragment <:+:
      (sourceText (scopeLines ident (bodyLines value fragment))).toList := by
  have hline : "        ".toList ++ staticItem fragment ∈
      scopeLines ident (bodyLines value fragment) := by
    have hbody : "    ".toList ++ staticItem fragment ∈ bodyLines value fragment :=
      List.mem_append_right _ (by simp [fragmentLines])
    have hscope : inScope ("    ".toList ++ staticItem fragment) ∈
        scopeLines ident (bodyLines value fragment) :=
      List.mem_append_left _ (List.mem_append_right _ (List.mem_map_of_mem hbody))
    exact hscope
  rw [sourceText, String.toList_ofList]
  exact (List.suffix_append _ _).isInfix.trans
    ((infix_joinLines_of_mem hline).trans (List.prefix_append _ _).isInfix)

/-! ### Elements -/

/-- The source of a module is rendered, and is as it is meant to be if its item is a line. -/
theorem renderElement_module {ident : String} {constant : IdConstant}
    (hident : IsName ident.toList) (named : ∀ member ∈ members, IsName member.toList)
    (describes : Describes name members fragment)
    (hsource : constant.source = sourceText (constantLines constant.value))
    (hvalue : ∃ n : Nat, constant.value = toString n) :
    ∃ source, renderElement {} "module" ident constant fragment = .ok source ∧
      (staticItem fragment <:+: source.toList ↔ OneLine name.toList) ∧
      (OneLine name.toList →
        (constant.source ++ "\n" ++ sourceText (fragmentLines fragment) =
            sourceText (bodyLines constant.value fragment) ∧
          source = sourceText (scopeLines ident (bodyLines constant.value fragment))) ∧
        ∀ valueOf, storedText? valueOf fragment.staticName source =
          some (fragment.content.evaluate valueOf)) := by
  obtain ⟨n, hn⟩ := hvalue
  have hbody : constant.source ++ "\n" ++ sourceText (fragmentLines fragment) =
      sourceText (bodyLines constant.value fragment) := by
    rw [hsource, append_eq_bodyLines]
  have hrender : renderElement {} "module" ident constant fragment =
      Templates.render {}
        (.moduleScope ident (sourceText (bodyLines constant.value fragment))) := by
    rw [renderElement, renderFragment_eq]
    dsimp only
    rw [if_pos rfl, hbody]
  have hlines (h : OneLine name.toList) :
      ∀ line ∈ bodyLines constant.value fragment, OneLine line :=
    hn ▸ oneLine_of_mem_bodyLines ((oneLine_staticItem_iff named describes).mpr h) n
  have hwhole (h : OneLine name.toList) : renderElement {} "module" ident constant fragment =
      .ok (sourceText (scopeLines ident (bodyLines constant.value fragment))) :=
    hrender.trans (render_moduleScope_eq (hlines h) ident)
  obtain ⟨source, hsource'⟩ : ∃ source, renderElement {} "module" ident constant fragment =
      .ok source := ⟨_, hrender.trans (render_eq _)⟩
  refine ⟨source, hsource', ⟨fun inside => ?_, fun h => ?_⟩, fun h => ?_⟩
  · rw [← oneLine_staticItem_iff named describes, oneLine_iff]
    -- A line end in the item would be one in the scope, and a line feed is none of the name's.
    intro c hend hc
    rcases eq_feed_of_mem_render (hrender.symm.trans hsource') (inside.subset hc) hend with
      rfl | hident'
    · exact absurd (describes.clean _ ((mem_staticItem_iff named describes hend).mp hc)) (by decide)
    · exact (oneLine_of_isName hident).not_mem hend hident'
  · obtain rfl := Except.ok.inj (hsource'.symm.trans (hwhole h))
    exact staticItem_infix_scopeLines ident constant.value
  · obtain rfl := Except.ok.inj (hsource'.symm.trans (hwhole h))
    exact ⟨⟨hbody, rfl⟩, storedText?_scopeLines named describes
      (oneLine_of_mem_scopeLines (oneLine_of_isName hident) (hlines h))⟩

/-- A module is emitted while there is room for its two ids. -/
theorem exists_emitElement {declaration : Declaration}
    (hbody : declaration.body = .ofModule members) (clean : Clean declaration.name)
    (hident : IsName declaration.ident.toList) (named : ∀ member ∈ members, IsName member.toList)
    {state : State} (room : Room state (1 + 1)) :
    ∃ element state', emitElement {} declaration state = .ok element state' := by
  have hnode : (moduleNode declaration.name members).Clean := clean_moduleNode clean
  obtain ⟨content, hcontent⟩ := hnode.exists_serialize defaultIdConstant
  obtain ⟨fragment, middle, hfragment, -, takes⟩ :=
    emitNode_ok (seedOf "module" declaration.name) hcontent room.first
  obtain ⟨constant, last, hconstant, -, -⟩ :=
    idConstantFor_ok "module" declaration.ident (room.rest takes)
  obtain ⟨hserialize, hnumbered⟩ := of_emitNode hfragment
  obtain ⟨hsource, hvalue⟩ := of_idConstantFor hconstant
  obtain ⟨source, hrender, -⟩ :=
    renderElement_module hident named ⟨hserialize, hnumbered⟩ hsource hvalue
  have htype : declaration.typeName = "module" := by rw [Declaration.typeName, hbody]
  have hdeclared : declaredFragment {} declaration state = .ok fragment middle := by
    rw [declaredFragment, hbody]
    exact hfragment
  refine ⟨⟨constant.source, sourceText (fragmentLines fragment), fragment.staticName, source⟩, last,
    ?_⟩
  rw [emitElement, bind_eq_of_ok hdeclared, htype, bind_eq_of_ok hconstant, renderFragment_eq,
    hrender]
  rfl

theorem emit_singleton {declaration : Declaration} {element : Element} {state state' : State}
    (h : emitElement {} declaration state = .ok element state') :
    ∃ last, emit {} [declaration] state = .ok [element] last := by
  have hall : emitAll {} [declaration] state = .ok [element] state' := by
    rw [emitAll, bind_eq_of_ok h]
    rfl
  exact ⟨_, by rw [emit, bind_eq_of_ok hall]; rfl⟩

/-- **A scope keeps the fragment of a module exactly if the name stays within a line.** Then the
scope only puts blanks in front of lines, and what is evaluated from the source is what the fragment
stands for. -/
theorem staticItem_kept_iff {declaration : Declaration} {members : List String}
    (hbody : declaration.body = .ofModule members) (clean : Clean declaration.name)
    (hident : IsName declaration.ident.toList)
    (named : ∀ member ∈ members, IsName member.toList) :
    (∀ state, Room state 2 →
      ∃ element state', emitElement {} declaration state = .ok element state') ∧
    (∀ fragment constant,
      (∃ before after, declaredFragment {} declaration before = .ok fragment after) →
      (∃ before after,
        idConstantFor {} declaration.typeName declaration.ident before = .ok constant after) →
      ∃ text source, renderFragment {} fragment = .ok text ∧
        renderElement {} declaration.typeName declaration.ident constant fragment = .ok source ∧
        (staticItem fragment <:+: source.toList ↔ OneLine declaration.name.toList) ∧
        (OneLine declaration.name.toList →
          (∃ lines, constant.source ++ "\n" ++ text = sourceText lines ∧
            source = sourceText (scopeLines declaration.ident lines)) ∧
          ∀ valueOf, storedText? valueOf fragment.staticName source =
            some (fragment.content.evaluate valueOf))) ∧
    ∀ declarations elements state state', emit {} declarations state = .ok elements state' →
      ∀ element, (declaration, element) ∈ declarations.zip elements →
        ∃ fragment constant,
          (∃ before after, declaredFragment {} declaration before = .ok fragment after) ∧
          (∃ before after,
            idConstantFor {} declaration.typeName declaration.ident before = .ok constant after) ∧
          element.staticName = fragment.staticName ∧ element.idConstant = constant.source ∧
          renderFragment {} fragment = .ok element.fragment ∧
          renderElement {} declaration.typeName declaration.ident constant fragment =
            .ok element.source := by
  refine ⟨fun state room => exists_emitElement hbody clean hident named room, ?_, ?_⟩
  · rintro fragment constant ⟨before, after, hfragment⟩ ⟨before', after', hconstant⟩
    have htype : declaration.typeName = "module" := by rw [Declaration.typeName, hbody]
    rw [declaredFragment, hbody] at hfragment
    rw [htype] at hconstant ⊢
    obtain ⟨hserialize, hnumbered⟩ := of_emitNode hfragment
    obtain ⟨hsource, hvalue⟩ := of_idConstantFor hconstant
    obtain ⟨source, hrender, hiff, hkept⟩ :=
      renderElement_module hident named ⟨hserialize, hnumbered⟩ hsource hvalue
    refine ⟨_, source, renderFragment_eq fragment, hrender, hiff, fun h => ?_⟩
    obtain ⟨hlines, hstored⟩ := hkept h
    exact ⟨⟨_, hlines⟩, hstored⟩
  · intro declarations elements state state' h element hmem
    obtain ⟨before, after, helement⟩ :=
      (List.forall₂_iff_zip.mp (forall₂_of_emit h)).2 hmem
    obtain ⟨fragment, constant, middle, middle', hfragment, hconstant, hrest⟩ :=
      of_emitElement helement
    exact ⟨fragment, constant, ⟨before, middle, hfragment⟩, ⟨middle, middle', hconstant⟩, hrest⟩

/-- A module of an ordinary name with a member is kept by its scope. -/
theorem staticItem_kept_iff_ordinary :
    let declaration : Declaration := ⟨"top \\ \"é\"", "top_module", .ofModule ["Gadget"]⟩
    ∃ element state' fragment, emit {} [declaration] {} = .ok [element] state' ∧
      (∃ before after, declaredFragment {} declaration before = .ok fragment after) ∧
      element.staticName = fragment.staticName ∧
      staticItem fragment <:+: element.source.toList ∧
      ∀ valueOf, storedText? valueOf element.staticName element.source =
        some (fragment.content.evaluate valueOf) := by
  intro declaration
  have kept := @staticItem_kept_iff declaration ["Gadget"] rfl (by decide) (by decide) (by decide)
  obtain ⟨element, middle, helement⟩ := kept.1 {} ⟨by decide, by decide⟩
  obtain ⟨state', hemit⟩ := emit_singleton helement
  obtain ⟨fragment, constant, hfragment, hconstant, hname, -, -, hrender⟩ :=
    kept.2.2 _ _ _ _ hemit element (List.mem_singleton_self _)
  obtain ⟨text, source, -, hsource, hiff, hstored⟩ := kept.2.1 fragment constant hfragment hconstant
  obtain rfl := Except.ok.inj (hsource.symm.trans hrender)
  have hline : OneLine declaration.name.toList := by decide
  exact ⟨element, state', fragment, hemit, hfragment, hname, hiff.mpr hline,
    fun valueOf => hname ▸ (hstored hline).2 valueOf⟩

/-- A line separator in the name of a module tears its item apart. -/
theorem not_staticItem_kept_separator :
    let declaration : Declaration := ⟨"a\u2028b", "m", .ofModule []⟩
    Clean declaration.name ∧ IsName declaration.ident.toList ∧
      ∃ element state' fragment, emit {} [declaration] {} = .ok [element] state' ∧
        (∃ before after, declaredFragment {} declaration before = .ok fragment after) ∧
        element.staticName = fragment.staticName ∧
        ¬ staticItem fragment <:+: element.source.toList := by
  intro declaration
  have clean : Clean declaration.name := by decide
  have hident : IsName declaration.ident.toList := by decide
  have named : ∀ member ∈ ([] : List String), IsName member.toList := by simp
  have room : Room {} (1 + 1) := ⟨by decide, by decide⟩
  obtain ⟨element, middle, helement⟩ :=
    @exists_emitElement [] declaration rfl clean hident named {} room
  obtain ⟨state', hemit⟩ := emit_singleton helement
  obtain ⟨fragment, constant, _, _, hfragment, hconstant, hname, -, -, hrender⟩ :=
    of_emitElement helement
  obtain ⟨hserialize, hnumbered⟩ := of_emitNode hfragment
  obtain ⟨hsource, hvalue⟩ := of_idConstantFor hconstant
  obtain ⟨source, hrender', hiff, -⟩ :=
    renderElement_module hident named ⟨hserialize, hnumbered⟩ hsource hvalue
  obtain rfl := Except.ok.inj (hrender'.symm.trans hrender)
  refine ⟨clean, hident, element, state', fragment, hemit, ⟨_, _, hfragment⟩, hname, ?_⟩
  rw [hiff]
  decide

end Emission

end Introspection
