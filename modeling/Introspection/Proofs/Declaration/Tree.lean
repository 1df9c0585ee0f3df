import Introspection.Declaration.Basic
import Introspection.Emission.Fragment
import Introspection.Proofs.Api.Signature
import Introspection.Proofs.Lists
import Introspection.Proofs.Metadata.Meaning
import Introspection.Proofs.Recovery.Unfolding

/-!
# The tree that declarations stand for

Declarations name their members, so a list of them stands for a tree of modules: from the top one
down, each kind of member in the order in which the members are declared. This is said here without
ids, fragments or documents; nothing in this module knows how declarations are emitted.

## What is asked of declarations

`WellFormed` is what makes the tree exist and be unique: identifiers are not used twice, members are
declared, no module is below itself, and one module is on top. The rest is about single elements. A
function needs an argument for each of its parameters, and no text may have control characters.

## Main definitions

* `declaredParameters` — the parameters of a declared function
* `DeclaredTree` — the tree below a declared module
* `WellFormed`

## Main results

* `DeclaredTree.unique`
-/

namespace Introspection

open Introspection.Api (Function Kind MayPrecede Module Parameter mayPrecede_of_lt)
open Introspection.Binding (Argument Signature)
open Introspection.Metadata (Clean)
open Relation (TransGen)

/-! ### Parameters -/

/-- A parameter with the argument that belongs to it. It is annotated with the value of the
expression for its type, unless it has a converter. -/
def declaredParameter (others : String → String) (kind : Kind) (name : String)
    (argument : Argument) : Parameter where
  name := name
  kind := kind
  hasDefault := argument.default.isSome
  hint :=
    if argument.converter.isSome then none
    else some (others (Emission.hintExpression ({} : Emission.Names).cratePath argument))

/-- A parameter that takes all remaining arguments. -/
def variadicParameter (kind : Kind) (name : String) : Parameter where
  name := name
  kind := kind

/-- Positional parameters with their arguments, the first ones passed by position alone. -/
def positionalParameters (others : String → String) (positionalOnly : Int)
    (matched : List (String × Argument)) : List Parameter :=
  matched.mapIdx fun index (name, argument) =>
    let kind : Kind :=
      if (index : Int) < positionalOnly then .positionalOnly else .positionalOrKeyword
    declaredParameter others kind name argument

/-- The parameters of a declared function. The regular arguments belong in order to the positional
parameters and then to the keyword-only ones. -/
def declaredParameters (others : String → String) (signature : Signature) : List Parameter :=
  let arguments := signature.regularArguments
  let further := arguments.drop signature.positional.length
  positionalParameters others signature.positionalOnly (signature.positional.zip arguments) ++
    (signature.varargs.map (variadicParameter .variadicPositional)).toList ++
    ((signature.keywordOnly.zip further).map fun (name, argument) =>
      declaredParameter others .keywordOnly name argument) ++
    (signature.kwargs.map (variadicParameter .variadicKeyword)).toList

theorem kind_of_mem_variadic {kind : Kind} {name : Option String} {parameter : Parameter}
    (h : parameter ∈ (name.map (variadicParameter kind)).toList) : parameter.kind = kind := by
  rw [Option.mem_toList, Option.map_eq_some_iff] at h
  obtain ⟨name, -, rfl⟩ := h
  rfl

theorem pairwise_variadic (kind : Kind) (name : Option String) :
    (name.map (variadicParameter kind)).toList.Pairwise MayPrecede := by
  cases name with
  | none => exact .nil
  | some name => exact List.pairwise_singleton _ _

theorem rank_le_of_mem_positional {others : String → String} {positionalOnly : Int}
    {matched : List (String × Argument)} {parameter : Parameter}
    (h : parameter ∈ positionalParameters others positionalOnly matched) :
    parameter.kind.rank ≤ 1 := by
  obtain ⟨index, hindex, rfl⟩ := List.mem_mapIdx.mp h
  dsimp only [declaredParameter]
  split <;> decide

/-- Positional parameters get less strict with the index. -/
theorem pairwise_positional (others : String → String) (positionalOnly : Int)
    (matched : List (String × Argument)) :
    (positionalParameters others positionalOnly matched).Pairwise MayPrecede := by
  rw [List.pairwise_iff_getElem]
  intro first second hfirst hsecond hlt
  simp only [positionalParameters, List.getElem_mapIdx, MayPrecede, declaredParameter]
  by_cases h : (second : Int) < positionalOnly
  · have h' : (first : Int) < positionalOnly := by omega
    simp [h, h', Kind.isVariadic]
  · by_cases h' : (first : Int) < positionalOnly <;> simp [h, h', Kind.isVariadic, Kind.rank]

/-- The parameters of a declared function form a signature. -/
theorem signatureFault?_declaredParameters (others : String → String) (signature : Signature) :
    Api.signatureFault? (declaredParameters others signature) = none := by
  have hkeyword (matched : List (String × Argument)) (parameter : Parameter)
      (h : parameter ∈ matched.map fun (name, argument) =>
        declaredParameter others .keywordOnly name argument) : parameter.kind = .keywordOnly := by
    obtain ⟨_, -, rfl⟩ := List.mem_map.mp h
    rfl
  have hstart : ∀ first ∈ positionalParameters others signature.positionalOnly
      (signature.positional.zip signature.regularArguments) ++
      (signature.varargs.map (variadicParameter .variadicPositional)).toList,
      first.kind.rank ≤ 2 := by
    intro first hfirst
    rcases List.mem_append.mp hfirst with hfirst | hfirst
    · exact Nat.le_trans (rank_le_of_mem_positional hfirst) (by decide)
    · rw [kind_of_mem_variadic hfirst]
      decide
  have hsorted : (declaredParameters others signature).Pairwise MayPrecede := by
    refine List.pairwise_append.mpr ⟨List.pairwise_append.mpr ⟨List.pairwise_append.mpr
      ⟨pairwise_positional _ _ _, pairwise_variadic _ _, ?_⟩, ?_, ?_⟩, pairwise_variadic _ _, ?_⟩
    · intro first hfirst second hsecond
      refine mayPrecede_of_lt ?_
      rw [kind_of_mem_variadic hsecond]
      exact Nat.lt_of_le_of_lt (rank_le_of_mem_positional hfirst) (by decide)
    · refine List.pairwise_of_forall_mem_list fun first hfirst second hsecond => ?_
      rw [MayPrecede, hkeyword _ first hfirst, hkeyword _ second hsecond]
      decide
    · intro first hfirst second hsecond
      refine mayPrecede_of_lt ?_
      rw [hkeyword _ second hsecond]
      exact Nat.lt_of_le_of_lt (hstart first hfirst) (by decide)
    · intro first hfirst second hsecond
      refine mayPrecede_of_lt ?_
      rw [kind_of_mem_variadic hsecond]
      rcases List.mem_append.mp hfirst with hfirst | hfirst
      · exact Nat.lt_of_le_of_lt (hstart first hfirst) (by decide)
      · rw [hkeyword _ first hfirst]
        decide
  exact Api.signatureFault?_eq_none_iff.mpr hsorted

/-! ### Trees -/

/-- Whether a declared element is a module. -/
def Declaration.isModule (declaration : Declaration) : Bool :=
  match declaration.body with
  | .ofModule _ => true
  | _ => false

/-- The members of a declared element, none if it is no module. -/
def Declaration.members (declaration : Declaration) : List String :=
  match declaration.body with
  | .ofModule members => members
  | _ => []

/-- Whether a declared element is a class. -/
def Declaration.isClass (declaration : Declaration) : Bool :=
  match declaration.body with
  | .ofClass => true
  | _ => false

/-- Whether a declared element is a function. -/
def Declaration.isFunction (declaration : Declaration) : Bool :=
  match declaration.body with
  | .ofFunction _ => true
  | _ => false

theorem Declaration.body_of_isModule {declaration : Declaration}
    (h : declaration.isModule = true) : declaration.body = .ofModule declaration.members := by
  rw [Declaration.isModule] at h
  split at h
  · next members body => rw [Declaration.members, body]
  · cases h

/-- Only modules have members. -/
theorem Declaration.isModule_of_mem_members {declaration : Declaration} {member : String}
    (h : member ∈ declaration.members) : declaration.isModule = true := by
  rw [Declaration.members] at h
  split at h
  · next members body => rw [Declaration.isModule, body]
  · cases h

theorem Declaration.isClass_iff {declaration : Declaration} :
    declaration.isClass = true ↔ declaration.body = .ofClass := by
  rw [Declaration.isClass]
  split
  · next h => simp [h]
  · next hne =>
    constructor
    · intro h
      cases h
    · intro h
      exact absurd h hne

theorem Declaration.isFunction_iff {declaration : Declaration} :
    declaration.isFunction = true ↔ ∃ signature, declaration.body = .ofFunction signature := by
  rw [Declaration.isFunction]
  split
  · next signature h => simp [h]
  · next hne =>
    constructor
    · intro h
      cases h
    · rintro ⟨signature, h⟩
      exact absurd h (hne signature)

/-- Whether an identifier is that of a declared element of some kind. -/
def isDeclared (declarations : List Declaration) (kind : Declaration → Bool) (ident : String) :
    Bool :=
  declarations.any fun declaration => declaration.ident == ident && kind declaration

/-- An identifier is that of a declared class. -/
def DeclaresClass (declarations : List Declaration) (ident : String) (value : Api.Class) : Prop :=
  ∃ declaration ∈ declarations, declaration.ident = ident ∧ declaration.body = .ofClass ∧
    value = ⟨declaration.name⟩

/-- An identifier is that of a declared function. -/
def DeclaresFunction (declarations : List Declaration) (others : String → String) (ident : String)
    (function : Function) : Prop :=
  ∃ declaration ∈ declarations, ∃ signature, declaration.ident = ident ∧
    declaration.body = .ofFunction (some signature) ∧
    function = ⟨declaration.name, declaredParameters others signature⟩

/-- The tree below the declared module of an identifier: each kind of member in the order of the
members. -/
inductive DeclaredTree (declarations : List Declaration) (others : String → String) :
    String → Module → Prop
  | intro {declaration : Declaration} {module : Module} (declared : declaration ∈ declarations)
      (typed : declaration.isModule = true) (named : module.name = declaration.name)
      (modules : List.Forall₂ (DeclaredTree declarations others)
        (declaration.members.filter (isDeclared declarations Declaration.isModule)) module.modules)
      (classes : List.Forall₂ (DeclaresClass declarations)
        (declaration.members.filter (isDeclared declarations Declaration.isClass)) module.classes)
      (functions : List.Forall₂ (DeclaresFunction declarations others)
        (declaration.members.filter (isDeclared declarations Declaration.isFunction))
        module.functions) :
      DeclaredTree declarations others declaration.ident module

/-! ### Well-formed declarations -/

/-- A declared module has another one among its members. -/
def DeclaresSubmodule (declarations : List Declaration) (above below : String) : Prop :=
  ∃ declaration ∈ declarations, declaration.ident = above ∧ below ∈ declaration.members ∧
    isDeclared declarations Declaration.isModule below = true

/-- A declared element is a module that is a member of no module. -/
def IsTop (declarations : List Declaration) (declaration : Declaration) : Prop :=
  declaration.isModule = true ∧ ∀ other ∈ declarations, declaration.ident ∉ other.members

instance (declarations : List Declaration) (declaration : Declaration) :
    Decidable (IsTop declarations declaration) :=
  inferInstanceAs (Decidable (_ ∧ _))

/-- The names of all parameters of a function. -/
def parameterNames (signature : Signature) : List String :=
  signature.positional ++ signature.varargs.toList ++ signature.keywordOnly ++
    signature.kwargs.toList

/-- A function has an argument for each of its parameters, and their names are clean. -/
structure ProperSignature (signature : Signature) : Prop where
  enough : signature.positional.length + signature.keywordOnly.length ≤
    signature.regularArguments.length
  clean : ∀ name ∈ parameterNames signature, Clean name

/-- A declared element is a module, a class, or a function with a signature, and its texts are
clean. -/
structure Declaration.Proper (declaration : Declaration) : Prop where
  clean : Clean declaration.name
  body : match declaration.body with
    | .ofModule _ | .ofClass => True
    | .ofFunction (some signature) => ProperSignature signature
    | .ofFunction none | .unknown _ => False

/-- Declarations stand for one tree. -/
structure WellFormed (declarations : List Declaration) (root : Declaration) : Prop where
  distinct : (declarations.map (·.ident)).Nodup
  proper : ∀ declaration ∈ declarations, declaration.Proper
  declared : ∀ declaration ∈ declarations, ∀ member ∈ declaration.members,
    ∃ other ∈ declarations, other.ident = member
  acyclic : ∀ ident, ¬ TransGen (DeclaresSubmodule declarations) ident ident
  root_mem : root ∈ declarations
  top : ∀ declaration ∈ declarations, IsTop declarations declaration ↔ declaration = root

/-! ### The tree is unique -/

section Unique

variable {declarations : List Declaration} {others : String → String}
  (distinct : (declarations.map (·.ident)).Nodup)
include distinct

/-- An identifier is declared once. -/
theorem eq_of_ident_eq {declaration other : Declaration} (h : declaration ∈ declarations)
    (h' : other ∈ declarations) (hident : declaration.ident = other.ident) : declaration = other :=
  List.inj_on_of_nodup_map distinct h h' hident

/-- An element that is declared under an identifier decides what is declared there. -/
theorem isDeclared_ident {declaration : Declaration} (h : declaration ∈ declarations)
    (kind : Declaration → Bool) :
    isDeclared declarations kind declaration.ident = kind declaration := by
  rw [Bool.eq_iff_iff, isDeclared, List.any_eq_true]
  constructor
  · rintro ⟨other, hother, hkind⟩
    rw [Bool.and_eq_true, beq_iff_eq] at hkind
    obtain rfl := eq_of_ident_eq distinct hother h hkind.1
    exact hkind.2
  · intro hkind
    exact ⟨declaration, h, by rw [Bool.and_eq_true, beq_iff_eq]; exact ⟨rfl, hkind⟩⟩

theorem DeclaresClass.unique {ident : String} {value other : Api.Class}
    (h : DeclaresClass declarations ident value) (h' : DeclaresClass declarations ident other) :
    value = other := by
  obtain ⟨declaration, hmem, hident, -, rfl⟩ := h
  obtain ⟨declaration', hmem', hident', -, rfl⟩ := h'
  rw [eq_of_ident_eq distinct hmem hmem' (hident.trans hident'.symm)]

theorem DeclaresFunction.unique {ident : String} {function other : Function}
    (h : DeclaresFunction declarations others ident function)
    (h' : DeclaresFunction declarations others ident other) : function = other := by
  obtain ⟨declaration, hmem, signature, hident, hbody, rfl⟩ := h
  obtain ⟨declaration', hmem', signature', hident', hbody', rfl⟩ := h'
  obtain rfl := eq_of_ident_eq distinct hmem hmem' (hident.trans hident'.symm)
  rw [hbody] at hbody'
  cases hbody'
  rfl

/-- Declarations stand for one tree at most. -/
theorem DeclaredTree.unique {ident : String} {module other : Module}
    (h : DeclaredTree declarations others ident module)
    (h' : DeclaredTree declarations others ident other) : module = other := by
  cases h with
  | intro declared typed named modules classes functions =>
    generalize hident : Declaration.ident _ = ident' at h'
    cases h' with
    | intro declared' typed' named' modules' classes' functions' =>
      obtain rfl := eq_of_ident_eq distinct declared declared' hident
      have hmodules : module.modules = other.modules :=
        forall₂_unique modules modules' fun _ submodule hmem _ h h' => h.unique h'
      have hclasses : module.classes = other.classes :=
        forall₂_unique classes classes' fun _ _ _ _ h h' => h.unique distinct h'
      have hfunctions : module.functions = other.functions :=
        forall₂_unique functions functions' fun _ _ _ _ h h' => h.unique distinct h'
      have hname : module.name = other.name := named.trans named'.symm
      cases module
      cases other
      simp_all only
termination_by sizeOf module
decreasing_by exact Api.sizeOf_lt_of_mem_modules hmem

end Unique

/-- The members of a kind, and what they are declared as. -/
theorem WellFormed.exists_of_mem_filter {declarations : List Declaration} {root : Declaration}
    (wellFormed : WellFormed declarations root) {declaration : Declaration}
    (h : declaration ∈ declarations) {kind : Declaration → Bool} {member : String}
    (hmember : member ∈ declaration.members.filter (isDeclared declarations kind)) :
    ∃ other ∈ declarations, other.ident = member ∧ kind other = true := by
  obtain ⟨hmember, hkind⟩ := List.mem_filter.mp hmember
  obtain ⟨other, hother, rfl⟩ := wellFormed.declared declaration h member hmember
  rw [isDeclared_ident wellFormed.distinct hother] at hkind
  exact ⟨other, hother, rfl, hkind⟩

end Introspection
