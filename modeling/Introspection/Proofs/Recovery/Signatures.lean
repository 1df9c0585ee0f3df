import Introspection.Proofs.Recovery.Coverage
import Introspection.Proofs.Stub.Legality

/-!
# Signatures of the functions of a tree

Every function of a recovered tree, however deep it lies, was read from a fragment and has passed
the check of signatures. Stub lines are written from these functions, so one would expect that they
are legal.

The check looks at kinds alone. Kinds are in order, and no variadic parameter is repeated; but two
parameters may share their name, and a parameter without a default may stand behind one with a
default. Such a function reaches the tree, and then its stub line breaks the rule for `def`.
`legal_iff_of_resolve` says that nothing else goes wrong.

## Main definitions

* `Recovery.Unfolded` — a module came out of the unfolding of an arena

## Main results

* `Recovery.Unfolded.reachable` — then so did all that is below it
* `Recovery.Unfolded.described` — its functions were read from fragments
* `Recovery.legal_iff_of_resolve`
-/

namespace Introspection.Recovery

open Introspection.Api (DefaultsLast DistinctNames Encloses Function LegalParameters Member Module
  legalParameters_iff signatureFault?_eq_none_iff_ordered)
open Introspection.Stub (IsLegalLine IsName Writable functionLine isLegalLine_functionLine_iff)
open Relation (ReflTransGen)

variable {arena : Arena} {module : Module}

/-- A module came out of the unfolding of an arena. -/
def Unfolded (arena : Arena) (module : Module) : Prop :=
  ∃ path fragment, unfoldModule arena path fragment = .ok module

/-- What a module has as a member was unfolded from an id. -/
theorem Unfolded.exists_unfoldsTo (h : Unfolded arena module) :
    ∃ name members, module = Module.ofMembers name members ∧
      ∀ member ∈ members, ∃ path id, UnfoldsTo arena path id member := by
  obtain ⟨path, fragment, unfolded⟩ := h
  obtain ⟨name, ids, members, -, -, related, rfl⟩ := unfoldModule_eq_ok_iff.mp unfolded
  refine ⟨name, members, rfl, fun member hmember => ?_⟩
  obtain ⟨id, -, hid⟩ := exists_of_forall₂ related.flip hmember
  exact ⟨path, id, hid⟩

theorem Unfolded.submodule (h : Unfolded arena module) {part : Module}
    (edge : Encloses module part) : Unfolded arena part := by
  obtain ⟨name, members, rfl, hmembers⟩ := h.exists_unfoldsTo
  obtain ⟨member, hmember, hpart⟩ := List.mem_filterMap.mp edge
  obtain ⟨path, id, unfoldsTo⟩ := hmembers member hmember
  cases unfoldsTo with
  | module _ _ _ unfolded =>
    cases hpart
    exact ⟨_, _, unfolded⟩
  | «class» _ _ _ => cases hpart
  | function _ _ _ => cases hpart

/-- All modules below an unfolded one are unfolded. -/
theorem Unfolded.reachable (h : Unfolded arena module) {part : Module}
    (below : ReflTransGen Encloses module part) : Unfolded arena part := by
  induction below with
  | refl => exact h
  | tail _ edge ih => exact ih.submodule edge

/-- The functions of an unfolded module were read from fragments. -/
theorem Unfolded.described (h : Unfolded arena module) {function : Function}
    (mem : function ∈ module.functions) : ∃ fragment, DescribesFunction fragment function := by
  obtain ⟨name, members, rfl, hmembers⟩ := h.exists_unfoldsTo
  obtain ⟨member, hmember, hfunction⟩ := List.mem_filterMap.mp mem
  obtain ⟨path, id, unfoldsTo⟩ := hmembers member hmember
  cases unfoldsTo with
  | module _ _ _ _ => cases hfunction
  | «class» _ _ _ => cases hfunction
  | @function element _ _ _ described =>
    cases hfunction
    exact ⟨element, described⟩

theorem unfolded_of_resolve {fragments : List Fragment} {root : Option String}
    {policy : DuplicatePolicy} {records : List Log.Record}
    (resolved : resolve fragments root policy = (.ok module, records)) :
    ∃ arena, Unfolded arena module := by
  obtain ⟨arena, _, _, -, -, unfolded, -⟩ := resolve_eq_ok_iff.mp resolved
  exact ⟨arena, _, _, unfolded⟩

/-- **The functions of a tree are legal, unless names or defaults are in the way.**

The kinds of the parameters of every function in a recovered tree are in order, with one variadic
parameter of a kind at most. All of the rule for `def` holds of them exactly if their names are
different and no positional parameter without a default follows one with a default. If the names can
be written, the same decides on the stub line of the function. -/
theorem legal_iff_of_resolve {fragments : List Fragment} {root : Option String}
    {policy : DuplicatePolicy} {records : List Log.Record}
    (resolved : resolve fragments root policy = (.ok module, records)) {part : Module}
    (below : ReflTransGen Encloses module part) {function : Function}
    (mem : function ∈ part.functions) :
    function.parameters.Pairwise (·.kind.rank ≤ ·.kind.rank) ∧
      (∀ kind : Api.Kind, kind.isVariadic = true →
        function.parameters.countP (·.kind = kind) ≤ 1) ∧
      (LegalParameters function.parameters ↔
        DistinctNames function.parameters ∧ DefaultsLast function.parameters) ∧
      (IsName function.name.toList → (∀ parameter ∈ function.parameters, Writable parameter) →
        (IsLegalLine (functionLine function).toList ↔
          DistinctNames function.parameters ∧ DefaultsLast function.parameters)) := by
  obtain ⟨arena, unfolded⟩ := unfolded_of_resolve resolved
  obtain ⟨fragment, described⟩ := (unfolded.reachable below).described mem
  have valid : Api.signatureFault? function.parameters = none := described.valid
  have hlegal : LegalParameters function.parameters ↔
      DistinctNames function.parameters ∧ DefaultsLast function.parameters := by
    rw [legalParameters_iff]
    exact and_iff_right valid
  obtain ⟨ordered, single⟩ := signatureFault?_eq_none_iff_ordered.mp valid
  refine ⟨ordered, single, hlegal, fun name writable => ?_⟩
  rw [isLegalLine_functionLine_iff name writable valid, hlegal]

/-- A parameter as it is described in a fragment. -/
def parameterValue (name : String) (kind : Api.Kind) (hasDefault : Bool) : Json :=
  .object [("name", .str name), ("kind", .str kind.tag), ("has_default", .bool hasDefault)]

/-- A function as it is described in a fragment. -/
def functionValue (name : String) (parameters : List Json) : Fragment :=
  [("id", .str name), ("type", .str "function"), ("name", .str name),
    ("signature", .object [("parameters", .array parameters)])]

/-- The fragments of a module with a function in a submodule. -/
def lawfulFragments : List Fragment :=
  [[("id", .str "t"), ("type", .str "module"), ("name", .str "top"),
      ("members", .array [.str "s"])],
    [("id", .str "s"), ("type", .str "module"), ("name", .str "sub"),
      ("members", .array [.str "f"])],
    functionValue "f" [parameterValue "a" .positionalOnly false,
      parameterValue "b" .positionalOrKeyword true, parameterValue "c" .keywordOnly false,
      parameterValue "rest" .variadicKeyword false]]

/-- The function of `lawfulFragments` and its stub line are legal. -/
theorem legal_iff_of_resolve_lawful : ∃ module records part function,
    resolve lawfulFragments none .error = (.ok module, records) ∧
    ReflTransGen Encloses module part ∧ function ∈ part.functions ∧
    functionLine function = "def f(a, /, b = ..., *, c, **rest): ..." ∧
    LegalParameters function.parameters ∧ IsLegalLine (functionLine function).toList := by
  let function : Function := {
    name := "f"
    parameters := [⟨"a", .positionalOnly, false, none⟩, ⟨"b", .positionalOrKeyword, true, none⟩,
      ⟨"c", .keywordOnly, false, none⟩, ⟨"rest", .variadicKeyword, false, none⟩] }
  let part : Module := { name := "sub", functions := [function] }
  let module : Module := { name := "top", modules := [part] }
  let arena : Arena := ["t", "s", "f"].zip lawfulFragments
  have hindex : index .error lawfulFragments = (.ok arena, []) := rfl
  have hroot : findRoot arena none = .ok ("t", lawfulFragments[0]) := rfl
  have hwithin : moduleWithin arena 4 [] "t" lawfulFragments[0] = some (.ok module) := rfl
  have hunfold := unfoldModule_of_moduleWithin (by decide) rfl hwithin
  have resolved := resolve_eq_ok_iff.mpr ⟨arena, [], _, hindex, hroot, hunfold, rfl⟩
  have below : ReflTransGen Encloses module part := .single (List.mem_singleton_self part)
  have mem : function ∈ part.functions := List.mem_singleton_self function
  have names : ∀ parameter ∈ function.parameters,
      IsName parameter.name.toList ∧ parameter.hint = none := by decide
  have writable : ∀ parameter ∈ function.parameters, Writable parameter := fun parameter hmem =>
    .of_name (names parameter hmem).1 (names parameter hmem).2
  have fair : DistinctNames function.parameters ∧ DefaultsLast function.parameters := by decide
  obtain ⟨-, -, hlegal, hline⟩ := legal_iff_of_resolve resolved below mem
  exact ⟨module, _, part, function, resolved, below, mem, by decide, hlegal.mpr fair,
    (hline (by decide) writable).mpr fair⟩

/-- The fragments of a module with two functions. One has two parameters of one name, and the other
one has a parameter without a default behind one with a default. -/
def lawlessFragments : List Fragment :=
  [[("id", .str "m"), ("type", .str "module"), ("name", .str "m"),
      ("members", .array [.str "f", .str "g"])],
    functionValue "f" [parameterValue "x" .positionalOrKeyword false,
      parameterValue "x" .positionalOrKeyword false],
    functionValue "g" [parameterValue "x" .positionalOrKeyword true,
      parameterValue "y" .positionalOrKeyword false]]

/-- The functions of `lawlessFragments` get into the tree, and their stub lines are not legal. -/
theorem not_legal_lawlessFragments : ∃ module records twice late,
    resolve lawlessFragments none .error = (.ok module, records) ∧
    module.functions = [twice, late] ∧
    functionLine twice = "def f(x, x): ..." ∧ ¬ DistinctNames twice.parameters ∧
    ¬ IsLegalLine (functionLine twice).toList ∧
    functionLine late = "def g(x = ..., y): ..." ∧ ¬ DefaultsLast late.parameters ∧
    ¬ IsLegalLine (functionLine late).toList := by
  let twice : Function := {
    name := "f"
    parameters := [⟨"x", .positionalOrKeyword, false, none⟩,
      ⟨"x", .positionalOrKeyword, false, none⟩] }
  let late : Function := {
    name := "g"
    parameters := [⟨"x", .positionalOrKeyword, true, none⟩,
      ⟨"y", .positionalOrKeyword, false, none⟩] }
  let module : Module := { name := "m", functions := [twice, late] }
  let arena : Arena := ["m", "f", "g"].zip lawlessFragments
  have hindex : index .error lawlessFragments = (.ok arena, []) := rfl
  have hroot : findRoot arena none = .ok ("m", lawlessFragments[0]) := rfl
  have hwithin : moduleWithin arena 4 [] "m" lawlessFragments[0] = some (.ok module) := rfl
  have hunfold := unfoldModule_of_moduleWithin (by decide) rfl hwithin
  have resolved := resolve_eq_ok_iff.mpr ⟨arena, [], _, hindex, hroot, hunfold, rfl⟩
  have names : ∀ function ∈ [twice, late], IsName function.name.toList ∧
      ∀ parameter ∈ function.parameters,
        IsName parameter.name.toList ∧ parameter.hint = none := by decide
  have illegal : ∀ function ∈ [twice, late], ¬ LegalParameters function.parameters →
      Api.signatureFault? function.parameters = none →
      ¬ IsLegalLine (functionLine function).toList := by
    intro function hmem illegal valid
    obtain ⟨name, hparameters⟩ := names function hmem
    have writable : ∀ parameter ∈ function.parameters, Writable parameter :=
      fun parameter hmem =>
        .of_name (hparameters parameter hmem).1 (hparameters parameter hmem).2
    rwa [isLegalLine_functionLine_iff name writable valid]
  have hdistinct : ¬ DistinctNames twice.parameters := by decide
  have hdefaults : ¬ DefaultsLast late.parameters := by decide
  refine ⟨module, _, twice, late, resolved, rfl, by decide, hdistinct, ?_, by decide, hdefaults,
    ?_⟩
  · exact illegal twice (by simp) (fun h => hdistinct h.distinct) rfl
  · exact illegal late (by simp) (fun h => hdefaults h.defaults) rfl

end Introspection.Recovery
