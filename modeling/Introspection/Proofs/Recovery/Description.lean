import Introspection.Recovery.Tree
import Mathlib.Data.List.Forall2

/-!
# What fragments describe

A fragment is read field by field, and each reader stops at its first fault. Here the same is said
without any order: which fragments have a name, which have members, which describe a class or a
function, and that the readers succeed on exactly these. Everything about module trees is proved
from this side, so the order of the checks matters nowhere else.

## Main definitions

* `Recovery.HasText` — a field that is a text
* `Recovery.HasMembers` — the members of a module, none if the field is missing
* `Recovery.DescribesParameter`, `Recovery.DescribesClass`, `Recovery.DescribesFunction`

## Main results

* `Recovery.requireText_eq_ok_iff`, `Recovery.memberIds_eq_ok_iff`
* `Recovery.classOf_eq_ok_iff`, `Recovery.functionOf_eq_ok_iff`
-/

namespace Introspection.Recovery

open Introspection.Api (Kind Parameter Function Member Module)

/-! ### Fields -/

/-- A field of a fragment is this text. -/
def HasText (fragment : Fragment) (key text : String) : Prop :=
  Json.get? fragment key = some (.str text)

theorem HasText.unique {fragment : Fragment} {key text other : String}
    (h : HasText fragment key text) (h' : HasText fragment key other) : text = other := by
  have := h.symm.trans h'
  simpa using this

theorem requireText_eq_ok_iff {fragment : Fragment} {key text : String} :
    requireText fragment key = .ok text ↔ HasText fragment key text := by
  rw [requireText, HasText]
  split
  · next value h => simp [h]
  · next hne =>
    constructor
    · intro h
      cases h
    · intro h
      exact absurd h (hne text)

theorem hasType_iff {type : String} {fragment : Fragment} :
    hasType type fragment = true ↔ HasText fragment "type" type := by
  rw [hasType, HasText]
  split
  · next value h => simp [h]
  · next hne =>
    constructor
    · intro h
      cases h
    · intro h
      exact absurd h (hne type)

/-- A fragment has one type. -/
theorem not_hasType {fragment : Fragment} {type other : String}
    (typed : HasText fragment "type" type) (hne : type ≠ other) :
    ¬ hasType other fragment = true :=
  fun h => hne (typed.unique (hasType_iff.mp h))

/-! ### Members -/

/-- The members of a module are these ids: the field lists them, or it is missing and there are
none. -/
def HasMembers (fragment : Fragment) (ids : List String) : Prop :=
  (Json.get? fragment "members" = none ∧ ids = []) ∨
    Json.get? fragment "members" = some (.array (ids.map .str))

theorem asTexts?_eq_some_iff {items : List Json} {texts : List String} :
    asTexts? items = some texts ↔ items = texts.map .str := by
  induction items generalizing texts with
  | nil => cases texts <;> simp [asTexts?]
  | cons item items ih =>
    cases item with
    | str text =>
      rw [asTexts?, Option.map_eq_some_iff]
      constructor
      · rintro ⟨rest, h, rfl⟩
        rw [ih.mp h, List.map_cons]
      · intro h
        cases texts with
        | nil => cases h
        | cons first rest =>
          obtain ⟨hfirst, hrest⟩ := List.cons.inj h
          cases hfirst
          exact ⟨rest, ih.mpr hrest, rfl⟩
    | _ => cases texts <;> simp [asTexts?]

theorem memberIds_eq_ok_iff {fragment : Fragment} {ids : List String} :
    memberIds fragment = .ok ids ↔ HasMembers fragment ids := by
  rw [memberIds, HasMembers]
  split
  · next h => simp [h, eq_comm]
  · next items h =>
    split
    · next ids' hids =>
      rw [asTexts?_eq_some_iff] at hids
      subst hids
      simp only [h, reduceCtorEq, false_and, false_or, Option.some.injEq, Json.array.injEq,
        Except.ok.injEq]
      constructor
      · rintro rfl
        rfl
      · intro heq
        exact List.map_injective_iff.mpr (fun _ _ => Json.str.inj) heq
    · next hnone =>
      constructor
      · intro heq
        cases heq
      · rintro (⟨h', -⟩ | h')
        · rw [h] at h'
          cases h'
        · rw [h] at h'
          cases h'
          rw [asTexts?_eq_some_iff.mpr rfl] at hnone
          cases hnone
  · next value hne h =>
    constructor
    · intro heq
      cases heq
    · rintro (⟨h', -⟩ | h')
      · rw [h] at h'
        cases h'
      · rw [h] at h'
        exact absurd (Option.some.inj h') (hne _)

theorem HasMembers.unique {fragment : Fragment} {ids others : List String}
    (h : HasMembers fragment ids) (h' : HasMembers fragment others) : ids = others := by
  have := (memberIds_eq_ok_iff.mpr h).symm.trans (memberIds_eq_ok_iff.mpr h')
  exact Except.ok.inj this

/-! ### Classes and functions -/

/-- A value describes a parameter: an object with a name and the tag of a kind. A default is what
counts as true, and an annotation is what is a text. -/
def DescribesParameter (value : Json) (parameter : Parameter) : Prop :=
  ∃ fields, value = .object fields ∧ HasText fields "kind" parameter.kind.tag ∧
    HasText fields "name" parameter.name ∧
    parameter.hasDefault = ((Json.get? fields "has_default").getD (.bool false)).isTruthy ∧
    parameter.hint = (Json.get? fields "annotation").bind Json.asString?

/-- A fragment describes a class: it has its name. -/
def DescribesClass (fragment : Fragment) (value : Api.Class) : Prop :=
  HasText fragment "name" value.name

/-- A fragment describes a function: it has its name, and a signature with a list of what describes
its parameters, which are a possible signature. -/
structure DescribesFunction (fragment : Fragment) (function : Function) : Prop where
  name : HasText fragment "name" function.name
  parameters : ∃ signature values, Json.get? fragment "signature" = some (.object signature) ∧
    Json.get? signature "parameters" = some (.array values) ∧
    List.Forall₂ DescribesParameter values function.parameters
  valid : Api.signatureFault? function.parameters = none

theorem ofTag?_eq_some_iff {tag : String} {kind : Kind} :
    Kind.ofTag? tag = some kind ↔ tag = kind.tag := by
  constructor
  · intro h
    have := List.find?_some h
    simpa [eq_comm] using this
  · rintro rfl
    exact Kind.ofTag?_tag kind

theorem parameterOf_eq_ok_iff {function : String} {value : Json} {parameter : Parameter} :
    parameterOf function value = .ok parameter ↔ DescribesParameter value parameter := by
  constructor
  · intro h
    rw [parameterOf.eq_def] at h
    split at h
    · next fields =>
      split at h
      · cases h
      · next tag htag =>
        split at h
        · cases h
        · next kind hkind =>
          split at h
          · cases h
          · next name hname =>
            cases h
            rw [ofTag?_eq_some_iff] at hkind
            subst hkind
            exact ⟨fields, rfl, requireText_eq_ok_iff.mp htag, requireText_eq_ok_iff.mp hname, rfl,
              rfl⟩
    · cases h
  · rintro ⟨fields, rfl, hkind, hname, hdefault, hhint⟩
    obtain ⟨name, kind, hasDefault, hint⟩ := parameter
    dsimp only at hkind hname hdefault hhint
    subst hdefault hhint
    simp only [parameterOf, requireText_eq_ok_iff.mpr hkind, Kind.ofTag?_tag,
      requireText_eq_ok_iff.mpr hname]

theorem parametersOf_eq_ok_iff {function : String} {values : List Json}
    {parameters : List Parameter} :
    parametersOf function values = .ok parameters ↔
      List.Forall₂ DescribesParameter values parameters := by
  induction values generalizing parameters with
  | nil => simp [parametersOf, eq_comm]
  | cons value values ih =>
    rw [parametersOf, List.forall₂_cons_left_iff]
    constructor
    · intro h
      split at h
      · cases h
      · next parameter hparameter =>
        split at h
        · cases h
        · next rest hrest =>
          cases h
          exact ⟨parameter, rest, parameterOf_eq_ok_iff.mp hparameter, ih.mp hrest, rfl⟩
    · rintro ⟨parameter, rest, hparameter, hrest, rfl⟩
      rw [parameterOf_eq_ok_iff.mpr hparameter, ih.mpr hrest]

theorem parameterValues_eq_ok_iff {function : String} {fragment : Fragment} {values : List Json} :
    parameterValues function fragment = .ok values ↔
      ∃ signature, Json.get? fragment "signature" = some (.object signature) ∧
        Json.get? signature "parameters" = some (.array values) := by
  constructor
  · intro h
    rw [parameterValues] at h
    split at h
    · next signature hsignature =>
      split at h
      · next values' hvalues =>
        cases h
        exact ⟨signature, hsignature, hvalues⟩
      · cases h
    · cases h
  · rintro ⟨signature, hsignature, hvalues⟩
    simp only [parameterValues, hsignature, hvalues]

theorem classOf_eq_ok_iff {fragment : Fragment} {value : Api.Class} :
    classOf fragment = .ok value ↔ DescribesClass fragment value := by
  rw [DescribesClass, ← requireText_eq_ok_iff, classOf]
  split
  · next h => simp [h]
  · next name h =>
    rw [h]
    constructor
    · rintro ⟨⟩
      rfl
    · rintro ⟨⟩
      rfl

theorem functionOf_eq_ok_iff {fragment : Fragment} {function : Function} :
    functionOf fragment = .ok function ↔ DescribesFunction fragment function := by
  constructor
  · intro h
    rw [functionOf] at h
    split at h
    · cases h
    · next name hname =>
      split at h
      · cases h
      · next values hvalues =>
        split at h
        · cases h
        · next parameters hparameters =>
          split at h
          · cases h
          · next hvalid =>
            cases h
            obtain ⟨signature, hsignature, hvalues⟩ := parameterValues_eq_ok_iff.mp hvalues
            exact ⟨requireText_eq_ok_iff.mp hname, ⟨signature, values, hsignature, hvalues,
              parametersOf_eq_ok_iff.mp hparameters⟩, hvalid⟩
  · rintro ⟨hname, ⟨signature, values, hsignature, hvalues, hparameters⟩, hvalid⟩
    have hvalues : parameterValues function.name fragment = .ok values :=
      parameterValues_eq_ok_iff.mpr ⟨signature, hsignature, hvalues⟩
    have hparameters : parametersOf function.name values = .ok function.parameters :=
      parametersOf_eq_ok_iff.mpr hparameters
    simp only [functionOf, requireText_eq_ok_iff.mpr hname, hvalues, hparameters, hvalid]

end Introspection.Recovery
