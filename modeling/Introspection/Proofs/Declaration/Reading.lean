import Introspection.Declaration.Reader
import Introspection.Proofs.Lists
import Introspection.Proofs.Runs

/-!
# What read declarations have

Declarations are read from values of any shape, and most shapes are refused. What is not refused is
sound: it has a type that something can be emitted for, a name and an identifier, and a function has
a signature in which no more positional parameters are passed by position alone than there are.
Nobody who reads declarations has to look at these things again.

Nothing is said here about what else may be wrong. Texts may have any characters, and a function may
have fewer arguments than parameters; both show only when it is emitted.

## Main definitions

* `Declaration.HasElements` — the elements of a document
* `Declaration.Declares` — a value declares an element
* `Declaration.Sound` — what is checked when a declaration is read

## Main results

* `Declaration.sound_of_ofDocument` — read declarations are sound, one for each element
-/

namespace Introspection.Declaration

open Introspection.Yaml (Value Places Document)

/-- The elements of a document. If there is no list of elements, there are none. -/
def HasElements (document : Document) (elements : List Value) : Prop :=
  ∃ fields, document.root.content document.places = .map fields ∧
    ((Value.get? fields "elements").getD (.list [])).content document.places = .list elements

/-- A value declares an element: it is a mapping that says its type, its name and its identifier. An
identifier that counts as false is not one; the name takes its place. -/
def Declares (places : Places) (value : Value) (declaration : Declaration) : Prop :=
  ∃ fields, value.content places = .map fields ∧
    field fields "type" = .str declaration.typeName ∧
    field fields "name" = .str declaration.name ∧
    if (field fields "ident").isTruthy places then
      field fields "ident" = .str declaration.ident
    else declaration.ident = declaration.name

/-- No more positional parameters are passed by position alone than there are. -/
def SoundSignature (signature : Binding.Signature) : Prop :=
  0 ≤ signature.positionalOnly ∧ signature.positionalOnly ≤ signature.positional.length

/-- An element is a module, a class, or a function with a sound signature. -/
def SoundBody : Body → Prop
  | .ofModule _ | .ofClass => True
  | .ofFunction (some signature) => SoundSignature signature
  | .ofFunction none | .unknown _ => False

/-- What is checked when a declaration is read. -/
structure Sound (declaration : Declaration) : Prop where
  named : declaration.name ≠ ""
  identified : declaration.ident ≠ ""
  body : SoundBody declaration.body

/-! ### Parts of an element -/

variable {ε : Type} {wording : Wording ε} {places : Places} {value : Value}

section Parts

variable {function name : String}

theorem bounds_of_positionalOnlyOf {count : Nat} {number : Int}
    (h : positionalOnlyOf wording function count value = .ok number) :
    0 ≤ number ∧ number ≤ count := by
  have hwithin {candidate : Int} (h : (if 0 ≤ candidate ∧ candidate ≤ count then .ok candidate
      else .error (wording.fault (.positionalOnly function count)) : Except ε Int) = .ok number) :
      0 ≤ number ∧ number ≤ count := by
    split at h
    · next hbounds =>
      cases h
      exact hbounds
    · cases h
  rw [positionalOnlyOf.eq_def] at h
  dsimp only at h
  split at h
  · exact hwithin h
  · exact hwithin h
  · cases h

theorem soundSignature_of_signatureOf {arguments : List Binding.Argument}
    {signature : Binding.Signature}
    (h : signatureOf wording places function arguments value = .ok signature) :
    SoundSignature signature := by
  rw [signatureOf] at h
  split at h
  · cases h
    exact ⟨Int.le_refl 0, Int.le_refl 0⟩
  · simp only [except_bind_eq_ok_iff] at h
    obtain ⟨positional, -, positionalOnly, hpositionalOnly, varargs, -, keywordOnly, -, kwargs, -,
      h⟩ := h
    cases h
    exact bounds_of_positionalOnlyOf hpositionalOnly
  · cases h

theorem of_nameOf {index : Nat} (h : nameOf wording index value = .ok name) :
    value = .str name ∧ name ≠ "" := by
  rw [nameOf.eq_def] at h
  split at h
  · split at h
    · cases h
    · next hempty =>
      cases h
      exact ⟨rfl, by simpa using hempty⟩
  · cases h

theorem of_identOf {ident : String} (hname : name ≠ "")
    (h : identOf wording places name value = .ok ident) :
    ident ≠ "" ∧ if value.isTruthy places then value = .str ident else ident = name := by
  rw [identOf.eq_def] at h
  split at h
  · next htruthy =>
    split at h
    · next text =>
      cases h
      refine ⟨?_, by rw [if_pos htruthy]⟩
      rintro rfl
      cases htruthy
    · cases h
  · next htruthy =>
    cases h
    exact ⟨hname, by rw [if_neg htruthy]⟩

end Parts

/-! ### Elements -/

/-- The name of a type. -/
def Kind.name : Kind → String
  | .moduleKind => "module"
  | .classKind => "class"
  | .functionKind => "function"

theorem value_of_kind {value : Value} {kind : Kind} (h : Kind.ofValue? value = some kind) :
    value = .str kind.name := by
  rw [Kind.ofValue?.eq_def] at h
  split at h <;> cases h <;> rfl

/-- The body of an element is that of its type, and a function has a sound signature. -/
theorem of_bodyOf {kind : Kind} {name : String} {fields : Fields} {body : Body} (ident : String)
    (h : bodyOf wording places kind name fields = .ok body) :
    (⟨name, ident, body⟩ : Declaration).typeName = kind.name ∧ SoundBody body := by
  cases kind with
  | moduleKind =>
    obtain ⟨members, -, h⟩ := except_bind_eq_ok_iff.mp h
    cases h
    exact ⟨rfl, trivial⟩
  | classKind =>
    cases h
    exact ⟨rfl, trivial⟩
  | functionKind =>
    simp only [bodyOf, except_bind_eq_ok_iff] at h
    obtain ⟨values, -, arguments, -, signature, hsignature, h⟩ := h
    cases h
    exact ⟨rfl, soundSignature_of_signatureOf hsignature⟩

/-- An element that is read is sound. -/
theorem of_ofValue {index : Nat} {declaration : Declaration}
    (h : ofValue wording places index value = .ok declaration) :
    Declares places value declaration ∧ declaration.Sound := by
  rw [ofValue] at h
  split at h
  · next fields hfields =>
    dsimp only at h
    split at h
    · obtain ⟨text, -, h⟩ := except_bind_eq_ok_iff.mp h
      cases h
    · next kind hkind =>
      simp only [except_bind_eq_ok_iff] at h
      obtain ⟨name, hname, ident, hident, body, hbody, h⟩ := h
      cases h
      obtain ⟨hvalue, hnonempty⟩ := of_nameOf hname
      obtain ⟨hidentNonempty, hident⟩ := of_identOf hnonempty hident
      obtain ⟨htype, hsound⟩ := of_bodyOf ident hbody
      refine ⟨⟨fields, hfields, ?_, hvalue, hident⟩, ⟨hnonempty, hidentNonempty, hsound⟩⟩
      rw [htype]
      exact value_of_kind hkind
  · cases h

theorem of_elementsOf {values : List Value} :
    ∀ {index : Nat} {declarations : List Declaration},
      elementsOf wording places index values = .ok declarations →
        List.Forall₂ (fun value declaration =>
          Declares places value declaration ∧ declaration.Sound) values declarations := by
  induction values with
  | nil =>
    intro index declarations h
    cases h
    exact .nil
  | cons value values ih =>
    intro index declarations h
    simp only [elementsOf, except_bind_eq_ok_iff] at h
    obtain ⟨declaration, hdeclaration, declarations, hdeclarations, h⟩ := h
    cases h
    exact .cons (of_ofValue hdeclaration) (ih hdeclarations)

/-- Declarations that are read are sound, one for each element and in the same order. -/
theorem sound_of_ofDocument {document : Document} {declarations : List Declaration}
    (h : ofDocument wording document = .ok declarations) :
    ∃ elements, HasElements document elements ∧
      List.Forall₂ (Declares document.places) elements declarations ∧
      ∀ declaration ∈ declarations, declaration.Sound := by
  rw [ofDocument] at h
  split at h
  · next fields hfields =>
    split at h
    · next elements helements =>
      have hall := of_elementsOf h
      refine ⟨elements, ⟨fields, hfields, helements⟩, hall.imp fun _ _ h => h.1, ?_⟩
      intro declaration hmem
      obtain ⟨value, -, -, hsound⟩ := exists_of_forall₂ hall.flip hmem
      exact hsound
    · cases h
  · cases h

end Introspection.Declaration
