import Introspection.Proofs.Declaration.Reading

/-!
# Reading declarations from a file

A file is read with texts for integers up to some length, and a document that is at hand with texts
for all of them. The two differ in one way: where a text is wanted that an integer does not have,
the file is not read any further. So whatever is said about the declarations of documents is said
about those of files.

It is shown by going through the reader once, with both wordings side by side. Either they do the
same, or the first one has stopped; and this is kept when one thing is read after another.

## Main definitions

* `Declaration.Follows` — one run does what another one does, unless an integer has no text

## Main results

* `Declaration.follows_ofDocument` — the declarations of a document, with both wordings
* `Declaration.load_eq_ok` — where the declarations of a file come from
-/

namespace Introspection.Declaration

open Introspection.Yaml (Value Places Document)

/-- One run does what another one does, unless it wants the text of an integer that has none. -/
def Follows {α : Type} (limited : Except LoadFault α) (plain : Except Fault α) : Prop :=
  limited = .error (.scalar .tooManyDigits) ∨ limited = plain.mapError .invalid

section Steps

variable {α β : Type} {limited : Except LoadFault α} {plain : Except Fault α}

theorem Follows.pure (value : α) : Follows (Pure.pure value) (Pure.pure value) :=
  .inr rfl

theorem Follows.fault (fault : Fault) :
    Follows (α := α) (throw (Wording.limited.fault fault)) (throw (Wording.plain.fault fault)) :=
  .inr rfl

theorem Follows.bind {next : α → Except LoadFault β} {next' : α → Except Fault β}
    (first : Follows limited plain) (follows : ∀ value, Follows (next value) (next' value)) :
    Follows (limited >>= next) (plain >>= next') := by
  rcases first with rfl | rfl
  · exact .inl rfl
  · cases plain with
    | ok value => exact follows value
    | error fault => exact .inr rfl

theorem Follows.map (change : α → β) (follows : Follows limited plain) :
    Follows (change <$> limited) (change <$> plain) := by
  rcases follows with rfl | rfl
  · exact .inl rfl
  · cases plain <;> exact .inr rfl

end Steps

/-! ### Texts -/

theorem follows_numeral (value : Int) :
    Follows (Wording.limited.numeral value) (Wording.plain.numeral value) := by
  rw [Wording.limited, Wording.plain]
  dsimp only
  rw [Yaml.numeral]
  split
  · exact .inl rfl
  · exact .inr rfl

section Display

variable {shown : Nat → Except LoadFault String} {shown' : Nat → Except Fault String}

mutual

theorem follows_displayWith (hshown : ∀ number, Follows (shown number) (shown' number))
    (value : Value) :
    Follows (value.displayWith Wording.limited.numeral shown)
      (value.displayWith Wording.plain.numeral shown') := by
  cases value with
  | int value => exact follows_numeral value
  | pair first second =>
    exact (follows_displayWith hshown first).bind fun _ =>
      (follows_displayWith hshown second).bind fun _ => .pure _
  | list items => exact (follows_displayItems hshown items).bind fun _ => .pure _
  | map entries => exact (follows_displayEntries hshown entries).bind fun _ => .pure _
  | set items =>
    cases items with
    | nil => exact .pure _
    | cons item items =>
      exact (follows_displayItems hshown (item :: items)).bind fun _ => .pure _
  | place number => exact hshown number
  | _ => exact .pure _

theorem follows_displayItems (hshown : ∀ number, Follows (shown number) (shown' number))
    (items : List Value) :
    Follows (Value.displayItems Wording.limited.numeral shown items)
      (Value.displayItems Wording.plain.numeral shown' items) := by
  cases items with
  | nil => exact .pure _
  | cons item items =>
    exact (follows_displayWith hshown item).bind fun _ =>
      (follows_displayItems hshown items).bind fun _ => .pure _

theorem follows_displayEntries (hshown : ∀ number, Follows (shown number) (shown' number))
    (entries : List (Value × Value)) :
    Follows (Value.displayEntries Wording.limited.numeral shown entries)
      (Value.displayEntries Wording.plain.numeral shown' entries) := by
  match entries with
  | [] => exact .pure _
  | (key, value) :: entries =>
    exact (follows_displayWith hshown key).bind fun _ =>
      (follows_displayWith hshown value).bind fun _ =>
        (follows_displayEntries hshown entries).bind fun _ => .pure _

end

end Display

variable (places : Places)

theorem follows_displayPlace (path : List Nat) (number fuel : Nat) :
    Follows (Value.displayPlace Wording.limited.numeral places path number fuel)
      (Value.displayPlace Wording.plain.numeral places path number fuel) := by
  induction fuel generalizing path number with
  | zero => exact .pure _
  | succ fuel ih =>
    rw [Value.displayPlace, Value.displayPlace]
    split
    · exact .pure _
    · exact follows_displayWith (fun inner => ih (number :: path) inner) _

theorem follows_display (value : Value) :
    Follows (value.display Wording.limited.numeral places)
      (value.display Wording.plain.numeral places) :=
  follows_displayWith (fun number => follows_displayPlace places [] number _) value

theorem follows_plainText (value : Value) :
    Follows (value.plainText Wording.limited.numeral places)
      (value.plainText Wording.plain.numeral places) := by
  cases value with
  | str | date | moment => exact .pure _
  | _ => exact follows_display places _

/-! ### Parts of an element -/

variable (name : String) (value : Value)

theorem follows_listOf : Follows (listOf .limited places value) (listOf .plain places value) := by
  rw [listOf, listOf]
  split
  · exact .pure _
  · exact .pure _
  · exact (follows_display places value).bind fun _ => .fault _

theorem follows_textsOf :
    Follows (textsOf .limited places name value) (textsOf .plain places name value) := by
  refine (follows_listOf places value).bind fun values => ?_
  cases allTexts values with
  | some texts => exact .pure texts
  | none => exact .fault _

theorem follows_optionalText :
    Follows (optionalText .limited name value) (optionalText .plain name value) := by
  cases value with
  | null | str => exact .pure _
  | _ => exact .fault _

theorem follows_argumentType (regular : Bool) :
    Follows (argumentType .limited name regular value)
      (argumentType .plain name regular value) := by
  cases value with
  | str => exact .pure _
  | _ =>
    cases regular with
    | true => exact .fault _
    | false => exact .pure _

theorem follows_defaultText :
    Follows (defaultText .limited places value) (defaultText .plain places value) := by
  cases value with
  | null => exact .pure _
  | _ => exact (follows_plainText places _).map some

theorem follows_argumentOf :
    Follows (argumentOf .limited places name value) (argumentOf .plain places name value) := by
  rw [argumentOf, argumentOf]
  split
  · exact (follows_argumentType name _ _).bind fun _ =>
      (follows_defaultText places _).bind fun _ => (follows_optionalText _ _).bind fun _ =>
        (follows_optionalText _ _).bind fun _ => .pure _
  · exact .fault _

theorem follows_argumentsOf (values : List Value) :
    Follows (argumentsOf .limited places name values) (argumentsOf .plain places name values) := by
  induction values with
  | nil => exact .pure _
  | cons value values ih =>
    exact (follows_argumentOf places name value).bind fun _ => ih.bind fun _ => .pure _

theorem follows_positionalOnlyOf (count : Nat) :
    Follows (positionalOnlyOf .limited name count value)
      (positionalOnlyOf .plain name count value) := by
  have hwithin (number : Int) :
      Follows (if 0 ≤ number ∧ number ≤ count then Pure.pure number
          else throw (Wording.limited.fault (.positionalOnly name count)))
        (if 0 ≤ number ∧ number ≤ count then Pure.pure number
          else throw (Wording.plain.fault (.positionalOnly name count))) := by
    split
    · exact .pure _
    · exact .fault _
  cases value with
  | int number => exact hwithin number
  | bool flag => exact hwithin (if flag then 1 else 0)
  | _ => exact .fault _

theorem follows_signatureOf (arguments : List Binding.Argument) :
    Follows (signatureOf .limited places name arguments value)
      (signatureOf .plain places name arguments value) := by
  rw [signatureOf, signatureOf]
  split
  · exact .pure _
  · exact (follows_textsOf places _ _).bind fun _ => (follows_positionalOnlyOf _ _ _).bind fun _ =>
      (follows_optionalText _ _).bind fun _ => (follows_textsOf places _ _).bind fun _ =>
        (follows_optionalText _ _).bind fun _ => .pure _
  · exact .fault _

theorem follows_bodyOf (kind : Kind) (fields : Fields) :
    Follows (bodyOf .limited places kind name fields) (bodyOf .plain places kind name fields) := by
  cases kind with
  | moduleKind => exact (follows_textsOf places _ _).bind fun _ => .pure _
  | classKind => exact .pure _
  | functionKind =>
    exact (follows_listOf places _).bind fun _ => (follows_argumentsOf places name _).bind fun _ =>
      (follows_signatureOf places name _ _).bind fun _ => .pure _

/-! ### Elements -/

theorem follows_nameOf (index : Nat) :
    Follows (nameOf .limited index value) (nameOf .plain index value) := by
  rw [nameOf.eq_def, nameOf.eq_def]
  split
  · split
    · exact .fault _
    · exact .pure _
  · exact .fault _

theorem follows_identOf :
    Follows (identOf .limited places name value) (identOf .plain places name value) := by
  rw [identOf.eq_def, identOf.eq_def]
  split
  · split
    · exact .pure _
    · exact .fault _
  · exact .pure _

theorem follows_ofValue (index : Nat) :
    Follows (ofValue .limited places index value) (ofValue .plain places index value) := by
  rw [ofValue, ofValue]
  split
  · dsimp only
    split
    · exact (follows_display places _).bind fun _ => .fault _
    · exact (follows_nameOf _ index).bind fun name => (follows_identOf places name _).bind fun _ =>
        (follows_bodyOf places name _ _).bind fun _ => .pure _
  · exact .fault _

theorem follows_elementsOf (index : Nat) (values : List Value) :
    Follows (elementsOf .limited places index values) (elementsOf .plain places index values) := by
  induction values generalizing index with
  | nil => exact .pure _
  | cons value values ih =>
    exact (follows_ofValue places value index).bind fun _ => (ih (index + 1)).bind fun _ => .pure _

/-- **A document is read in the same way with both wordings,** unless an integer has no text. -/
theorem follows_ofDocument (document : Document) :
    Follows (ofDocument .limited document) (allOfDocument document) := by
  rw [allOfDocument, ofDocument, ofDocument]
  split
  · split
    · exact follows_elementsOf _ 0 _
    · exact .fault _
  · exact .fault _

/-! ### Files -/

/-- **The declarations of a file are those of its document.** -/
theorem load_eq_ok {yaml : Yaml.Loader} {file : String} {bytes : ByteArray}
    {declarations : List Declaration} (h : load yaml file bytes = .ok declarations) :
    ∃ text document, Utf8.decode bytes = .ok text ∧
      yaml (Text.unifyNewlines text) = .ok document ∧
      allOfDocument document.orEmpty = .ok declarations := by
  rw [load] at h
  split at h
  · cases h
  · next text hdecode =>
    rw [ofText] at h
    split at h
    · cases h
    · cases h
    · next document hyaml =>
      refine ⟨text, document, hdecode, hyaml, ?_⟩
      rcases follows_ofDocument document.orEmpty with hlong | hsame
      · cases hlong.symm.trans h
      · rw [hsame] at h
        cases hread : allOfDocument document.orEmpty with
        | ok declarations' =>
          rw [hread] at h
          cases h
          rfl
        | error fault =>
          rw [hread] at h
          cases h

end Introspection.Declaration
