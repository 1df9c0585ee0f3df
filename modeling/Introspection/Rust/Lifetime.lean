import Introspection.Text.Blank
import Introspection.Text.Word

/-!
# Erasing lifetimes from types

A type is named in a constant expression, where the lifetimes of the place it comes from mean
nothing. Erasing works on the text in two passes. The first drops the lifetime of a reference with
the white space around it: an ampersand, blanks, an apostrophe and a word become the ampersand
alone. The second replaces the word of every other lifetime by an underscore; the lifetime that
is an underscore already stays, that is, an underscore with no word character behind it. In both
passes a lifetime starts with an ASCII letter or an underscore and goes on as long as there are
word characters.

## Main definitions

* `Rust.lifetimeName?` — the rest of a text behind the word of a lifetime
* `Rust.dropReferenceLifetimes`, `Rust.eraseNames` — the two passes
* `Rust.eraseLifetimes`
-/

namespace Introspection.Rust

open Introspection.Text (isBlank isWord isWordStart)

/-- What follows the word of a lifetime, if the text starts with one. -/
def lifetimeName? : List Char → Option (List Char)
  | [] => none
  | c :: rest => if isWordStart c then some (rest.dropWhile isWord) else none

/-- What follows the lifetime of a reference and the blanks around it. -/
def referenceLifetime? (text : List Char) : Option (List Char) :=
  match text.dropWhile isBlank with
  | '\'' :: rest => (lifetimeName? rest).map (·.dropWhile isBlank)
  | _ => none

theorem length_lifetimeName? {text rest : List Char} (h : lifetimeName? text = some rest) :
    rest.length < text.length := by
  cases text with
  | nil => simp [lifetimeName?] at h
  | cons c tail =>
    simp only [lifetimeName?, Option.ite_none_right_eq_some, Option.some.injEq] at h
    rw [← h.2, List.length_cons]
    exact Nat.lt_succ_of_le (List.dropWhile_sublist _).length_le

theorem length_referenceLifetime? {text rest : List Char}
    (h : referenceLifetime? text = some rest) : rest.length < text.length := by
  unfold referenceLifetime? at h
  split at h
  · next tail htail =>
    obtain ⟨after, hname, rfl⟩ := Option.map_eq_some_iff.1 h
    have h₁ := length_lifetimeName? hname
    have h₂ := (List.dropWhile_sublist isBlank (l := text)).length_le
    have h₃ := (List.dropWhile_sublist isBlank (l := after)).length_le
    rw [htail, List.length_cons] at h₂
    omega
  · cases h

/-- Drops the lifetime of every reference. -/
def dropReferenceLifetimes (text : List Char) : List Char :=
  match text with
  | [] => []
  | c :: rest =>
    if c = '&' then
      match h : referenceLifetime? rest with
      | some after =>
        have := length_referenceLifetime? h
        c :: dropReferenceLifetimes after
      | none => c :: dropReferenceLifetimes rest
    else c :: dropReferenceLifetimes rest
termination_by text.length

/-- Whether the text starts with an underscore that is a word of its own. -/
def isUnnamed : List Char → Bool
  | '_' :: c :: _ => !isWord c
  | ['_'] => true
  | _ => false

/-- Replaces the word of every lifetime by an underscore. -/
def eraseNames (text : List Char) : List Char :=
  match text with
  | [] => []
  | c :: rest =>
    if c = '\'' ∧ isUnnamed rest = false then
      match h : lifetimeName? rest with
      | some after =>
        have := length_lifetimeName? h
        '\'' :: '_' :: eraseNames after
      | none => c :: eraseNames rest
    else c :: eraseNames rest
termination_by text.length

/-- A type without the lifetimes of its references, every other lifetime being unnamed. -/
def eraseLifetimes (type : String) : String :=
  String.ofList (eraseNames (dropReferenceLifetimes type.toList))

end Introspection.Rust
