import Introspection.Json.Literal
import Introspection.Proofs.Json.Grammar

/-!
# Literals are read back

A text as a string literal is in the grammar, and the reader takes it for the text, whatever the
text is. Three kinds of characters are written in three ways. The quote, the backslash and five
control characters stand behind a backslash as a letter, the other control characters as four
hexadecimal digits, and every other character as itself. There is no surrogate among them, so what
is written as a number is read as a character of its own.

## Main results

* `Json.hexUnit?_hexDigits` — four digits of a number are read as the number
* `Json.exists_inside_escaped` — the inside of the literal of any text is in the grammar
* `Json.readUnits_escaped`
-/

namespace Introspection.Json

theorem hexValue?_digitChar : ∀ digit < 16, hexValue? (Nat.digitChar digit) = some digit := by
  decide

/-- Four digits are read as the number that they write. -/
theorem hexUnit?_hexDigits {n : Nat} (h : n < 0x10000) :
    ∃ a b c d, Text.hexDigits 4 n = [a, b, c, d] ∧ hexUnit? a b c d = some n := by
  have digit (m : Nat) : hexValue? (Nat.digitChar (m % 16)) = some (m % 16) :=
    hexValue?_digitChar _ (Nat.mod_lt _ (by decide))
  refine ⟨_, _, _, _, rfl, ?_⟩
  rw [hexUnit?, digit, digit, digit, digit]
  dsimp only
  congr 1
  omega

/-- A code unit below the surrogates is a character of its own. -/
theorem unitsText_inl_cons {unit : Nat} (h : unit < 0xD800) (units : List (Nat ⊕ Char)) :
    unitsText (.inl unit :: units) = Char.ofNat unit :: unitsText units := by
  have hsingle : unitsText.single unit = Char.ofNat unit := if_neg fun hle => by omega
  rw [unitsText.eq_def]
  split
  · next heq => cases heq
  · next heq => cases heq
  · next heq =>
    cases heq
    rw [if_neg fun hpair => by omega, hsingle]
  · next heq =>
    cases heq
    rw [hsingle]

/-- The three ways in which a character is written. -/
theorem escapedChar_cases (c : Char) :
    (∃ letter, escapedChar c = ['\\', letter] ∧ escapeValue? letter = some c) ∨
      (c.toNat < 0x20 ∧ escapedChar c = '\\' :: 'u' :: Text.hexDigits 4 c.toNat) ∨
      (0x20 ≤ c.toNat ∧ c ≠ '"' ∧ c ≠ '\\' ∧ escapedChar c = [c]) := by
  by_cases hletter : c ∈ ['"', '\\', '\x08', '\x0C', '\n', '\r', '\t']
  · simp only [List.mem_cons, List.not_mem_nil, or_false] at hletter
    rcases hletter with rfl | rfl | rfl | rfl | rfl | rfl | rfl <;> exact .inl ⟨_, rfl, rfl⟩
  · simp only [List.mem_cons, List.not_mem_nil, or_false, not_or] at hletter
    have hescaped : escapedChar c =
        if c.toNat < 0x20 then '\\' :: 'u' :: Text.hexDigits 4 c.toNat else [c] := by
      simp [escapedChar, hletter]
    rw [hescaped]
    by_cases hcontrol : c.toNat < 0x20
    · exact .inr (.inl ⟨hcontrol, if_pos hcontrol⟩)
    · exact .inr (.inr ⟨Nat.not_lt.mp hcontrol, hletter.1, hletter.2.1, if_neg hcontrol⟩)

/-- The inside of the literal of a text is in the grammar, and spells the text. -/
theorem exists_inside_escaped (text : List Char) :
    ∃ units, Grammar.Inside (escaped text) units ∧ unitsText units = text := by
  induction text with
  | nil => exact ⟨[], .nil, rfl⟩
  | cons c text ih =>
    obtain ⟨units, h, htext⟩ := ih
    rw [escaped, List.flatMap_cons, ← escaped]
    rcases escapedChar_cases c with ⟨letter, heq, hvalue⟩ | ⟨hcontrol, heq⟩ |
      ⟨hcontrol, hquote, hbackslash, heq⟩
    · rw [heq]
      refine ⟨_, .letter hvalue h, ?_⟩
      rw [unitsText, htext]
    · obtain ⟨a, b, d, e, hdigits, hunit⟩ := hexUnit?_hexDigits (show c.toNat < 0x10000 by omega)
      rw [heq, hdigits]
      refine ⟨_, .unit hunit h, ?_⟩
      rw [unitsText_inl_cons (by omega), Char.ofNat_toNat, htext]
    · rw [heq]
      refine ⟨_, .char hcontrol hquote hbackslash h, ?_⟩
      rw [unitsText, htext]

/-- A text comes back from its literal, whatever follows. -/
theorem readUnits_escaped (text start rest : List Char) :
    ∃ units, readUnits start (escaped text ++ '"' :: rest) = .ok (units, rest) ∧
      unitsText units = text := by
  obtain ⟨units, h, htext⟩ := exists_inside_escaped text
  exact ⟨units, h.readUnits start rest, htext⟩

end Introspection.Json
