import Introspection.Proofs.Json.Literal

/-!
# Quoted texts are told apart

A quoted text shows every character of it, so the text can be found again. Each character is read
back from the way in which it is written: the letter behind a backslash says how many digits are
still to come, so a reader needs to know neither the text nor the quote mark. The mark itself stands
only where the text ends, as inside the text it has a backslash in front of it.

Which quote mark is taken depends on the whole text. It is the first character that is written, so
two quoted texts that begin alike have the same one.

## Main definitions

* `Text.readQuotedChar` — the character that is written first, and what is left behind it

## Main results

* `Text.readQuotedChar_quotedChar` — characters are read back
* `Text.quotedChars_append_inj` — a quoted text is known, whatever stands behind it
-/

namespace Introspection.Text

-- Powers are those of the numbers themselves, also where algebra is in scope.
attribute [local instance (high)] instPowNat

/-! ### Digits -/

/-- The number that some hexadecimal digits write. -/
def hexNumber (digits : List Char) : Nat :=
  digits.foldl (fun number digit => 16 * number + (Json.hexValue? digit).getD 0) 0

theorem hexNumber_append (digits : List Char) (digit : Char) :
    hexNumber (digits ++ [digit]) = 16 * hexNumber digits + (Json.hexValue? digit).getD 0 := by
  rw [hexNumber, List.foldl_append]
  rfl

/-- The last digits of a number are read as what they write of it. -/
theorem hexNumber_hexDigits (width n : Nat) :
    hexNumber (hexDigits width n) = n % 16 ^ width := by
  induction width generalizing n with
  | zero => exact (Nat.mod_one n).symm
  | succ width ih =>
    have hlast : Json.hexValue? (Nat.digitChar (n % 16)) = some (n % 16) :=
      Json.hexValue?_digitChar _ (Nat.mod_lt _ (by decide))
    rw [hexDigits, hexNumber_append, ih, hlast, Option.getD_some, Nat.pow_succ', Nat.mod_mul]
    omega

/-! ### Characters -/

/-- How many digits stand behind the letter of an escape. -/
def escapeWidth (letter : Char) : Nat :=
  if letter = 'x' then 2 else if letter = 'u' then 4 else if letter = 'U' then 8 else 0

/-- The character that an escape stands for. -/
def escapeMeaning (letter : Char) (digits : List Char) : Char :=
  if letter = 'n' then '\n'
  else if letter = 'r' then '\r'
  else if letter = 't' then '\t'
  else if escapeWidth letter = 0 then letter
  else Char.ofNat (hexNumber digits)

/-- What the escape behind a backslash stands for, and what is left behind it. -/
def readEscape : List Char → Option (Char × List Char)
  | [] => none
  | letter :: rest =>
    some (escapeMeaning letter (rest.take (escapeWidth letter)), rest.drop (escapeWidth letter))

/-- The character that is written first, and what is left behind it. -/
def readQuotedChar : List Char → Option (Char × List Char)
  | [] => none
  | c :: rest => if c = '\\' then readEscape rest else some (c, rest)

theorem readQuotedChar_of_ne {c : Char} (h : c ≠ '\\') (rest : List Char) :
    readQuotedChar (c :: rest) = some (c, rest) :=
  if_neg h

/-- An escape is read with as many digits as its letter says. -/
theorem readQuotedChar_escape {letter : Char} {digits : List Char}
    (h : digits.length = escapeWidth letter) (rest : List Char) :
    readQuotedChar ('\\' :: letter :: (digits ++ rest)) =
      some (escapeMeaning letter digits, rest) := by
  rw [readQuotedChar, if_pos rfl, readEscape, ← h, List.take_left, List.drop_left]

/-- A character comes back from its digits, if there are enough of them. -/
theorem readQuotedChar_digits (letter : Char) {c : Char} (hletter : letter ∈ ['x', 'u', 'U'])
    (h : c.toNat < 16 ^ escapeWidth letter) (rest : List Char) :
    readQuotedChar ('\\' :: letter :: (hexDigits (escapeWidth letter) c.toNat ++ rest)) =
      some (c, rest) := by
  have hmeaning : escapeMeaning letter (hexDigits (escapeWidth letter) c.toNat) =
      Char.ofNat (hexNumber (hexDigits (escapeWidth letter) c.toNat)) := by
    simp only [List.mem_cons, List.not_mem_nil, or_false] at hletter
    rcases hletter with rfl | rfl | rfl <;> rfl
  rw [readQuotedChar_escape (length_hexDigits _ _), hmeaning, hexNumber_hexDigits,
    Nat.mod_eq_of_lt h, Char.ofNat_toNat]

/-- The two quote marks. -/
def IsMark (mark : Char) : Prop :=
  mark = '\'' ∨ mark = '"'

theorem isMark_quoteMark (text : List Char) : IsMark (quoteMark text) := by
  rw [quoteMark]
  split
  · exact .inr rfl
  · exact .inl rfl

/-- A character comes back from the way in which it is written, whatever follows. -/
theorem readQuotedChar_quotedChar {mark : Char} (hmark : IsMark mark) (c : Char)
    (rest : List Char) : readQuotedChar (quotedChar mark c ++ rest) = some (c, rest) := by
  rw [quotedChar]
  split_ifs with hself hfeed hreturn htab hshown hbyte hplane
  · have hc : c = '\'' ∨ c = '"' ∨ c = '\\' := by
      simp only [Bool.or_eq_true, beq_iff_eq] at hself
      rcases hself with rfl | rfl
      · exact hmark.imp id .inl
      · exact .inr (.inr rfl)
    rcases hc with rfl | rfl | rfl <;> rfl
  · rw [eq_of_beq hfeed]
    rfl
  · rw [eq_of_beq hreturn]
    rfl
  · rw [eq_of_beq htab]
    rfl
  · refine readQuotedChar_of_ne ?_ rest
    rintro rfl
    simp at hself
  · exact readQuotedChar_digits 'x' (by decide) hbyte rest
  · exact readQuotedChar_digits 'u' (by decide) hplane rest
  · have hvalid : c.toNat < 0x110000 := by
      rcases c.valid with hlow | ⟨-, hhigh⟩
      · exact Nat.lt_trans hlow (by decide)
      · exact hhigh
    exact readQuotedChar_digits 'U' (by decide)
      (Nat.lt_trans hvalid (by decide)) rest

/-- What is written for a character does not begin with the quote mark. -/
theorem exists_quotedChar_eq_cons {mark : Char} (hmark : IsMark mark) (c : Char) :
    ∃ first tail, quotedChar mark c = first :: tail ∧ first ≠ mark := by
  have hbackslash : '\\' ≠ mark := by
    rcases hmark with rfl | rfl <;> decide
  rw [quotedChar]
  split_ifs with hself
  all_goals refine ⟨_, _, rfl, ?_⟩
  all_goals first
    | exact hbackslash
    | simp only [Bool.or_eq_true, beq_iff_eq, not_or] at hself; exact hself.1

/-! ### Texts -/

/-- The text in front of a quote mark is known, and what stands behind the mark. -/
theorem flatMap_quotedChar_inj {mark : Char} (hmark : IsMark mark) {text text' rest rest' : List Char}
    (h : text.flatMap (quotedChar mark) ++ mark :: rest =
      text'.flatMap (quotedChar mark) ++ mark :: rest') : text = text' ∧ rest = rest' := by
  have hne (c : Char) (text after rest : List Char) :
      mark :: rest ≠ (c :: text).flatMap (quotedChar mark) ++ after := by
    obtain ⟨first, tail, heq, hfirst⟩ := exists_quotedChar_eq_cons hmark c
    rw [List.flatMap_cons, heq]
    exact fun h => hfirst (List.cons.inj h).1.symm
  induction text generalizing text' with
  | nil =>
    cases text' with
    | nil => exact ⟨rfl, (List.cons.inj h).2⟩
    | cons c text' => exact absurd h (hne c text' _ rest)
  | cons c text ih =>
    cases text' with
    | nil => exact absurd h.symm (hne c text _ rest')
    | cons c' text' =>
      have hread := congrArg readQuotedChar h
      simp only [List.flatMap_cons, List.append_assoc, readQuotedChar_quotedChar hmark,
        Option.some.injEq, Prod.mk.injEq] at hread
      obtain ⟨rfl, hread⟩ := hread
      obtain ⟨rfl, rfl⟩ := ih hread
      exact ⟨rfl, rfl⟩

/-- A quoted text tells which text it is and where it ends. -/
theorem quotedChars_append_inj {text text' rest rest' : List Char}
    (h : quotedChars text ++ rest = quotedChars text' ++ rest') : text = text' ∧ rest = rest' := by
  simp only [quotedChars, List.cons_append, List.append_assoc, List.nil_append] at h
  obtain ⟨hmark, h⟩ := List.cons.inj h
  rw [← hmark] at h
  exact flatMap_quotedChar_inj (isMark_quoteMark text) h

end Introspection.Text
