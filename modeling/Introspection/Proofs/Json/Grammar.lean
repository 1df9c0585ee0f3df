import Introspection.Proofs.Json.Reading
import Mathlib.Data.List.TakeWhile

/-!
# The grammar of JSON texts

Which texts are JSON, and for which values, without a reader: a grammar with one relation for each
kind of text, from digits up to the members of objects. Here the scanners of strings, numbers and
words are exact for it. Whatever one takes off the front of a text is in the grammar, and every
text of the grammar is taken, whole and nothing behind it.

## Where a text ends

A number is the only text that what follows may still change: `1` in front of `5` is another
number, and so it is in front of `e5` or `.5`. Hence `Stops`, the premise on what follows. Strings
and words say themselves where they end, and for these there is no such premise.

## Main definitions

* `Json.Space` — white space, or nothing
* `Json.Grammar.Inside` — the inside of string literals
* `Json.Grammar.Number` — numbers
* `Json.Grammar.Value`, `Json.Grammar.Items`, `Json.Grammar.Members`
* `Json.Stops` — no number goes on with what follows

## Main results

* `Json.Grammar.Inside.readUnits`, `Json.Grammar.exists_inside`
* `Json.Grammar.Number.readNumber?`, `Json.Grammar.exists_number`
* `Json.readWord?_append`, `Json.exists_word`
-/

namespace Introspection.Json

/-- White space of JSON, or nothing. -/
def Space (text : List Char) : Prop :=
  ∀ c ∈ text, isSpace c = true

namespace Grammar

/-! ### The productions -/

/-- The inside of a string literal, and the characters and code units that it spells. -/
inductive Inside : List Char → List (Nat ⊕ Char) → Prop
  | nil : Inside [] []
  | char {c : Char} {text : List Char} {units : List (Nat ⊕ Char)} (control : 0x20 ≤ c.toNat)
      (quote : c ≠ '"') (backslash : c ≠ '\\') (rest : Inside text units) :
      Inside (c :: text) (.inr c :: units)
  | letter {c value : Char} {text : List Char} {units : List (Nat ⊕ Char)}
      (escape : escapeValue? c = some value) (rest : Inside text units) :
      Inside ('\\' :: c :: text) (.inr value :: units)
  | unit {a b c d : Char} {unit : Nat} {text : List Char} {units : List (Nat ⊕ Char)}
      (escape : hexUnit? a b c d = some unit) (rest : Inside text units) :
      Inside ('\\' :: 'u' :: a :: b :: c :: d :: text) (.inl unit :: units)

/-- Some digits. -/
structure Digits (text : List Char) : Prop where
  digits : ∀ c ∈ text, c.isDigit = true
  nonempty : text ≠ []

/-- The whole part of a number. It has no zeros in front. -/
inductive Whole : List Char → Prop
  | zero : Whole ['0']
  | digits {c : Char} {text : List Char} (first : c ≠ '0') (h : Digits (c :: text)) :
      Whole (c :: text)

/-- The exponent of a number, from its mark on. -/
inductive Exponent : List Char → Int → Prop
  | unsigned {mark : Char} {text : List Char} (marked : mark = 'e' ∨ mark = 'E')
      (h : Digits text) : Exponent (mark :: text) (digitsValue text)
  | positive {mark : Char} {text : List Char} (marked : mark = 'e' ∨ mark = 'E')
      (h : Digits text) : Exponent (mark :: '+' :: text) (digitsValue text)
  | negative {mark : Char} {text : List Char} (marked : mark = 'e' ∨ mark = 'E')
      (h : Digits text) : Exponent (mark :: '-' :: text) (-(digitsValue text : Int))

/-- A number behind its sign. It is an integer if there is neither a fraction nor an exponent. -/
inductive Unsigned (negative : Bool) : List Char → Json → Prop
  | whole {whole : List Char} (h : Whole whole) :
      Unsigned negative whole
        (.int (if negative then -(digitsValue whole : Int) else (digitsValue whole : Int)))
  | fraction {whole fraction : List Char} (h : Whole whole) (behind : Digits fraction) :
      Unsigned negative (whole ++ '.' :: fraction)
        (.float (.ofDecimal negative (digitsValue (whole ++ fraction)) (-fraction.length)))
  | exponent {whole mark : List Char} {exponent : Int} (h : Whole whole)
      (raised : Exponent mark exponent) :
      Unsigned negative (whole ++ mark)
        (.float (.ofDecimal negative (digitsValue whole) exponent))
  | both {whole fraction mark : List Char} {exponent : Int} (h : Whole whole)
      (behind : Digits fraction) (raised : Exponent mark exponent) :
      Unsigned negative (whole ++ '.' :: (fraction ++ mark))
        (.float (.ofDecimal negative (digitsValue (whole ++ fraction))
          (exponent - fraction.length)))

/-- A number. -/
inductive Number : List Char → Json → Prop
  | positive {text : List Char} {value : Json} (h : Unsigned false text value) : Number text value
  | negative {text : List Char} {value : Json} (h : Unsigned true text value) :
      Number ('-' :: text) value

mutual

/-- The text of a value. -/
inductive Value : List Char → Json → Prop
  | word {text : List Char} {value : Json} (h : (text, value) ∈ words) : Value text value
  | number {text : List Char} {value : Json} (h : Number text value) : Value text value
  | str {inside : List Char} {units : List (Nat ⊕ Char)} (h : Inside inside units) :
      Value ('"' :: (inside ++ ['"'])) (.str (String.ofList (unitsText units)))
  | emptyArray {blank : List Char} (space : Space blank) :
      Value ('[' :: (blank ++ [']'])) (.array [])
  | array {inside : List Char} {items : List Json} (h : Items inside items) :
      Value ('[' :: (inside ++ [']'])) (.array items)
  | emptyObject {blank : List Char} (space : Space blank) :
      Value ('\x7b' :: (blank ++ ['\x7d'])) (.object [])
  | object {inside : List Char} {members : List (String × Json)} (h : Members inside members) :
      Value ('\x7b' :: (inside ++ ['\x7d'])) (.object (collected members))

/-- The items of an array, between the brackets. -/
inductive Items : List Char → List Json → Prop
  | last {before text behind : List Char} {item : Json} (spaceBefore : Space before)
      (h : Value text item) (spaceBehind : Space behind) :
      Items (before ++ (text ++ behind)) [item]
  | more {before text behind inside : List Char} {item : Json} {items : List Json}
      (spaceBefore : Space before) (h : Value text item) (spaceBehind : Space behind)
      (rest : Items inside items) :
      Items (before ++ (text ++ (behind ++ ',' :: inside))) (item :: items)

/-- The members of an object, between the braces. -/
inductive Members : List Char → List (String × Json) → Prop
  | last {before key : List Char} {units : List (Nat ⊕ Char)} {between after text behind : List Char}
      {value : Json} (spaceBefore : Space before) (keyed : Inside key units)
      (spaceBetween : Space between) (spaceAfter : Space after) (h : Value text value)
      (spaceBehind : Space behind) :
      Members (before ++ '"' :: (key ++ '"' :: (between ++ ':' :: (after ++ (text ++ behind)))))
        [(String.ofList (unitsText units), value)]
  | more {before key : List Char} {units : List (Nat ⊕ Char)} {between after text behind : List Char}
      {value : Json} {inside : List Char} {members : List (String × Json)}
      (spaceBefore : Space before) (keyed : Inside key units)
      (spaceBetween : Space between) (spaceAfter : Space after) (h : Value text value)
      (spaceBehind : Space behind) (rest : Members inside members) :
      Members
        (before ++ '"' :: (key ++ '"' :: (between ++ ':' :: (after ++ (text ++ (behind ++
          ',' :: inside))))))
        ((String.ofList (unitsText units), value) :: members)

end

end Grammar

/-! ### White space -/

theorem space_nil : Space [] := by
  simp [Space]

theorem Space.append {text other : List Char} (h : Space text) (h' : Space other) :
    Space (text ++ other) :=
  List.forall_mem_append.mpr ⟨h, h'⟩

theorem skipSpace_append {blank : List Char} (h : Space blank) (text : List Char) :
    skipSpace (blank ++ text) = skipSpace text :=
  List.dropWhile_append_of_pos h

theorem skipSpace_eq_nil {blank : List Char} (h : Space blank) : skipSpace blank = [] :=
  List.dropWhile_eq_nil_iff.mpr h

/-- What is skipped is white space. -/
theorem exists_space_append (text : List Char) :
    ∃ blank, Space blank ∧ text = blank ++ skipSpace text :=
  ⟨text.takeWhile isSpace, fun _ hc => List.mem_takeWhile_imp hc,
    List.takeWhile_append_dropWhile.symm⟩

/-! ### Strings -/

/-- The inside of a string literal is read up to the closing quote. -/
theorem Grammar.Inside.readUnits {inside : List Char} {units : List (Nat ⊕ Char)}
    (h : Grammar.Inside inside units) (start rest : List Char) :
    readUnits start (inside ++ '"' :: rest) = .ok (units, rest) := by
  induction h with
  | nil => rw [List.nil_append, Json.readUnits]
  | @char c text units control quote backslash h ih =>
    have hcontrol : ¬ c.toNat < 0x20 := Nat.not_lt.mpr control
    simp [Json.readUnits, backslash, hcontrol, ih]
  | @letter c value text units escape h ih =>
    have hletter : c ≠ 'u' := by
      rintro rfl
      cases escape
    simp [Json.readUnits, hletter, escape, ih]
  | @unit a b c d unit text units escape h ih =>
    -- a digit is never the last character: the closing quote stands behind it
    obtain ⟨e, tail, htail⟩ : ∃ e tail, text ++ '"' :: rest = e :: tail :=
      List.exists_cons_of_ne_nil (by simp)
    rw [htail] at ih
    simp [Json.readUnits, htail, escape, ih]

/-- What is read as the inside of a string literal is one. -/
theorem Grammar.exists_inside {start text rest : List Char} {units : List (Nat ⊕ Char)}
    (h : readUnits start text = .ok (units, rest)) :
    ∃ inside, Grammar.Inside inside units ∧ text = inside ++ '"' :: rest := by
  fun_induction Json.readUnits start text generalizing units rest with
  | case2 tail =>
    cases h
    exact ⟨[], .nil, rfl⟩
  | case5 a b c d e tail unit escape units' rest' hread ih =>
    cases h
    obtain ⟨inside, hinside, heq⟩ := ih hread
    exact ⟨_, .unit escape hinside, by rw [heq]; rfl⟩
  | case9 c tail hunit hletter value escape units' rest' hread ih =>
    cases h
    obtain ⟨inside, hinside, heq⟩ := ih hread
    exact ⟨_, .letter escape hinside, by rw [heq]; rfl⟩
  | case12 c tail hquote hlast hunit hescape hcontrol units' rest' hread ih =>
    cases h
    obtain ⟨inside, hinside, heq⟩ := ih hread
    have hbackslash : c ≠ '\\' := by
      rintro rfl
      cases tail with
      | nil => exact hlast rfl rfl
      | cons d tail => exact hescape d tail rfl rfl
    exact ⟨_, .char (Nat.not_lt.mp hcontrol) hquote hbackslash hinside, by rw [heq]; rfl⟩
  | _ => cases h

/-! ### Numbers -/

/-- What follows a number is not part of it. -/
def Stops (rest : List Char) : Prop :=
  ∀ c tail, rest = c :: tail → c.isDigit = false ∧ c ≠ '.' ∧ c ≠ 'e' ∧ c ≠ 'E'

theorem stops_nil : Stops [] := by
  intro c tail h
  cases h

theorem stops_cons {c : Char} (h : c.isDigit = false ∧ c ≠ '.' ∧ c ≠ 'e' ∧ c ≠ 'E')
    (rest : List Char) : Stops (c :: rest) := by
  rintro d tail ⟨⟩
  exact h

/-- Digits are taken up to what is none. -/
theorem Grammar.Digits.spanDigits {text rest : List Char} (h : Grammar.Digits text)
    (hrest : ∀ c tail, rest = c :: tail → c.isDigit = false) :
    spanDigits (text ++ rest) = (text, rest) := by
  have hstop : rest.takeWhile Char.isDigit = [] ∧ rest.dropWhile Char.isDigit = rest := by
    cases rest with
    | nil => exact ⟨rfl, rfl⟩
    | cons c tail => simp [hrest c tail rfl]
  rw [Json.spanDigits, List.takeWhile_append_of_pos h.digits, List.dropWhile_append_of_pos h.digits,
    hstop.1, hstop.2, List.append_nil]

/-- What is taken from a digit on is a run of digits. -/
theorem Grammar.digits_spanDigits {c : Char} (hc : c.isDigit = true) (text : List Char) :
    Grammar.Digits (spanDigits (c :: text)).1 ∧
      c :: text = (spanDigits (c :: text)).1 ++ (spanDigits (c :: text)).2 := by
  refine ⟨⟨fun d hd => List.mem_takeWhile_imp hd, ?_⟩, List.takeWhile_append_dropWhile.symm⟩
  simp [Json.spanDigits, hc]

theorem Grammar.Whole.readWhole? {whole rest : List Char} (h : Grammar.Whole whole)
    (hrest : ∀ c tail, rest = c :: tail → c.isDigit = false) :
    readWhole? (whole ++ rest) = some (whole, rest) := by
  cases h with
  | zero => rfl
  | @digits c text first h =>
    have hc : c.isDigit = true := h.digits c List.mem_cons_self
    rw [List.cons_append, Json.readWhole?.eq_2 _ _ first, if_pos hc, ← List.cons_append,
      h.spanDigits hrest]

theorem Grammar.whole_of_readWhole? {text whole rest : List Char}
    (h : readWhole? text = some (whole, rest)) : Grammar.Whole whole ∧ text = whole ++ rest := by
  fun_cases Json.readWhole? text with
  | case1 tail =>
    cases h
    exact ⟨.zero, rfl⟩
  | case2 c tail first hc =>
    rw [Json.readWhole?.eq_2 _ _ first, if_pos hc, Option.some.injEq] at h
    obtain ⟨hdigits, heq⟩ := Grammar.digits_spanDigits hc tail
    rw [h] at hdigits heq
    cases whole with
    | nil => exact absurd rfl hdigits.nonempty
    | cons d whole =>
      obtain ⟨rfl, -⟩ := List.cons.inj heq
      exact ⟨.digits first hdigits, heq⟩
  | case3 c tail first hc =>
    rw [Json.readWhole?.eq_2 _ _ first, if_neg hc] at h
    cases h
  | case4 => cases h

theorem Grammar.Digits.readFraction? {text rest : List Char} (h : Grammar.Digits text)
    (hrest : ∀ c tail, rest = c :: tail → c.isDigit = false) :
    readFraction? ('.' :: (text ++ rest)) = some (text, rest) := by
  obtain ⟨c, tail, rfl⟩ := List.exists_cons_of_ne_nil h.nonempty
  have hc : c.isDigit = true := h.digits c List.mem_cons_self
  rw [List.cons_append, Json.readFraction?, if_pos hc, ← List.cons_append, h.spanDigits hrest]

theorem readFraction?_eq_none {rest : List Char} (h : ∀ tail, rest ≠ '.' :: tail) :
    readFraction? rest = none := by
  rw [readFraction?]
  rintro c tail rfl
  exact h _ rfl

theorem Grammar.digits_of_readFraction? {text digits rest : List Char}
    (h : readFraction? text = some (digits, rest)) :
    Grammar.Digits digits ∧ text = '.' :: (digits ++ rest) := by
  rw [Json.readFraction?.eq_def] at h
  split at h
  · next c tail =>
    split at h
    · next hc =>
      rw [Option.some.injEq] at h
      obtain ⟨hdigits, heq⟩ := Grammar.digits_spanDigits hc tail
      rw [h] at hdigits heq
      exact ⟨hdigits, by rw [heq]⟩
    · cases h
  · cases h

theorem Grammar.Digits.readExponentDigits? {text rest : List Char} (h : Grammar.Digits text)
    (hrest : ∀ c tail, rest = c :: tail → c.isDigit = false) (negative : Bool) :
    readExponentDigits? negative (text ++ rest) =
      some (if negative then -(digitsValue text : Int) else digitsValue text, rest) := by
  rw [Json.readExponentDigits?, h.spanDigits hrest]
  split
  · next heq =>
    obtain ⟨rfl, -⟩ := (Prod.mk.injEq ..).mp heq
    exact absurd rfl h.nonempty
  · next heq =>
    obtain ⟨rfl, rfl⟩ := (Prod.mk.injEq ..).mp heq
    rfl

theorem Grammar.digits_of_readExponentDigits? {negative : Bool} {text rest : List Char}
    {exponent : Int} (h : readExponentDigits? negative text = some (exponent, rest)) :
    ∃ digits, Grammar.Digits digits ∧ text = digits ++ rest ∧
      exponent = if negative then -(digitsValue digits : Int) else digitsValue digits := by
  rw [Json.readExponentDigits?] at h
  split at h
  · cases h
  · next digits rest' hne heq =>
    cases h
    have hdigits : text.takeWhile Char.isDigit = digits := congrArg Prod.fst heq
    have hrest : text.dropWhile Char.isDigit = rest := congrArg Prod.snd heq
    refine ⟨digits, ⟨fun d hd => ?_, fun hnil => hne hnil⟩, ?_, rfl⟩
    · exact List.mem_takeWhile_imp (hdigits ▸ hd)
    · rw [← hdigits, ← hrest, List.takeWhile_append_dropWhile]

theorem Grammar.Exponent.readExponent? {text rest : List Char} {exponent : Int}
    (h : Grammar.Exponent text exponent)
    (hrest : ∀ c tail, rest = c :: tail → c.isDigit = false) :
    readExponent? (text ++ rest) = some (exponent, rest) := by
  cases h with
  | @unsigned mark text marked h =>
    obtain ⟨c, tail, rfl⟩ := List.exists_cons_of_ne_nil h.nonempty
    have hc : c.isDigit = true := h.digits c List.mem_cons_self
    have hread := h.readExponentDigits? hrest false
    rw [List.cons_append, Json.readExponent?, if_pos marked]
    · exact hread
    · rintro tail' heq
      obtain ⟨rfl, -⟩ := List.cons.inj heq
      exact absurd hc (by decide)
    · rintro tail' heq
      obtain ⟨rfl, -⟩ := List.cons.inj heq
      exact absurd hc (by decide)
  | positive marked h =>
    rw [List.cons_append, List.cons_append, Json.readExponent?, if_pos marked]
    exact h.readExponentDigits? hrest false
  | negative marked h =>
    rw [List.cons_append, List.cons_append, Json.readExponent?, if_pos marked]
    exact h.readExponentDigits? hrest true

theorem readExponent?_eq_none {rest : List Char}
    (h : ∀ c tail, rest = c :: tail → c ≠ 'e' ∧ c ≠ 'E') : readExponent? rest = none := by
  cases rest with
  | nil => rfl
  | cons c tail =>
    obtain ⟨hlower, hupper⟩ := h c tail rfl
    rw [readExponent?.eq_def]
    exact if_neg (not_or.mpr ⟨hlower, hupper⟩)

theorem Grammar.exists_exponent {text rest : List Char} {exponent : Int}
    (h : readExponent? text = some (exponent, rest)) :
    ∃ mark, Grammar.Exponent mark exponent ∧ text = mark ++ rest := by
  rw [Json.readExponent?.eq_def] at h
  split at h
  · next c tail =>
    split at h
    · next marked =>
      split at h
      · obtain ⟨digits, hdigits, rfl, rfl⟩ := Grammar.digits_of_readExponentDigits? h
        exact ⟨_, .positive marked hdigits, rfl⟩
      · obtain ⟨digits, hdigits, rfl, rfl⟩ := Grammar.digits_of_readExponentDigits? h
        exact ⟨_, .negative marked hdigits, rfl⟩
      · obtain ⟨digits, hdigits, rfl, rfl⟩ := Grammar.digits_of_readExponentDigits? h
        exact ⟨_, .unsigned marked hdigits, rfl⟩
    · cases h
  · cases h

theorem Grammar.Exponent.starts {text : List Char} {exponent : Int}
    (h : Grammar.Exponent text exponent) :
    ∃ mark tail, text = mark :: tail ∧ (mark = 'e' ∨ mark = 'E') := by
  cases h with
  | unsigned marked h => exact ⟨_, _, rfl, marked⟩
  | positive marked h => exact ⟨_, _, rfl, marked⟩
  | negative marked h => exact ⟨_, _, rfl, marked⟩

theorem Grammar.Unsigned.readUnsigned? {negative : Bool} {text rest : List Char} {value : Json}
    (h : Grammar.Unsigned negative text value) (hrest : Stops rest) :
    readUnsigned? negative (text ++ rest) = some (value, rest) := by
  have hdigit : ∀ c tail, rest = c :: tail → c.isDigit = false := fun c tail heq =>
    (hrest c tail heq).1
  have hpoint : readFraction? rest = none :=
    readFraction?_eq_none fun tail heq => (hrest _ tail heq).2.1 rfl
  have hmark : readExponent? rest = none :=
    readExponent?_eq_none fun c tail heq => (hrest c tail heq).2.2
  have pointDigit (behind : List Char) : ∀ c tail, '.' :: behind = c :: tail → c.isDigit = false := by
    rintro c tail ⟨⟩
    decide
  have markDigit {mark : List Char} {exponent : Int} (raised : Grammar.Exponent mark exponent) :
      ∀ c tail, mark ++ rest = c :: tail → c.isDigit = false := by
    obtain ⟨m, behind, rfl, rfl | rfl⟩ := raised.starts <;> rintro c tail ⟨⟩ <;> decide
  cases h with
  | whole h => simp only [Json.readUnsigned?, h.readWhole? hdigit, hpoint, hmark]
  | fraction h behind =>
    rw [List.append_assoc, List.cons_append]
    simp only [Json.readUnsigned?, h.readWhole? (pointDigit _), behind.readFraction? hdigit, hmark]
  | @exponent whole mark exponent h raised =>
    have hpoint : Json.readFraction? (mark ++ rest) = none := by
      obtain ⟨m, behind, rfl, rfl | rfl⟩ := raised.starts <;> rfl
    rw [List.append_assoc]
    simp only [Json.readUnsigned?, h.readWhole? (markDigit raised), hpoint,
      raised.readExponent? hdigit]
  | both h behind raised =>
    rw [List.append_assoc, List.cons_append, List.append_assoc]
    simp only [Json.readUnsigned?, h.readWhole? (pointDigit _),
      behind.readFraction? (markDigit raised), raised.readExponent? hdigit]

theorem Grammar.exists_unsigned {negative : Bool} {text rest : List Char} {value : Json}
    (h : readUnsigned? negative text = some (value, rest)) :
    ∃ number, Grammar.Unsigned negative number value ∧ text = number ++ rest := by
  rw [Json.readUnsigned?] at h
  split at h
  · cases h
  · next whole tail hwhole =>
    obtain ⟨whole', rfl⟩ := Grammar.whole_of_readWhole? hwhole
    split at h
    · next fraction tail' hfraction =>
      obtain ⟨fraction', rfl⟩ := Grammar.digits_of_readFraction? hfraction
      split at h
      · next exponent tail'' hexponent =>
        obtain ⟨mark, mark', rfl⟩ := Grammar.exists_exponent hexponent
        cases h
        exact ⟨_, .both whole' fraction' mark', by simp⟩
      · cases h
        exact ⟨_, .fraction whole' fraction', by simp⟩
    · split at h
      · next exponent tail' hexponent =>
        obtain ⟨mark, mark', rfl⟩ := Grammar.exists_exponent hexponent
        cases h
        exact ⟨_, .exponent whole' mark', by simp⟩
      · cases h
        exact ⟨_, .whole whole', rfl⟩

/-- A number begins with a digit, behind its sign. -/
theorem Grammar.Unsigned.starts {negative : Bool} {text : List Char} {value : Json}
    (h : Grammar.Unsigned negative text value) : ∃ c tail, text = c :: tail ∧ c.isDigit = true := by
  have key {whole : List Char} (h : Grammar.Whole whole) (behind : List Char) :
      ∃ c tail, whole ++ behind = c :: tail ∧ c.isDigit = true := by
    cases h with
    | zero => exact ⟨_, _, rfl, by decide⟩
    | digits first h => exact ⟨_, _, rfl, h.digits _ List.mem_cons_self⟩
  cases h with
  | whole h =>
    rw [← List.append_nil text]
    exact key h []
  | fraction h behind => exact key h _
  | exponent h raised => exact key h _
  | both h behind raised => exact key h _

/-- The characters that a number or a word may begin with. White space is skipped, and the others
begin or end a text of another kind, but for the byte order mark, which begins none. -/
def BeginsScalar (c : Char) : Prop :=
  isSpace c = false ∧ c ∉ ['"', '[', ']', '\x7b', '\uFEFF']

instance (c : Char) : Decidable (BeginsScalar c) :=
  inferInstanceAs (Decidable (_ ∧ _))

theorem BeginsScalar.ne {c other : Char} (h : BeginsScalar c)
    (hother : other ∈ ['"', '[', ']', '\x7b', '\uFEFF']) : c ≠ other := by
  rintro rfl
  exact h.2 hother

theorem beginsScalar_of_isDigit {c : Char} (hc : c.isDigit = true) : BeginsScalar c := by
  have hne {other : Char} (h : other.isDigit = false) : c ≠ other := by
    rintro rfl
    rw [hc] at h
    cases h
  constructor
  · simp only [isSpace, Bool.or_eq_false_iff, beq_eq_false_iff_ne]
    exact ⟨⟨⟨hne (by decide), hne (by decide)⟩, hne (by decide)⟩, hne (by decide)⟩
  · simp only [List.mem_cons, List.not_mem_nil, or_false, not_or]
    exact ⟨hne (by decide), hne (by decide), hne (by decide), hne (by decide), hne (by decide)⟩

theorem Grammar.Number.readNumber? {text rest : List Char} {value : Json}
    (h : Grammar.Number text value) (hrest : Stops rest) :
    readNumber? (text ++ rest) = some (value, rest) := by
  cases h with
  | positive h =>
    obtain ⟨c, tail, rfl, hc⟩ := h.starts
    rw [Json.readNumber?]
    · exact h.readUnsigned? hrest
    · rintro tail' heq
      obtain ⟨rfl, -⟩ := List.cons.inj heq
      cases hc
  | negative h => exact h.readUnsigned? hrest

theorem Grammar.exists_number {text rest : List Char} {value : Json}
    (h : readNumber? text = some (value, rest)) :
    ∃ number, Grammar.Number number value ∧ text = number ++ rest := by
  rw [Json.readNumber?.eq_def] at h
  split at h
  · obtain ⟨number, hnumber, rfl⟩ := Grammar.exists_unsigned h
    exact ⟨_, .negative hnumber, rfl⟩
  · obtain ⟨number, hnumber, rfl⟩ := Grammar.exists_unsigned h
    exact ⟨_, .positive hnumber, rfl⟩

/-- A number begins with a digit or with its sign. -/
theorem Grammar.Number.starts {text : List Char} {value : Json} (h : Grammar.Number text value) :
    ∃ c tail, text = c :: tail ∧ BeginsScalar c := by
  cases h with
  | positive h =>
    obtain ⟨c, tail, rfl, hc⟩ := h.starts
    exact ⟨c, tail, rfl, beginsScalar_of_isDigit hc⟩
  | negative h => exact ⟨_, _, rfl, by decide⟩

/-! ### Words -/

theorem readWord?_append {word : List Char} {value : Json} (h : (word, value) ∈ words)
    (rest : List Char) : readWord? (word ++ rest) = some (value, rest) := by
  simp only [words, List.mem_cons, Prod.mk.injEq, List.not_mem_nil, or_false] at h
  rcases h with ⟨rfl, rfl⟩ | ⟨rfl, rfl⟩ | ⟨rfl, rfl⟩ | ⟨rfl, rfl⟩ | ⟨rfl, rfl⟩ | ⟨rfl, rfl⟩ <;> rfl

theorem exists_word {text rest : List Char} {value : Json}
    (h : readWord? text = some (value, rest)) :
    ∃ word, (word, value) ∈ words ∧ text = word ++ rest := by
  obtain ⟨⟨word, found⟩, hmem, hword⟩ := List.exists_of_findSome?_eq_some h
  simp only [Option.ite_none_right_eq_some, Option.some.injEq, Prod.mk.injEq] at hword
  obtain ⟨hstart, rfl, rfl⟩ := hword
  exact ⟨word, hmem, (List.prefix_iff_eq_append.mp (List.isPrefixOf_iff_prefix.mp hstart)).symm⟩

/-- No digit stands in the first two places of a word: words are no numbers, signed or not. -/
theorem word_starts {word : List Char} {value : Json} (h : (word, value) ∈ words) :
    ∃ c d tail, word = c :: d :: tail ∧ BeginsScalar c ∧ c.isDigit = false ∧ d.isDigit = false := by
  simp only [words, List.mem_cons, Prod.mk.injEq, List.not_mem_nil, or_false] at h
  rcases h with ⟨rfl, -⟩ | ⟨rfl, -⟩ | ⟨rfl, -⟩ | ⟨rfl, -⟩ | ⟨rfl, -⟩ | ⟨rfl, -⟩ <;>
    exact ⟨_, _, _, rfl, by decide, by decide, by decide⟩

/-- No number begins with a word. -/
theorem Grammar.Number.readWord?_eq_none {text : List Char} {value : Json}
    (h : Grammar.Number text value) (rest : List Char) : readWord? (text ++ rest) = none := by
  cases hread : readWord? (text ++ rest) with
  | none => rfl
  | some found =>
    obtain ⟨word, hword, heq⟩ := exists_word hread
    obtain ⟨c, d, tail, rfl, -, hc, hd⟩ := word_starts hword
    cases h with
    | positive h =>
      obtain ⟨digit, tail', rfl, hdigit⟩ := h.starts
      obtain ⟨rfl, -⟩ := List.cons.inj heq
      rw [hdigit] at hc
      cases hc
    | negative h =>
      obtain ⟨digit, tail', rfl, hdigit⟩ := h.starts
      obtain ⟨-, heq⟩ := List.cons.inj heq
      obtain ⟨rfl, -⟩ := List.cons.inj heq
      rw [hdigit] at hd
      cases hd

end Introspection.Json
