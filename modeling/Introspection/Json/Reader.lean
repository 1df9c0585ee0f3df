import Introspection.Json.Basic

/-!
# Reading JSON

The reader takes one value off the front of a text and returns what is left. Every value takes at
least one character, which is recorded with the result and is why reading ends. Besides the
standard the reader knows the three words `NaN`, `Infinity` and `-Infinity`; control characters
are not allowed inside strings; a `\u` escape has four hexadecimal digits and is never the end of
the text.

A fault carries what was left of the text where it was found. Its place in the document is the
difference of the two lengths, so a place can be counted from the start of any text that the rest
is an end of.

## Main definitions

* `Json.Problem`, `Json.Fault`
* `Json.Taken` — a value and the rest of the text
* `Json.readString`, `Json.readNumber?`, `Json.readValue`
* `Json.Fault.message` — the wording, with line, column and offset
* `Json.parse` — a text that is one value
-/

namespace Introspection.Json

/-- What can be wrong with a JSON text. -/
inductive Problem where
  | expectedValue
  | expectedKey
  | expectedColon
  | expectedComma
  | unterminatedString
  | controlCharacter
  | badEscape
  | badUnicodeEscape
  | extraData
  | byteOrderMark
deriving DecidableEq, Repr

/-- A problem and the text left where it was found. -/
structure Fault where
  problem : Problem
  rest : List Char
deriving DecidableEq, Repr

/-- The wording of a problem. -/
def Problem.message : Problem → String
  | .expectedValue => "Expecting value"
  | .expectedKey => "Expecting property name enclosed in double quotes"
  | .expectedColon => "Expecting ':' delimiter"
  | .expectedComma => "Expecting ',' delimiter"
  | .unterminatedString => "Unterminated string starting at"
  | .controlCharacter => "Invalid control character at"
  | .badEscape => "Invalid \\escape"
  | .badUnicodeEscape => "Invalid \\uXXXX escape"
  | .extraData => "Extra data"
  | .byteOrderMark => "Unexpected UTF-8 BOM (decode using utf-8-sig)"

/-- The wording of a fault in a text, with the place counted from the start of that text. -/
def Fault.message (fault : Fault) (text : List Char) : String :=
  let offset := text.length - fault.rest.length
  let before := text.take offset
  let line := before.count '\n' + 1
  let column := (before.reverse.takeWhile (· != '\n')).length + 1
  fault.problem.message ++ ": line " ++ toString line ++ " column " ++ toString column ++
    " (char " ++ toString offset ++ ")"

/-! ### White space -/

/-- The white space of JSON. -/
def isSpace (c : Char) : Bool :=
  c == ' ' || c == '\t' || c == '\n' || c == '\r'

/-- Drops the white space in front. -/
def skipSpace (text : List Char) : List Char :=
  text.dropWhile isSpace

theorem length_skipSpace_le (text : List Char) : (skipSpace text).length ≤ text.length :=
  (List.dropWhile_sublist isSpace).length_le

/-! ### Strings -/

/-- The value of a hexadecimal digit. -/
def hexValue? (c : Char) : Option Nat :=
  if '0' ≤ c ∧ c ≤ '9' then some (c.toNat - '0'.toNat)
  else if 'a' ≤ c ∧ c ≤ 'f' then some (c.toNat - 'a'.toNat + 10)
  else if 'A' ≤ c ∧ c ≤ 'F' then some (c.toNat - 'A'.toNat + 10)
  else none

/-- The number written by four hexadecimal digits. -/
def hexUnit? (a b c d : Char) : Option Nat :=
  match hexValue? a, hexValue? b, hexValue? c, hexValue? d with
  | some a, some b, some c, some d => some (((a * 16 + b) * 16 + c) * 16 + d)
  | _, _, _, _ => none

/-- The character that a letter stands for behind a backslash. -/
def escapeValue? : Char → Option Char
  | '"' => some '"'
  | '\\' => some '\\'
  | '/' => some '/'
  | 'b' => some '\x08'
  | 'f' => some '\x0C'
  | 'n' => some '\n'
  | 'r' => some '\r'
  | 't' => some '\t'
  | _ => none

/-- The inside of a string and what follows its closing quote. Each element is a code unit of an
escape or a character. `start` is the text from the opening quote on. -/
def readUnits (start : List Char) : List Char → Except Fault (List (Nat ⊕ Char) × List Char)
  | [] => .error ⟨.unterminatedString, start⟩
  | '"' :: rest => .ok ([], rest)
  | ['\\'] => .error ⟨.unterminatedString, start⟩
  | '\\' :: 'u' :: a :: b :: c :: d :: e :: rest =>
    match hexUnit? a b c d with
    | none => .error ⟨.badUnicodeEscape, 'u' :: a :: b :: c :: d :: e :: rest⟩
    | some unit =>
      match readUnits start (e :: rest) with
      | .ok (units, rest) => .ok (.inl unit :: units, rest)
      | .error fault => .error fault
  | '\\' :: c :: rest =>
    if c = 'u' then .error ⟨.badUnicodeEscape, c :: rest⟩
    else
      match escapeValue? c with
      | none => .error ⟨.badEscape, '\\' :: c :: rest⟩
      | some value =>
        match readUnits start rest with
        | .ok (units, rest) => .ok (.inr value :: units, rest)
        | .error fault => .error fault
  | c :: rest =>
    if c.toNat < 0x20 then .error ⟨.controlCharacter, c :: rest⟩
    else
      match readUnits start rest with
      | .ok (units, rest) => .ok (.inr c :: units, rest)
      | .error fault => .error fault

/-- The text of some units. A high half and the low half behind it are one character; a half
alone is the replacement character. -/
def unitsText : List (Nat ⊕ Char) → List Char
  | [] => []
  | .inr c :: rest => c :: unitsText rest
  | .inl high :: .inl low :: rest =>
    if 0xD800 ≤ high ∧ high < 0xDC00 ∧ 0xDC00 ≤ low ∧ low < 0xE000 then
      Char.ofNat (0x10000 + (high - 0xD800) * 0x400 + (low - 0xDC00)) :: unitsText rest
    else single high :: unitsText (.inl low :: rest)
  | .inl unit :: rest => single unit :: unitsText rest
where
  /-- The character of a unit by itself. -/
  single (unit : Nat) : Char :=
    if 0xD800 ≤ unit ∧ unit < 0xE000 then '\uFFFD' else Char.ofNat unit

theorem length_readUnits {start text : List Char} {units : List (Nat ⊕ Char)} {rest : List Char}
    (h : readUnits start text = .ok (units, rest)) : rest.length < text.length := by
  fun_induction readUnits start text generalizing units rest <;> simp_all <;> omega

/-! ### Numbers -/

/-- A run of digits and what follows it. -/
def spanDigits (text : List Char) : List Char × List Char :=
  (text.takeWhile Char.isDigit, text.dropWhile Char.isDigit)

/-- The number written by a run of digits. -/
def digitsValue (digits : List Char) : Nat :=
  digits.foldl (fun value c => value * 10 + (c.toNat - '0'.toNat)) 0

/-- The whole part of a number: a zero alone, or digits that start with another one. -/
def readWhole? : List Char → Option (List Char × List Char)
  | '0' :: rest => some (['0'], rest)
  | c :: rest => if c.isDigit then some (spanDigits (c :: rest)) else none
  | [] => none

/-- A point and the digits behind it, if there are any. -/
def readFraction? : List Char → Option (List Char × List Char)
  | '.' :: c :: rest => if c.isDigit then some (spanDigits (c :: rest)) else none
  | _ => none

/-- The digits of an exponent behind its sign. -/
def readExponentDigits? (negative : Bool) (text : List Char) : Option (Int × List Char) :=
  match spanDigits text with
  | ([], _) => none
  | (digits, rest) =>
    some (if negative then -(digitsValue digits : Int) else digitsValue digits, rest)

/-- An exponent, if there is one with digits. -/
def readExponent? : List Char → Option (Int × List Char)
  | c :: rest =>
    if c = 'e' ∨ c = 'E' then
      match rest with
      | '+' :: rest => readExponentDigits? false rest
      | '-' :: rest => readExponentDigits? true rest
      | rest => readExponentDigits? false rest
    else none
  | [] => none

/-- A number behind its sign: an integer, unless it has a fraction or an exponent. -/
def readUnsigned? (negative : Bool) (text : List Char) : Option (Json × List Char) :=
  match readWhole? text with
  | none => none
  | some (whole, rest) =>
    match readFraction? rest with
    | some (fraction, rest) =>
      let digits := digitsValue (whole ++ fraction)
      match readExponent? rest with
      | some (exponent, rest) =>
        some (.float (.ofDecimal negative digits (exponent - fraction.length)), rest)
      | none => some (.float (.ofDecimal negative digits (-fraction.length)), rest)
    | none =>
      match readExponent? rest with
      | some (exponent, rest) =>
        some (.float (.ofDecimal negative (digitsValue whole) exponent), rest)
      | none =>
        let value : Int := digitsValue whole
        some (.int (if negative then -value else value), rest)

/-- A number. -/
def readNumber? : List Char → Option (Json × List Char)
  | '-' :: rest => readUnsigned? true rest
  | text => readUnsigned? false text

theorem length_spanDigits_le (text : List Char) : (spanDigits text).2.length ≤ text.length :=
  (List.dropWhile_sublist _).length_le

theorem length_readWhole? {text digits rest : List Char} (h : readWhole? text = some (digits, rest)) :
    rest.length < text.length := by
  fun_cases readWhole? text with
  | case1 rest' => simp only [readWhole?, Option.some.injEq, Prod.mk.injEq] at h; simp [← h.2]
  | case2 c rest' hne hc =>
    simp only [readWhole?, hc, if_true, Option.some.injEq] at h
    simp only [spanDigits, hc, List.dropWhile_cons_of_pos, Prod.mk.injEq] at h
    rw [← h.2, List.length_cons]
    exact Nat.lt_succ_of_le (List.dropWhile_sublist _).length_le
  | case3 c rest' hne hc => simp [readWhole?, hc] at h
  | case4 => simp [readWhole?] at h

theorem length_readFraction? {text digits rest : List Char}
    (h : readFraction? text = some (digits, rest)) : rest.length ≤ text.length := by
  fun_cases readFraction? text with
  | case1 c rest' hc =>
    simp only [readFraction?, hc, if_true, Option.some.injEq] at h
    have := length_spanDigits_le (c :: rest')
    rw [h] at this
    simp only [List.length_cons] at this ⊢
    omega
  | case2 c rest' hc => simp [readFraction?, hc] at h
  | case3 => simp_all [readFraction?]

theorem length_readExponentDigits? {negative : Bool} {text rest : List Char} {value : Int}
    (h : readExponentDigits? negative text = some (value, rest)) : rest.length ≤ text.length := by
  have := length_spanDigits_le text
  unfold readExponentDigits? at h
  split at h
  · cases h
  · next digits tail heq =>
    simp only [Option.some.injEq, Prod.mk.injEq] at h
    rw [heq] at this
    rw [← h.2]
    exact this

theorem length_readExponent? {text rest : List Char} {value : Int}
    (h : readExponent? text = some (value, rest)) : rest.length ≤ text.length := by
  unfold readExponent? at h
  split at h
  · split at h
    · split at h
      all_goals
        have := length_readExponentDigits? h
        simp only [List.length_cons] at this ⊢
        omega
    · cases h
  · cases h

theorem length_readUnsigned? {negative : Bool} {text rest : List Char} {value : Json}
    (h : readUnsigned? negative text = some (value, rest)) : rest.length < text.length := by
  unfold readUnsigned? at h
  split at h
  · cases h
  · next whole tail hw =>
    have h₁ := length_readWhole? hw
    split at h
    · next fraction tail' hf =>
      have h₂ := length_readFraction? hf
      split at h
      · next exponent tail'' he =>
        have h₃ := length_readExponent? he
        simp only [Option.some.injEq, Prod.mk.injEq] at h
        rw [← h.2]
        omega
      · simp only [Option.some.injEq, Prod.mk.injEq] at h
        rw [← h.2]
        omega
    · split at h
      · next exponent tail'' he =>
        have h₃ := length_readExponent? he
        simp only [Option.some.injEq, Prod.mk.injEq] at h
        rw [← h.2]
        omega
      · simp only [Option.some.injEq, Prod.mk.injEq] at h
        rw [← h.2]
        exact h₁

theorem length_readNumber? {text rest : List Char} {value : Json}
    (h : readNumber? text = some (value, rest)) : rest.length < text.length := by
  unfold readNumber? at h
  split at h
  · have := length_readUnsigned? h
    simp only [List.length_cons]
    omega
  · exact length_readUnsigned? h

/-! ### Values -/

/-- A value taken off the front of a text, with what is left, which is shorter. -/
structure Taken (α : Type) (text : List Char) where
  value : α
  rest : List Char
  shorter : rest.length < text.length

/-- The words that are values. -/
def words : List (List Char × Json) :=
  [("null".toList, .null), ("true".toList, .bool true), ("false".toList, .bool false),
    ("NaN".toList, .float .nan), ("Infinity".toList, .float (.infinite false)),
    ("-Infinity".toList, .float (.infinite true))]

/-- A word that is a value, and what follows it. -/
def readWord? (text : List Char) : Option (Json × List Char) :=
  words.findSome? fun (word, value) =>
    if word.isPrefixOf text then some (value, text.drop word.length) else none

theorem length_readWord? {text rest : List Char} {value : Json}
    (h : readWord? text = some (value, rest)) : rest.length < text.length := by
  obtain ⟨⟨word, found⟩, hmem, hword⟩ := List.exists_of_findSome?_eq_some h
  simp only [Option.ite_none_right_eq_some, Option.some.injEq, Prod.mk.injEq] at hword
  obtain ⟨hp, -, rfl⟩ := hword
  have hle := (List.isPrefixOf_iff_prefix.1 hp).length_le
  have hpos : 0 < word.length := by
    simp only [words, List.mem_cons, Prod.mk.injEq, List.not_mem_nil, or_false] at hmem
    rcases hmem with ⟨rfl, -⟩ | ⟨rfl, -⟩ | ⟨rfl, -⟩ | ⟨rfl, -⟩ | ⟨rfl, -⟩ | ⟨rfl, -⟩ <;> decide
  rw [List.length_drop]
  omega

/-- A string value behind its opening quote. -/
def readString (start text : List Char) : Except Fault (Taken String text) :=
  match h : readUnits start text with
  | .ok (units, rest) => .ok ⟨String.ofList (unitsText units), rest, length_readUnits h⟩
  | .error fault => .error fault

/-- A value that is neither a string nor a container. -/
def readScalar (text : List Char) : Except Fault (Taken Json text) :=
  match h : readWord? text with
  | some (value, rest) => .ok ⟨value, rest, length_readWord? h⟩
  | none =>
    match h : readNumber? text with
    | some (value, rest) => .ok ⟨value, rest, length_readNumber? h⟩
    | none => .error ⟨.expectedValue, text⟩

mutual

/-- One value at the front of a text. -/
def readValue (text : List Char) : Except Fault (Taken Json text) :=
  match text with
  | '"' :: inside =>
    match readString ('"' :: inside) inside with
    | .error fault => .error fault
    | .ok ⟨value, rest, shorter⟩ => .ok ⟨.str value, rest, by simp only [List.length_cons]; omega⟩
  | '[' :: inside =>
    match hs : skipSpace inside with
    | ']' :: rest =>
      .ok ⟨.array [], rest, by
        have := length_skipSpace_le inside
        simp only [hs, List.length_cons] at this ⊢
        omega⟩
    | first =>
      have hle : first.length ≤ inside.length := hs ▸ length_skipSpace_le inside
      match readItems first with
      | .error fault => .error fault
      | .ok ⟨items, rest, shorter⟩ => .ok ⟨.array items, rest, by simp only [List.length_cons]; omega⟩
  | '\x7b' :: inside =>
    match hs : skipSpace inside with
    | '\x7d' :: rest =>
      .ok ⟨.object [], rest, by
        have := length_skipSpace_le inside
        simp only [hs, List.length_cons] at this ⊢
        omega⟩
    | first =>
      have hle : first.length ≤ inside.length := hs ▸ length_skipSpace_le inside
      match readEntries [] first with
      | .error fault => .error fault
      | .ok ⟨entries, rest, shorter⟩ =>
        .ok ⟨.object entries, rest, by simp only [List.length_cons]; omega⟩
  | text => readScalar text
termination_by (text.length, 0)
decreasing_by all_goals (apply Prod.Lex.left; simp only [List.length_cons]; omega)

/-- The items of an array from the first one on, and its closing bracket. -/
def readItems (text : List Char) : Except Fault (Taken (List Json) text) :=
  match readValue text with
  | .error fault => .error fault
  | .ok ⟨item, rest, shorter⟩ =>
    have hle := length_skipSpace_le rest
    match hr : skipSpace rest with
    | ']' :: after =>
      .ok ⟨[item], after, by simp only [hr, List.length_cons] at hle; omega⟩
    | ',' :: after =>
      have hlt : (skipSpace after).length < text.length := by
        have := length_skipSpace_le after
        simp only [hr, List.length_cons] at hle
        omega
      match readItems (skipSpace after) with
      | .error fault => .error fault
      | .ok ⟨items, rest, shorter⟩ => .ok ⟨item :: items, rest, by omega⟩
    | other => .error ⟨.expectedComma, other⟩
termination_by (text.length, 1)
decreasing_by
  · exact Prod.Lex.right _ (by decide)
  · exact Prod.Lex.left _ _ hlt

/-- The entries of an object from the first one on, added to those before it, and its closing
brace. -/
def readEntries (before : Entries) (text : List Char) : Except Fault (Taken Entries text) :=
  match text with
  | '"' :: inside =>
    match readString ('"' :: inside) inside with
    | .error fault => .error fault
    | .ok ⟨key, rest, shorter⟩ =>
      have hle := length_skipSpace_le rest
      match hr : skipSpace rest with
      | ':' :: after =>
        have hlt : (skipSpace after).length < inside.length := by
          have := length_skipSpace_le after
          simp only [hr, List.length_cons] at hle
          omega
        match readValue (skipSpace after) with
        | .error fault => .error fault
        | .ok ⟨value, rest', shorter'⟩ =>
          have hle' := length_skipSpace_le rest'
          match hr' : skipSpace rest' with
          | '\x7d' :: after' =>
            .ok ⟨put before key value, after', by
              simp only [hr', List.length_cons] at hle' ⊢
              omega⟩
          | ',' :: after' =>
            have hlt' : (skipSpace after').length < inside.length := by
              have := length_skipSpace_le after'
              simp only [hr', List.length_cons] at hle'
              omega
            match readEntries (put before key value) (skipSpace after') with
            | .error fault => .error fault
            | .ok ⟨entries, rest, shorter⟩ =>
              .ok ⟨entries, rest, by simp only [List.length_cons]; omega⟩
          | other => .error ⟨.expectedComma, other⟩
      | other => .error ⟨.expectedColon, other⟩
  | text => .error ⟨.expectedKey, text⟩
termination_by (text.length, 1)
decreasing_by
  · apply Prod.Lex.left; simp only [List.length_cons]; omega
  · apply Prod.Lex.left; simp only [List.length_cons]; omega

end

/-- A text that is one value, with white space around it. -/
def parse (text : List Char) : Except Fault Json :=
  match text with
  | '\uFEFF' :: _ => .error ⟨.byteOrderMark, text⟩
  | _ =>
    match readValue (skipSpace text) with
    | .error fault => .error fault
    | .ok taken =>
      match skipSpace taken.rest with
      | [] => .ok taken.value
      | rest => .error ⟨.extraData, rest⟩

end Introspection.Json
