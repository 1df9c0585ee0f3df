import Introspection.Text.Printable

/-!
# Quoted text in messages

A message quotes a text so that its reader sees where it starts and ends and every character in
it. The quote mark is an apostrophe, unless the text has an apostrophe and no double quote, when
it is a double quote. The quote mark and the backslash are written behind a backslash; line feed,
carriage return and tab have letters; any other character that is not printable is written by its
code point, in two, four or eight hexadecimal digits.

## Main definitions

* `Text.hexDigits` — a number in a fixed count of lower-case hexadecimal digits
* `Text.quoted`
* `Text.quotedBytes` — the same for bytes, of which only those of visible ASCII are shown
-/

namespace Introspection.Text

/-- The last `width` hexadecimal digits of a number, most significant first. -/
def hexDigits : (width : Nat) → Nat → List Char
  | 0, _ => []
  | width + 1, n => hexDigits width (n / 16) ++ [Nat.digitChar (n % 16)]

@[simp] theorem length_hexDigits (width n : Nat) : (hexDigits width n).length = width := by
  induction width generalizing n with
  | zero => rfl
  | succ width ih => simp [hexDigits, ih]

/-- The quote mark that a text is written in. -/
def quoteMark (text : List Char) : Char :=
  if text.contains '\'' && !text.contains '"' then '"' else '\''

/-- A character as it is written between quote marks. -/
def quotedChar (mark : Char) (c : Char) : List Char :=
  if c == mark || c == '\\' then ['\\', c]
  else if c == '\n' then ['\\', 'n']
  else if c == '\r' then ['\\', 'r']
  else if c == '\t' then ['\\', 't']
  else if isPrintable c then [c]
  else if c.toNat < 0x100 then '\\' :: 'x' :: hexDigits 2 c.toNat
  else if c.toNat < 0x10000 then '\\' :: 'u' :: hexDigits 4 c.toNat
  else '\\' :: 'U' :: hexDigits 8 c.toNat

/-- A text between quote marks, every character of it visible. -/
def quotedChars (text : List Char) : List Char :=
  let mark := quoteMark text
  mark :: (text.flatMap (quotedChar mark) ++ [mark])

/-- A text between quote marks, every character of it visible. -/
def quoted (text : String) : String :=
  String.ofList (quotedChars text.toList)

/-- A byte as it is written between quote marks. -/
def quotedByte (mark : Char) (byte : UInt8) : List Char :=
  if byte < 0x7F then quotedChar mark (Char.ofNat byte.toNat)
  else '\\' :: 'x' :: hexDigits 2 byte.toNat

/-- Bytes between quote marks, behind the letter that tells them from a text. -/
def quotedBytes (bytes : List UInt8) : String :=
  let mark := quoteMark (bytes.map fun byte => Char.ofNat byte.toNat)
  String.ofList ('b' :: mark :: (bytes.flatMap (quotedByte mark) ++ [mark]))

end Introspection.Text
