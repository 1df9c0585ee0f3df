/-!
# Bytes written in base 64

Every character of the alphabet stands for six bits, and four of them for three bytes. Reading is
lenient: characters outside the alphabet are skipped, so the text may be broken into lines. Padding
ends the text as soon as it completes a group of four; anything behind it is not looked at. A group
that is begun and neither filled nor padded is an error.

## Main definitions

* `Text.base64Value?` — the six bits of a character
* `Text.ofBase64?`
-/

namespace Introspection.Text

/-- The six bits that a character stands for. -/
def base64Value? (c : Char) : Option Nat :=
  if c.isUpper then some (c.toNat - 'A'.toNat)
  else if c.isLower then some (c.toNat - 'a'.toNat + 26)
  else if c.isDigit then some (c.toNat - '0'.toNat + 52)
  else if c = '+' then some 62
  else if c = '/' then some 63
  else none

/-- A group of four characters that is being read. -/
structure Base64Group where
  /-- How many characters have been read. -/
  count : Nat := 0
  /-- The bits that do not make up a byte yet. -/
  bits : Nat := 0
  /-- How much padding has been read since. -/
  padding : Nat := 0
deriving DecidableEq, Repr

/-- Adds the six bits of a character to a group. The byte that they complete, if any, comes
first. -/
def Base64Group.add (group : Base64Group) (value : Nat) : List UInt8 × Base64Group :=
  match group.count with
  | 0 => ([], ⟨1, value, 0⟩)
  | 1 => ([.ofNat (group.bits * 4 + value / 16)], ⟨2, value % 16, 0⟩)
  | 2 => ([.ofNat (group.bits * 16 + value / 4)], ⟨3, value % 4, 0⟩)
  | _ => ([.ofNat (group.bits * 64 + value)], ⟨0, 0, 0⟩)

/-- The bytes of a text that goes on inside a group. -/
def ofBase64From (group : Base64Group) : List Char → Option (List UInt8)
  | [] => if group.count = 0 then some [] else none
  | c :: rest =>
    if c = '=' then
      if group.count < 2 then ofBase64From group rest
      else if group.count + group.padding = 3 then some []
      else ofBase64From { group with padding := group.padding + 1 } rest
    else
      match base64Value? c with
      | none => ofBase64From group rest
      | some value =>
        let (bytes, group) := group.add value
        (ofBase64From group rest).map (bytes ++ ·)

/-- The bytes that a text writes in base 64. -/
def ofBase64? (text : List Char) : Option (List UInt8) :=
  ofBase64From {} text

example : ofBase64? "aGk=".toList = some [104, 105] := by decide
example : ofBase64? "aG\nk".toList = none := by decide

end Introspection.Text
