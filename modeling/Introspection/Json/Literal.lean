import Introspection.Text.Quoted

/-!
# JSON string literals

A text as a JSON string: the double quote and the backslash stand behind a backslash, the five
control characters with a letter of their own are written by it, the other control characters by
their code point. Everything else, beyond ASCII too, is written as itself.

A literal that is embedded in markup is stricter: there every character outside printable ASCII is
written by its UTF-16 code units, and so are the angle brackets, the ampersand and the apostrophe.

## Main definitions

* `Json.escaped` — the inside of the literal
* `Json.literal`
* `Json.markupLiteral`
-/

namespace Introspection.Json

/-- A character inside a string literal. -/
def escapedChar (c : Char) : List Char :=
  if c == '"' then ['\\', '"']
  else if c == '\\' then ['\\', '\\']
  else if c == '\x08' then ['\\', 'b']
  else if c == '\x0C' then ['\\', 'f']
  else if c == '\n' then ['\\', 'n']
  else if c == '\r' then ['\\', 'r']
  else if c == '\t' then ['\\', 't']
  else if c.toNat < 0x20 then '\\' :: 'u' :: Text.hexDigits 4 c.toNat
  else [c]

/-- The inside of a string literal. -/
def escaped (text : List Char) : List Char :=
  text.flatMap escapedChar

/-- A text as a string literal, with its quotes. -/
def literal (text : String) : String :=
  String.ofList ('"' :: (escaped text.toList ++ ['"']))

/-- The UTF-16 code units of a character. -/
def utf16Units (c : Char) : List Nat :=
  if c.toNat < 0x10000 then [c.toNat]
  else [0xD800 + (c.toNat - 0x10000) / 0x400, 0xDC00 + (c.toNat - 0x10000) % 0x400]

/-- A character inside a string literal that is embedded in markup. -/
def markupChar (c : Char) : List Char :=
  if c == '<' || c == '>' || c == '&' || c == '\'' || !(0x20 ≤ c.toNat && c.toNat < 0x7F) then
    match escapedChar c with
    | ['\\', letter] => ['\\', letter]
    | _ => (utf16Units c).flatMap fun unit => '\\' :: 'u' :: Text.hexDigits 4 unit
  else escapedChar c

/-- A text as a string literal that can be embedded in markup. -/
def markupLiteral (text : String) : String :=
  String.ofList ('"' :: (text.toList.flatMap markupChar ++ ['"']))

end Introspection.Json
