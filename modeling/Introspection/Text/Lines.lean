/-!
# Lines

Two notions of a line end meet in this library. A *file* ends its lines with a line feed, a
carriage return or both together, and reading it turns each of these into a line feed. A *text*
may be split at more characters: also at the vertical tab, the form feed, the three information
separators, the next-line character and the two Unicode separators. Both count a carriage return
followed by a line feed once.

## Main definitions

* `Text.unifyNewlines` — every line end of a file becomes a line feed
* `Text.isLineEnd`, `Text.splitLines` — the lines of a text, without their ends
* `Text.joinLines`
-/

namespace Introspection.Text

/-- Carriage returns, alone or before a line feed, become line feeds. -/
def unifyNewlines : List Char → List Char
  | [] => []
  | '\r' :: '\n' :: rest => '\n' :: unifyNewlines rest
  | '\r' :: rest => '\n' :: unifyNewlines rest
  | c :: rest => c :: unifyNewlines rest

/-- The characters at which a text is split into lines. -/
def isLineEnd (c : Char) : Bool :=
  let n := c.toNat
  (0x0A ≤ n && n ≤ 0x0D) || (0x1C ≤ n && n ≤ 0x1E) || n == 0x85 || n == 0x2028 || n == 0x2029

/-- Adds a character in front of the first line. -/
def consChar (c : Char) : List (List Char) → List (List Char)
  | [] => [[c]]
  | line :: lines => (c :: line) :: lines

/-- The lines of a text without their ends. A line end at the very end of the text starts no
further line. -/
def splitLines : List Char → List (List Char)
  | [] => []
  | '\r' :: '\n' :: rest => [] :: splitLines rest
  | c :: rest => if isLineEnd c then [] :: splitLines rest else consChar c (splitLines rest)

/-- Lines joined by line feeds. -/
def joinLines (lines : List (List Char)) : List Char :=
  ['\n'].intercalate lines

end Introspection.Text
