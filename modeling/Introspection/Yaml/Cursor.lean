/-!
# Positions in a YAML text

A cursor is what is left of a text, with the place it stands at. Looking past the end of the text
yields the null character, which no YAML text contains, so every test on the next character also
says what happens at the end.

A line ends with a line feed, a carriage return, both together, the next-line character or one of
the two Unicode separators. The first four count as a line feed, the separators as themselves.

## Main definitions

* `Yaml.Cursor`, `Yaml.Cursor.peek`, `Yaml.Cursor.advance`
* `Yaml.Cursor.takeWhile`, `Yaml.Cursor.skipWhile`
* `Yaml.Cursor.takeBreak?`
-/

namespace Introspection.Yaml

/-- What is left of a text, and the place where that starts. -/
structure Cursor where
  rest : List Char
  index : Nat := 0
  line : Nat := 0
  column : Nat := 0

/-- What looking past the end of a text yields. -/
def endOfText : Char := '\x00'

/-- The characters that end a line. -/
def isBreak (c : Char) : Bool :=
  c == '\n' || c == '\r' || c == '\x85' || c == '\u2028' || c == '\u2029'

/-- The end of a line or of the text. -/
def isBreakOrEnd (c : Char) : Bool :=
  isBreak c || c == endOfText

/-- A space, or the end of a line or of the text. -/
def isSpaceOrEnd (c : Char) : Bool :=
  c == ' ' || isBreakOrEnd c

/-- A space or a tab, or the end of a line or of the text. -/
def isGapOrEnd (c : Char) : Bool :=
  c == '\t' || isSpaceOrEnd c

namespace Cursor

/-- The character `ahead` places on. -/
def peek (cursor : Cursor) (ahead : Nat := 0) : Char :=
  cursor.rest.getD ahead endOfText

/-- Whether the text is at its end. -/
def atEnd (cursor : Cursor) : Bool :=
  cursor.rest.isEmpty

/-- Past one character. -/
def advance (cursor : Cursor) : Cursor :=
  match cursor.rest with
  | [] => cursor
  | c :: rest =>
    if isBreak c && !(c == '\r' && rest.head? == some '\n') then
      ⟨rest, cursor.index + 1, cursor.line + 1, 0⟩
    else if c == '\uFEFF' then ⟨rest, cursor.index + 1, cursor.line, cursor.column⟩
    else ⟨rest, cursor.index + 1, cursor.line, cursor.column + 1⟩

/-- Past some characters. -/
def advanceBy (cursor : Cursor) : Nat → Cursor
  | 0 => cursor
  | count + 1 => cursor.advance.advanceBy count

/-- The longest run of characters in a class, and what follows it. -/
def takeWhile (cursor : Cursor) (holds : Char → Bool) : List Char × Cursor :=
  let taken := cursor.rest.takeWhile holds
  (taken, cursor.advanceBy taken.length)

/-- Past the longest run of characters in a class. -/
def skipWhile (cursor : Cursor) (holds : Char → Bool) : Cursor :=
  (cursor.takeWhile holds).2

/-- Past the spaces. -/
def skipSpaces (cursor : Cursor) : Cursor :=
  cursor.skipWhile (· == ' ')

/-- Past the spaces that stand before a column. -/
def skipSpacesTo (cursor : Cursor) (column : Nat) : Cursor :=
  let spaces := (cursor.rest.takeWhile (· == ' ')).length
  cursor.advanceBy (min spaces (column - cursor.column))

/-- Past a comment, if one starts here. -/
def skipComment (cursor : Cursor) : Cursor :=
  if cursor.peek == '#' then cursor.skipWhile fun c => !isBreakOrEnd c else cursor

/-- The end of a line, as it counts in a text, and what follows it. -/
def takeBreak? (cursor : Cursor) : Option (Char × Cursor) :=
  let c := cursor.peek
  if c == '\r' && cursor.peek 1 == '\n' then some ('\n', cursor.advanceBy 2)
  else if c == '\r' || c == '\n' || c == '\x85' then some ('\n', cursor.advance)
  else if c == '\u2028' || c == '\u2029' then some (c, cursor.advance)
  else none

/-- Past the end of a line, if the cursor stands at one. -/
def skipBreak (cursor : Cursor) : Cursor :=
  match cursor.takeBreak? with
  | some (_, after) => after
  | none => cursor

/-- Whether three characters and a gap behind them start here. -/
def atMark (cursor : Cursor) (c : Char) : Bool :=
  cursor.peek == c && cursor.peek 1 == c && cursor.peek 2 == c && isGapOrEnd (cursor.peek 3)

/-- Whether a mark between documents starts here. -/
def atDocumentMark (cursor : Cursor) : Bool :=
  cursor.atMark '-' || cursor.atMark '.'

end Cursor

end Introspection.Yaml
