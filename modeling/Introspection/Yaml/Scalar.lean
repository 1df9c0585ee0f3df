import Introspection.Yaml.Cursor
import Introspection.Yaml.Fault

/-!
# The text of YAML scalars

Scalars come in five styles. In the quoted styles and in plain ones a single line end inside the
scalar is a space and further ones are kept; in a literal block every line end is kept; a folded
block folds lines that do not start with a blank. How a block ends is chosen by its header: with
one line end, with none, or with all there are.

Every function takes the characters of a scalar off a cursor; `none` means that the text is no
YAML. Quoted scalars may also name characters by numbers, and there a number may be too large.

## Main definitions

* `Yaml.quotedScalar` — behind an opening quote
* `Yaml.plainScalar` — a scalar without quotes
* `Yaml.blockScalar?` — behind the mark of a block
-/

namespace Introspection.Yaml

-- Powers are those of the numbers themselves, also where algebra is in scope.
attribute [local instance (high)] instPowNat

/-! ### Quoted scalars -/

/-- What a character stands for behind a backslash. -/
def escapes : List (Char × Char) :=
  [('0', '\x00'), ('a', '\x07'), ('b', '\x08'), ('t', '\t'), ('\t', '\t'), ('n', '\n'),
    ('v', '\x0B'), ('f', '\x0C'), ('r', '\r'), ('e', '\x1B'), (' ', ' '), ('"', '"'),
    ('\\', '\\'), ('/', '/'), ('N', '\x85'), ('_', '\xA0'), ('L', '\u2028'), ('P', '\u2029')]

/-- How many hexadecimal digits follow a character behind a backslash. -/
def escapeWidths : List (Char × Nat) := [('x', 2), ('u', 4), ('U', 8)]

/-- The value of a hexadecimal digit. -/
def hexDigitValue? (c : Char) : Option Nat :=
  if c.isDigit then some (c.toNat - '0'.toNat)
  else if 'a' ≤ c ∧ c ≤ 'f' then some (c.toNat - 'a'.toNat + 10)
  else if 'A' ≤ c ∧ c ≤ 'F' then some (c.toNat - 'A'.toNat + 10)
  else none

/-- The number written by hexadecimal digits. -/
def hexNumber? (digits : List Char) : Option Nat :=
  digits.foldlM (fun value c => (hexDigitValue? c).map fun digit => value * 16 + digit) 0

/-- The line ends at the start of the lines that follow, blanks skipped; no mark between documents
may stand at the start of a line. -/
def quotedBreaks? (cursor : Cursor) : (fuel : Nat) → Option (List Char × Cursor)
  | 0 => none
  | fuel + 1 =>
    if cursor.atDocumentMark then none
    else
      let cursor := cursor.skipWhile fun c => c == ' ' || c == '\t'
      match cursor.takeBreak? with
      | none => some ([], cursor)
      | some (c, after) => do
        let (more, cursor) ← quotedBreaks? after fuel
        return (c :: more, cursor)

/-- A line end and those behind it as they count inside a scalar: a single line feed is a space. -/
def folded (first : Char) (more : List Char) : List Char :=
  if first != '\n' then first :: more else if more.isEmpty then [' '] else more

/-- The white space inside a quoted scalar. -/
def quotedSpaces? (cursor : Cursor) (fuel : Nat) : Option (List Char × Cursor) :=
  let (blanks, cursor) := cursor.takeWhile fun c => c == ' ' || c == '\t'
  match cursor.takeBreak? with
  | some (first, after) => do
    let (more, cursor) ← quotedBreaks? after fuel
    return (folded first more, cursor)
  | none => if cursor.atEnd then none else some (blanks, cursor)

/-- The character of a number. -/
def characterOf (number : Nat) : Except Fault Char :=
  if number < 0x110000 then .ok (Char.ofNat number)
  else if number < 2 ^ (31 : Nat) then .error (.scalar .noSuchCharacter)
  else .error (.scalar .hugeCharacter)

/-- The character that the next `width` characters name in hexadecimal digits. -/
def namedCharacter (width : Nat) (cursor : Cursor) : Except Fault Char := do
  let digits := cursor.rest.take width
  let number ← orMalformed (hexNumber? digits)
  if digits.length == width then characterOf number else throw .malformed

/-- The characters of a quoted scalar up to the next white space or quote. -/
def quotedText (double : Bool) (cursor : Cursor) : (fuel : Nat) → Except Fault (List Char × Cursor)
  | 0 => throw .malformed
  | fuel + 1 =>
    let (plain, cursor) := cursor.takeWhile fun c =>
      !(isGapOrEnd c || c == '\'' || c == '"' || c == '\\')
    let c := cursor.peek
    let continued (text : List Char) (cursor : Cursor) : Except Fault (List Char × Cursor) := do
      let (more, cursor) ← quotedText double cursor fuel
      return (plain ++ text ++ more, cursor)
    if !double && c == '\'' && cursor.peek 1 == '\'' then continued ['\''] (cursor.advanceBy 2)
    else if (double && c == '\'') || (!double && (c == '"' || c == '\\')) then
      continued [c] cursor.advance
    else if double && c == '\\' then
      let cursor := cursor.advance
      let c := cursor.peek
      match escapes.lookup c, escapeWidths.lookup c with
      | some value, _ => continued [value] cursor.advance
      | none, some width => do
        let cursor := cursor.advance
        let named ← namedCharacter width cursor
        continued [named] (cursor.advanceBy width)
      | none, none => do
        let (_, after) ← orMalformed cursor.takeBreak?
        let (breaks, cursor) ← orMalformed (quotedBreaks? after fuel)
        continued breaks cursor
    else return (plain, cursor)

/-- The rest of a quoted scalar, and what follows its closing quote. -/
def quotedRest (double : Bool) (cursor : Cursor) : (fuel : Nat) → Except Fault (List Char × Cursor)
  | 0 => throw .malformed
  | fuel + 1 => do
    let (text, cursor) ← quotedText double cursor (fuel + 1)
    if cursor.peek == (if double then '"' else '\'') then return (text, cursor.advance)
    let (spaces, cursor) ← orMalformed (quotedSpaces? cursor (fuel + 1))
    let (more, cursor) ← quotedRest double cursor fuel
    return (text ++ spaces ++ more, cursor)

/-- A quoted scalar behind its opening quote. -/
def quotedScalar (double : Bool) (cursor : Cursor) : Except Fault (String × Cursor) := do
  let (text, cursor) ← quotedRest double cursor (cursor.rest.length + 1)
  return (String.ofList text, cursor)

/-! ### Plain scalars -/

/-- The characters that end a plain scalar inside brackets or braces. -/
def isFlowMark (c : Char) : Bool :=
  c == ',' || c == '[' || c == ']' || c == '\x7b' || c == '\x7d'

/-- How many characters of a plain scalar stand at the front of a text. -/
def plainLength (inFlow : Bool) : List Char → Nat
  | [] => 0
  | c :: rest =>
    let next := rest.headD endOfText
    if isGapOrEnd c || (c == ':' && (isGapOrEnd next || (inFlow && isFlowMark next))) ||
        (inFlow && (c == '?' || isFlowMark c)) then 0
    else plainLength inFlow rest + 1

/-- The line ends behind a line of a plain scalar; `none` if a mark between documents follows. -/
def plainBreaks (cursor : Cursor) : (fuel : Nat) → Option (List Char) × Cursor
  | 0 => (some [], cursor)
  | fuel + 1 =>
    let cursor := cursor.skipSpaces
    match cursor.takeBreak? with
    | none => (some [], cursor)
    | some (c, after) =>
      if after.atDocumentMark then (none, after)
      else
        let (more, cursor) := plainBreaks after fuel
        (more.map (c :: ·), cursor)

/-- What stands between two lines or words of a plain scalar: its text, whether a line ended, and
what follows. An empty text ends the scalar. -/
def plainSpaces (cursor : Cursor) : List Char × Bool × Cursor :=
  let (spaces, cursor) := cursor.takeWhile (· == ' ')
  match cursor.takeBreak? with
  | none => (spaces, false, cursor)
  | some (first, after) =>
    if after.atDocumentMark then ([], true, after)
    else
      match plainBreaks after (after.rest.length + 1) with
      | (none, cursor) => ([], true, cursor)
      | (some more, cursor) => (folded first more, true, cursor)

/-- A plain scalar with the text `spaces` before it, in the block indented to `indent`. The answer
says whether a line end is the last that was passed. -/
def plainFrom (inFlow : Bool) (indent : Int) (spaces : List Char) (brokeLine : Bool)
    (cursor : Cursor) : (fuel : Nat) → List Char × Bool × Cursor
  | 0 => ([], brokeLine, cursor)
  | fuel + 1 =>
    let length := if cursor.peek == '#' then 0 else plainLength inFlow cursor.rest
    if length == 0 then ([], brokeLine, cursor)
    else
      let text := cursor.rest.take length
      let (next, broke, after) := plainSpaces (cursor.advanceBy length)
      if next.isEmpty || after.peek == '#' || (!inFlow && (after.column : Int) < indent) then
        (spaces ++ text, broke, after)
      else
        let (more, broke, cursor) := plainFrom inFlow indent next broke after fuel
        (spaces ++ text ++ more, broke, cursor)

/-- A plain scalar inside a block indented to `indent`, whether a line end was passed last, and
what follows. -/
def plainScalar (inFlow : Bool) (indent : Int) (cursor : Cursor) : String × Bool × Cursor :=
  let (text, broke, cursor) :=
    plainFrom inFlow (indent + 1) [] false cursor (cursor.rest.length + 1)
  (String.ofList text, broke, cursor)

/-! ### Block scalars -/

/-- How the end of a block is kept. -/
inductive Chomping where
  | clip
  | strip
  | keep
deriving DecidableEq, Repr

/-- The chomping that a mark asks for. -/
def chomping? (c : Char) : Option Chomping :=
  if c == '+' then some .keep else if c == '-' then some .strip else none

/-- The indentation that a digit asks for. -/
def increment? (c : Char) : Option Nat :=
  if c.isDigit then some (c.toNat - '0'.toNat) else none

/-- The header of a block: chomping and indentation, in either order. An indentation of zero is
refused later. -/
def blockHeader (cursor : Cursor) : Chomping × Option Nat × Cursor :=
  match chomping? cursor.peek with
  | some chomping =>
    match increment? (cursor.peek 1) with
    | some increment => (chomping, some increment, cursor.advanceBy 2)
    | none => (chomping, none, cursor.advance)
  | none =>
    match increment? cursor.peek with
    | some increment =>
      match chomping? (cursor.peek 1) with
      | some chomping => (chomping, some increment, cursor.advanceBy 2)
      | none => (.clip, some increment, cursor.advance)
    | none => (.clip, none, cursor)

/-- The empty lines before a block whose indentation is still open, and the furthest column that
their spaces reach. -/
def leadingBreaks (cursor : Cursor) (furthest : Nat) : (fuel : Nat) → List Char × Nat × Cursor
  | 0 => ([], furthest, cursor)
  | fuel + 1 =>
    let cursor := cursor.skipSpaces
    let furthest := max furthest cursor.column
    match cursor.takeBreak? with
    | none => ([], furthest, cursor)
    | some (c, after) =>
      let (more, furthest, cursor) := leadingBreaks after furthest fuel
      (c :: more, furthest, cursor)

/-- The empty lines inside or behind a block. -/
def blockBreaks (indent : Nat) (cursor : Cursor) : (fuel : Nat) → List Char × Cursor
  | 0 => ([], cursor)
  | fuel + 1 =>
    let cursor := cursor.skipSpacesTo indent
    match cursor.takeBreak? with
    | none => ([], cursor)
    | some (c, after) =>
      let (more, cursor) := blockBreaks indent after fuel
      (c :: more, cursor)

/-- What the lines of a block come to: their text, the line end of the last one if it has one, and
the empty lines behind it. -/
structure BlockLines where
  text : List Char
  lastBreak : List Char
  trailing : List Char
  cursor : Cursor

/-- The lines of a block, the empty lines `breaks` standing before them. -/
def blockLines (isFolded : Bool) (indent : Nat) (breaks lastBreak : List Char) (cursor : Cursor) :
    (fuel : Nat) → BlockLines
  | 0 => ⟨[], lastBreak, breaks, cursor⟩
  | fuel + 1 =>
    if cursor.column != indent || cursor.atEnd then ⟨[], lastBreak, breaks, cursor⟩
    else
      let isBlank (c : Char) : Bool := c == ' ' || c == '\t'
      let startsBlank := isBlank cursor.peek
      let (line, cursor) := cursor.takeWhile fun c => !isBreakOrEnd c
      let (ended, cursor) :=
        match cursor.takeBreak? with
        | some (c, after) => ([c], after)
        | none => ([], cursor)
      let (next, after) := blockBreaks indent cursor (cursor.rest.length + 1)
      let joint :=
        if after.column != indent || after.atEnd then []
        else if isFolded && ended == ['\n'] && !startsBlank && !isBlank after.peek then
          if next.isEmpty then [' '] else []
        else ended
      let lines := blockLines isFolded indent next ended after fuel
      { lines with text := breaks ++ line ++ joint ++ lines.text }

/-- A block scalar behind its mark, in a block indented to `indent`. -/
def blockScalar? (isFolded : Bool) (indent : Int) (cursor : Cursor) : Option (String × Cursor) :=
  let (chomping, increment, header) := blockHeader cursor
  let lineEnd := header.skipSpaces.skipComment
  if increment == some 0 || !isSpaceOrEnd header.peek || !isBreakOrEnd lineEnd.peek then none
  else
    let cursor := lineEnd.skipBreak
    let least := max (indent + 1).toNat 1
    let fuel := cursor.rest.length + 1
    let (breaks, indent, cursor) :=
      match increment with
      | none =>
        let (breaks, furthest, cursor) := leadingBreaks cursor 0 fuel
        (breaks, max least furthest, cursor)
      | some increment =>
        let indent := least + increment - 1
        let (breaks, cursor) := blockBreaks indent cursor fuel
        (breaks, indent, cursor)
    let lines := blockLines isFolded indent breaks [] cursor fuel
    let tail :=
      match chomping with
      | .strip => []
      | .clip => lines.lastBreak
      | .keep => lines.lastBreak ++ lines.trailing
    some (String.ofList (lines.text ++ tail), lines.cursor)

end Introspection.Yaml
