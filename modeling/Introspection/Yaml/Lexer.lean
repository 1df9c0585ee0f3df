import Introspection.Text.Utf8
import Introspection.Yaml.Scalar
import Introspection.Yaml.Token

/-!
# Splitting a YAML text into tokens

Tokens are taken off the text one after another. Indentation opens and closes block collections.
That something was a key shows only when its colon is met, on the same line and within 1024
characters; its place among the tokens is remembered until then, and the key token is put there
afterwards. A key that stands at the indentation of its block has to get its colon.

A token is settled as soon as it can no longer turn out to be a key. Where the text cannot be split
further, the settled tokens still count: what they are wrong about comes before what stopped the
splitting.

Functions that answer `none` do so for a text that is no YAML.

## Main definitions

* `Yaml.Lexer` — cursor, tokens so far, open blocks and possible keys
* `Yaml.Lexer.step` — the next token
* `Yaml.Lexer.settled` — the tokens that cannot turn out to be keys
* `Yaml.tokensOf` — the tokens of a text, and what stopped the splitting
-/

namespace Introspection.Yaml

/-- A place where a key may have started. -/
structure KeyPlace where
  /-- How many brackets and braces were open. -/
  flow : Nat
  /-- How many tokens there were. -/
  token : Nat
  required : Bool
  index : Nat
  line : Nat
  column : Nat

/-- The state of splitting a text into tokens. -/
structure Lexer where
  cursor : Cursor
  tokens : Array Token := #[]
  /-- The column of the innermost open block, or -1. -/
  indent : Int := -1
  /-- The columns of the blocks around it. -/
  outer : List Int := []
  /-- How many brackets and braces are open. -/
  flow : Nat := 0
  /-- Whether a key may start here. -/
  keyAllowed : Bool := true
  keys : List KeyPlace := []

namespace Lexer

/-- Adds a token. -/
def push (lexer : Lexer) (token : Token) : Lexer :=
  { lexer with tokens := lexer.tokens.push token }

/-- Moves past some characters. -/
def skip (lexer : Lexer) (count : Nat) : Lexer :=
  { lexer with cursor := lexer.cursor.advanceBy count }

/-- Whether some bracket or brace is open. -/
def inFlow (lexer : Lexer) : Bool :=
  lexer.flow != 0

/-- Past white space, comments and line ends. A line end outside brackets and braces allows a
key. -/
def skipBetween (lexer : Lexer) : (fuel : Nat) → Lexer
  | 0 => lexer
  | fuel + 1 =>
    let cursor := lexer.cursor.skipSpaces.skipComment
    match cursor.takeBreak? with
    | none => { lexer with cursor }
    | some (_, after) =>
      skipBetween { lexer with cursor := after, keyAllowed := lexer.keyAllowed || !lexer.inFlow } fuel

/-- Forgets places that are too far back to be keys. -/
def dropStale? (lexer : Lexer) : Option Lexer :=
  let isStale (key : KeyPlace) : Bool :=
    key.line != lexer.cursor.line || key.index + 1024 < lexer.cursor.index
  if lexer.keys.any fun key => isStale key && key.required then none
  else some { lexer with keys := lexer.keys.filter fun key => !isStale key }

/-- Forgets the place at the current depth. -/
def dropKey? (lexer : Lexer) : Option Lexer :=
  if lexer.keys.any fun key => key.flow == lexer.flow && key.required then none
  else some { lexer with keys := lexer.keys.filter fun key => key.flow != lexer.flow }

/-- Remembers the current place if a key may start here. -/
def saveKey? (lexer : Lexer) : Option Lexer :=
  if lexer.keyAllowed then do
    let lexer ← lexer.dropKey?
    let cursor := lexer.cursor
    return { lexer with
      keys := ⟨lexer.flow, lexer.tokens.size, !lexer.inFlow && lexer.indent == cursor.column,
        cursor.index, cursor.line, cursor.column⟩ :: lexer.keys }
  else some lexer

/-- Closes the blocks that are indented further than a column. -/
def closeBlocks (column : Int) (tokens : Array Token) (indent : Int) :
    List Int → Array Token × Int × List Int
  | [] => (tokens, indent, [])
  | outer :: rest =>
    if indent > column then closeBlocks column (tokens.push .blockEnd) outer rest
    else (tokens, indent, outer :: rest)

/-- Closes the blocks that are indented further than a column, outside brackets and braces. -/
def unwind (lexer : Lexer) (column : Int) : Lexer :=
  if lexer.inFlow then lexer
  else
    let (tokens, indent, outer) := closeBlocks column lexer.tokens lexer.indent lexer.outer
    { lexer with tokens, indent, outer }

/-- Opens a block at a column, if none is open there; its token is put at a place among the
tokens. -/
def openBlock (lexer : Lexer) (column : Nat) (token : Token) (place : Nat) : Lexer :=
  if lexer.indent < column then
    { lexer with
      outer := lexer.indent :: lexer.outer
      indent := column
      tokens := lexer.tokens.insertIdxIfInBounds place token }
  else lexer

/-! ### Directives and tags -/

/-- A number, if there is one. -/
def number? (cursor : Cursor) : Option (Nat × Cursor) :=
  match cursor.takeWhile Char.isDigit with
  | ([], _) => none
  | (digits, cursor) =>
    some (digits.foldl (fun value c => value * 10 + (c.toNat - '0'.toNat)) 0, cursor)

/-- The characters of names. -/
def isNameChar (c : Char) : Bool :=
  c.isAlphanum || c == '-' || c == '_'

/-- The characters of tags. -/
def isTagChar (c : Char) : Bool :=
  c.isAlphanum || "-;/?:@&=+$,_.!~*'()[]".toList.contains c

/-- A tag handle: an exclamation mark, alone or around a name. -/
def tagHandle? (cursor : Cursor) : Option (String × Cursor) :=
  if cursor.peek != '!' then none
  else
    let (name, after) := cursor.advance.takeWhile isNameChar
    if after.peek == '!' then some (String.ofList ('!' :: name ++ ['!']), after.advance)
    else if name.isEmpty && cursor.peek 1 == ' ' then some ("!", cursor.advance)
    else none

/-- Bytes written as percent signs and two hexadecimal digits each. -/
def escapedBytes? (cursor : Cursor) : (fuel : Nat) → Option (List UInt8 × Cursor)
  | 0 => none
  | fuel + 1 =>
    if cursor.peek != '%' then some ([], cursor)
    else do
      let high ← hexDigitValue? (cursor.peek 1)
      let low ← hexDigitValue? (cursor.peek 2)
      let (bytes, cursor) ← escapedBytes? (cursor.advanceBy 3) fuel
      return (.ofNat (high * 16 + low) :: bytes, cursor)

/-- The characters of a tag. Runs of escaped bytes are UTF-8. -/
def tagChars? (cursor : Cursor) : (fuel : Nat) → Option (List Char × Cursor)
  | 0 => none
  | fuel + 1 =>
    let (plain, cursor) := cursor.takeWhile isTagChar
    if cursor.peek != '%' then some (plain, cursor)
    else do
      let (bytes, cursor) ← escapedBytes? cursor (fuel + 1)
      let escaped ← (Utf8.decode ⟨bytes.toArray⟩).toOption
      let (more, cursor) ← tagChars? cursor fuel
      return (plain ++ escaped ++ more, cursor)

/-- The text of a tag. -/
def tagText? (cursor : Cursor) : Option (String × Cursor) := do
  let (text, cursor) ← tagChars? cursor (cursor.rest.length + 1)
  if text.isEmpty then none else return (String.ofList text, cursor)

/-- The version of a document. -/
def version? (cursor : Cursor) : Option (Token × Cursor) := do
  let (major, cursor) ← number? cursor.skipSpaces
  if cursor.peek != '.' then none
  let (minor, cursor) ← number? cursor.advance
  if isSpaceOrEnd cursor.peek then return (.version major minor, cursor) else none

/-- A handle for tags and what it stands for. -/
def handle? (cursor : Cursor) : Option (Token × Cursor) := do
  let (handle, cursor) ← tagHandle? cursor.skipSpaces
  if cursor.peek != ' ' then none
  let (meaning, cursor) ← tagText? cursor.skipSpaces
  if isSpaceOrEnd cursor.peek then return (.tagHandle handle meaning, cursor) else none

/-- A directive behind its percent sign, with the rest of its line. -/
def directive? (cursor : Cursor) : Option (Token × Cursor) := do
  let (name, cursor) := cursor.takeWhile isNameChar
  if name.isEmpty || !isSpaceOrEnd cursor.peek then none
  let (token, cursor) ←
    if name == "YAML".toList then version? cursor
    else if name == "TAG".toList then handle? cursor
    else some (.directive, cursor.skipWhile fun c => !isBreakOrEnd c)
  let cursor := cursor.skipSpaces.skipComment
  if isBreakOrEnd cursor.peek then return (token, cursor.skipBreak) else none

/-- The name behind the mark of an anchor or an alias. -/
def anchorName? (cursor : Cursor) : Option (String × Cursor) :=
  match cursor.takeWhile isNameChar with
  | ([], _) => none
  | (name, cursor) =>
    let next := cursor.peek
    if isGapOrEnd next || "?:,]\x7d%@`".toList.contains next then
      some (String.ofList name, cursor)
    else none

/-- A tag. -/
def tag? (cursor : Cursor) : Option (Token × Cursor) := do
  let (token, cursor) ←
    if cursor.peek 1 == '<' then do
      let (text, cursor) ← tagText? (cursor.advanceBy 2)
      if cursor.peek == '>' then some (Token.tag none text, cursor.advance) else none
    else if isGapOrEnd (cursor.peek 1) then some (Token.tag none "!", cursor.advance)
    else do
      let upToGap := cursor.advance.rest.takeWhile fun c => !isSpaceOrEnd c
      let (handle, cursor) ←
        if upToGap.contains '!' then tagHandle? cursor else some ("!", cursor.advance)
      let (text, cursor) ← tagText? cursor
      some (Token.tag (some handle) text, cursor)
  if isSpaceOrEnd cursor.peek then return (token, cursor) else none

/-! ### The next token -/

/-- The end of a document or of the text: all blocks are closed, and no key may be open. -/
def endBlocks? (lexer : Lexer) : Option Lexer := do
  let lexer ← (lexer.unwind (-1)).dropKey?
  return { lexer with keyAllowed := false }

/-- An opening bracket or brace. -/
def open? (lexer : Lexer) (token : Token) : Option Lexer := do
  let lexer ← lexer.saveKey?
  return { (lexer.push token).skip 1 with flow := lexer.flow + 1, keyAllowed := true }

/-- A closing bracket or brace. -/
def close? (lexer : Lexer) (token : Token) : Option Lexer := do
  let lexer ← lexer.dropKey?
  if lexer.flow == 0 then none
  return { (lexer.push token).skip 1 with flow := lexer.flow - 1, keyAllowed := false }

/-- A comma between brackets or braces. -/
def comma? (lexer : Lexer) : Option Lexer := do
  let lexer ← { lexer with keyAllowed := true }.dropKey?
  return (lexer.push .comma).skip 1

/-- The dash of a block sequence. Between brackets it is refused later. -/
def entry? (lexer : Lexer) : Option Lexer := do
  if !lexer.inFlow && !lexer.keyAllowed then none
  let lexer :=
    if lexer.inFlow then lexer
    else lexer.openBlock lexer.cursor.column .blockSequence lexer.tokens.size
  let lexer ← { lexer with keyAllowed := true }.dropKey?
  return (lexer.push .entry).skip 1

/-- The question mark of a key. -/
def key? (lexer : Lexer) : Option Lexer := do
  if !lexer.inFlow && !lexer.keyAllowed then none
  let lexer :=
    if lexer.inFlow then lexer
    else lexer.openBlock lexer.cursor.column .blockMapping lexer.tokens.size
  let lexer ← { lexer with keyAllowed := !lexer.inFlow }.dropKey?
  return (lexer.push .key).skip 1

/-- The colon of a value. If a key may have started at the current depth, it did. -/
def value? (lexer : Lexer) : Option Lexer :=
  match lexer.keys.find? (·.flow == lexer.flow) with
  | some place =>
    let lexer := { lexer with
      keys := lexer.keys.filter fun key => key.flow != lexer.flow
      tokens := lexer.tokens.insertIdxIfInBounds place.token .key
      keyAllowed := false }
    let lexer :=
      if lexer.inFlow then lexer else lexer.openBlock place.column .blockMapping place.token
    some ((lexer.push .value).skip 1)
  | none => do
    if !lexer.inFlow && !lexer.keyAllowed then none
    let lexer :=
      if lexer.inFlow then lexer
      else lexer.openBlock lexer.cursor.column .blockMapping lexer.tokens.size
    let lexer ← { lexer with keyAllowed := !lexer.inFlow }.dropKey?
    return (lexer.push .value).skip 1

/-- A token that a key can start with, taken off the cursor. -/
def atom? (lexer : Lexer) (take : Cursor → Option (Token × Cursor)) : Option Lexer := do
  let lexer ← lexer.saveKey?
  let (token, cursor) ← take lexer.cursor
  return { lexer.push token with cursor, keyAllowed := false }

/-- A block scalar. -/
def block? (lexer : Lexer) (isFolded : Bool) : Option Lexer := do
  let lexer ← { lexer with keyAllowed := true }.dropKey?
  let (text, cursor) ← blockScalar? isFolded lexer.indent lexer.cursor.advance
  return { lexer.push (.scalar text false) with cursor }

/-- A plain scalar. A line end behind it allows a key. -/
def plain? (lexer : Lexer) : Option Lexer := do
  let lexer ← lexer.saveKey?
  let (text, broke, cursor) := plainScalar lexer.inFlow lexer.indent lexer.cursor
  return { lexer.push (.scalar text true) with cursor, keyAllowed := broke }

/-- Whether a plain scalar starts here. -/
def startsPlain (lexer : Lexer) : Bool :=
  let c := lexer.cursor.peek
  !(isGapOrEnd c || "-?:,[]\x7b\x7d#&*!|>'\"%@`".toList.contains c) ||
    (!isGapOrEnd (lexer.cursor.peek 1) && (c == '-' || (!lexer.inFlow && (c == '?' || c == ':'))))

/-- A quoted scalar. -/
def quoted (lexer : Lexer) (double : Bool) : Except Fault Lexer := do
  let lexer ← orMalformed lexer.saveKey?
  let (text, cursor) ← quotedScalar double lexer.cursor.advance
  return { lexer.push (.scalar text false) with cursor, keyAllowed := false }

/-- The next token behind white space, if it is no quoted scalar; `none` also where no token can
start. -/
def token? (lexer : Lexer) : Option Lexer :=
  let cursor := lexer.cursor
  let c := cursor.peek
  let gapNext := isGapOrEnd (cursor.peek 1)
  if c == '%' && cursor.column == 0 then do
    let lexer ← lexer.endBlocks?
    let (token, cursor) ← directive? lexer.cursor.advance
    return { lexer.push token with cursor }
  else if cursor.column == 0 && cursor.atMark '-' then
    lexer.endBlocks?.map fun lexer => (lexer.push .documentStart).skip 3
  else if cursor.column == 0 && cursor.atMark '.' then
    lexer.endBlocks?.map fun lexer => (lexer.push .documentEnd).skip 3
  else if c == '[' then lexer.open? .openBracket
  else if c == '\x7b' then lexer.open? .openBrace
  else if c == ']' then lexer.close? .closeBracket
  else if c == '\x7d' then lexer.close? .closeBrace
  else if c == ',' then lexer.comma?
  else if c == '-' && gapNext then lexer.entry?
  else if c == '?' && (lexer.inFlow || gapNext) then lexer.key?
  else if c == ':' && (lexer.inFlow || gapNext) then lexer.value?
  else if c == '*' then
    lexer.atom? fun cursor => (anchorName? cursor.advance).map fun (name, cursor) =>
      (.alias name, cursor)
  else if c == '&' then
    lexer.atom? fun cursor => (anchorName? cursor.advance).map fun (name, cursor) =>
      (.anchor name, cursor)
  else if c == '!' then lexer.atom? tag?
  else if c == '|' && !lexer.inFlow then lexer.block? false
  else if c == '>' && !lexer.inFlow then lexer.block? true
  else if lexer.startsPlain then lexer.plain?
  else none

/-- Past white space and the next token, or all blocks closed at the end of the text. -/
def step (lexer : Lexer) : Except Fault Lexer := do
  let lexer ← orMalformed (lexer.skipBetween (lexer.cursor.rest.length + 1)).dropStale?
  let lexer := lexer.unwind lexer.cursor.column
  let c := lexer.cursor.peek
  if lexer.cursor.atEnd then orMalformed lexer.endBlocks?
  else if c == '\'' || c == '"' then lexer.quoted (c == '"')
  else orMalformed lexer.token?

/-- The tokens before the first place where a key may still have started. -/
def settled (lexer : Lexer) : List Token :=
  let keys := match lexer.dropStale? with
    | some lexer => lexer.keys
    | none => lexer.keys
  let count := keys.foldl (fun count key => min count key.token) lexer.tokens.size
  (lexer.tokens.extract 0 count).toList

end Lexer

/-- All tokens up to the end of the text. Every step gets closer to it, so the bound is never
reached. -/
def Lexer.run (lexer : Lexer) : (fuel : Nat) → Tokens
  | 0 => ⟨lexer.settled, some .malformed⟩
  | fuel + 1 =>
    match lexer.step with
    | .error fault => ⟨lexer.settled, some fault⟩
    | .ok next =>
      if next.cursor.atEnd && lexer.cursor.atEnd then ⟨next.tokens.toList, none⟩
      else next.run fuel

/-- Whether a character may stand in a YAML text. -/
def isAllowed (c : Char) : Bool :=
  let n := c.toNat
  n == 0x09 || n == 0x0A || n == 0x0D || (0x20 ≤ n && n ≤ 0x7E) || n == 0x85 ||
    (0xA0 ≤ n && n ≤ 0xD7FF) || (0xE000 ≤ n && n ≤ 0xFFFD) || 0x10000 ≤ n

/-- The tokens of a text. A byte order mark in front does not count. -/
def tokensOf (text : List Char) : Tokens :=
  if text.all isAllowed then
    let cursor : Cursor := { rest := text }
    let cursor := if cursor.peek == '\uFEFF' then cursor.advance else cursor
    Lexer.run { cursor } (text.length + 2)
  else ⟨[], some .malformed⟩

end Introspection.Yaml
