import Introspection.Metadata.Node

/-!
# Building a concatenation

A builder takes texts and expressions one by one and keeps its pieces minimal all along. Literal
text is held back and becomes a piece right before an expression does, so what was read of a
builder so far never has to be changed. The text that is held back belongs to the pieces all the
same: reading adds it at their end, without a change to the builder.

A tree is written by pushing its parts in order. A fault ends the writing where it stands, and what
was pushed before stays pushed, the quote in front of a text that cannot be written included.

## Main definitions

* `Metadata.Builder`, with `pushText`, `pushComputed` and `flush`
* `Metadata.Builder.pieces`, `Metadata.Builder.expression`, `Metadata.Builder.evaluate`
* `Metadata.Builder.pushString`, `Metadata.Builder.write` — what may end in a fault
* `Metadata.Builder.Call`, `Metadata.Builder.run` — calls in order, to one builder
-/

namespace Introspection.Metadata

/-- The pieces that are complete, and the literal text behind them as it was cut up. -/
structure Builder where
  complete : List Piece := []
  pending : List String := []
deriving DecidableEq, Repr

namespace Builder

/-- Pushes a text as it is. -/
def pushText (builder : Builder) (text : String) : Builder :=
  { builder with pending := builder.pending ++ [text] }

/-- Completes the literal that is held back, unless it is empty. -/
def flush (builder : Builder) : Builder :=
  if builder.pending.isEmpty then builder
  else
    let text := String.join builder.pending
    { complete := if text.isEmpty then builder.complete else builder.complete ++ [.literal text] }

/-- Pushes an expression. -/
def pushComputed (builder : Builder) (expression : String) : Builder :=
  let flushed := builder.flush
  { flushed with complete := flushed.complete ++ [.computed expression] }

/-- The pieces, the text that is held back included. -/
def pieces (builder : Builder) : List Piece :=
  let text := String.join builder.pending
  if text.isEmpty then builder.complete else builder.complete ++ [.literal text]

/-- The expression that concatenates the pieces when the extension is built. -/
def expression (builder : Builder) (cratePath : String) : String :=
  cratePath ++ Concatenation.macroPath ++ "(" ++
    String.join (builder.pieces.map fun piece => piece.operand ++ ", ") ++ ")"

/-- The text that the pieces stand for, given the values of expressions. -/
def evaluate (builder : Builder) (valueOf : String → String) : String :=
  String.join (builder.pieces.map (Piece.value valueOf))

/-! ### Writing -/

/-- Writing into a builder. -/
abbrev Writing := EStateM Fault Builder Unit

/-- Writes a text as it is. -/
def writeText (text : String) : Writing :=
  modify fun builder => builder.pushText text

/-- Writes an expression. -/
def writeComputed (expression : String) : Writing :=
  modify fun builder => builder.pushComputed expression

/-- Writes a text as a JSON string. The opening quote is pushed before the text is looked at. -/
def writeString (value : String) : Writing := do
  writeText "\""
  match escapeText value with
  | .ok escaped => writeText escaped
  | .error fault => throw fault
  writeText "\""

/-- Writes an expression between quotes. -/
def writeQuoted (expression : String) : Writing := do
  writeText "\""
  writeComputed expression
  writeText "\""

mutual

/-- Writes a node as JSON. -/
def write (idConstant : String) : Node → Writing
  | .bool value => writeText (if value then "true" else "false")
  | .str value => writeString value
  | .ref target => writeQuoted (idAccess target idConstant)
  | .computed expression => writeQuoted expression
  | .object entries => do
    writeText "\x7b"
    writeEntries idConstant false entries
    writeText "\x7d"
  | .array items => do
    writeText "["
    writeItems idConstant false items
    writeText "]"
  | .foreign value => throw (.unsupported value)

/-- Writes items, with a comma in front of the first one if there are others before it. -/
def writeItems (idConstant : String) (behind : Bool) : List Node → Writing
  | [] => pure ()
  | item :: items => do
    if behind then writeText ","
    write idConstant item
    writeItems idConstant true items

/-- Writes entries, with a comma in front of the first one if there are others before it. -/
def writeEntries (idConstant : String) (behind : Bool) : List (String × Node) → Writing
  | [] => pure ()
  | (key, value) :: entries => do
    if behind then writeText ","
    writeString key
    writeText ":"
    write idConstant value
    writeEntries idConstant true entries

end

/-! ### Calls -/

/-- A call to a builder. The last three read. -/
inductive Call where
  | text (value : String)
  | string (value : String)
  | computed (expression : String)
  /-- Serialize a node into the builder. -/
  | node (value : Node) (idConstant : String)
  | pieces
  | expression (cratePath : String)
  | evaluate (valueOf : String → String)

/-- What a call returns. -/
inductive Answer where
  | nothing
  | pieces (value : List Piece)
  | text (value : String)

/-- The answer of a writing, and the builder that it leaves. -/
def perform (builder : Builder) (writing : Writing) : Except Fault Answer × Builder :=
  match writing builder with
  | .ok _ builder => (.ok .nothing, builder)
  | .error fault builder => (.error fault, builder)

/-- Answers a call. -/
def step (builder : Builder) : Call → Except Fault Answer × Builder
  | .text value => builder.perform (writeText value)
  | .string value => builder.perform (writeString value)
  | .computed expression => builder.perform (writeComputed expression)
  | .node value idConstant => builder.perform (write idConstant value)
  | .pieces => (.ok (.pieces builder.pieces), builder)
  | .expression cratePath => (.ok (.text (builder.expression cratePath)), builder)
  | .evaluate valueOf => (.ok (.text (builder.evaluate valueOf)), builder)

/-- Answers calls in order. -/
def run (builder : Builder) : List Call → List (Except Fault Answer) × Builder
  | [] => ([], builder)
  | call :: calls =>
    let (answer, builder) := builder.step call
    let (answers, builder) := run builder calls
    (answer :: answers, builder)

end Builder

end Introspection.Metadata
