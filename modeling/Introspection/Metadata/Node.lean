import Introspection.Datum
import Introspection.Metadata.Concatenation

/-!
# Metadata trees and their serialization

A fragment is a small tree: truth values and texts known now, references to element ids and
computed texts known later, objects and arrays. Serializing it writes JSON with the computed parts
left open. Two things can go wrong, and both stop the writing where it stands: a text with a
control character, found after its opening quote was written, and a value that is no node at all.

A stretch of writing is therefore a run of pieces together with the fault that ended it, if one
did, and stretches compose by `andThen`, which writes nothing after a fault.

## Main definitions

* `Metadata.Node`
* `Metadata.Fault`, `Metadata.Fault.message`
* `Metadata.Written` — a stretch of writing
* `Metadata.Node.written`, `Metadata.Node.serialize`
-/

namespace Introspection.Metadata

/-- What stands in a metadata tree. -/
inductive Node where
  | bool (value : Bool)
  | str (value : String)
  /-- The id of the element being emitted, or of the element with that identifier. -/
  | ref (target : Option String)
  /-- A text that the build of the extension computes. -/
  | computed (expression : String)
  | object (entries : List (String × Node))
  | array (items : List Node)
  /-- A value that is not a node. -/
  | foreign (value : Datum)
deriving Inhabited, Repr

/-- What can end a serialization. -/
inductive Fault where
  | controlCharacter (char : Char) (text : String)
  | unsupported (value : Datum)

/-- The wording of a fault. -/
def Fault.message : Fault → String
  | .controlCharacter char text =>
    "Control character " ++ Text.quoted (String.singleton char) ++
      " is not allowed in metadata text: " ++ Text.quoted text
  | .unsupported value => "Unsupported metadata node: " ++ value.display

/-- A stretch of writing: what was pushed, and the fault that ended it, if one did. -/
structure Written where
  pushed : List Piece
  fault : Option Fault

namespace Written

/-- Writing nothing. -/
def nothing : Written := ⟨[], none⟩

/-- Writing a text as it is. -/
def text (value : String) : Written := ⟨[.literal value], none⟩

/-- Writing a computed text between quotes. -/
def computed (expression : String) : Written :=
  ⟨[.literal "\"", .computed expression, .literal "\""], none⟩

/-- Ending in a fault. -/
def failure (fault : Fault) : Written := ⟨[], some fault⟩

/-- One stretch after another; a fault in the first leaves the second unwritten. -/
def andThen (first second : Written) : Written :=
  match first.fault with
  | some _ => first
  | none => ⟨first.pushed ++ second.pushed, second.fault⟩

/-- Stretches one after another, with a comma between two. -/
def separated : List Written → Written
  | [] => nothing
  | [only] => only
  | first :: rest => first.andThen ((text ",").andThen (separated rest))

/-- What was written into a fresh concatenation, or the fault. -/
def toExcept (written : Written) : Except Fault Concatenation :=
  match written.fault with
  | some fault => .error fault
  | none => .ok ⟨written.pushed⟩

end Written

/-- Quotes and backslashes behind a backslash; a control character has no place in metadata. -/
def escapeText (value : String) : Except Fault String :=
  match value.toList.find? (·.toNat < 0x20) with
  | some char => .error (.controlCharacter char value)
  | none =>
    .ok (String.ofList (value.toList.flatMap fun c =>
      if c == '\\' || c == '"' then ['\\', c] else [c]))

/-- Writing a text as a JSON string. The opening quote is written before the text is looked at. -/
def Written.string (value : String) : Written :=
  (Written.text "\"").andThen
    (match escapeText value with
      | .ok escaped => (Written.text escaped).andThen (Written.text "\"")
      | .error fault => Written.failure fault)

/-- The name of the constant that holds an element's id, where none is configured. -/
def defaultIdConstant : String := "_PYO3_INTROSPECTION_ID"

/-- The expression that reads the id constant of a target, or of the scope it stands in. -/
def idAccess (target : Option String) (idConstant : String) : String :=
  match target with
  | none => idConstant
  | some ident => ident ++ "::" ++ idConstant

namespace Node

mutual

/-- Writing a node as JSON, with the ids and computed texts left open. -/
def written (idConstant : String) : Node → Written
  | .bool value => .text (if value then "true" else "false")
  | .str value => .string value
  | .ref target => .computed (idAccess target idConstant)
  | .computed expression => .computed expression
  | .object entries =>
    (Written.text "\x7b").andThen
      ((Written.separated (writtenEntries idConstant entries)).andThen (Written.text "\x7d"))
  | .array items =>
    (Written.text "[").andThen
      ((Written.separated (writtenItems idConstant items)).andThen (Written.text "]"))
  | .foreign value => .failure (.unsupported value)

/-- Writing each item of an array. -/
def writtenItems (idConstant : String) : List Node → List Written
  | [] => []
  | item :: items => written idConstant item :: writtenItems idConstant items

/-- Writing each entry of an object: its key, a colon, its value. -/
def writtenEntries (idConstant : String) : List (String × Node) → List Written
  | [] => []
  | (key, value) :: entries =>
    ((Written.string key).andThen ((Written.text ":").andThen (written idConstant value))) ::
      writtenEntries idConstant entries

end

/-- The JSON text of a node as a concatenation, or the fault that forbids it. -/
def serialize (node : Node) (idConstant : String) : Except Fault Concatenation :=
  (node.written idConstant).toExcept

/-- The entries of a mapping filled in order: a repeated key keeps its first place and takes the
last value. -/
def mapping (entries : List (String × Node)) : List (String × Node) :=
  entries.foldl put []
where
  /-- Sets the value of a key, in its place if it has one. -/
  put (filled : List (String × Node)) (entry : String × Node) : List (String × Node) :=
    if filled.any (·.1 == entry.1) then
      filled.map fun old => if old.1 == entry.1 then (old.1, entry.2) else old
    else filled ++ [entry]

end Node

end Introspection.Metadata
