import Introspection.Text.Base64
import Introspection.Yaml.Lexer
import Introspection.Yaml.Members
import Introspection.Yaml.Merge

/-!
# Loading YAML documents

A document is loaded by reading its nodes and then working out their values. A node has one value
wherever it is referred to. That of a container is the place it is given; what stands there is
worked out later, when everything that was met before has been, so a container may be found inside
itself. What is wrong with a document is found in this order too: the values of scalars at the top
before those further down.

The type of a node decides what it is to be, and then the node has to suit: only a sequence can be
a list, and only a mapping a mapping or a set. Keys have to be immutable. The list of an ordered
mapping, or of pairs, has a mapping of one entry for each pair. Where a scalar is wanted, a mapping
may stand that marks one of its values as the default.

## Main definitions

* `Yaml.Construction`, `Yaml.Building` — working out values with what is known of them
* `Yaml.scalarValue` — the value of a scalar
* `Yaml.Building.value`, `Yaml.Building.fill`
* `Yaml.Graph.document` — the document of some nodes
* `Yaml.load`
-/

namespace Introspection.Yaml

/-! ### Scalars -/

/-- The text of a node that is to be a scalar. A document has fewer nodes than the bound, so a
mapping whose default value leads on so far leads back to itself. -/
def textOf (nodes : Nodes) (number : Nat) : (fuel : Nat) → Except Fault String
  | 0 => .error (.scalar .endless)
  | fuel + 1 =>
    match nodes.getD number .empty with
    | .scalar _ text => .ok text
    | .sequence .. => .error .malformed
    | .mapping _ entries =>
      match entries.find? fun entry => (nodes.getD entry.1 .empty).tag == .default with
      | some (_, value) => textOf nodes value fuel
      | none => .error .malformed

/-- A value read from a scalar. -/
def ofScalar {α : Type} (wrap : α → Value) : Except ScalarFault α → Except Fault Value
  | .ok value => .ok (wrap value)
  | .error fault => .error (.scalar fault)

/-- A float. One that is no number is either the one that all documents share, or told by the
number of its node. -/
def floatOf (number : Nat) (text : String) (value : Binary64) : Value :=
  if value == .nan && !spellsNotANumber text then .notANumber number else .float value

/-- The value of a time, which a mapping cannot be. -/
def timeOf (node : Node) (text : String) : Except ScalarFault Value :=
  match node with
  | .scalar .. => timeValue text
  | _ => .error .timeInMapping

/-- The bytes that a text in ASCII writes in base sixty-four. -/
def bytesOf? (text : String) : Option (List UInt8) :=
  if text.toList.all fun c => c.val < 0x80 then Text.ofBase64? text.toList else none

/-- The value of a node whose type is that of a scalar. -/
def scalarValue (nodes : Nodes) (number : Nat) : Except Fault Value := do
  let node := nodes.getD number .empty
  let text : Except Fault String := textOf nodes number (nodes.size + 1)
  match node.tag with
  | .null =>
    let _ ← text
    return .null
  | .bool => ofScalar .bool (boolValue (← text))
  | .int => ofScalar .int (integerValue (← text))
  | .float =>
    let text ← text
    ofScalar (floatOf number text) (floatValue text)
  | .str => return .str (← text)
  | .timestamp => ofScalar id (timeOf node (← text))
  | .binary => return .bytes (← orMalformed (bytesOf? (← text)))
  | _ => throw .malformed

/-! ### Containers -/

/-- What a container of a type holds before it is filled. -/
def emptyContainer? : Tag → Option Value
  | .seq => some (.list [])
  | .orderedMap => some (.list [])
  | .pairs => some (.list [])
  | .map => some (.map [])
  | .set => some (.set [])
  | _ => none

/-- What is known of the values of some nodes. -/
structure Construction where
  nodes : Nodes
  /-- The values of nodes, as far as they are known. -/
  values : Array (Option Value)
  places : Places
  /-- The containers that are not filled yet, the last one first. -/
  waiting : List Nat := []

/-- A computation over what is known of the values of some nodes. -/
abbrev Building := StateT Construction (Except Fault)

namespace Building

/-- Works out a value with the nodes of the document. -/
def withNodes {α : Type} (compute : Nodes → Except Fault α) : Building α := do
  compute (← get).nodes

/-- Gives a node a container, to be filled later. -/
def addContainer (number : Nat) (container : Value) : Building Value := do
  modify fun construction => { construction with
    places := construction.places.setIfInBounds number container
    waiting := number :: construction.waiting }
  return .place number

/-- The value of a node. -/
def value (number : Nat) : Building Value := do
  if let some value := (← get).values.getD number none then return value
  let tag ← withNodes fun nodes => return (nodes.getD number .empty).tag
  let value ←
    match emptyContainer? tag with
    | some container => addContainer number container
    | none => withNodes (scalarValue · number)
  modify fun construction =>
    { construction with values := construction.values.setIfInBounds number (some value) }
  return value

/-- The values of some entries, added to those before them. -/
def entriesOf (before : List (Value × Value)) : Links → Building (List (Value × Value))
  | [] => return before
  | (key, item) :: rest => do
    let key ← value key
    if !key.isKey then throw .malformed
    entriesOf (Value.put before key (← value item)) rest

/-- The values of the entries of a mapping, its merge keys resolved. -/
def entriesAt (number fuel : Nat) : Building (List (Value × Value)) := do
  let (entries, nodes) ← withNodes (Merging.flatten number fuel).run
  modify fun construction => { construction with nodes }
  entriesOf [] entries

/-- The value of a pair. -/
def pairAt (number : Nat) : Building Value := do
  match ← withNodes fun nodes => return nodes.getD number .empty with
  | .mapping _ [(first, second)] => return .pair (← value first) (← value second)
  | _ => throw .malformed

/-- What the container of a node holds. -/
def contentAt (number fuel : Nat) : Building Value := do
  match ← withNodes fun nodes => return nodes.getD number .empty with
  | .sequence .seq items => return .list (← items.mapM value)
  | .sequence .orderedMap items => return .list (← items.mapM pairAt)
  | .sequence .pairs items => return .list (← items.mapM pairAt)
  | .mapping .map _ => return .map (← entriesAt number fuel)
  | .mapping .set _ => return .set (inOrder ((← entriesAt number fuel).map Prod.fst))
  | _ => throw .malformed

/-- Fills the container of a node. -/
def fill (fuel number : Nat) : Building Unit := do
  let content ← contentAt number fuel
  modify fun construction =>
    { construction with places := construction.places.setIfInBounds number content }

/-- Fills the containers that are not filled yet, and then those that were met on the way. No node
has two containers, so the bound is never reached. -/
def fillAll (mergeFuel : Nat) : (fuel : Nat) → Building Unit
  | 0 => return ()
  | fuel + 1 => do
    let waiting := (← get).waiting
    if waiting.isEmpty then return ()
    modify fun construction => { construction with waiting := [] }
    waiting.reverse.forM (fill mergeFuel)
    fillAll mergeFuel fuel

end Building

/-- The document of some nodes. -/
def Graph.document (graph : Graph) : Except Fault Document := do
  let size := graph.nodes.size
  let building : Building Value := do
    let root ← Building.value graph.root
    Building.fillAll (3 * graph.nodes.entryCount + 3) (size + 1)
    return root
  let (root, construction) ← building.run
    { nodes := graph.nodes, values := .replicate size none, places := .replicate size .null }
  return { places := construction.places, root }

/-- The document that a text is. -/
def load (text : List Char) : Except Fault Document := do
  (← Graph.ofTokens (tokensOf text)).document

end Introspection.Yaml
