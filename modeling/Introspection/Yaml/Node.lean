import Introspection.Yaml.Schema
import Introspection.Yaml.Token

/-!
# YAML nodes

The tokens of a document form a graph of nodes: scalars, sequences and mappings, each with its
type. The nodes stand in a list and refer to each other by their numbers. An anchor names a node
and an alias is one more reference to the node of that name, also from inside that node; no two
nodes have the same anchor. Whatever may be left out is a node of the empty plain scalar.

Reading goes down the tokens and calls itself for every part. Each chain of such calls without a
token between them is short, so a bound of a few calls per token is never reached.

Where the text could not be split into tokens any further, the fault of that counts only once a
token is wanted that is not there. What is wrong with the tokens before it comes first.

## Main definitions

* `Yaml.Node`, `Yaml.Nodes`
* `Yaml.Parse`, `Yaml.Parsing` — reading with the state that is known of the document
* `Yaml.Graph`, `Yaml.Graph.ofTokens` — the only document of some tokens
-/

namespace Introspection.Yaml

/-- A node of a document. It refers to its parts by their numbers. -/
inductive Node where
  | scalar (tag : Tag) (text : String)
  | sequence (tag : Tag) (items : List Nat)
  | mapping (tag : Tag) (entries : List (Nat × Nat))
deriving Inhabited, Repr

/-- The nodes of a document by their numbers. -/
abbrev Nodes := Array Node

/-- The node that stands where nothing does. -/
def Node.empty : Node := .scalar .null ""

/-- The type of a node. -/
def Node.tag : Node → Tag
  | .scalar tag _ => tag
  | .sequence tag _ => tag
  | .mapping tag _ => tag

/-- The nodes of a document and the number of the outermost one. -/
structure Graph where
  nodes : Nodes
  root : Nat
deriving Inhabited, Repr

/-- What is left of the tokens, and what is known of the document. -/
structure Parse where
  tokens : List Token
  /-- Why there are no more tokens, if the text goes on. -/
  fault : Option Fault
  nodes : Nodes := #[]
  anchors : List (String × Nat) := []
  handles : List (String × String) := [("!", "!"), ("!!", tagStart)]

/-- A computation over the state of reading a document. -/
abbrev Parsing := StateT Parse (Except Fault)

namespace Parsing

/-- Refuses the text. -/
def refuse {α : Type} : Parsing α := fun _ => .error .malformed

/-- The next token, or none at the end of the text. -/
def next? : Parsing (Option Token) := fun parse =>
  match parse.tokens, parse.fault with
  | token :: _, _ => .ok (some token, parse)
  | [], none => .ok (none, parse)
  | [], some fault => .error fault

/-- Moves past one token. -/
def skip : Parsing Unit :=
  modify fun parse => { parse with tokens := parse.tokens.tail }

/-- Whether the next token is one of these. -/
def isAt (tokens : List Token) : Parsing Bool := do
  match ← next? with
  | some token => return tokens.contains token
  | none => return false

/-! ### Nodes -/

/-- Adds a node under its anchor, and tells its number. -/
def add (anchor : Option String) (node : Node) : Parsing Nat := fun parse =>
  let number := parse.nodes.size
  let anchors := (anchor.map fun name => (name, number)).toList ++ parse.anchors
  .ok (number, { parse with nodes := parse.nodes.push node, anchors })

/-- Adds the node that stands where nothing does. -/
def addEmpty : Parsing Nat := add none .empty

/-- Adds a collection and then its parts. The parts may refer to the collection already. -/
def addCollection {α : Type} (anchor : Option String) (make : List α → Node)
    (parts : Parsing (List α)) : Parsing Nat := do
  let number ← add anchor (make [])
  let parts ← parts
  modify fun parse => { parse with nodes := parse.nodes.setIfInBounds number (make parts) }
  return number

/-- The number of the node with an anchor. -/
def aliased (name : String) : Parsing Nat := do
  match (← get).anchors.lookup name with
  | some number => return number
  | none => refuse

/-! ### Anchors and tags -/

/-- Takes an anchor, if there is one. -/
def anchor? : Parsing (Option String) := do
  match ← next? with
  | some (.anchor name) =>
    skip
    return some name
  | _ => return none

/-- A tag as it is written: its handle and the text behind it. -/
abbrev WrittenTag := Option String × String

/-- Takes a tag, if there is one. -/
def tag? : Parsing (Option WrittenTag) := do
  match ← next? with
  | some (.tag handle suffix) =>
    skip
    return some (handle, suffix)
  | _ => return none

/-- The text of a tag, its handle replaced by what it stands for. -/
def resolved : WrittenTag → Parsing String
  | (none, text) => return text
  | (some handle, text) => do
    match (← get).handles.lookup handle with
    | some meaning => return meaning ++ text
    | none => refuse

/-- What precedes the content of a node: an anchor and a tag, in either order. -/
def properties : Parsing (Option String × Option String) := do
  match ← anchor? with
  | some name => return (some name, ← (← tag?).mapM resolved)
  | none =>
    match ← tag? with
    | some tag =>
      let anchor ← anchor?
      return (anchor, some (← resolved tag))
    | none => return (none, none)

/-- Makes sure that an anchor is new. -/
def checkNew (anchor : Option String) : Parsing Unit := do
  if let some name := anchor then
    if ((← get).anchors.lookup name).isSome then refuse

end Parsing

/-- The type of a scalar. A bare exclamation mark makes every scalar a plain one. -/
def scalarTag (tag : Option String) (text : String) (plain : Bool) : Tag :=
  match tag with
  | none => if plain then plainTag text else .str
  | some tag => if tag == "!" then plainTag text else .ofText tag

/-- The type of a collection. -/
def collectionTag (tag : Option String) (plain : Tag) : Tag :=
  match tag with
  | none => plain
  | some tag => if tag == "!" then plain else .ofText tag

/-- Where a node stands: between brackets or braces, in a block, or as the value of a block
mapping, where a sequence need not be indented. -/
inductive Place where
  | flow
  | block
  | mappingPart
deriving DecidableEq, Repr

open Parsing

mutual

/-- One node. -/
def node (place : Place) : (fuel : Nat) → Parsing Nat
  | 0 => refuse
  | fuel + 1 => do
    match ← next? with
    | some (.alias name) =>
      skip
      aliased name
    | _ =>
      let (anchor, tag) ← properties
      content place anchor tag fuel

/-- The content of a node behind its anchor and tag. -/
def content (place : Place) (anchor tag : Option String) : (fuel : Nat) → Parsing Nat
  | 0 => refuse
  | fuel + 1 => do
    let token ← next?
    checkNew anchor
    let list := addCollection anchor (.sequence (collectionTag tag .seq))
    let table := addCollection anchor (.mapping (collectionTag tag .map))
    let absent : Parsing Nat :=
      if anchor.isSome || tag.isSome then add anchor (.scalar (scalarTag tag "" true) "")
      else refuse
    match token with
    | some .entry => if place == .mappingPart then list (looseItems fuel) else absent
    | some (.scalar text plain) =>
      skip
      add anchor (.scalar (scalarTag tag text plain) text)
    | some .openBracket =>
      skip
      list (flowItems true fuel)
    | some .openBrace =>
      skip
      table (flowEntries true fuel)
    | some .blockSequence =>
      if place == .flow then absent
      else
        skip
        list (blockItems fuel)
    | some .blockMapping =>
      if place == .flow then absent
      else
        skip
        table (blockEntries fuel)
    | _ => absent

/-- A node, or the empty one if one of these tokens follows. -/
def nodeUnless (place : Place) (absent : List Token) : (fuel : Nat) → Parsing Nat
  | 0 => refuse
  | fuel + 1 => do
    if ← isAt absent then addEmpty else node place fuel

/-- The value of a key, or the empty node if there is no colon. -/
def valueUnless (place : Place) (absent : List Token) : (fuel : Nat) → Parsing Nat
  | 0 => refuse
  | fuel + 1 => do
    if ← isAt [.value] then
      skip
      nodeUnless place absent fuel
    else addEmpty

/-- The items of a block sequence up to its end. -/
def blockItems : (fuel : Nat) → Parsing (List Nat)
  | 0 => refuse
  | fuel + 1 => do
    match ← next? with
    | some .entry =>
      skip
      let item ← nodeUnless .block [.entry, .blockEnd] fuel
      return item :: (← blockItems fuel)
    | some .blockEnd =>
      skip
      return []
    | _ => refuse

/-- The items of a sequence that is not indented, which ends where no dash follows. -/
def looseItems : (fuel : Nat) → Parsing (List Nat)
  | 0 => refuse
  | fuel + 1 => do
    match ← next? with
    | some .entry =>
      skip
      let item ← nodeUnless .block [.entry, .key, .value, .blockEnd] fuel
      return item :: (← looseItems fuel)
    | _ => return []

/-- The entries of a block mapping up to its end. -/
def blockEntries : (fuel : Nat) → Parsing (List (Nat × Nat))
  | 0 => refuse
  | fuel + 1 => do
    let absent : List Token := [.key, .value, .blockEnd]
    match ← next? with
    | some .key =>
      skip
      let key ← nodeUnless .mappingPart absent fuel
      let value ← valueUnless .mappingPart absent fuel
      return (key, value) :: (← blockEntries fuel)
    | some .blockEnd =>
      skip
      return []
    | _ => refuse

/-- The items between brackets, from the first one on or behind an item. A key there starts a
mapping of one entry. -/
def flowItems (first : Bool) : (fuel : Nat) → Parsing (List Nat)
  | 0 => refuse
  | fuel + 1 => do
    if ← isAt [.closeBracket] then
      skip
      return []
    if !first then
      if ← isAt [.comma] then skip else refuse
    match ← next? with
    | some .closeBracket =>
      skip
      return []
    | some .key =>
      skip
      let item ← addCollection none (.mapping .map) (flowPair fuel)
      return item :: (← flowItems false fuel)
    | _ =>
      let item ← node .flow fuel
      return item :: (← flowItems false fuel)

/-- The one entry of a mapping between brackets. -/
def flowPair : (fuel : Nat) → Parsing (List (Nat × Nat))
  | 0 => refuse
  | fuel + 1 => do
    let key ← nodeUnless .flow [.value, .comma, .closeBracket] fuel
    let value ← valueUnless .flow [.comma, .closeBracket] fuel
    return [(key, value)]

/-- The entries between braces, from the first one on or behind an entry. -/
def flowEntries (first : Bool) : (fuel : Nat) → Parsing (List (Nat × Nat))
  | 0 => refuse
  | fuel + 1 => do
    if ← isAt [.closeBrace] then
      skip
      return []
    if !first then
      if ← isAt [.comma] then skip else refuse
    match ← next? with
    | some .closeBrace =>
      skip
      return []
    | some .key =>
      skip
      let key ← nodeUnless .flow [.value, .comma, .closeBrace] fuel
      let value ← valueUnless .flow [.comma, .closeBrace] fuel
      return (key, value) :: (← flowEntries false fuel)
    | _ =>
      let key ← node .flow fuel
      let value ← addEmpty
      return (key, value) :: (← flowEntries false fuel)

end

/-! ### Documents -/

/-- The directives before a document. -/
def directives (versioned : Bool) (named : List String) : (fuel : Nat) → Parsing Unit
  | 0 => refuse
  | fuel + 1 => do
    match ← next? with
    | some (.version major _) =>
      if versioned || major != 1 then refuse
      skip
      directives true named fuel
    | some (.tagHandle handle meaning) =>
      if named.contains handle then refuse
      skip
      modify fun parse => { parse with handles := (handle, meaning) :: parse.handles }
      directives versioned (handle :: named) fuel
    | some .directive =>
      skip
      directives versioned named fuel
    | _ => return ()

/-- Whether a directive follows. -/
def atDirective : Parsing Bool := do
  match ← next? with
  | some (.version ..) => return true
  | some (.tagHandle ..) => return true
  | some .directive => return true
  | _ => return false

/-- The directives before a document, and the mark that starts it. -/
def documentStart (fuel : Nat) : Parsing Unit := do
  directives false [] fuel
  if ← isAt [.documentStart] then skip else refuse

/-- Past the marks that end a document. -/
def documentEnds : (fuel : Nat) → Parsing Unit
  | 0 => refuse
  | fuel + 1 => do
    if ← isAt [.documentEnd] then
      skip
      documentEnds fuel

/-- The outermost node of the first document. -/
def firstDocument (fuel : Nat) : Parsing Nat := do
  let marked ← if ← atDirective then pure true else isAt [.documentStart]
  if marked then
    documentStart fuel
    let blank ← if ← atDirective then pure true else isAt [.documentStart, .documentEnd]
    if blank || (← next?).isNone then addEmpty else node .block fuel
  else node .block fuel

/-- The outermost node of the only document. -/
def onlyDocument (fuel : Nat) : Parsing Nat := do
  let root ← firstDocument fuel
  documentEnds fuel
  if (← next?).isSome then
    documentStart fuel
    refuse
  return root

/-- The only document of some tokens; no tokens are an empty one. -/
def Graph.ofTokens (text : Tokens) : Except Fault Graph := do
  let parse : Parse := { tokens := text.tokens, fault := text.fault }
  let reading : Parsing Nat := do
    if (← next?).isNone then addEmpty else onlyDocument (6 * text.tokens.length + 6)
  let (root, parse) ← reading.run parse
  return { nodes := parse.nodes, root }

end Introspection.Yaml
