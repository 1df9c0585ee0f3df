import Introspection.Yaml.Node

/-!
# Merge keys

A merge key brings the entries of one mapping, or of every mapping of a sequence, into the mapping
it stands in. They come before the entries that the mapping has itself, so that those win; of the
mappings of a sequence the last comes first, so that the first wins. A mapping that is brought in
has its own merge keys resolved before. Whatever a merge key brings in is free of merge keys, so a
mapping that merges itself takes over what else it has, and resolving ends: every step takes a
merge key out of the document, and none puts one in.

Where merge keys are resolved, a key that is the mark of a default value becomes a text.

## Main definitions

* `Yaml.Merging` — a computation over the nodes of a document
* `Yaml.Merging.flatten` — the entries of a mapping, its merge keys resolved
-/

namespace Introspection.Yaml

/-- The entries of a mapping, as the numbers of their nodes. -/
abbrev Links := List (Nat × Nat)

/-- How many entries the mappings of a document have. -/
def Nodes.entryCount (nodes : Nodes) : Nat :=
  nodes.foldl (fun count node => match node with
    | .mapping _ entries => count + entries.length
    | _ => count) 0

/-- A computation over the nodes of a document. -/
abbrev Merging := StateT Nodes (Except Fault)

namespace Merging

/-- The node of a number. -/
def node (number : Nat) : Merging Node :=
  return (← get).getD number .empty

/-- The entries of a mapping. Other nodes cannot be merged. -/
def entriesAt (number : Nat) : Merging Links := do
  match ← node number with
  | .mapping _ entries => return entries
  | _ => throw .malformed

/-- Gives a mapping other entries. -/
def setEntries (number : Nat) (entries : Links) : Merging Unit :=
  modify fun nodes => nodes.modify number fun
    | .mapping tag _ => .mapping tag entries
    | other => other

/-- Makes the mark of a default value a text. -/
def markAsText (number : Nat) : Merging Unit :=
  modify fun nodes => nodes.modify number fun
    | .scalar .default text => .scalar .str text
    | .sequence .default items => .sequence .str items
    | .mapping .default entries => .mapping .str entries
    | other => other

/-- The value of the first merge key of some entries, and the other entries. -/
def takeMerge? (nodes : Nodes) : Links → Option (Nat × Links)
  | [] => none
  | (key, value) :: rest =>
    if (nodes.getD key .empty).tag = .merge then some (value, rest)
    else (takeMerge? nodes rest).map fun (merged, others) => (merged, (key, value) :: others)

mutual

/-- Resolves the merge keys of a mapping, and gives its entries. -/
def flatten (number : Nat) : (fuel : Nat) → Merging Links
  | 0 => throw .malformed
  | fuel + 1 => do
    let brought ← absorb number fuel
    let own ← entriesAt number
    own.forM fun (key, _) => markAsText key
    setEntries number (brought ++ own)
    return brought ++ own

/-- Takes the merge keys out of a mapping one after another, and gives what they bring in. -/
def absorb (number : Nat) : (fuel : Nat) → Merging Links
  | 0 => throw .malformed
  | fuel + 1 => do
    match takeMerge? (← get) (← entriesAt number) with
    | none => return []
    | some (merged, others) =>
      setEntries number others
      let brought ← broughtBy merged fuel
      return brought ++ (← absorb number fuel)

/-- The entries that the value of a merge key brings in. -/
def broughtBy (merged : Nat) : (fuel : Nat) → Merging Links
  | 0 => throw .malformed
  | fuel + 1 => do
    match ← node merged with
    | .sequence _ items =>
      return (← items.mapM fun item => flatten item fuel).reverse.flatten
    | _ => flatten merged fuel

end

end Merging

end Introspection.Yaml
