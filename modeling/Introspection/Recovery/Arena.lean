import Introspection.Log.Record
import Introspection.Recovery.Fault

/-!
# Fragments by id

The fragments of a document are indexed by their ids before anything is followed, so the order in
which they were recovered does not matter. Two fragments of one id are an error, unless the policy
is to warn: then the first one stands, and each further one leaves a note.

The root of the tree is the only module of a given name, or else the only module that is a member
of no module.

## Main definitions

* `Recovery.Arena`, `Recovery.Arena.get?`
* `Recovery.DuplicatePolicy`
* `Recovery.index` — the arena of some fragments, and the notes left on the way
* `Recovery.findRoot`
-/

namespace Introspection.Recovery

/-- The value of a text field. -/
def requireText (fragment : Fragment) (key : String) : Except Fault String :=
  match Json.get? fragment key with
  | some (.str value) => .ok value
  | _ => .error (.fieldNotText key fragment)

/-- The value of a field, null where it is missing. -/
def fieldOrNull (fragment : Fragment) (key : String) : Json :=
  (Json.get? fragment key).getD .null

/-- Fragments by id, in the order of their first appearance. -/
abbrev Arena := List (String × Fragment)

/-- The fragment of an id. -/
def Arena.get? (arena : Arena) (id : String) : Option Fragment :=
  (arena.find? fun entry => entry.1 = id).map Prod.snd

/-- What to do with a second fragment of one id. -/
inductive DuplicatePolicy where
  | error
  | warn
deriving DecidableEq, Inhabited, Repr

namespace DuplicatePolicy

/-- The name of a policy. -/
def name : DuplicatePolicy → String
  | .error => "error"
  | .warn => "warn"

/-- The policy of a name; every other name is as strict as `error`. -/
def ofName (name : String) : DuplicatePolicy :=
  if name = "warn" then .warn else .error

end DuplicatePolicy

/-- The logger of this part of the program. -/
def logger : String := Log.loggerName (some "resolve")

/-- The note left on a dropped fragment. -/
def droppedRecord (id : String) (kept dropped : Json) : Log.Record :=
  ⟨.warning, logger, duplicateText id kept dropped ++ "; keeping the first fragment"⟩

/-- The arena with further fragments added, and the notes left on the way. -/
def indexFrom (policy : DuplicatePolicy) (arena : Arena) :
    List Fragment → Except Fault Arena × List Log.Record
  | [] => (.ok arena, [])
  | fragment :: rest =>
    match requireText fragment "id" with
    | .error fault => (.error fault, [])
    | .ok id =>
      match arena.get? id with
      | none => indexFrom policy (arena ++ [(id, fragment)]) rest
      | some first =>
        let kept := fieldOrNull first "name"
        let dropped := fieldOrNull fragment "name"
        match policy with
        | .error => (.error (.duplicateId id kept dropped), [])
        | .warn =>
          let (result, records) := indexFrom policy arena rest
          (result, droppedRecord id kept dropped :: records)

/-- The arena of some fragments, and the notes left on the way. -/
def index (policy : DuplicatePolicy) (fragments : List Fragment) :
    Except Fault Arena × List Log.Record :=
  indexFrom policy [] fragments

/-- Whether a fragment describes an element of a type. -/
def hasType (type : String) (fragment : Fragment) : Bool :=
  match Json.get? fragment "type" with
  | some (.str value) => value = type
  | _ => false

/-- The texts among which every item has to be. -/
def asTexts? : List Json → Option (List String)
  | [] => some []
  | .str text :: rest => (asTexts? rest).map (text :: ·)
  | _ :: _ => none

/-- The ids of the members of a module. A module without the field has none. -/
def memberIds (fragment : Fragment) : Except Fault (List String) :=
  match Json.get? fragment "members" with
  | none => .ok []
  | some (.array items) =>
    match asTexts? items with
    | some ids => .ok ids
    | none => .error (.malformedMembers (fieldOrNull fragment "name"))
  | some _ => .error (.malformedMembers (fieldOrNull fragment "name"))

/-- The ids that some modules refer to. -/
def referenced : List (String × Fragment) → Except Fault (List String)
  | [] => .ok []
  | (_, fragment) :: rest =>
    match memberIds fragment with
    | .error fault => .error fault
    | .ok ids =>
      match referenced rest with
      | .error fault => .error fault
      | .ok more => .ok (ids ++ more)

/-- The modules of an arena. -/
def Arena.modules (arena : Arena) : List (String × Fragment) :=
  arena.filter fun entry => hasType "module" entry.2

/-- Whether the name of a fragment is a text, and that one. -/
def hasName (name : String) (fragment : Fragment) : Bool :=
  match Json.get? fragment "name" with
  | some (.str value) => value = name
  | _ => false

/-- The only module of a name. -/
def findNamedRoot (arena : Arena) (name : String) : Except Fault (String × Fragment) :=
  match arena.modules.filter fun entry => hasName name entry.2 with
  | [root] => .ok root
  | found => .error (.rootNotUnique name found.length)

/-- The only module that is a member of no module. -/
def findTopRoot (arena : Arena) : Except Fault (String × Fragment) :=
  match referenced arena.modules with
  | .error fault => .error fault
  | .ok ids =>
    match arena.modules.filter fun entry => !ids.contains entry.1 with
    | [root] => .ok root
    | candidates =>
      let names := candidates.map fun entry => (fieldOrNull entry.2 "name").plainText
      .error (.noSingleRoot (names.mergeSort fun first second => decide (first ≤ second)))

/-- The root of the tree: the module of that name, or the only one on top. -/
def findRoot (arena : Arena) (name : Option String) : Except Fault (String × Fragment) :=
  match name with
  | some name => findNamedRoot arena name
  | none => findTopRoot arena

end Introspection.Recovery
