import Introspection.Path
import Introspection.Text.Quoted

/-!
# Files and directories

A disk is a finite tree of directories and files, seen as a map from places to what is there, and
the directory in which relative paths start. There are no links, so a double dot always leads to
the directory that holds the one before it; but it is *walked*, and every directory on the way has
to exist.

Systems limit the length of names and of paths. The limits belong to the disk, so that what is
said about disks without limits can be said plainly. So do the home directories of accounts, which
a tilde in front of a path stands for.

## Main definitions

* `Disk`, `Disk.Entry`, `Disk.Limits`
* `Disk.Fault`, `Disk.Fault.message` — why a path cannot be used
* `Disk.find?`, `Disk.put` — what is at a place, and putting something there
* `Disk.expanded` — a path with its home directory spelled out
* `Disk.locate` — the place that a path leads to
* `Disk.read`, `Disk.isDirectory`, `Disk.isThere`

## Main results

* `Disk.find?_put_self`, `Disk.find?_put_of_ne` — what is found after something was put
-/

namespace Introspection

open Introspection.Path (Location)

-- What files hold is compared by the equality of byte arrays, also where there is another.
attribute [local instance (high)] ByteArray.instDecidableEq

/-- What can be at a place. -/
inductive Disk.Entry where
  | file (bytes : ByteArray)
  | directory
deriving DecidableEq, Inhabited

/-- How many bytes a name and a whole path may have. -/
structure Disk.Limits where
  name : Nat := 255
  path : Nat := 4095
deriving DecidableEq, Inhabited, Repr

/-- A tree of directories and files. The top is a directory and needs no entry. -/
structure Disk where
  entries : List (Location × Disk.Entry) := []
  /-- Where relative paths start. -/
  working : Location := []
  limits : Option Disk.Limits := some {}
  /-- The home directories of accounts. The one of the account at work has no name. -/
  homes : List (String × Path) := []
deriving DecidableEq, Inhabited

namespace Disk

/-- Why a path cannot be used. -/
inductive Fault where
  | notFound
  | notADirectory
  | isADirectory
  | alreadyThere
  | tooLong
  /-- The path has a null character. -/
  | nullCharacter
  /-- The path is in the home directory of an account that has none. -/
  | noHome
deriving DecidableEq, Inhabited, Repr

/-- The wording of one of the system's own faults: its number, its name, and the path. -/
def systemMessage (number : Nat) (name : String) (path : Path) : String :=
  "[Errno " ++ toString number ++ "] " ++ name ++ ": " ++ Text.quoted path.text

/-- The wording of a fault of a path. -/
def Fault.message (path : Path) : Fault → String
  | .notFound => systemMessage 2 "No such file or directory" path
  | .alreadyThere => systemMessage 17 "File exists" path
  | .notADirectory => systemMessage 20 "Not a directory" path
  | .isADirectory => systemMessage 21 "Is a directory" path
  | .tooLong => systemMessage 36 "File name too long" path
  | .nullCharacter => "embedded null byte"
  | .noHome => "Could not determine home directory."

/-! ### What is where -/

/-- What is at a place. -/
def find? (disk : Disk) (location : Location) : Option Entry :=
  if location = [] then some .directory else disk.entries.lookup location

/-- Entries with one set, in its place if there is one and behind the others if not. -/
def setEntry (entries : List (Location × Entry)) (location : Location) (entry : Entry) :
    List (Location × Entry) :=
  match entries with
  | [] => [(location, entry)]
  | (other, old) :: rest =>
    if other = location then (other, entry) :: rest else (other, old) :: setEntry rest location entry

/-- The disk with something put at a place. -/
def put (disk : Disk) (location : Location) (entry : Entry) : Disk :=
  { disk with entries := setEntry disk.entries location entry }

theorem lookup_setEntry (entries : List (Location × Entry)) (location other : Location)
    (entry : Entry) :
    (setEntry entries location entry).lookup other =
      if other = location then some entry else entries.lookup other := by
  induction entries with
  | nil => by_cases h : other = location <;> simp [setEntry, h]
  | cons head rest ih =>
    obtain ⟨place, old⟩ := head
    by_cases h : place = location
    · subst h
      by_cases ho : other = place <;> simp [setEntry, List.lookup_cons, ho, beq_false_of_ne]
    · by_cases ho : other = place
      · subst ho
        simp [setEntry, h]
      · simp [setEntry, h, List.lookup_cons, ih, beq_false_of_ne ho]

/-- Finding what was put. -/
theorem find?_put_self (disk : Disk) {location : Location} (h : location ≠ []) (entry : Entry) :
    (disk.put location entry).find? location = some entry := by
  simp [find?, put, lookup_setEntry, h]

/-- Finding anything else. -/
theorem find?_put_of_ne (disk : Disk) {location other : Location} (h : other ≠ location)
    (entry : Entry) : (disk.put location entry).find? other = disk.find? other := by
  simp [find?, put, lookup_setEntry, h]

/-! ### Walking paths -/

/-- A path with its home directory spelled out. A tilde in front of a path stands for the home
directory of the account that is named behind it. -/
def expanded (disk : Disk) (path : Path) : Except Fault Path :=
  match path.root, path.parts.map String.toList with
  | .relative, ('~' :: account) :: _ =>
    if account.contains '\x00' then .error .nullCharacter
    else
      match disk.homes.lookup (String.ofList account) with
      | some home => .ok (home.join ⟨.relative, path.parts.tail⟩)
      | none => .error .noHome
  | _, _ => .ok path

/-- Whether a name is longer than the disk allows. -/
def nameTooLong (disk : Disk) (name : String) : Bool :=
  match disk.limits with
  | some limits => limits.name < name.utf8ByteSize
  | none => false

/-- What a path as a whole can be refused for. -/
def refusal? (disk : Disk) (path : Path) : Option Fault :=
  if path.hasNull then some .nullCharacter
  else
    match disk.limits with
    | some limits => if limits.path < path.text.utf8ByteSize then some .tooLong else none
    | none => none

/-- Walks down some parts from a place. Only directories can be walked through. -/
def descend (disk : Disk) (here : Location) : List String → Except Fault Location
  | [] => .ok here
  | part :: rest =>
    match disk.find? here with
    | none => .error .notFound
    | some (.file _) => .error .notADirectory
    | some .directory =>
      if part = ".." then descend disk here.dropLast rest
      else if disk.nameTooLong part then .error .tooLong
      else descend disk (here ++ [part]) rest

/-- The place that a path leads to. Something may be there or not; the directory around it is. -/
def locate (disk : Disk) (path : Path) : Except Fault Location :=
  match disk.refusal? path with
  | some fault => .error fault
  | none => disk.descend (path.start disk.working) path.parts

/-- What a path leads to. -/
def entryAt (disk : Disk) (path : Path) : Except Fault Entry :=
  match disk.locate path with
  | .error fault => .error fault
  | .ok location =>
    match disk.find? location with
    | some entry => .ok entry
    | none => .error .notFound

/-- The bytes of a file. -/
def read (disk : Disk) (path : Path) : Except Fault ByteArray :=
  match disk.entryAt path with
  | .ok (.file bytes) => .ok bytes
  | .ok .directory => .error .isADirectory
  | .error fault => .error fault

/-- The faults that only mean that a path leads nowhere. -/
def Fault.meansAbsent : Fault → Bool
  | .notFound | .notADirectory | .nullCharacter => true
  | _ => false

/-- A question about what a path leads to, denied where it leads nowhere. -/
def ask (disk : Disk) (path : Path) (question : Entry → Bool) : Except Fault Bool :=
  match disk.entryAt path with
  | .ok entry => .ok (question entry)
  | .error fault => if fault.meansAbsent then .ok false else .error fault

/-- Whether a path leads to a directory. -/
def isDirectory (disk : Disk) (path : Path) : Except Fault Bool :=
  disk.ask path (· = .directory)

/-- Whether a path leads to anything. -/
def isThere (disk : Disk) (path : Path) : Except Fault Bool :=
  disk.ask path fun _ => true

end Disk

end Introspection
