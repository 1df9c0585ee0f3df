import Introspection.Disk.Basic

/-!
# Changing a disk

A change may fail part of the way, and what it has done by then stays done: a change is a
computation over the disk whose failures keep the disk that was reached.

Making a directory makes the directories around it too, from the top down, and is content with
what exists. A file in the way is told in two ways. As long as no directory had to be made, the
whole path was walked, and the file is no directory to walk through; from then on every directory
is made by itself, and the file is there already. Writing a file replaces what it held; appending
keeps it.

## Main definitions

* `Disk.Change`
* `Disk.enter`, `Disk.ensureDirectory` — making directories
* `Disk.write`, `Disk.openForAppending` — writing files
* `Disk.appendAt` — appending to a file that is already open
-/

namespace Introspection.Disk

open Introspection.Path (Location)

/-- A computation over the disk. A failure keeps the disk that was reached. -/
abbrev Change := EStateM Fault Disk

/-- Walks down some parts from a place and makes the directories that are missing. `made` tells
whether some have been made on the way. -/
def enter (made : Bool) (here : Location) : List String → Change Unit
  | [] => pure ()
  | part :: rest => fun disk =>
    if part = ".." then enter made here.dropLast rest disk
    else if disk.nameTooLong part then .error .tooLong disk
    else
      match disk.find? (here ++ [part]) with
      | some .directory => enter made (here ++ [part]) rest disk
      | some (.file _) =>
        .error (if made || rest.isEmpty then .alreadyThere else .notADirectory) disk
      | none => enter true (here ++ [part]) rest (disk.put (here ++ [part]) .directory)

/-- Makes a directory and those around it, as far as they are missing. -/
def ensureDirectory (path : Path) : Change Unit := fun disk =>
  match disk.refusal? path with
  | some fault => .error fault disk
  | none => enter false (path.start disk.working) path.parts disk

/-- Opens a file for writing: the place it is at, or will be. -/
def openFile (path : Path) : Change Location := fun disk =>
  match disk.locate path with
  | .error fault => .error fault disk
  | .ok location =>
    if disk.find? location = some .directory then .error .isADirectory disk
    else .ok location disk

/-- Puts a file at a place. -/
def putFile (location : Location) (bytes : ByteArray) : Change Unit :=
  modify fun disk => disk.put location (.file bytes)

/-- Makes a file hold some bytes and nothing else. -/
def write (path : Path) (bytes : ByteArray) : Change Unit := do
  let location ← openFile path
  putFile location bytes

/-- What a file holds already; anything else holds nothing. -/
def heldAt (disk : Disk) (location : Location) : ByteArray :=
  match disk.find? location with
  | some (.file bytes) => bytes
  | _ => .empty

/-- The disk with bytes added to a file. -/
def appendAt (disk : Disk) (location : Location) (bytes : ByteArray) : Disk :=
  disk.put location (.file (disk.heldAt location ++ bytes))

/-- Makes sure that a file is there, and tells its place. -/
def openForAppending (path : Path) : Change Location := do
  let location ← openFile path
  modify fun disk => disk.appendAt location .empty
  return location

end Introspection.Disk
