import Introspection.Disk.Change
import Introspection.Log.Record
import Introspection.Stub.Layout

/-!
# Writing stub files

Stub files are written below a directory in the order of their paths, each after the directories
around it. Writing stops at the first file that cannot be written; what was written by then stays.

## Main definitions

* `Stub.writeFile`, `Stub.writeAll`
* `Stub.write` — writes the files of a tree and tells their paths
* `Stub.writtenRecord` — the report of what was written
-/

namespace Introspection.Stub

/-- Writes a file below a directory and tells its path. -/
def writeFile (directory relative : Path) (text : String) : Disk.Change Path := do
  let path := directory.join relative
  Disk.ensureDirectory path.parent
  Disk.write path text.toUTF8
  return path

/-- Writes files below a directory one after the other. -/
def writeAll (directory : Path) : List (Path × String) → Disk.Change (List Path)
  | [] => return []
  | (relative, text) :: rest => do
    let path ← writeFile directory relative text
    let paths ← writeAll directory rest
    return path :: paths

/-- Writes files below a directory in the order of their paths. -/
def write (files : Files) (directory : Path) : Disk.Change (List Path) :=
  writeAll directory files.sorted

/-- The report of what was written. -/
def writtenRecord (paths : List Path) (directory : Path) : Log.Record :=
  ⟨.info, Log.loggerName (some "stubs"),
    "Wrote " ++ toString paths.length ++ " stub files to " ++ directory.text⟩

end Introspection.Stub
