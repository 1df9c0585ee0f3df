import Introspection.Calendar
import Introspection.Command.Footprint
import Introspection.Emission.Slots
import Introspection.Yaml.Document

/-!
# The command line program

Loads what a run looks at, runs it on the loaded disk, and puts what has changed on the real one.
The tools of the run are those of this library: its loader of YAML and its templates with slots.

## Main definitions

* `Main.tools`
* `Main.load`, `Main.save`
* `Main.homes`
* `main`
-/

namespace Introspection.Main

open Introspection.Path (Location)

/-- The tools of runs. Packs are looked up beside the program. -/
def tools : IO Command.Tools := do
  let directory := (← IO.appDir) / "templates"
  return { yaml := Yaml.load, engine := Emission.Slots.engine, packs := .ofText directory.toString }

/-- Loads what is at a place of the real disk, unless it is loaded already. -/
def loadPlace (disk : Disk) (location : Location) : IO Disk := do
  if (disk.find? location).isSome then return disk
  let file := (← IO.currentDir) / (Path.ofLocation location).text
  if ← file.isDir then return disk.put location .directory
  if ← file.pathExists then return disk.put location (.file (← IO.FS.readBinFile file))
  return disk

/-- Loads what a run looks at, as far as the disk tells. -/
def load (tools : Command.Tools) (arguments : Command.Arguments) (disk : Disk) : IO Disk :=
  ((Command.footprint tools arguments disk).flatMap fun path =>
    Command.trail path disk.working).foldlM loadPlace disk

/-- Puts what has changed on the real disk. -/
def save (before after : Disk) : IO Unit :=
  after.entries.forM fun (location, entry) => do
    if before.find? location = some entry then return
    let file := (← IO.currentDir) / (Path.ofLocation location).text
    match entry with
    | .directory => IO.FS.createDirAll file
    | .file bytes => IO.FS.writeBinFile file bytes

/-- The stamp of the present moment, told by a file that is made for it. -/
def now : IO String :=
  IO.FS.withTempFile fun _ file => do
    let modified := (← file.metadata).modified
    return Calendar.stamp (modified.sec.toNat * 1000 + modified.nsec.toNat / 1000000)

/-- The home directory in a line of the table of accounts, with the name of the account. -/
def homeOf? (line : String) : Option (String × Path) :=
  match line.splitOn ":" with
  | [name, _, _, _, _, home, _] => some (name, .ofText home)
  | _ => none

/-- The home directories of accounts. -/
def homes : IO (List (String × Path)) := do
  let own := (← IO.getEnv "HOME").map fun home => ("", Path.ofText home)
  let lines ← try IO.FS.lines "/etc/passwd" catch _ => pure #[]
  return own.toList ++ lines.toList.filterMap homeOf?

/-- Runs a command and gives the exit code. -/
def perform (arguments : Command.Arguments) : IO UInt32 := do
  let working := (Path.ofText (← IO.currentDir).toString).parts
  let tools ← tools
  let disk ← load tools arguments { working, homes := ← homes }
  let disk ← load tools arguments disk
  let disk ← load tools arguments disk
  let outcome := Command.run tools (← now) arguments disk
  save disk outcome.journal.disk
  IO.print outcome.printed
  IO.eprint outcome.journal.consoleText
  match outcome.exit with
  | .finished => return 0
  | .failed => return 1
  | .broken breakdown =>
    IO.eprintln breakdown.message
    return 1

end Introspection.Main

/-- Emits metadata fragments for declared elements, or generates stub files from recovered ones. -/
def main (arguments : List String) : IO UInt32 := do
  match Introspection.Command.parse arguments with
  | .ok arguments => Introspection.Main.perform arguments
  | .error .help =>
    IO.print Introspection.Command.usage
    return 0
  | .error .misuse =>
    IO.eprint Introspection.Command.usage
    return 2
