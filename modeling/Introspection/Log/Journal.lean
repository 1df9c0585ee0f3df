import Introspection.Disk.Change
import Introspection.Log.Record

/-!
# Where records go

A configured journal has a threshold and handlers. Every record that reaches the threshold is
offered to each handler, which writes it to its target: the console, or a file. Configuring sets the
threshold, lets go of all handlers that were there and attaches new ones, that of the console first
and that of the file, if one was given, as soon as the file is open. So if it cannot be opened, the
new threshold and the console stand, and the old file is let go.

The lines of a file start with a stamp, which tells the time and is given from outside. Files are
only ever added to.

Before anything is configured, warnings and graver records go to the console as bare text.

## Main definitions

* `Log.Handler`, `Log.Sinks`, `Log.Journal`
* `Log.Journal.configure`
* `Log.Journal.deliver`, `Log.Journal.deliverAll`
* `Log.Journal.Step`, `Log.Journal.step`, `Log.Journal.run` — configuring and delivering in turn
-/

namespace Introspection.Log

open Introspection.Path (Location)

/-- What records are written to. -/
inductive Target where
  | console
  | file (location : Location)
deriving DecidableEq, Inhabited, Repr

/-- Records from a level on, and what they are written to. -/
structure Handler where
  target : Target
  threshold : Level
deriving DecidableEq, Inhabited, Repr

/-- The threshold of a configured journal, and its handlers. -/
structure Sinks where
  threshold : Level
  handlers : List Handler
deriving DecidableEq, Inhabited, Repr

/-- How many handlers there are. -/
def Sinks.count (sinks : Sinks) : Nat :=
  sinks.handlers.length

/-- The sinks, once configured, and what has been written to the console and to the disk. -/
structure Journal where
  sinks : Option Sinks := none
  /-- The texts written to the console, in order. -/
  console : List String := []
  disk : Disk

namespace Journal

/-- All that was written to the console. -/
def consoleText (journal : Journal) : String :=
  String.join journal.console

/-- Writes a text to the console. -/
def say (journal : Journal) (text : String) : Journal :=
  { journal with console := journal.console ++ [text] }

/-- The threshold of a journal, verbose or not. -/
def thresholdOf (verbose : Bool) : Level :=
  if verbose then .debug else .info

/-- Opens a file for records, with the directories around it. -/
def openFile (path : Path) : Disk.Change Location := do
  Disk.ensureDirectory path.parent
  let disk ← get
  Disk.openForAppending (.ofLocation (path.resolve disk.working))

/-- Opens a file for records on the disk of a journal. -/
def opening (path : Path) : EStateM Disk.Fault Journal Location := fun journal =>
  match openFile path journal.disk with
  | .ok location disk => .ok location { journal with disk }
  | .error fault disk => .error fault { journal with disk }

/-- What is left of handlers when each of them is let go. -/
def released (handlers : List Handler) : List Handler :=
  handlers.foldl List.erase handlers

/-- Sets the threshold and lets go of the handlers. -/
def reset (threshold : Level) (journal : Journal) : Journal :=
  let handlers := (journal.sinks.map Sinks.handlers).getD []
  { journal with sinks := some ⟨threshold, released handlers⟩ }

/-- Adds a handler behind the others. -/
def attach (handler : Handler) (journal : Journal) : Journal :=
  { journal with
    sinks := journal.sinks.map fun sinks =>
      { sinks with handlers := sinks.handlers ++ [handler] } }

/-- Replaces threshold and handlers. -/
def configure (verbose : Bool) (file : Option Path) : EStateM Disk.Fault Journal Unit := do
  let threshold := thresholdOf verbose
  modify (reset threshold)
  modify (attach ⟨.console, threshold⟩)
  if let some path := file then
    let location ← opening path
    modify (attach ⟨.file location, threshold⟩)

/-- A record as a line on the console. -/
def consoleLine (record : Record) : String :=
  "[" ++ rootLogger ++ "] " ++ record.level.name ++ " " ++ record.message ++ "\n"

/-- A record as a line in a file. -/
def fileLine (stamp : String) (record : Record) : String :=
  stamp ++ " " ++ record.level.name ++ " " ++ record.logger ++ ": " ++ record.message ++ "\n"

/-- Offers a record to a handler. -/
def handle (stamp : String) (record : Record) (journal : Journal) (handler : Handler) : Journal :=
  if handler.threshold.weight ≤ record.level.weight then
    match handler.target with
    | .console => journal.say (consoleLine record)
    | .file location =>
      { journal with
        disk := journal.disk.appendAt location (fileLine stamp record).toUTF8 }
  else journal

/-- Writes a record wherever it has to go. -/
def deliver (stamp : String) (journal : Journal) (record : Record) : Journal :=
  match journal.sinks with
  | none =>
    if Level.warning.weight ≤ record.level.weight then journal.say (record.message ++ "\n")
    else journal
  | some sinks =>
    if sinks.threshold.weight ≤ record.level.weight then
      sinks.handlers.foldl (handle stamp record) journal
    else journal

/-- Writes records in order. -/
def deliverAll (stamp : String) (journal : Journal) (records : List Record) : Journal :=
  records.foldl (deliver stamp) journal

/-- Something that happens to a journal. -/
inductive Step where
  | configure (verbose : Bool) (file : Option Path)
  | record (record : Record)
deriving Inhabited

/-- What becomes of a journal in a step, and the fault if the step is a failed configuration. -/
def step (stamp : String) (journal : Journal) : Step → Option Disk.Fault × Journal
  | .configure verbose file =>
    match configure verbose file journal with
    | .ok () journal => (none, journal)
    | .error fault journal => (some fault, journal)
  | .record record => (none, journal.deliver stamp record)

/-- What becomes of a journal in the course of some steps, each with the stamp of its time. Faults do
not end the course. -/
def run (journal : Journal) (steps : List (String × Step)) : Journal :=
  steps.foldl (fun journal (stamp, next) => (journal.step stamp next).2) journal

end Journal

end Introspection.Log
