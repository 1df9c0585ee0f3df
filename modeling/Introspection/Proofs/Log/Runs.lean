import Introspection.Proofs.Log.LogFile

/-!
# Runs of a journal on a tree

On a tree it can be told when a configuration opens its file, and where. So a run that starts with a
configuration is told to the end: which handlers there are after each configuration, what is on the
console, and what every place of the disk holds.

## Scope

A disk may have limits on names and paths, and may refuse a file for them. That a file which can be
opened is open is said only of disks without limits.

## Main definitions

* `Log.Replaces` — what a configuration does to the handlers

## Main results

* `Log.Journal.replaces_of_tree` — what becomes of the handlers in one configuration
* `Log.Journal.run_delivers` — what becomes of everything in a run
-/

namespace Introspection.Log

open Disk (Grows)

/-- A configuration replaces the handlers by one for the console, and by one for the file if it has
opened it. -/
structure Replaces (verbose : Bool) (file : Option Path) (before : Journal)
    (fault : Option Disk.Fault) (after : Journal) : Prop where
  sinks : after.sinks = some (settingOf verbose file before.disk).sinks
  /-- It fails exactly if a file was given that is not open. -/
  failed : fault = none ↔ file.isSome = (settingOf verbose file before.disk).file.isSome
  /-- The file that is open is the one that was given, in the place that its path names. -/
  opened : ∀ place, (settingOf verbose file before.disk).file = some place →
    ∃ path, file = some path ∧ place = path.resolve before.disk.working ∧
      Openable before.disk path
  /-- Unless there are limits, a file that can be opened is open. -/
  complete : before.disk.limits = none → ∀ path, file = some path → Openable before.disk path →
    (settingOf verbose file before.disk).file = some (path.resolve before.disk.working)

namespace Journal

variable {journal : Journal} {stamp : String} {verbose : Bool} {file : Option Path}
  {rest front : List (String × Step)}

/-- **Handlers are replaced on a tree,** whatever they were. -/
theorem replaces_of_tree (journal : Journal) (tree : journal.disk.Tree)
    (stays : ".." ∉ journal.disk.working) (stamp : String) (verbose : Bool) (file : Option Path) :
    Replaces verbose file journal (journal.step stamp (.configure verbose file)).1
      (journal.step stamp (.configure verbose file)).2 := by
  have configured := step_configure stamp verbose file journal
  refine ⟨configured.isSet.sinks, configured.opened, fun place hplace => ?_,
    fun unlimited path hpath openable => ?_⟩
  · cases file with
    | none => cases hplace
    | some path =>
      rcases opened?_cases tree stays path with ⟨hopened, openable⟩ | ⟨hclosed, -⟩
      · exact ⟨path, rfl, Option.some.inj (hplace.symm.trans hopened), openable⟩
      · cases hplace.symm.trans hclosed
  · rw [hpath]
    rcases opened?_cases tree stays path with ⟨hopened, -⟩ | ⟨-, hindered⟩
    · exact hopened
    · exact absurd openable (hindered unlimited)

/-- The disk is a tree at all times of a run that starts with a configuration, with paths that start
in the same place. -/
theorem tree_of_run_prefix (tree : journal.disk.Tree) (stays : ".." ∉ journal.disk.working)
    (early : front <+: (stamp, .configure verbose file) :: rest) :
    (journal.run front).disk.Tree ∧ (journal.run front).disk.working = journal.disk.working := by
  rcases List.prefix_cons_iff.mp early with rfl | ⟨front, rfl, -⟩
  · exact ⟨tree, rfl⟩
  · obtain ⟨work, kept⟩ := atWork_configured journal tree stays stamp verbose file
    have hworking := kept.working
    obtain ⟨⟨_, work'⟩, hworking'⟩ := work.run (hworking ▸ stays) front
    exact ⟨work'.tree, hworking'.trans hworking⟩

/-- **Records are delivered exactly once, to the sinks of the last configuration.**

In a run that starts with a configuration, every configuration leaves one handler for the console,
and one for a file exactly if a file was given and is open, which fails it otherwise. In the end the
console has one line for every record that reached the level of the configuration before it. Every
place holds what it held, and one line for each of these records that met it as the current file.
Between any two moments of the run files only grow. What the ledger starts from does not matter, as
the first step sets it. -/
theorem run_delivers (journal : Journal) (tree : journal.disk.Tree)
    (stays : ".." ∉ journal.disk.working) (setting : Setting) (stamp : String) (verbose : Bool)
    (file : Option Path) (rest : List (String × Step)) :
    let steps := (stamp, .configure verbose file) :: rest
    let entries := ledger journal setting steps
    (∀ front stamp' verbose' file' back,
      steps = front ++ (stamp', .configure verbose' file') :: back →
      let before := journal.run front
      let outcome := before.step stamp' (.configure verbose' file')
      before.disk.working = journal.disk.working ∧
        Replaces verbose' file' before outcome.1 outcome.2) ∧
    (journal.run steps).console = journal.console ++ consoleLines entries ∧
    (∀ place, (journal.run steps).disk.heldAt place =
      journal.disk.heldAt place ++ (fileText place entries).toUTF8) ∧
    ∀ front middle back, steps = front ++ middle ++ back →
      Grows (journal.run front).disk (journal.run (front ++ middle)).disk := by
  have configured := step_configure stamp verbose file journal
  obtain ⟨hconsole, hheld⟩ := run_isSet configured.isSet rest
  dsimp only
  refine ⟨fun front stamp' verbose' file' back hsplit => ?_, ?_, fun place => ?_,
    fun front middle _ _ => ?_⟩
  · obtain ⟨tree', hworking⟩ := tree_of_run_prefix tree stays ⟨_, hsplit.symm⟩
    exact ⟨hworking, replaces_of_tree (journal.run front) tree' (hworking ▸ stays) _ _ _⟩
  · rw [run_cons, ledger, hconsole, configured.console]
  · rw [run_cons, ledger, hheld, configured.held]
  · rw [run_append]
    exact grows_run _ middle

/-- A journal on a disk with a file where a directory would be needed. -/
def takenJournal : Journal where
  disk := { entries := [(["taken"], .file "a file\n".toUTF8)], limits := none }

/-- The file of a log. -/
def logFile : Path := .ofText "logs/run.log"

/-- A path below a file. -/
def takenFile : Path := .ofText "taken/run.log"

/-- A run that configures a file, fails to configure another one, and configures the first one
again. -/
def repeatedRun : List (String × Step) :=
  [("1", .configure true (some logFile)),
    ("2", .record ⟨.debug, "stubsmith.emit", "first"⟩),
    ("3", .configure false (some takenFile)),
    ("4", .record ⟨.info, "stubsmith", "second"⟩),
    ("5", .configure false (some logFile)),
    ("6", .record ⟨.debug, "stubsmith.emit", "third"⟩),
    ("7", .record ⟨.numbered 35, "stubsmith.resolve", "fourth"⟩)]

/-- The step that fails. -/
def failedStep : Option Disk.Fault × Journal :=
  (takenJournal.run (repeatedRun.take 2)).step "3" (.configure false (some takenFile))

/-- The record between the failure and the next configuration is on the console only, and the one
that is not grave enough is nowhere. -/
theorem run_delivers_repeated :
    takenJournal.disk.Tree ∧ ".." ∉ takenJournal.disk.working ∧
      failedStep.1 = some .alreadyThere ∧
      failedStep.2.sinks = some ⟨.info, [⟨.console, .info⟩]⟩ ∧
      (takenJournal.run repeatedRun).console =
        ["[stubsmith] DEBUG first\n", "[stubsmith] INFO second\n",
          "[stubsmith] Level 35 fourth\n"] ∧
      (takenJournal.run repeatedRun).disk.heldAt ["logs", "run.log"] =
        "2 DEBUG stubsmith.emit: first\n7 Level 35 stubsmith.resolve: fourth\n".toUTF8 ∧
      (takenJournal.run repeatedRun).disk.heldAt ["taken"] = "a file\n".toUTF8 := by
  have tree : takenJournal.disk.Tree := Disk.tree_of_entries rfl (by decide +kernel)
  have stays : ".." ∉ takenJournal.disk.working := by decide
  obtain ⟨hconfigured, hconsole, hheld, -⟩ :=
    run_delivers takenJournal tree stays default "1" true (some logFile) repeatedRun.tail
  obtain ⟨-, replaces⟩ := hconfigured (repeatedRun.take 2) "3" false (some takenFile)
    (repeatedRun.drop 3) rfl
  refine ⟨tree, stays, by decide +kernel, ?_, hconsole.trans (by decide +kernel),
    (hheld ["logs", "run.log"]).trans (by decide +kernel),
    (hheld ["taken"]).trans (by decide +kernel)⟩
  rw [failedStep, replaces.sinks]
  decide +kernel

end Journal

end Introspection.Log
