import Introspection.Command.Run
import Introspection.Emission.Slots
import Introspection.Proofs.Log.LogFile
import Introspection.Proofs.Stub.Writing
import Introspection.Yaml.Document

/-!
# What a command does to the disk

A run reads and works out everything before it writes, and it writes only what it has worked out. A
failure that is told comes from the first half: from the configuration, from the input, or from what
was made of them. So a run that ends with one has changed nothing but its log. Writing can fail
too, but then something is in the way and nothing is missing, and that breaks the run off instead.

The text that is written and the text that is printed are one value. Which of the two is done with
it depends on a switch that nothing else looks at, so the two runs are the same up to there.

All this holds whatever tools the run is given. How a document is loaded, and what becomes of the
templates of users, is a matter of values alone, and no part of it needs to be known.

## Main results

* `Command.configureJournal_cases` — how a run begins
* `Command.emit_failed`, `Command.stubs_failed`, `Command.emit_finished` — how the two commands end
* `Command.run_effect` — a failing command leaves the disk alone, and both outputs agree
-/

namespace Introspection.Command

open Introspection.Path (Location)
open Log (AtWork Journal)
open Disk (KeepsOutside)

variable {tools : Tools} {stamp : String} {journal : Journal} {setting : Log.Setting}
  {disk after : Disk} {config : Config}

/-! ### Verdicts -/

instance : (exit : Exit) → Decidable (exit = .finished)
  | .finished => .isTrue rfl
  | .failed => .isFalse nofun
  | .broken _ => .isFalse nofun

instance : (exit : Exit) → Decidable (exit = .failed)
  | .finished => .isFalse nofun
  | .failed => .isTrue rfl
  | .broken _ => .isFalse nofun

/-- Concluding by a verdict leaves the disk alone. -/
theorem disk_conclude (verdict : Verdict) (journal : Journal) :
    (verdict.conclude journal).journal.disk = journal.disk := by
  cases verdict <;> rfl

theorem conclude_ne_finished (verdict : Verdict) (journal : Journal) :
    (verdict.conclude journal).exit ≠ .finished := by
  cases verdict <;> simp [Verdict.conclude]

/-- Trouble with the disk is told only where something is missing. -/
theorem diskVerdict_ne_failed (path : Path) {fault : Disk.Fault} (told : fault ≠ .notFound)
    (journal : Journal) : ((diskVerdict path fault).conclude journal).exit ≠ .failed := by
  cases fault with
  | notFound => exact absurd rfl told
  | _ => simp [diskVerdict, Verdict.conclude]

theorem onDisk_of_ok {α : Type} {change : Disk.Change α} {value : α}
    (h : change journal.disk = .ok value after) :
    onDisk journal change = (.ok value, { journal with disk := after }) := by
  rw [onDisk, h]

theorem onDisk_of_error {α : Type} {change : Disk.Change α} {fault : Disk.Fault}
    (h : change journal.disk = .error fault after) :
    onDisk journal change = (.error fault, { journal with disk := after }) := by
  rw [onDisk, h]

/-! ### Emitting -/

section

variable {declarations : Path}

theorem emit_of_error {fault : EmitFault} (output : Supplied Path)
    (h : (emission tools journal.disk config declarations).1 = .error fault) :
    emit tools stamp journal config declarations output =
      fault.verdict.conclude
        (journal.deliverAll stamp (emission tools journal.disk config declarations).2) := by
  simp only [emit, h]

theorem emit_of_ok {text : String} (output : Supplied Path)
    (h : (emission tools journal.disk config declarations).1 = .ok text) :
    emit tools stamp journal config declarations output =
      let reported := journal.deliverAll stamp (emission tools journal.disk config declarations).2
      match output with
      | .nothing => { exit := .finished, printed := text, journal := reported }
      | .blank => { exit := .broken (.blank "parent"), journal := reported }
      | .argument path =>
        match onDisk reported (writeText path text) with
        | (.error fault, written) => { exit := .broken (.disk path fault), journal := written }
        | (.ok (), written) =>
          { exit := .finished, journal := written.deliver stamp (writtenRecord path) } := by
  cases output with
  | argument path =>
    cases hwrite : onDisk
        (journal.deliverAll stamp (emission tools journal.disk config declarations).2)
        (writeText path text) with
    | mk result written => cases result <;> simp only [emit, h, hwrite]
  | _ => simp only [emit, h]

/-- Emitting fails before anything is written but the log. -/
theorem emit_failed (work : AtWork journal setting) {output : Supplied Path}
    (h : (emit tools stamp journal config declarations output).exit = .failed) :
    KeepsOutside setting.Writes journal.disk
      (emit tools stamp journal config declarations output).journal.disk := by
  cases hresult : (emission tools journal.disk config declarations).1 with
  | error fault =>
    rw [emit_of_error output hresult, disk_conclude]
    exact (work.deliverAll stamp _).2
  | ok text =>
    rw [emit_of_ok output hresult] at h
    cases output with
    | nothing => cases h
    | blank => cases h
    | argument path =>
      dsimp only at h
      split at h <;> cases h

/-- The text that was written is the one that is printed without an output. -/
theorem emit_finished (work : AtWork journal setting) {path : Path}
    (h : (emit tools stamp journal config declarations (.argument path)).exit = .finished)
    (free : ¬ setting.Writes (path.resolve journal.disk.working)) :
    (emit tools stamp journal config declarations .nothing).exit = .finished ∧
      (emit tools stamp journal config declarations (.argument path)).journal.disk.find?
          (path.resolve journal.disk.working) =
        some (.file (emit tools stamp journal config declarations .nothing).printed.toUTF8) := by
  cases hresult : (emission tools journal.disk config declarations).1 with
  | error fault =>
    rw [emit_of_error _ hresult] at h
    exact absurd h (conclude_ne_finished _ _)
  | ok text =>
    obtain ⟨work', kept⟩ :=
      work.deliverAll stamp (emission tools journal.disk config declarations).2
    rw [emit_of_ok _ hresult] at h ⊢
    rw [emit_of_ok _ hresult]
    generalize journal.deliverAll stamp (emission tools journal.disk config declarations).2 =
      reported at h work' kept ⊢
    refine ⟨rfl, ?_⟩
    rw [← kept.working] at free ⊢
    rcases Disk.deposit_cases work'.tree path text.toUTF8 with
      ⟨after, hrun, deposited⟩ | ⟨fault, after, hrun, -⟩
    · have hwrite : onDisk reported (writeText path text) =
          (.ok (), { reported with disk := after }) := onDisk_of_ok hrun
      have kept' := (work'.of_deposited free deposited).deliver stamp (writtenRecord path) |>.2
      dsimp only at kept' ⊢
      rw [hwrite]
      rcases kept'.frame _ free with hsame | ⟨hnone, -⟩
      · rw [hsame, deposited.held]
      · rw [deposited.held] at hnone
        cases hnone
    · have hwrite : onDisk reported (writeText path text) =
          (.error fault, { reported with disk := after }) := onDisk_of_error hrun
      dsimp only at h
      rw [hwrite] at h
      cases h

end

/-! ### Generating stub files -/

section

variable {document : Path} {root : Option String} {output : Option Path}

theorem stubs_of_error {fault : StubsFault}
    (h : (stubFiles journal.disk config document root).1 = .error fault) :
    stubs stamp journal config document output root =
      fault.verdict.conclude
        (journal.deliverAll stamp (stubFiles journal.disk config document root).2) := by
  simp only [stubs, h]

theorem stubs_of_ok {files : Stub.Files}
    (h : (stubFiles journal.disk config document root).1 = .ok files) :
    stubs stamp journal config document output root =
      let directory := output.getD config.stubs.outputDirectory
      let reported := journal.deliverAll stamp (stubFiles journal.disk config document root).2
      match onDisk reported (Stub.write files directory) with
      | (.error fault, written) => (diskVerdict directory fault).conclude written
      | (.ok paths, written) =>
        { exit := .finished
          printed := listing written.disk.working paths
          journal := written.deliver stamp (Stub.writtenRecord paths directory) } := by
  cases hwrite : onDisk (journal.deliverAll stamp (stubFiles journal.disk config document root).2)
      (Stub.write files (output.getD config.stubs.outputDirectory)) with
  | mk result written => cases result <;> simp only [stubs, h, hwrite]

/-- Generating stub files fails before anything is written but the log. -/
theorem stubs_failed (work : AtWork journal setting)
    (h : (stubs stamp journal config document output root).exit = .failed) :
    KeepsOutside setting.Writes journal.disk
      (stubs stamp journal config document output root).journal.disk := by
  cases hresult : (stubFiles journal.disk config document root).1 with
  | error fault =>
    rw [stubs_of_error hresult, disk_conclude]
    exact (work.deliverAll stamp _).2
  | ok files =>
    obtain ⟨work', -⟩ := work.deliverAll stamp (stubFiles journal.disk config document root).2
    rw [stubs_of_ok hresult] at h
    dsimp only [Stub.write] at h
    -- Writing makes what is missing, so if it fails, it breaks the run off.
    rcases Stub.writeAll_cases work'.tree (output.getD config.stubs.outputDirectory)
        files.sorted with
      ⟨after, hrun, -⟩ | ⟨fault, after, _, _, _, _, hrun, -, -, refused⟩
    · rw [onDisk_of_ok hrun] at h
      cases h
    · rw [onDisk_of_error hrun] at h
      exact absurd h (diskVerdict_ne_failed _ refused.told _)

end

/-! ### Whole runs -/

/-- The setting of the journal of a run. -/
def journalSetting (arguments : Arguments) (working : Location) : Log.Setting where
  verbose := arguments.verbose
  file := arguments.logFile.value?.map (·.resolve working)

/-- How a run begins: it breaks off, or its journal is at work and nothing but the log is new. -/
theorem configureJournal_cases (tree : disk.Tree) (stays : ".." ∉ disk.working)
    (arguments : Arguments) :
    (∃ breakdown journal,
        configureJournal arguments.verbose arguments.logFile disk = (.error breakdown, journal)) ∨
      ∃ journal, configureJournal arguments.verbose arguments.logFile disk = (.ok (), journal) ∧
        AtWork journal (journalSetting arguments disk.working) ∧
        KeepsOutside (journalSetting arguments disk.working).Writes disk journal.disk := by
  rw [configureJournal.eq_def]
  cases hrun : Journal.configure arguments.verbose arguments.logFile.value? { disk } with
  | error fault journal => exact .inl ⟨_, _, rfl⟩
  | ok _ journal =>
    have hwork := Log.atWork_configure tree stays hrun
    rw [← journalSetting] at hwork
    cases hfile : arguments.logFile with
    | blank => exact .inl ⟨_, _, rfl⟩
    | _ => exact .inr ⟨journal, rfl, hwork⟩

/-- A journal writes to the log file that is asked for. -/
theorem writes_journalSetting {arguments : Arguments} {working place : Location} :
    (journalSetting arguments working).Writes place ↔
      ∃ path, arguments.logFile = .argument path ∧ place = path.resolve working := by
  rw [Log.Setting.Writes, journalSetting]
  cases arguments.logFile with
  | argument path => simp [Supplied.value?, eq_comm]
  | _ => simp [Supplied.value?]

theorem run_of_broken {arguments : Arguments} {breakdown : Breakdown}
    (h : configureJournal arguments.verbose arguments.logFile disk = (.error breakdown, journal)) :
    run tools stamp arguments disk = { exit := .broken breakdown, journal } := by
  rw [run, h]

theorem run_of_begun {arguments : Arguments}
    (h : configureJournal arguments.verbose arguments.logFile disk = (.ok (), journal)) :
    run tools stamp arguments disk =
      match configOf tools journal.disk arguments.config with
      | .error verdict => verdict.conclude journal
      | .ok config => perform tools stamp journal config arguments.task := by
  cases hconfig : configOf tools journal.disk arguments.config <;> simp only [run, h, hconfig]

/-- A run fails before anything is written but the log. -/
theorem run_failed (tree : disk.Tree) (stays : ".." ∉ disk.working) {arguments : Arguments}
    (h : (run tools stamp arguments disk).exit = .failed) :
    KeepsOutside (journalSetting arguments disk.working).Writes disk
      (run tools stamp arguments disk).journal.disk := by
  rcases configureJournal_cases tree stays arguments with
    ⟨breakdown, journal, hbegin⟩ | ⟨journal, hbegin, work, kept⟩
  · rw [run_of_broken hbegin] at h
    cases h
  · rw [run_of_begun hbegin] at h ⊢
    refine kept.trans ?_
    cases hconfig : configOf tools journal.disk arguments.config with
    | error verdict =>
      dsimp only
      rw [disk_conclude]
      exact .refl _ _
    | ok config =>
      rw [hconfig] at h
      cases htask : arguments.task with
      | emit declarations output =>
        rw [htask] at h
        exact emit_failed work h
      | stubs document output root =>
        rw [htask] at h
        exact stubs_failed work h

/-- The same run without an output comes to the same end, with the text printed. -/
theorem run_emit_finished (tree : disk.Tree) (stays : ".." ∉ disk.working) {arguments : Arguments}
    {declarations output : Path} (htask : arguments.task = .emit declarations (.argument output))
    (h : (run tools stamp arguments disk).exit = .finished)
    (free : ¬ (journalSetting arguments disk.working).Writes (output.resolve disk.working)) :
    let plain := run tools stamp { arguments with task := .emit declarations .nothing } disk
    plain.exit = .finished ∧
      (run tools stamp arguments disk).journal.disk.find? (output.resolve disk.working) =
        some (.file plain.printed.toUTF8) := by
  intro plain
  rcases configureJournal_cases tree stays arguments with
    ⟨breakdown, journal, hbegin⟩ | ⟨journal, hbegin, work, kept⟩
  · rw [run_of_broken hbegin] at h
    cases h
  · have hplain : plain = match configOf tools journal.disk arguments.config with
        | .error verdict => verdict.conclude journal
        | .ok config => perform tools stamp journal config (.emit declarations .nothing) :=
      run_of_begun hbegin
    rw [hplain]
    rw [run_of_begun hbegin, htask] at h ⊢
    cases hconfig : configOf tools journal.disk arguments.config with
    | error verdict =>
      rw [hconfig] at h
      exact absurd h (conclude_ne_finished _ _)
    | ok config =>
      rw [hconfig] at h
      rw [← kept.working]
      exact emit_finished work h (kept.working ▸ free)

/-- **A failing command leaves the disk alone, and both outputs of emitting agree.**

A run that ends with a failure that is told has changed no file but its log, and made no other.
Emitting to a file that is not the log makes the file hold what the same command prints without an
output. -/
theorem run_effect (tools : Tools) (stamp : String) (tree : disk.Tree) (stays : ".." ∉ disk.working)
    (arguments : Arguments) :
    ((run tools stamp arguments disk).exit = .failed →
      KeepsOutside (fun place => ∃ path, arguments.logFile = .argument path ∧
          place = path.resolve disk.working)
        disk (run tools stamp arguments disk).journal.disk) ∧
    ∀ declarations output, arguments.task = .emit declarations (.argument output) →
      (run tools stamp arguments disk).exit = .finished →
      (∀ path, arguments.logFile = .argument path →
        output.resolve disk.working ≠ path.resolve disk.working) →
      let plain := run tools stamp { arguments with task := .emit declarations .nothing } disk
      plain.exit = .finished ∧
        (run tools stamp arguments disk).journal.disk.find? (output.resolve disk.working) =
          some (.file plain.printed.toUTF8) := by
  refine ⟨fun h => (run_failed tree stays h).mono fun place => writes_journalSetting.mp,
    fun declarations output htask h free => run_emit_finished tree stays htask h fun hwrites => ?_⟩
  obtain ⟨path, hpath, hplace⟩ := writes_journalSetting.mp hwrites
  exact free path hpath hplace

/-- The tools of this library, and no other pack. -/
def libraryTools : Tools where
  yaml := Yaml.load
  engine := Emission.Slots.engine
  packs := ⟨.slash, ["packs"]⟩

/-- A disk with a file that declares a function, a configuration, and a template of the user. -/
def declaring : Disk where
  entries :=
    [(["names.yml"], .file "elements: [{type: function, name: f}]".toUTF8),
      ([Config.fileName], .file "emit: {templates_dir: own}".toUTF8),
      (["own"], .directory),
      (["own", "fragment.j2"], .file "static \x7b\x7b static_name \x7d\x7d;".toUTF8)]

/-- A command line that asks for fragments of a file, and for a log. -/
def emitting (declarations : String) (output : Supplied Path) : Arguments where
  verbose := true
  logFile := .argument ⟨.relative, ["run.log"]⟩
  config := .nothing
  task := .emit ⟨.relative, [declarations]⟩ output

/-- Without its input emitting fails and leaves everything but the log alone. With it, the output
holds the text that is printed otherwise. -/
theorem run_effect_function :
    declaring.Tree ∧ ".." ∉ declaring.working ∧
    (let failing := run libraryTools "now"
      (emitting "other.yml" (.argument ⟨.relative, ["out.rs"]⟩)) declaring
     failing.exit = .failed ∧
     KeepsOutside (fun place => ∃ path : Path, Supplied.argument ⟨.relative, ["run.log"]⟩ =
       .argument path ∧ place = path.resolve []) declaring failing.journal.disk) ∧
    let written := run libraryTools "now"
      (emitting "names.yml" (.argument ⟨.relative, ["out.rs"]⟩)) declaring
    let plain := run libraryTools "now" (emitting "names.yml" .nothing) declaring
    written.exit = .finished ∧ plain.exit = .finished ∧
      written.journal.disk.find? ["out.rs"] = some (.file plain.printed.toUTF8) := by
  have tree : declaring.Tree := by
    refine Disk.tree_of_entries rfl fun entry h => ?_
    simp only [declaring, List.mem_cons, List.not_mem_nil, or_false] at h
    rcases h with rfl | rfl | rfl | rfl <;> rfl
  have stays : ".." ∉ declaring.working := List.not_mem_nil
  have hfailed : (run libraryTools "now" (emitting "other.yml" (.argument ⟨.relative, ["out.rs"]⟩))
      declaring).exit = .failed := by decide +kernel
  have hfinished : (run libraryTools "now"
      (emitting "names.yml" (.argument ⟨.relative, ["out.rs"]⟩)) declaring).exit = .finished := by
    decide +kernel
  refine ⟨tree, stays, ⟨hfailed, (run_effect libraryTools "now" tree stays _).1 hfailed⟩,
    hfinished, ?_⟩
  have hfree : ∀ path, (emitting "names.yml" (.argument ⟨.relative, ["out.rs"]⟩)).logFile =
      .argument path → (⟨.relative, ["out.rs"]⟩ : Path).resolve declaring.working ≠
        path.resolve declaring.working := by
    rintro path hpath
    obtain rfl := Supplied.argument.inj hpath
    decide
  exact (run_effect libraryTools "now" tree stays _).2 _ _ rfl hfinished hfree

end Introspection.Command
