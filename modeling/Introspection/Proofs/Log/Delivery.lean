import Introspection.Log.Journal
import Introspection.Proofs.Disk.Appending

/-!
# Records reach the current sinks, once

A journal is configured again and again, and records come in between. Every configuration lets go of
all handlers, so what was there before it has no say in what happens after it: the last one alone
decides which records are written, and where to. It may fail to open its file; then the console
stands all the same, and no file is written to until the next one.

So a run is told without its handlers. Every configuration comes down to a setting, and every record
of the run is entered in a ledger together with the setting that it meets. What is on the console in
the end, and what every place of the disk holds, can be read from the ledger. The lines are spelled
out here once more, letter by letter, and so are the levels that they have to reach.

Files that grow are a matter of their own. They do so in every step of any journal, whatever its
handlers.

## Main definitions

* `Log.Setting`, `Log.settingOf` — what a configuration comes down to
* `Log.Entry`, `Log.ledger` — the records of a run, and the settings they meet
* `Log.label`, `Log.Entry.onConsole`, `Log.Entry.inFile` — the lines of a record
* `Log.consoleLines`, `Log.fileText` — what a ledger puts on the console and in a file
* `Log.IsSet` — a journal with the handlers of a setting
* `Log.Journal.Configured` — what a configuration does to a journal

## Main results

* `Log.Journal.step_configure` — what becomes of a journal that is configured
* `Log.Journal.deliver_isSet` — what becomes of it when a record comes
* `Log.Journal.run_isSet` — the console and the disk after a run
* `Log.Journal.grows_run` — files grow
-/

namespace Introspection.Log

open Introspection.Path (Location)
open Disk (Grows KeepsOutside)

/-! ### Settings and ledgers -/

/-- What a configuration comes down to: whether it is a verbose one, and the file that it has
opened. -/
structure Setting where
  verbose : Bool
  file : Option Location
deriving DecidableEq, Inhabited, Repr

namespace Setting

/-- The level that records have to reach. -/
def threshold (setting : Setting) : Level :=
  if setting.verbose then .debug else .info

/-- One handler for the console, and one for the file if there is one. -/
def sinks (setting : Setting) : Sinks where
  threshold := setting.threshold
  handlers := ⟨.console, setting.threshold⟩ ::
    (setting.file.map fun location => ⟨.file location, setting.threshold⟩).toList

/-- Whether a record is grave enough. -/
def Takes (setting : Setting) (record : Record) : Prop :=
  (if setting.verbose then 10 else 20) ≤ record.level.number

instance (setting : Setting) (record : Record) : Decidable (setting.Takes record) :=
  inferInstanceAs (Decidable (_ ≤ _))

theorem number_threshold (setting : Setting) :
    setting.threshold.number = if setting.verbose then 10 else 20 := by
  rw [threshold]
  cases setting.verbose <;> rfl

theorem takes_iff {setting : Setting} {record : Record} :
    setting.Takes record ↔ setting.threshold.weight ≤ record.level.weight := by
  have hpositive : 0 < setting.threshold.number := by
    rw [number_threshold]
    split <;> decide
  rw [Takes, ← number_threshold, Level.weight, Level.weight]
  omega

end Setting

/-- The place of a file that is opened for records, if one is given and can be opened. -/
def opened? (file : Option Path) (disk : Disk) : Option Location :=
  file.bind fun path =>
    match Journal.openFile path disk with
    | .ok location _ => some location
    | .error _ _ => none

theorem opened?_of_ok {path : Path} {disk after : Disk} {location : Location}
    (h : Journal.openFile path disk = .ok location after) :
    opened? (some path) disk = some location := by
  rw [opened?, Option.bind_some, h]

theorem opened?_of_error {path : Path} {disk after : Disk} {fault : Disk.Fault}
    (h : Journal.openFile path disk = .error fault after) : opened? (some path) disk = none := by
  rw [opened?, Option.bind_some, h]

/-- The setting of a configuration on a disk. -/
def settingOf (verbose : Bool) (file : Option Path) (disk : Disk) : Setting where
  verbose := verbose
  file := opened? file disk

/-- A record with the setting that it meets and the stamp of its time. -/
structure Entry where
  setting : Setting
  stamp : String
  record : Record
deriving DecidableEq, Inhabited, Repr

/-- What a level is called. -/
def label : Level → String
  | .debug | .numbered 10 => "DEBUG"
  | .info | .numbered 20 => "INFO"
  | .warning | .numbered 30 => "WARNING"
  | .error | .numbered 40 => "ERROR"
  | .critical | .numbered 50 => "CRITICAL"
  | .numbered 0 => "NOTSET"
  | .numbered number => "Level " ++ toString number

namespace Entry

/-- Whether the record is grave enough for the setting. -/
def IsTaken (entry : Entry) : Prop :=
  entry.setting.Takes entry.record

instance (entry : Entry) : Decidable entry.IsTaken :=
  inferInstanceAs (Decidable (entry.setting.Takes entry.record))

/-- The line of the record on the console. -/
def onConsole (entry : Entry) : String :=
  "[stubsmith] " ++ label entry.record.level ++ " " ++ entry.record.message ++ "\n"

/-- The line of the record in a file: the time, the level, the logger and the message. -/
def inFile (entry : Entry) : String :=
  entry.stamp ++ " " ++ label entry.record.level ++ " " ++ entry.record.logger ++ ": " ++
    entry.record.message ++ "\n"

end Entry

/-- The records of a run in order, each with the setting of the last configuration before it. -/
def ledger (journal : Journal) (setting : Setting) : List (String × Journal.Step) → List Entry
  | [] => []
  | (stamp, .configure verbose file) :: rest =>
    ledger (journal.step stamp (.configure verbose file)).2
      (settingOf verbose file journal.disk) rest
  | (stamp, .record record) :: rest =>
    ⟨setting, stamp, record⟩ :: ledger (journal.step stamp (.record record)).2 setting rest

/-- The lines of a ledger on the console, one for every record that is taken. -/
def consoleLines (entries : List Entry) : List String :=
  (entries.filter (·.IsTaken)).map Entry.onConsole

/-- What a ledger adds to the file at a place: one line for every record that is taken while the
place is that of the current file. -/
def fileText (place : Location) (entries : List Entry) : String :=
  String.join <|
    (entries.filter fun entry => entry.IsTaken ∧ entry.setting.file = some place).map Entry.inFile

/-- A journal has the handlers of a setting, and its file is in no place that is a directory
always. -/
structure IsSet (journal : Journal) (setting : Setting) : Prop where
  sinks : journal.sinks = some setting.sinks
  named : setting.file ≠ some []

namespace Journal

variable {journal : Journal} {setting : Setting} {stamp : String} {disk : Disk}

/-! ### Configuring -/

theorem foldl_erase_append (handlers rest : List Handler) :
    handlers.foldl List.erase (handlers ++ rest) = rest := by
  induction handlers with
  | nil => rfl
  | cons handler handlers ih => rw [List.foldl_cons, List.cons_append, List.erase_cons_head, ih]

/-- All handlers are let go of. -/
theorem released_eq_nil (handlers : List Handler) : released handlers = [] := by
  simpa [released] using foldl_erase_append handlers []

theorem reset_eq (threshold : Level) (journal : Journal) :
    reset threshold journal = { journal with sinks := some ⟨threshold, []⟩ } := by
  rw [reset, released_eq_nil]

theorem configure_none (verbose : Bool) (journal : Journal) :
    configure verbose none journal =
      .ok () { journal with sinks := some (Setting.sinks ⟨verbose, none⟩) } := by
  show EStateM.Result.ok () (attach _ (reset _ journal)) = _
  rw [reset_eq]
  rfl

theorem configure_some (verbose : Bool) (path : Path) (journal : Journal) :
    configure verbose (some path) journal =
      match openFile path journal.disk with
      | .ok location disk =>
        .ok () { journal with disk, sinks := some (Setting.sinks ⟨verbose, some location⟩) }
      | .error fault disk =>
        .error fault { journal with disk, sinks := some (Setting.sinks ⟨verbose, none⟩) } := by
  show EStateM.bind (opening path) _ (attach _ (reset _ journal)) = _
  rw [reset_eq, EStateM.bind, opening]
  dsimp only [attach]
  cases openFile path journal.disk <;> rfl

/-- A file for records is opened, with directories around it that may be new. -/
theorem openFile_cases (path : Path) (disk : Disk) :
    (∃ location middle, openFile path disk = .ok location (middle.appendAt location .empty) ∧
        KeepsOutside (fun _ => False) disk middle ∧ middle.find? location ≠ some .directory) ∨
      ∃ fault after, openFile path disk = .error fault after ∧
        KeepsOutside (fun _ => False) disk after := by
  have hkept : KeepsOutside (fun _ => False) disk
      (Disk.reached (Disk.ensureDirectory path.parent disk)) := Disk.keepsOutside_ensureDirectory _
  cases hrun : Disk.ensureDirectory path.parent disk with
  | error fault after =>
    rw [hrun] at hkept
    exact .inr ⟨fault, after, bind_eq_of_error hrun, hkept⟩
  | ok _ middle =>
    rw [hrun] at hkept
    rcases Disk.openForAppending_cases (.ofLocation (path.resolve middle.working)) middle with
      ⟨free, hopen⟩ | ⟨fault, hopen⟩
    · exact .inl ⟨_, middle, (bind_eq_of_ok hrun).trans hopen, hkept, free⟩
    · exact .inr ⟨fault, middle, (bind_eq_of_ok hrun).trans hopen, hkept⟩

/-- What is different when a journal was configured: it has the handlers of its setting. It is the
same on the console and in all files, and it has failed if a file was given and is not open. -/
structure Configured (verbose : Bool) (file : Option Path) (before : Journal)
    (fault : Option Disk.Fault) (after : Journal) : Prop where
  isSet : IsSet after (settingOf verbose file before.disk)
  opened : fault = none ↔ file.isSome = (opened? file before.disk).isSome
  console : after.console = before.console
  held : ∀ place, after.disk.heldAt place = before.disk.heldAt place
  grows : Grows before.disk after.disk

/-- **Configuring replaces all handlers,** whatever they were and whether it fails or not. -/
theorem step_configure (stamp : String) (verbose : Bool) (file : Option Path) (journal : Journal) :
    Configured verbose file journal (journal.step stamp (.configure verbose file)).1
      (journal.step stamp (.configure verbose file)).2 := by
  cases file with
  | none =>
    rw [step, configure_none]
    exact ⟨⟨rfl, by simp [settingOf, opened?]⟩, by simp [opened?], rfl, fun _ => rfl, .refl _⟩
  | some path =>
    rw [step, configure_some]
    rcases openFile_cases path journal.disk with
      ⟨location, middle, hrun, kept, free⟩ | ⟨fault, after, hrun, kept⟩
    · have named : location ≠ [] := by
        rintro rfl
        exact free rfl
      have hopened := opened?_of_ok hrun
      rw [hrun]
      refine ⟨⟨by rw [settingOf, hopened], by simpa [settingOf, hopened]⟩, by simp [hopened], rfl,
        fun place => ?_, kept.grows.trans (Disk.grows_appendAt _ _)⟩
      rw [Disk.heldAt_appendAt named, ite_self, ByteArray.append_empty, kept.heldAt]
    · have hopened := opened?_of_error hrun
      rw [hrun]
      exact ⟨⟨by rw [settingOf, hopened], by simp [settingOf, hopened]⟩, by simp [hopened], rfl,
        kept.heldAt, kept.grows⟩

/-! ### Records -/

theorem label_eq_name (level : Level) : label level = level.name := by
  unfold label
  split
  case h_12 number h10 h20 h30 h40 h50 h0 =>
    -- The number is none of those that have a name.
    have hnone : Level.names.lookup number = none := by
      simp only [Level.names, List.lookup_cons, beq_false_of_ne h0, beq_false_of_ne h10,
        beq_false_of_ne h20, beq_false_of_ne h30, beq_false_of_ne h40, beq_false_of_ne h50]
      rfl
    rw [Level.name, Level.number, hnone]
    rfl
  all_goals rfl

/-- The lines of records are as they are spelled out. -/
theorem consoleLine_eq (setting : Setting) (stamp : String) (record : Record) :
    consoleLine record = Entry.onConsole ⟨setting, stamp, record⟩ := by
  rw [consoleLine, Entry.onConsole, label_eq_name]
  rfl

theorem fileLine_eq (setting : Setting) (stamp : String) (record : Record) :
    fileLine stamp record = Entry.inFile ⟨setting, stamp, record⟩ := by
  rw [fileLine, Entry.inFile, label_eq_name]

/-- Files grow when a record is offered to a handler. -/
theorem grows_handle (record : Record) (journal : Journal) (handler : Handler) :
    Grows journal.disk (handle stamp record journal handler).disk := by
  rw [handle]
  split
  · split
    · exact .refl _
    · exact Disk.grows_appendAt _ _
  · exact .refl _

theorem grows_deliver (record : Record) (journal : Journal) :
    Grows journal.disk (journal.deliver stamp record).disk := by
  have hfold : ∀ (handlers : List Handler) (journal : Journal),
      Grows journal.disk (handlers.foldl (handle stamp record) journal).disk := by
    intro handlers
    induction handlers with
    | nil => exact fun journal => .refl _
    | cons handler handlers ih =>
      exact fun journal => (grows_handle record journal handler).trans (ih _)
  rw [deliver]
  split
  · split <;> exact .refl _
  · split
    · exact hfold _ journal
    · exact .refl _

/-- A record that is not grave enough changes nothing. -/
theorem deliver_of_not_takes (isSet : IsSet journal setting) {record : Record}
    (low : ¬ setting.Takes record) : journal.deliver stamp record = journal := by
  rw [deliver, isSet.sinks]
  exact if_neg (mt Setting.takes_iff.mpr low)

/-- A record that is grave enough is offered to both handlers and taken by both. -/
theorem deliver_of_takes (isSet : IsSet journal setting) {record : Record}
    (takes : setting.Takes record) :
    journal.deliver stamp record =
      match setting.file with
      | none => journal.say (consoleLine record)
      | some location =>
        { journal.say (consoleLine record) with
          disk := journal.disk.appendAt location (fileLine stamp record).toUTF8 } := by
  have hweight := Setting.takes_iff.mp takes
  have hconsole : handle stamp record journal ⟨.console, setting.threshold⟩ =
      journal.say (consoleLine record) := if_pos hweight
  rw [deliver, isSet.sinks]
  refine (if_pos hweight).trans ?_
  rw [Setting.sinks, List.foldl_cons, hconsole]
  cases setting.file with
  | none => rfl
  | some location => exact if_pos hweight

/-- **What a record does to a journal is what its line in the ledger says.** -/
theorem deliver_isSet (isSet : IsSet journal setting) (stamp : String) (record : Record) :
    IsSet (journal.deliver stamp record) setting ∧
      (journal.deliver stamp record).console =
        journal.console ++ consoleLines [⟨setting, stamp, record⟩] ∧
      ∀ place, (journal.deliver stamp record).disk.heldAt place =
        journal.disk.heldAt place ++ (fileText place [⟨setting, stamp, record⟩]).toUTF8 := by
  by_cases takes : setting.Takes record
  · rw [deliver_of_takes isSet takes]
    cases hfile : setting.file with
    | none =>
      refine ⟨⟨isSet.sinks, isSet.named⟩, ?_, fun place => ?_⟩
      · simp [consoleLines, Entry.IsTaken, takes, say, consoleLine_eq setting stamp]
      · simp [fileText, hfile, say]
    | some location =>
      have named : location ≠ [] := fun h => isSet.named (by rw [hfile, h])
      refine ⟨⟨isSet.sinks, isSet.named⟩, ?_, fun place => ?_⟩
      · simp [consoleLines, Entry.IsTaken, takes, say, consoleLine_eq setting stamp]
      · dsimp only
        rw [Disk.heldAt_appendAt named, fileLine_eq setting]
        by_cases hplace : place = location
        · simp [fileText, Entry.IsTaken, takes, hfile, hplace]
        · simp [fileText, hfile, hplace, Ne.symm hplace]
  · rw [deliver_of_not_takes isSet takes]
    refine ⟨isSet, ?_, fun place => ?_⟩
    · simp [consoleLines, Entry.IsTaken, takes]
    · simp [fileText, Entry.IsTaken, takes]

/-! ### Runs -/

theorem run_cons (journal : Journal) (stamp : String) (next : Step) (rest : List (String × Step)) :
    journal.run ((stamp, next) :: rest) = (journal.step stamp next).2.run rest :=
  rfl

theorem run_append (journal : Journal) (front back : List (String × Step)) :
    journal.run (front ++ back) = (journal.run front).run back :=
  List.foldl_append

theorem grows_step (stamp : String) (journal : Journal) (next : Step) :
    Grows journal.disk (journal.step stamp next).2.disk := by
  cases next with
  | configure verbose file => exact (step_configure stamp verbose file journal).grows
  | record record => exact grows_deliver record journal

/-- **Whatever happens to a journal, files only grow.** -/
theorem grows_run (journal : Journal) (steps : List (String × Step)) :
    Grows journal.disk (journal.run steps).disk := by
  induction steps generalizing journal with
  | nil => exact .refl _
  | cons next rest ih => exact (grows_step next.1 journal next.2).trans (ih _)

theorem consoleLines_cons (entry : Entry) (entries : List Entry) :
    consoleLines (entry :: entries) = consoleLines [entry] ++ consoleLines entries := by
  rw [← List.singleton_append, consoleLines, List.filter_append, List.map_append]
  rfl

theorem fileText_cons (place : Location) (entry : Entry) (entries : List Entry) :
    fileText place (entry :: entries) = fileText place [entry] ++ fileText place entries := by
  rw [← List.singleton_append, fileText, List.filter_append, List.map_append, String.join_append]
  rfl

/-- **What a run leaves on the console and on the disk is what its ledger says.** -/
theorem run_isSet (isSet : IsSet journal setting) (steps : List (String × Step)) :
    (journal.run steps).console =
        journal.console ++ consoleLines (ledger journal setting steps) ∧
      ∀ place, (journal.run steps).disk.heldAt place =
        journal.disk.heldAt place ++ (fileText place (ledger journal setting steps)).toUTF8 := by
  -- Configurations change the setting, and every step leaves a journal with the handlers of one.
  induction steps generalizing journal setting with
  | nil => simp [run, ledger, consoleLines, fileText]
  | cons next rest ih =>
    obtain ⟨stamp, next⟩ := next
    rw [run_cons]
    cases next with
    | configure verbose file =>
      have configured := step_configure stamp verbose file journal
      obtain ⟨hconsole, hheld⟩ := ih configured.isSet
      rw [ledger]
      exact ⟨by rw [hconsole, configured.console], fun place => by rw [hheld, configured.held]⟩
    | record record =>
      obtain ⟨isSet', hconsole, hheld⟩ := deliver_isSet isSet stamp record
      obtain ⟨hconsole', hheld'⟩ := ih isSet'
      have hstep : (journal.step stamp (.record record)).2 = journal.deliver stamp record := rfl
      rw [ledger, hstep]
      refine ⟨?_, fun place => ?_⟩
      · rw [hconsole', hconsole, List.append_assoc, consoleLines_cons _ (ledger ..)]
      · rw [hheld', hheld, ByteArray.append_assoc, fileText_cons _ _ (ledger ..)]
        simp

end Journal

end Introspection.Log
