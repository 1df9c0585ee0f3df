import Introspection.Proofs.Disk.Deposit
import Introspection.Proofs.Log.Delivery
import Introspection.Proofs.Path.Parts

/-!
# The log file on a tree

On a tree of directories, the file of a log is opened in the place that its path names, or something
is in the way. A journal that is configured on a tree leaves it a tree, and from then on it changes
nothing but its file. So what a program does besides writing its log can be said as if there were
none, as long as it stays away from that one place.

## Scope

The place of a file is looked up after its path was followed. So a null character in the name of the
directory that paths start in is refused as well, and `Openable` has a clause for it.

## Main definitions

* `Log.Openable` — a file for records can be opened
* `Log.Opened`, `Log.Closed` — how opening it ends
* `Log.AtWork` — a journal on a tree, with its file in place

## Main results

* `Log.openFile_tree` — a file for records is opened, or it cannot be
* `Log.atWork_configured`, `Log.atWork_configure` — a journal that was set up
* `Log.AtWork.deliver`, `Log.AtWork.deliverAll` — and when records come
* `Log.AtWork.run` — and in the course of a run
* `Log.AtWork.of_deposited` — and when a file is put somewhere else
-/

namespace Introspection.Log

open Introspection.Path (Location)
open Disk (KeepsOutside Tree)

/-- A journal with the handlers of a setting, on a tree, and its file is there if it has one. -/
structure AtWork (journal : Journal) (setting : Setting) : Prop extends IsSet journal setting where
  tree : journal.disk.Tree
  isFile : ∀ location, setting.file = some location →
    ∃ bytes, journal.disk.find? location = some (.file bytes)

/-- The places that a journal writes to under a setting. -/
def Setting.Writes (setting : Setting) (place : Location) : Prop :=
  setting.file = some place

variable {journal journal' : Journal} {setting : Setting} {disk after : Disk} {location : Location}

/-! ### Opening the file -/

/-- A file for records can be opened: nothing is in the way of it, and no name on the way to its
place has a null character. -/
structure Openable (disk : Disk) (path : Path) : Prop where
  unblocked : ¬ disk.Blocked [path] path
  nullFree : (Path.ofLocation (path.resolve disk.working)).hasNull = false

/-- What is different when a file for records was opened: it is there, and nothing else is new but
directories. -/
structure Opened (path : Path) (disk after : Disk) : Prop where
  openable : Openable disk path
  tree : after.Tree
  isFile : ∃ bytes, after.find? (path.resolve disk.working) = some (.file bytes)
  kept : KeepsOutside (· = path.resolve disk.working) disk after

/-- Opening a file for records fails: nothing is new but directories, and unless there are limits it
cannot be opened. -/
structure Closed (path : Path) (disk after : Disk) : Prop where
  tree : after.Tree
  kept : KeepsOutside (fun _ => False) disk after
  hindered : disk.limits = none → ¬ Openable disk path

/-- The places on the way to a place are those above it. -/
theorem prefix_of_passesThrough {working place : Location} (stays : ".." ∉ location)
    (h : (Path.ofLocation location).PassesThrough working place) :
    place <+: location.dropLast := by
  obtain ⟨front, back, hsplit, hback, rfl⟩ := h
  obtain rfl : location = front ++ back := hsplit
  have hfront : (⟨.slash, front⟩ : Path).resolve working = front :=
    Path.resolve_ofLocation (fun h => stays (List.mem_append_left back h)) working
  rw [Path.ofLocation, hfront, List.dropLast_append_of_ne_nil hback]
  exact List.prefix_append front _

/-- A path has no null characters if the directory around it has none, and its place has none. -/
theorem hasNull_eq_false {path : Path} {working : Location} (hparent : path.parent.hasNull = false)
    (hplace : (Path.ofLocation (path.resolve working)).hasNull = false) : path.hasNull = false := by
  rcases List.eq_nil_or_concat' path.parts with hnil | ⟨front, part, hparts⟩
  · rw [Path.hasNull, hnil]
    rfl
  have hfront : front.any (fun part => part.toList.contains '\x00') = false := by
    rwa [Path.hasNull, Path.parent, hparts, List.dropLast_concat] at hparent
  rw [Path.hasNull, hparts, List.any_append, hfront, Bool.false_or]
  by_cases hreturn : part = ".."
  · rw [hreturn]
    decide
  · rw [Path.hasNull, Path.ofLocation, Path.resolve, hparts, List.foldl_append, List.foldl_cons,
      List.foldl_nil, if_neg hreturn, List.any_append] at hplace
    exact (Bool.or_eq_false_iff.mp hplace).2

/-- With its directories made, there is a directory around the place of a path. -/
theorem directory_around_resolve {middle : Disk} {path : Path}
    (entered : Disk.Entered (path.start disk.working) path.parent.parts disk middle)
    (working : middle.working = disk.working) :
    middle.find? (path.resolve disk.working).dropLast = some .directory := by
  have hpasses : ∀ place, path.PassesThrough middle.working place →
      middle.find? place = some .directory := working ▸ Disk.passes_of_entered entered
  by_cases hdirectory : middle.find? (path.resolve disk.working) = some .directory
  · exact entered.tree.around _ _ hdirectory
  · rw [← working] at hdirectory ⊢
    exact (Disk.around_resolve entered.tree hpasses hdirectory).2

/-- A file in a directory is opened, unless its place is a directory too. -/
theorem openForAppending_ofLocation (tree : disk.Tree) (stays : ".." ∉ location)
    (inside : disk.find? location.dropLast = some .directory) :
    ((Path.ofLocation location).hasNull = false ∧ disk.find? location ≠ some .directory ∧
        Disk.openForAppending (.ofLocation location) disk =
          .ok location (disk.appendAt location .empty)) ∨
      ∃ fault, Disk.openForAppending (.ofLocation location) disk = .error fault disk ∧
        (disk.limits = none → (Path.ofLocation location).hasNull = true ∨
          disk.find? location = some .directory) := by
  have hpassed : ∀ place, (Path.ofLocation location).PassesThrough disk.working place →
      disk.find? place = some .directory :=
    fun place h => tree.directory_of_prefix inside (prefix_of_passesThrough stays h)
  have hopen := Disk.openFile_of_passed hpassed
  rw [Path.resolve_ofLocation stays] at hopen
  rcases hopen with ⟨hnull, free, hopen⟩ | ⟨fault, hopen, -, obstacle⟩
  · exact .inl ⟨hnull, free, bind_eq_of_ok hopen⟩
  · exact .inr ⟨fault, bind_eq_of_error hopen, obstacle⟩

/-- **A file for records is opened at the place that its path names, or it cannot be.** -/
theorem openFile_tree (tree : disk.Tree) (stays : ".." ∉ disk.working) (path : Path) :
    (∃ after, Journal.openFile path disk = .ok (path.resolve disk.working) after ∧
        Opened path disk after) ∨
      ∃ fault after, Journal.openFile path disk = .error fault after ∧ Closed path disk after := by
  have hkept : KeepsOutside (fun _ => False) disk
      (Disk.reached (Disk.ensureDirectory path.parent disk)) := Disk.keepsOutside_ensureDirectory _
  rcases Disk.ensureDirectory_cases tree path.parent with
    ⟨middle, hrun, hparent, entered⟩ | ⟨fault, middle, hrun, tree', -, obstacle⟩
  · rw [hrun] at hkept
    have hworking : middle.working = disk.working := hkept.working
    have entered : Disk.Entered (path.start disk.working) path.parent.parts disk middle := entered
    have inside := directory_around_resolve entered hworking
    have hopening : Journal.openFile path disk =
        Disk.openForAppending (.ofLocation (path.resolve disk.working)) middle :=
      hworking ▸ bind_eq_of_ok hrun
    rw [hopening]
    rcases openForAppending_ofLocation entered.tree (Path.not_mem_resolve stays path) inside with
      ⟨hnull, free, hopen⟩ | ⟨fault, hopen, obstacle⟩
    · have named : path.resolve disk.working ≠ [] := fun h => free (by rw [h]; rfl)
      have unblocked := Disk.not_blocked_of_entered entered (hasNull_eq_false hparent hnull) free
      exact .inl ⟨_, hopen, ⟨unblocked, hnull⟩,
        entered.tree.put named inside fun h => absurd h free,
        ⟨_, Disk.find?_put_self middle named _⟩,
        (hkept.mono fun _ h => h.elim).trans (Disk.keepsOutside_appendAt (by rfl) _)⟩
    · refine .inr ⟨fault, middle, hopen, entered.tree, hkept, fun unlimited openable => ?_⟩
      rcases obstacle (entered.limits.trans unlimited) with hnull | hdirectory
      · rw [openable.nullFree] at hnull
        cases hnull
      · exact openable.unblocked
          (.inr (.inl (Disk.directoryAt_of_entered tree entered hdirectory)))
  · rw [hrun] at hkept
    exact .inr ⟨fault, middle, bind_eq_of_error hrun, tree', hkept, fun unlimited openable =>
      openable.unblocked (Disk.blocked_of_hindered tree (obstacle unlimited))⟩

/-- The file of a configuration is open, or it cannot be opened. -/
theorem opened?_cases (tree : disk.Tree) (stays : ".." ∉ disk.working) (path : Path) :
    (opened? (some path) disk = some (path.resolve disk.working) ∧ Openable disk path) ∨
      opened? (some path) disk = none ∧ (disk.limits = none → ¬ Openable disk path) := by
  rcases openFile_tree tree stays path with ⟨after, hopen, opened⟩ | ⟨fault, after, hopen, closed⟩
  · exact .inl ⟨opened?_of_ok hopen, opened.openable⟩
  · exact .inr ⟨opened?_of_error hopen, closed.hindered⟩

/-! ### Journals at work -/

/-- A journal that was configured on a tree is at work, and nothing but its file is new. -/
theorem atWork_configured (journal : Journal) (tree : journal.disk.Tree)
    (stays : ".." ∉ journal.disk.working) (stamp : String) (verbose : Bool) (file : Option Path) :
    AtWork (journal.step stamp (.configure verbose file)).2
        (settingOf verbose file journal.disk) ∧
      KeepsOutside (settingOf verbose file journal.disk).Writes journal.disk
        (journal.step stamp (.configure verbose file)).2.disk := by
  have isSet := (Journal.step_configure stamp verbose file journal).isSet
  cases file with
  | none =>
    rw [Journal.step, Journal.configure_none] at isSet ⊢
    exact ⟨⟨isSet, tree, by simp [settingOf, opened?]⟩, .refl _ _⟩
  | some path =>
    rw [Journal.step, Journal.configure_some] at isSet ⊢
    rcases openFile_tree tree stays path with ⟨after, hopen, opened⟩ | ⟨fault, after, hopen, closed⟩
    · have hopened := opened?_of_ok hopen
      rw [hopen] at isSet ⊢
      refine ⟨⟨isSet, opened.tree, fun place hplace => ?_⟩,
        opened.kept.mono fun place hplace => hplace ▸ hopened⟩
      obtain rfl := Option.some.inj (hopened.symm.trans hplace)
      exact opened.isFile
    · have hopened := opened?_of_error hopen
      rw [hopen] at isSet ⊢
      refine ⟨⟨isSet, closed.tree, fun place hplace => ?_⟩, closed.kept.mono fun _ h => h.elim⟩
      cases hopened.symm.trans hplace

/-- **A journal that was set up on a tree is at work,** and nothing but its file is new. -/
theorem atWork_configure (tree : disk.Tree) (stays : ".." ∉ disk.working) {verbose : Bool}
    {file : Option Path} (h : Journal.configure verbose file { disk } = .ok () journal') :
    AtWork journal' ⟨verbose, file.map (·.resolve disk.working)⟩ ∧
      KeepsOutside (Setting.Writes ⟨verbose, file.map (·.resolve disk.working)⟩) disk
        journal'.disk := by
  have hstep : Journal.step "" { disk } (.configure verbose file) = (none, journal') := by
    rw [Journal.step, h]
  have hopened := (Journal.step_configure "" verbose file { disk }).opened
  have work := atWork_configured { disk } tree stays "" verbose file
  have hsetting : settingOf verbose file disk = ⟨verbose, file.map (·.resolve disk.working)⟩ := by
    rw [settingOf]
    cases file with
    | none => rfl
    | some path =>
      rcases opened?_cases tree stays path with ⟨hopened', -⟩ | ⟨hopened', -⟩
      · rw [hopened']
        rfl
      · rw [hstep, hopened'] at hopened
        cases hopened.mp rfl
  rwa [hstep, hsetting] at work

/-- A journal at work stays so when a record comes, and nothing but its file is different. -/
theorem AtWork.deliver (work : AtWork journal setting) (stamp : String) (record : Record) :
    AtWork (journal.deliver stamp record) setting ∧
      KeepsOutside setting.Writes journal.disk (journal.deliver stamp record).disk := by
  by_cases takes : setting.Takes record
  · rw [Journal.deliver_of_takes work.toIsSet takes]
    cases hfile : setting.file with
    | none => exact ⟨⟨⟨work.sinks, work.named⟩, work.tree, work.isFile⟩, .refl _ _⟩
    | some location =>
      obtain ⟨old, hold⟩ := work.isFile location hfile
      refine ⟨⟨⟨work.sinks, work.named⟩, work.tree.appendAt hold _, fun other hother => ?_⟩,
        Disk.keepsOutside_appendAt hfile _⟩
      obtain rfl := Option.some.inj (hfile.symm.trans hother)
      exact ⟨_, Disk.find?_put_self _ (fun h => work.named (h ▸ hfile)) _⟩
  · rw [Journal.deliver_of_not_takes work.toIsSet takes]
    exact ⟨work, .refl _ _⟩

theorem AtWork.deliverAll (work : AtWork journal setting) (stamp : String)
    (records : List Record) :
    AtWork (journal.deliverAll stamp records) setting ∧
      KeepsOutside setting.Writes journal.disk (journal.deliverAll stamp records).disk := by
  induction records generalizing journal with
  | nil => exact ⟨work, .refl _ _⟩
  | cons record rest ih =>
    obtain ⟨work', kept⟩ := work.deliver stamp record
    obtain ⟨work'', kept'⟩ := ih work'
    exact ⟨work'', kept.trans kept'⟩

/-- Whatever happens to a journal at work, it is at work afterwards, possibly under another
setting. -/
theorem AtWork.step (work : AtWork journal setting) (stays : ".." ∉ journal.disk.working)
    (stamp : String) (next : Journal.Step) :
    (∃ setting', AtWork (journal.step stamp next).2 setting') ∧
      (journal.step stamp next).2.disk.working = journal.disk.working := by
  cases next with
  | configure verbose file =>
    obtain ⟨work', kept⟩ := atWork_configured journal work.tree stays stamp verbose file
    exact ⟨⟨_, work'⟩, kept.working⟩
  | record record =>
    obtain ⟨work', kept⟩ := work.deliver stamp record
    exact ⟨⟨setting, work'⟩, kept.working⟩

theorem AtWork.run (work : AtWork journal setting) (stays : ".." ∉ journal.disk.working)
    (steps : List (String × Journal.Step)) :
    (∃ setting', AtWork (journal.run steps) setting') ∧
      (journal.run steps).disk.working = journal.disk.working := by
  induction steps generalizing journal setting with
  | nil => exact ⟨⟨setting, work⟩, rfl⟩
  | cons next rest ih =>
    obtain ⟨⟨setting', work'⟩, hworking⟩ := work.step stays next.1 next.2
    rw [Journal.run_cons, ← hworking]
    exact ih work' (hworking ▸ stays)

/-- A journal stays at work when a file is put in another place. -/
theorem AtWork.of_deposited (work : AtWork journal setting) {path : Path} {bytes : ByteArray}
    (free : ¬ setting.Writes (path.resolve journal.disk.working))
    (deposited : Disk.Deposited path bytes journal.disk after) :
    AtWork { journal with disk := after } setting where
  sinks := work.sinks
  named := work.named
  tree := deposited.tree
  isFile location hlocation := by
    obtain ⟨old, hold⟩ := work.isFile location hlocation
    exact ⟨old, deposited.file_kept hold fun h => free (h ▸ hlocation)⟩

end Introspection.Log
