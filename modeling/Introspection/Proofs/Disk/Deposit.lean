import Introspection.Proofs.Disk.Tree

/-!
# Putting files in their places

A file is put in its place after the directories on the way to it. Two things can be in the way, a
directory in its place, and a file on the way. They may have been there all along, or they may be
there for the sake of other files. So what is in the way is told from a disk and from the paths of
the files that are put on it. This makes the law of one file a law of many: a file that was put on
the disk already, and one that is still to be counted, are in the way of a third one alike.

Of two files that are in the way of each other it does not matter which one comes first. So whether
all files of a list can be put in their places does not depend on their order; which one fails does.

## Scope

A disk may have limits on names and paths, and may refuse a file for them. That nothing else is in
the way is said only of disks without limits. A null character is refused by all of them.

## Main definitions

* `Disk.deposit` — a file after the directories around it
* `Disk.Obstructed`, `Disk.Blocked` — something is in the way of a file
* `Disk.FirstBlocked` — where a list of files cannot be gone on with
* `Disk.Deposited`, `Disk.Refused` — how putting a file in its place ends
* `Disk.Deposits` — files that were put in their places one after the other
* `Disk.InPlace` — files that are in their places

## Main results

* `Disk.deposit_cases` — a file is put in its place, or something was in the way
* `Disk.Deposited.blocked_iff` — what was put is in the way of others
* `Disk.exists_blocked_iff` — the order of paths does not matter
* `Disk.Deposits.inPlace`, `Disk.Deposits.keepsOutside` — what is different after many files
* `Disk.deposit_eq_self` — putting what is there
-/

namespace Introspection.Disk

open Introspection.Path (Location Meets follow meets_nil)

variable {disk after : Disk} {location place here : Location} {path : Path}

/-! ### Putting a file in its place -/

/-- Puts a file in its place, after the directories on the way to it. -/
def deposit (path : Path) (bytes : ByteArray) : Change Unit := do
  ensureDirectory path.parent
  write path bytes

/-- There is a directory at a place, or one is needed there on the way to a path. -/
def DirectoryAt (disk : Disk) (paths : List Path) (place : Location) : Prop :=
  disk.find? place = some .directory ∨ ∃ path ∈ paths, path.PassesThrough disk.working place

/-- There is a file at a place, or the place is that of a path. -/
def FileAt (disk : Disk) (paths : List Path) (place : Location) : Prop :=
  (∃ bytes, disk.find? place = some (.file bytes)) ∨
    ∃ path ∈ paths, place = path.resolve disk.working

/-- Something is in the way of the file of a path: a directory in its place, or a file on the way.
The disk may have it so, or it is so for the sake of other paths. -/
def Obstructed (disk : Disk) (paths : List Path) (path : Path) : Prop :=
  disk.DirectoryAt paths (path.resolve disk.working) ∨
    ∃ place, path.PassesThrough disk.working place ∧ disk.FileAt paths place

/-- A path cannot be used for a file: it has a null character, or something is in the way. -/
def Blocked (disk : Disk) (paths : List Path) (path : Path) : Prop :=
  path.hasNull = true ∨ disk.Obstructed paths path

/-- What is different when a file was put in its place: it is there, the places on the way are
directories, and there is nothing else. Nothing was in the way. -/
structure Deposited (path : Path) (bytes : ByteArray) (disk after : Disk) : Prop where
  tree : after.Tree
  working : after.working = disk.working
  limits : after.limits = disk.limits
  unblocked : ¬ disk.Blocked [path] path
  held : after.find? (path.resolve disk.working) = some (.file bytes)
  passed : ∀ place, path.PassesThrough disk.working place → after.find? place = some .directory
  kept : ∀ place, place ≠ path.resolve disk.working → ¬ path.PassesThrough disk.working place →
    after.find? place = disk.find? place

/-- How putting a file in its place fails: there may be new directories, but nothing was missing,
and unless there are limits something was in the way. -/
structure Refused (path : Path) (disk : Disk) (fault : Fault) (after : Disk) : Prop where
  tree : after.Tree
  kept : KeepsOutside (fun _ => False) disk after
  told : fault ≠ .notFound
  blocked : disk.limits = none → disk.Blocked [path] path

/-- Paths are followed to their end where all places on the way are directories, unless a name is
too long. -/
theorem descend_cases {parts : List String}
    (passed : ∀ front back, parts = front ++ back → back ≠ [] →
      disk.find? (front.foldl follow here) = some .directory) :
    disk.descend here parts = .ok (parts.foldl follow here) ∨
      disk.descend here parts = .error .tooLong ∧ disk.limits ≠ none := by
  induction parts generalizing here with
  | nil => exact .inl rfl
  | cons part rest ih =>
    have hhere : disk.find? here = some .directory := passed [] (part :: rest) rfl (by simp)
    have hrest : ∀ front back, rest = front ++ back → back ≠ [] →
        disk.find? (front.foldl follow (follow here part)) = some .directory :=
      fun front back hsplit => passed (part :: front) back (by rw [hsplit]; rfl)
    rw [descend, hhere]
    dsimp only
    by_cases hreturn : part = ".."
    · have hfollow : follow here part = here.dropLast := if_pos hreturn
      rw [if_pos hreturn, List.foldl_cons, hfollow]
      rw [hfollow] at hrest
      exact ih hrest
    have hfollow : follow here part = here ++ [part] := if_neg hreturn
    rw [if_neg hreturn, List.foldl_cons, hfollow]
    rw [hfollow] at hrest
    by_cases hlong : disk.nameTooLong part
    · rw [if_pos hlong]
      refine .inr ⟨rfl, fun unlimited => ?_⟩
      rw [nameTooLong_eq_false unlimited] at hlong
      cases hlong
    · rw [if_neg hlong]
      exact ih hrest

/-- A path leads to the place that it names, if all places on the way are directories. -/
theorem locate_cases
    (passed : ∀ place, path.PassesThrough disk.working place →
      disk.find? place = some .directory) :
    (path.hasNull = false ∧ disk.locate path = .ok (path.resolve disk.working)) ∨
      ∃ fault, disk.locate path = .error fault ∧ fault ≠ .notFound ∧
        (disk.limits = none → path.hasNull = true) := by
  rw [locate]
  cases hrefusal : disk.refusal? path with
  | some fault =>
    refine .inr ⟨fault, rfl, ?_, fun unlimited => hasNull_of_refused unlimited hrefusal⟩
    rintro rfl
    exact refusal?_ne_notFound hrefusal
  | none =>
    have hpassed : ∀ front back, path.parts = front ++ back → back ≠ [] →
        disk.find? (front.foldl follow (path.start disk.working)) = some .directory :=
      fun front back hsplit hback => passed _ ⟨front, back, hsplit, hback, rfl⟩
    rcases descend_cases hpassed with hrun | ⟨hrun, limited⟩
    · exact .inl ⟨hasNull_of_refusal? hrefusal, hrun⟩
    · exact .inr ⟨.tooLong, hrun, by simp, fun unlimited => absurd unlimited limited⟩

/-- A file is opened if all places on the way are directories, unless its place is one too. -/
theorem openFile_of_passed
    (passed : ∀ place, path.PassesThrough disk.working place →
      disk.find? place = some .directory) :
    (path.hasNull = false ∧ disk.find? (path.resolve disk.working) ≠ some .directory ∧
        openFile path disk = .ok (path.resolve disk.working) disk) ∨
      ∃ fault, openFile path disk = .error fault disk ∧ fault ≠ .notFound ∧
        (disk.limits = none →
          path.hasNull = true ∨ disk.find? (path.resolve disk.working) = some .directory) := by
  rw [openFile]
  rcases locate_cases passed with ⟨hnull, hlocate⟩ | ⟨fault, hlocate, told, hnull⟩
  · rw [hlocate]
    by_cases hdirectory : disk.find? (path.resolve disk.working) = some .directory
    · exact .inr ⟨.isADirectory, if_pos hdirectory, by simp, fun _ => .inr hdirectory⟩
    · exact .inl ⟨hnull, hdirectory, if_neg hdirectory⟩
  · rw [hlocate]
    exact .inr ⟨fault, rfl, told, fun unlimited => .inl (hnull unlimited)⟩

/-- A file is written to its place if it can be opened. Where it is not written, nothing is
changed. -/
theorem write_cases
    (passed : ∀ place, path.PassesThrough disk.working place →
      disk.find? place = some .directory) (bytes : ByteArray) :
    (path.hasNull = false ∧ disk.find? (path.resolve disk.working) ≠ some .directory ∧
        write path bytes disk =
          .ok () (disk.put (path.resolve disk.working) (.file bytes))) ∨
      ∃ fault, write path bytes disk = .error fault disk ∧ fault ≠ .notFound ∧
        (disk.limits = none →
          path.hasNull = true ∨ disk.find? (path.resolve disk.working) = some .directory) := by
  rcases openFile_of_passed passed with ⟨hnull, free, hopen⟩ | ⟨fault, hopen, told, obstacle⟩
  · refine .inl ⟨hnull, free, ?_⟩
    rw [write, bind_eq_of_ok hopen]
    rfl
  · exact .inr ⟨fault, bind_eq_of_error hopen, told, obstacle⟩

theorem hasNull_of_hasNull_parent (h : path.parent.hasNull = true) : path.hasNull = true := by
  obtain ⟨part, hmem, hnull⟩ := List.any_eq_true.mp h
  exact List.any_eq_true.mpr ⟨part, List.dropLast_subset _ hmem, hnull⟩

/-- A path without parts names a directory. -/
theorem parts_ne_nil_of_free (tree : disk.Tree)
    (free : disk.find? (path.resolve disk.working) ≠ some .directory) : path.parts ≠ [] := by
  intro h
  rw [Path.resolve, h] at free
  exact free (tree.start path)

/-- What is no directory has one around it, if all places on the way are directories. -/
theorem around_resolve (tree : disk.Tree)
    (passed : ∀ place, path.PassesThrough disk.working place → disk.find? place = some .directory)
    (free : disk.find? (path.resolve disk.working) ≠ some .directory) :
    path.resolve disk.working ≠ [] ∧
      disk.find? (path.resolve disk.working).dropLast = some .directory := by
  refine ⟨fun h => free (by rw [h]; rfl), ?_⟩
  have named := parts_ne_nil_of_free tree free
  obtain ⟨front, part, hparts⟩ := (List.eq_nil_or_concat' path.parts).resolve_left named
  have hpassed := passed _ ⟨front, [part], hparts, by simp, rfl⟩
  have hresolve : path.resolve disk.working =
      follow ((⟨path.root, front⟩ : Path).resolve disk.working) part := by
    rw [Path.resolve, hparts, List.foldl_append]
    rfl
  rw [hresolve, follow] at free ⊢
  split at free
  · exact absurd (tree.around _ _ hpassed) free
  · next hstays => rwa [if_neg hstays, List.dropLast_concat]

theorem passes_of_entered {middle : Disk}
    (entered : Entered (path.start disk.working) path.parent.parts disk middle) :
    ∀ place, path.PassesThrough disk.working place → middle.find? place = some .directory :=
  fun place hpasses => entered.met place
    ((Path.passesThrough_iff (Path.parts_ne_nil_of_passesThrough hpasses)).mp hpasses)

/-- A directory that was made for a path is on the way to it. -/
theorem directoryAt_of_entered (tree : disk.Tree) {middle : Disk}
    (entered : Entered (path.start disk.working) path.parent.parts disk middle)
    (h : middle.find? place = some .directory) : disk.DirectoryAt [path] place := by
  by_cases hmeets : Meets (path.start disk.working) path.parent.parts place
  · by_cases named : path.parts = []
    · rw [Path.parent, named] at hmeets
      exact .inl (meets_nil.mp hmeets ▸ tree.start path)
    · exact .inr ⟨path, List.mem_singleton_self path, (Path.passesThrough_iff named).mpr hmeets⟩
  · exact .inl ((entered.kept place hmeets).symm.trans h)

/-- With the directories made and no directory in its place, nothing was in the way of a file. -/
theorem not_blocked_of_entered {middle : Disk}
    (entered : Entered (path.start disk.working) path.parent.parts disk middle)
    (hnull : path.hasNull = false)
    (free : middle.find? (path.resolve disk.working) ≠ some .directory) :
    ¬ disk.Blocked [path] path := by
  have hpassed := passes_of_entered entered
  rintro (hnull' | (hdirectory | ⟨other, hmem, hpasses⟩) | ⟨place, hpasses, hfile⟩)
  · rw [hnull] at hnull'
    cases hnull'
  · by_cases hmeets : Meets (path.start disk.working) path.parent.parts (path.resolve disk.working)
    · exact free (entered.met _ hmeets)
    · exact free ((entered.kept _ hmeets).trans hdirectory)
  · obtain rfl := List.mem_singleton.mp hmem
    exact free (hpassed _ hpasses)
  · rcases hfile with ⟨bytes, hfile⟩ | ⟨other, hmem, rfl⟩
    · have named := Path.parts_ne_nil_of_passesThrough hpasses
      exact entered.clear place ((Path.passesThrough_iff named).mp hpasses) bytes hfile
    · obtain rfl := List.mem_singleton.mp hmem
      exact free (hpassed _ hpasses)

/-- What hinders the directories of a path is in the way of its file. -/
theorem blocked_of_hindered (tree : disk.Tree)
    (obstacle : path.parent.hasNull = true ∨ ∃ place bytes,
      Meets (path.start disk.working) path.parent.parts place ∧
        disk.find? place = some (.file bytes)) : disk.Blocked [path] path := by
  by_cases free : disk.find? (path.resolve disk.working) = some .directory
  · exact .inr (.inl (.inl free))
  · have named := parts_ne_nil_of_free tree free
    rcases obstacle with hnull | ⟨place, bytes, hmeets, hfile⟩
    · exact .inl (hasNull_of_hasNull_parent hnull)
    · exact .inr (.inr ⟨place, (Path.passesThrough_iff named).mpr hmeets, .inl ⟨bytes, hfile⟩⟩)

/-- **A file is put in its place, or something was in the way.** -/
theorem deposit_cases (tree : disk.Tree) (path : Path) (bytes : ByteArray) :
    (∃ after, deposit path bytes disk = .ok () after ∧ Deposited path bytes disk after) ∨
      ∃ fault after, deposit path bytes disk = .error fault after ∧
        Refused path disk fault after := by
  have hframe : KeepsOutside (fun _ => False) disk (reached (ensureDirectory path.parent disk)) :=
    keepsOutside_ensureDirectory _
  rcases ensureDirectory_cases tree path.parent with
    ⟨middle, hrun, -, entered⟩ | ⟨fault, middle, hrun, tree', told, obstacle⟩
  · rw [hrun] at hframe
    have hworking : middle.working = disk.working := hframe.working
    have entered : Entered (path.start disk.working) path.parent.parts disk middle := entered
    have hpassed := passes_of_entered entered
    have hpassed' : ∀ place, path.PassesThrough middle.working place →
        middle.find? place = some .directory := hworking ▸ hpassed
    have hwrite := write_cases hpassed' bytes
    rw [hworking] at hwrite
    rcases hwrite with ⟨hnull, free, hwrite⟩ | ⟨fault, hwrite, told, obstacle⟩
    · have haround := around_resolve entered.tree hpassed'
      rw [hworking] at haround
      obtain ⟨hplace, haround⟩ := haround free
      refine .inl ⟨_, (bind_eq_of_ok hrun).trans hwrite,
        entered.tree.put hplace haround fun h => absurd h free, hworking, entered.limits,
        not_blocked_of_entered entered hnull free, find?_put_self middle hplace _,
        fun place hpasses => ?_, fun place hne hpasses => ?_⟩
      · have hne : place ≠ path.resolve disk.working := fun h => free (h ▸ hpassed place hpasses)
        rw [find?_put_of_ne middle hne, hpassed place hpasses]
      · have named := parts_ne_nil_of_free entered.tree (hworking ▸ free)
        rw [find?_put_of_ne middle hne]
        exact entered.kept place fun h => hpasses ((Path.passesThrough_iff named).mpr h)
    · exact .inr ⟨fault, middle, (bind_eq_of_ok hrun).trans hwrite, entered.tree, hframe, told,
        fun unlimited => (obstacle (entered.limits.trans unlimited)).imp_right fun h =>
          .inl (directoryAt_of_entered tree entered h)⟩
  · rw [hrun] at hframe
    exact .inr ⟨fault, middle, bind_eq_of_error hrun, tree', hframe, told,
      fun unlimited => blocked_of_hindered tree (obstacle unlimited)⟩

/-! ### Files on the way of each other -/

theorem Blocked.mono {paths more : List Path} (blocked : disk.Blocked paths path)
    (included : paths ⊆ more) : disk.Blocked more path := by
  rcases blocked with hnull | hdirectory | ⟨place, hpasses, hfile⟩
  · exact .inl hnull
  · exact .inr (.inl (hdirectory.imp_right fun ⟨other, hmem, h⟩ => ⟨other, included hmem, h⟩))
  · exact .inr (.inr ⟨place, hpasses,
      hfile.imp_right fun ⟨other, hmem, h⟩ => ⟨other, included hmem, h⟩⟩)

section

variable {bytes : ByteArray} (deposited : Deposited path bytes disk after)
include deposited

theorem Deposited.free : disk.find? (path.resolve disk.working) ≠ some .directory := fun h =>
  deposited.unblocked (.inr (.inl (.inl h)))

theorem Deposited.clear (hpasses : path.PassesThrough disk.working place) (old : ByteArray) :
    disk.find? place ≠ some (.file old) := fun h =>
  deposited.unblocked (.inr (.inr ⟨place, hpasses, .inl ⟨old, h⟩⟩))

/-- What was a directory is one. -/
theorem Deposited.directory_kept (h : disk.find? place = some .directory) :
    after.find? place = some .directory := by
  by_cases hpasses : path.PassesThrough disk.working place
  · exact deposited.passed place hpasses
  · have hne : place ≠ path.resolve disk.working := fun heq => deposited.free (heq ▸ h)
    rw [deposited.kept place hne hpasses, h]

/-- What was a file keeps what it held, unless it is the one that was put. -/
theorem Deposited.file_kept {old : ByteArray} (h : disk.find? place = some (.file old))
    (hne : place ≠ path.resolve disk.working) : after.find? place = some (.file old) := by
  rw [deposited.kept place hne fun hpasses => deposited.clear hpasses old h, h]

theorem Deposited.directoryAt_iff {paths : List Path} :
    after.DirectoryAt paths place ↔ disk.DirectoryAt (path :: paths) place := by
  have hhere : after.find? place = some .directory ↔
      disk.find? place = some .directory ∨ path.PassesThrough disk.working place := by
    constructor
    · intro h
      by_cases hpasses : path.PassesThrough disk.working place
      · exact .inr hpasses
      · by_cases hne : place = path.resolve disk.working
        · rw [hne, deposited.held] at h
          cases h
        · exact .inl ((deposited.kept place hne hpasses).symm.trans h)
    · rintro (h | h)
      · exact deposited.directory_kept h
      · exact deposited.passed place h
  rw [DirectoryAt, DirectoryAt, hhere, deposited.working, List.exists_mem_cons_iff, or_assoc]

theorem Deposited.fileAt_iff {paths : List Path} :
    after.FileAt paths place ↔ disk.FileAt (path :: paths) place := by
  have hhere : (∃ old, after.find? place = some (.file old)) ↔
      (∃ old, disk.find? place = some (.file old)) ∨ place = path.resolve disk.working := by
    constructor
    · rintro ⟨old, h⟩
      by_cases hne : place = path.resolve disk.working
      · exact .inr hne
      · by_cases hpasses : path.PassesThrough disk.working place
        · rw [deposited.passed place hpasses] at h
          cases h
        · exact .inl ⟨old, (deposited.kept place hne hpasses).symm.trans h⟩
    · rintro (⟨old, h⟩ | rfl)
      · by_cases hne : place = path.resolve disk.working
        · exact ⟨bytes, hne ▸ deposited.held⟩
        · exact ⟨old, deposited.file_kept h hne⟩
      · exact ⟨bytes, deposited.held⟩
  rw [FileAt, FileAt, hhere, deposited.working, List.exists_mem_cons_iff, or_assoc]

/-- **What was put is in the way of others as if it were still to be counted.** -/
theorem Deposited.blocked_iff {paths : List Path} {other : Path} :
    after.Blocked paths other ↔ disk.Blocked (path :: paths) other := by
  simp only [Blocked, Obstructed, deposited.directoryAt_iff, deposited.fileAt_iff,
    deposited.working]

end

/-! ### Many files -/

/-- Two files are in the way of each other: the place of one of them is on the way to the other. -/
def Clash (disk : Disk) (first second : Path) : Prop :=
  first.PassesThrough disk.working (second.resolve disk.working) ∨
    second.PassesThrough disk.working (first.resolve disk.working)

theorem blocked_iff_clash {paths : List Path} :
    disk.Blocked paths path ↔ disk.Blocked [] path ∨ ∃ other ∈ paths, disk.Clash path other := by
  constructor
  · rintro (hnull | (hdirectory | ⟨other, hmem, h⟩) | ⟨place, hpasses, hfile | ⟨other, hmem, rfl⟩⟩)
    · exact .inl (.inl hnull)
    · exact .inl (.inr (.inl (.inl hdirectory)))
    · exact .inr ⟨other, hmem, .inr h⟩
    · exact .inl (.inr (.inr ⟨place, hpasses, .inl hfile⟩))
    · exact .inr ⟨other, hmem, .inl hpasses⟩
  · rintro (blocked | ⟨other, hmem, hpasses | hpasses⟩)
    · exact blocked.mono (List.nil_subset paths)
    · exact .inr (.inr ⟨_, hpasses, .inr ⟨other, hmem, rfl⟩⟩)
    · exact .inr (.inl (.inr ⟨other, hmem, hpasses⟩))

/-- Of two paths that are in the way of each other, one has the other in front of it, or they are
the same. -/
theorem exists_clash_in_front {paths : List Path} {first second : Path} (hfirst : first ∈ paths)
    (hsecond : second ∈ paths) (clash : disk.Clash first second) :
    ∃ front path back, paths = front ++ path :: back ∧
      ∃ other ∈ front ++ [path], disk.Clash path other := by
  obtain ⟨front, back, rfl⟩ := List.append_of_mem hfirst
  by_cases hbefore : second ∈ front ++ [first]
  · exact ⟨front, first, back, rfl, second, hbefore, clash⟩
  · have hbehind : second ∈ back := by
      simp only [List.mem_append, List.mem_cons, List.not_mem_nil, or_false] at hsecond hbefore
      tauto
    obtain ⟨between, rest, rfl⟩ := List.append_of_mem hbehind
    exact ⟨front ++ first :: between, second, rest, by simp, first, by simp, clash.symm⟩

/-- **Something is in the way of a path among all of them exactly if it is so among those in front of
it, for the same path or another one.** -/
theorem exists_blocked_iff {paths : List Path} :
    (∃ path ∈ paths, disk.Blocked paths path) ↔
      ∃ front path back, paths = front ++ path :: back ∧
        disk.Blocked (front ++ [path]) path := by
  constructor
  · rintro ⟨path, hmem, blocked⟩
    rcases blocked_iff_clash.mp blocked with alone | ⟨other, hother, clash⟩
    · obtain ⟨front, back, hsplit⟩ := List.append_of_mem hmem
      exact ⟨front, path, back, hsplit, alone.mono (List.nil_subset _)⟩
    · obtain ⟨front, path, back, hsplit, h⟩ := exists_clash_in_front hmem hother clash
      exact ⟨front, path, back, hsplit, blocked_iff_clash.mpr (.inr h)⟩
  · rintro ⟨front, path, back, rfl, blocked⟩
    refine ⟨path, by simp, blocked.mono ?_⟩
    simp

/-- A path is the first that cannot be used, those in front of it counted. -/
structure FirstBlocked (disk : Disk) (front : List Path) (path : Path) : Prop where
  blocked : disk.Blocked (front ++ [path]) path
  unblocked : ∀ before other behind, front = before ++ other :: behind →
    ¬ disk.Blocked (before ++ [other]) other

/-- Files that are put in their places one after the other. -/
inductive Deposits : List (Path × ByteArray) → Disk → Disk → Prop
  | nil (disk : Disk) : Deposits [] disk disk
  | cons {path : Path} {bytes : ByteArray} {files : List (Path × ByteArray)}
      {disk middle after : Disk} (first : Deposited path bytes disk middle)
      (others : Deposits files middle after) : Deposits ((path, bytes) :: files) disk after

/-- Files that are in their places, with directories on the way to them. -/
structure InPlace (files : List (Path × ByteArray)) (disk : Disk) : Prop where
  nullFree : ∀ file ∈ files, file.1.hasNull = false
  held : ∀ file ∈ files, disk.find? (file.1.resolve disk.working) = some (.file file.2)
  passed : ∀ file ∈ files, ∀ place, file.1.PassesThrough disk.working place →
    disk.find? place = some .directory

theorem InPlace.of_subset {files others : List (Path × ByteArray)} (inPlace : InPlace files disk)
    (included : others ⊆ files) : InPlace others disk where
  nullFree file h := inPlace.nullFree file (included h)
  held file h := inPlace.held file (included h)
  passed file h := inPlace.passed file (included h)

/-- The places of files. -/
def placesOf (working : Location) (files : List (Path × ByteArray)) : List Location :=
  files.map fun file => file.1.resolve working

section

variable {files : List (Path × ByteArray)} (deposits : Deposits files disk after)
include deposits

theorem Deposits.tree (tree : disk.Tree) : after.Tree := by
  induction deposits with
  | nil => exact tree
  | cons first _ ih => exact ih first.tree

theorem Deposits.working : after.working = disk.working := by
  induction deposits with
  | nil => rfl
  | cons first _ ih => exact ih.trans first.working

theorem Deposits.limits : after.limits = disk.limits := by
  induction deposits with
  | nil => rfl
  | cons first _ ih => exact ih.trans first.limits

/-- The files that were put are in the way of others as if they were still to be counted. -/
theorem Deposits.blocked_iff {paths : List Path} {other : Path} :
    after.Blocked paths other ↔ disk.Blocked (files.map Prod.fst ++ paths) other := by
  induction deposits with
  | nil => rfl
  | cons first _ ih => rw [ih, first.blocked_iff, List.map_cons, List.cons_append]

/-- Nothing was in the way of any of the files, those in front of it counted. -/
theorem Deposits.not_blocked {front back : List Path} {path : Path}
    (hsplit : files.map Prod.fst = front ++ path :: back) :
    ¬ disk.Blocked (front ++ [path]) path := by
  induction deposits generalizing front with
  | nil => simp at hsplit
  | cons first _ ih =>
    cases front with
    | nil =>
      obtain ⟨rfl, -⟩ := List.cons_eq_cons.mp hsplit
      exact first.unblocked
    | cons head front =>
      obtain ⟨rfl, hrest⟩ := List.cons_eq_cons.mp hsplit
      rw [List.cons_append, ← first.blocked_iff]
      exact ih hrest

/-- Where it ends, it ends at the first path that cannot be used. -/
theorem Deposits.firstBlocked {path : Path} (blocked : after.Blocked [path] path) :
    disk.FirstBlocked (files.map Prod.fst) path :=
  ⟨deposits.blocked_iff.mp blocked, fun _ _ _ hsplit => deposits.not_blocked hsplit⟩

theorem Deposits.directory_kept (h : disk.find? place = some .directory) :
    after.find? place = some .directory := by
  induction deposits with
  | nil => exact h
  | cons first _ ih => exact ih (first.directory_kept h)

theorem Deposits.file_kept {old : ByteArray} (h : disk.find? place = some (.file old))
    (hplace : place ∉ placesOf disk.working files) : after.find? place = some (.file old) := by
  induction deposits with
  | nil => exact h
  | cons first _ ih =>
    obtain ⟨hne, hrest⟩ := List.ne_and_not_mem_of_not_mem_cons hplace
    exact ih (first.file_kept h hne) (first.working ▸ hrest)

/-- **Files that were put in different places are there.** -/
theorem Deposits.inPlace (distinct : (placesOf disk.working files).Nodup) :
    InPlace files after := by
  induction deposits with
  | nil => exact ⟨by simp, by simp, by simp⟩
  | @cons path bytes files disk middle after first others ih =>
    obtain ⟨hplace, hrest⟩ := List.nodup_cons.mp distinct
    have hworking : after.working = disk.working := others.working.trans first.working
    obtain ⟨nullFree, held, passed⟩ := ih (first.working ▸ hrest)
    refine ⟨List.forall_mem_cons.mpr ⟨?_, nullFree⟩, List.forall_mem_cons.mpr ⟨?_, held⟩,
      List.forall_mem_cons.mpr ⟨fun place hpasses => ?_, passed⟩⟩
    · exact Bool.eq_false_iff.mpr fun hnull => first.unblocked (.inl hnull)
    · rw [hworking]
      exact others.file_kept first.held (first.working ▸ hplace)
    · rw [hworking] at hpasses
      exact others.directory_kept (first.passed place hpasses)

/-- **Putting files in their places changes nothing else,** apart from new directories. -/
theorem Deposits.keepsOutside :
    KeepsOutside (· ∈ placesOf disk.working files) disk after := by
  induction deposits with
  | nil => exact .refl _ _
  | @cons path bytes files disk middle after first others ih =>
    have hfirst : KeepsOutside (· ∈ placesOf disk.working ((path, bytes) :: files)) disk middle := by
      refine ⟨first.working, fun place outside => ?_⟩
      obtain ⟨hne, -⟩ := List.ne_and_not_mem_of_not_mem_cons outside
      by_cases hpasses : path.PassesThrough disk.working place
      · cases hentry : disk.find? place with
        | none => exact .inr ⟨rfl, first.passed place hpasses⟩
        | some entry =>
          cases entry with
          | file old => exact absurd hentry (first.clear hpasses old)
          | directory => exact .inl (first.passed place hpasses)
      · exact .inl (first.kept place hne hpasses)
    refine hfirst.trans (ih.mono fun place hmem => ?_)
    rw [first.working] at hmem
    exact List.mem_cons_of_mem _ hmem

end

/-- A failure takes nothing out of its place. -/
theorem Refused.inPlace {files : List (Path × ByteArray)} {fault : Fault}
    (refused : Refused path disk fault after) (inPlace : InPlace files disk) :
    InPlace files after := by
  have hkept : ∀ place entry, disk.find? place = some entry → after.find? place = some entry := by
    intro place entry hentry
    rcases refused.kept.frame place id with hsame | ⟨hnone, -⟩
    · rw [hsame, hentry]
    · rw [hnone] at hentry
      cases hentry
  refine ⟨inPlace.nullFree, fun file hmem => ?_, fun file hmem place hpasses => ?_⟩
  · rw [refused.kept.working]
    exact hkept _ _ (inPlace.held file hmem)
  · rw [refused.kept.working] at hpasses
    exact hkept _ _ (inPlace.passed file hmem place hpasses)

/-! ### Putting what is there -/

theorem setEntry_eq_self {entries : List (Location × Entry)} {entry : Entry}
    (h : entries.lookup location = some entry) : setEntry entries location entry = entries := by
  induction entries with
  | nil => cases h
  | cons head rest ih =>
    obtain ⟨other, old⟩ := head
    rw [setEntry]
    by_cases hplace : other = location
    · rw [List.lookup_cons, hplace, beq_self_eq_true] at h
      rw [if_pos hplace, Option.some.inj h]
    · rw [List.lookup_cons, beq_false_of_ne (Ne.symm hplace)] at h
      rw [if_neg hplace, ih h]

theorem put_eq_self {entry : Entry} (named : location ≠ [])
    (h : disk.find? location = some entry) : disk.put location entry = disk := by
  rw [find?, if_neg named] at h
  rw [put, setEntry_eq_self h]

/-- Putting a file that is in its place already changes nothing. -/
theorem deposit_eq_self (tree : disk.Tree) (unlimited : disk.limits = none)
    (hnull : path.hasNull = false)
    (passed : ∀ place, path.PassesThrough disk.working place →
      disk.find? place = some .directory) {bytes : ByteArray}
    (held : disk.find? (path.resolve disk.working) = some (.file bytes)) :
    deposit path bytes disk = .ok () disk := by
  have free : disk.find? (path.resolve disk.working) ≠ some .directory := by
    rw [held]
    simp
  have named := parts_ne_nil_of_free tree free
  have hdirectories : ensureDirectory path.parent disk = .ok () disk := by
    have hrefusal : disk.refusal? path.parent = none := by
      cases hrefusal : disk.refusal? path.parent with
      | none => rfl
      | some fault =>
        have := hasNull_of_hasNull_parent (hasNull_of_refused unlimited hrefusal)
        rw [hnull] at this
        cases this
    rw [ensureDirectory, hrefusal]
    exact enter_eq_self unlimited
      (fun place h => passed place ((Path.passesThrough_iff named).mpr h)) false
  rw [deposit, bind_eq_of_ok hdirectories]
  rcases write_cases passed bytes with ⟨-, -, hwrite⟩ | ⟨fault, -, -, obstacle⟩
  · rw [hwrite, put_eq_self (fun h => free (by rw [h]; rfl)) held]
  · rcases obstacle unlimited with hnull' | hdirectory
    · rw [hnull] at hnull'
      cases hnull'
    · exact absurd hdirectory free

end Introspection.Disk
