import Introspection.Proofs.Disk.Deposit
import Introspection.Proofs.Path.Parts
import Introspection.Stub.Output
import Mathlib.Data.List.Nodup

/-!
# What writing stub files does to the disk

Stub files are put in their places below a directory, in the order of their paths. So what is known
of files that are put in their places one after the other is known of stub files: whether all can
be written is told from the disk and from the paths alone, and where it ends, all files in front of
the first one that cannot be written are there, and nothing else is changed.

Different relative paths lead to different places. This needs paths without double dots, and then a
file that was written stays as it was written. So writing once more finds everything in its place.

## Scope

The directory that is written to may be any path. If it has double dots, a file can be in its own
way: below a place that its own path leads through and out of again.

## Main definitions

* `Stub.placed` — the paths and the bytes of stub files below a directory

## Main results

* `Stub.writeAll_cases` — all files are put in their places, or it ends at one of them
* `Stub.write_effect`
-/

namespace Introspection.Stub

open Introspection.Disk (Blocked Deposited Deposits FirstBlocked InPlace KeepsOutside Refused Tree
  deposit placesOf)
open Introspection.Path (Location)

variable {disk after : Disk} {directory : Path} {files : Files}

/-! ### The order of paths -/

theorem sorted_perm (files : Files) : files.sorted.Perm files :=
  List.mergeSort_perm _ _

/-- The paths of different files ascend. -/
theorem sorted_ascending (distinct : (files.map Prod.fst).Nodup) :
    (files.sorted.map Prod.fst).Pairwise fun first second => first.le second ∧ first ≠ second := by
  have hle : files.sorted.Pairwise fun first second => first.1.le second.1 :=
    @List.pairwise_mergeSort _ (fun first second => first.1.le second.1)
      (fun _ _ _ => Path.le_trans) (fun first second => Path.le_total first.1 second.1) files
  have hne : (files.sorted.map Prod.fst).Nodup :=
    ((sorted_perm files).map Prod.fst).nodup_iff.mpr distinct
  exact (List.pairwise_map.mpr hle).and hne

/-! ### One file -/

/-- The paths and the bytes of stub files below a directory. -/
def placed (directory : Path) (files : Files) : List (Path × ByteArray) :=
  files.map fun entry => (directory.join entry.1, entry.2.toUTF8)

theorem map_fst_placed (directory : Path) (files : Files) :
    (placed directory files).map Prod.fst = files.map fun entry => directory.join entry.1 := by
  rw [placed, List.map_map]
  rfl

theorem writeFile_eq (directory relative : Path) (text : String) :
    writeFile directory relative text =
      deposit (directory.join relative) text.toUTF8 >>= fun _ => pure (directory.join relative) := by
  simp [writeFile, deposit]

/-- A stub file is put in its place, and its path is told. -/
theorem writeFile_eq_ok {relative : Path} {text : String}
    (h : deposit (directory.join relative) text.toUTF8 disk = .ok () after) :
    writeFile directory relative text disk = .ok (directory.join relative) after := by
  rw [writeFile_eq, bind_eq_of_ok h]
  rfl

theorem writeFile_eq_error {relative : Path} {text : String} {fault : Disk.Fault}
    (h : deposit (directory.join relative) text.toUTF8 disk = .error fault after) :
    writeFile directory relative text disk = .error fault after := by
  rw [writeFile_eq, bind_eq_of_error h]

/-! ### Many files -/

/-- **All files are put in their places, or it ends at one of them.** -/
theorem writeAll_cases (tree : disk.Tree) (directory : Path) (files : Files) :
    (∃ after, writeAll directory files disk =
          .ok (files.map fun entry => directory.join entry.1) after ∧
        Deposits (placed directory files) disk after) ∨
      ∃ fault after front entry back middle,
        writeAll directory files disk = .error fault after ∧ files = front ++ entry :: back ∧
          Deposits (placed directory front) disk middle ∧
            Refused (directory.join entry.1) middle fault after := by
  induction files generalizing disk with
  | nil => exact .inl ⟨disk, rfl, .nil disk⟩
  | cons entry rest ih =>
    obtain ⟨relative, text⟩ := entry
    rw [writeAll]
    rcases Disk.deposit_cases tree (directory.join relative) text.toUTF8 with
      ⟨middle, hrun, deposited⟩ | ⟨fault, after, hrun, refused⟩
    · have hfile := writeFile_eq_ok hrun
      rcases ih deposited.tree with
        ⟨after, hrest, deposits⟩ | ⟨fault, after, front, entry, back, last, hrest, rfl, deposits,
          refused⟩
      · exact .inl ⟨after, (bind_eq_of_ok hfile).trans (bind_eq_of_ok hrest),
          .cons deposited deposits⟩
      · exact .inr ⟨fault, after, (relative, text) :: front, entry, back, last,
          (bind_eq_of_ok hfile).trans (bind_eq_of_error hrest), rfl, .cons deposited deposits,
          refused⟩
    · exact .inr ⟨fault, after, [], (relative, text), rest, disk,
        bind_eq_of_error (writeFile_eq_error hrun), rfl, .nil disk, refused⟩

/-- Files that are in their places are written without changing anything. -/
theorem writeAll_eq_self (tree : disk.Tree) (unlimited : disk.limits = none)
    (inPlace : InPlace (placed directory files) disk) :
    writeAll directory files disk = .ok (files.map fun entry => directory.join entry.1) disk := by
  induction files with
  | nil => rfl
  | cons entry rest ih =>
    obtain ⟨relative, text⟩ := entry
    obtain ⟨nullFree, othersNullFree⟩ := List.forall_mem_cons.mp inPlace.nullFree
    obtain ⟨held, othersHeld⟩ := List.forall_mem_cons.mp inPlace.held
    obtain ⟨passed, othersPassed⟩ := List.forall_mem_cons.mp inPlace.passed
    have hrun : deposit (directory.join relative) text.toUTF8 disk = .ok () disk :=
      Disk.deposit_eq_self tree unlimited nullFree passed held
    rw [writeAll, bind_eq_of_ok (writeFile_eq_ok hrun)]
    exact bind_eq_of_ok (ih ⟨othersNullFree, othersHeld, othersPassed⟩)

/-! ### Different files -/

/-- Different inner paths lead to different places below a directory. -/
theorem nodup_placesOf (inner : ∀ entry ∈ files, entry.1.Inner)
    (distinct : (files.map Prod.fst).Nodup) (directory : Path) (working : Location) :
    (placesOf working (placed directory files)).Nodup := by
  have hplaces : placesOf working (placed directory files) =
      (files.map Prod.fst).map fun relative => (directory.join relative).resolve working := by
    simp only [placesOf, placed, List.map_map]
    rfl
  rw [hplaces]
  refine distinct.map_on fun first hfirst second hsecond heq => ?_
  have inner' : ∀ relative ∈ files.map Prod.fst, relative.Inner := fun relative h => by
    obtain ⟨entry, hmem, rfl⟩ := List.mem_map.mp h
    exact inner entry hmem
  rw [Path.resolve_join (inner' first hfirst), Path.resolve_join (inner' second hsecond)] at heq
  have hparts := List.append_cancel_left heq
  obtain ⟨root, parts⟩ := first
  obtain ⟨root', parts'⟩ := second
  obtain rfl : root = .relative := (inner' _ hfirst).relative
  obtain rfl : root' = .relative := (inner' _ hsecond).relative
  rw [show parts = parts' from hparts]

/-! ### All files of a tree -/

theorem nodup_placesOf_sorted (inner : ∀ entry ∈ files, entry.1.Inner)
    (distinct : (files.map Prod.fst).Nodup) (directory : Path) (working : Location) :
    (placesOf working (placed directory files.sorted)).Nodup :=
  nodup_placesOf (fun entry h => inner entry ((sorted_perm files).mem_iff.mp h))
    (((sorted_perm files).map Prod.fst).nodup_iff.mpr distinct) directory working

section

variable (tree : disk.Tree) (unlimited : disk.limits = none)
  (distinct : (files.map Prod.fst).Nodup) (inner : ∀ entry ∈ files, entry.1.Inner)
include tree unlimited

/-- Writing fails at the first file that cannot be put in its place, with those in front of it in
theirs. -/
theorem deposits_of_write_eq_error {fault : Disk.Fault}
    (h : write files directory disk = .error fault after) :
    ∃ front entry back middle, files.sorted = front ++ entry :: back ∧
      Deposits (placed directory front) disk middle ∧
      Refused (directory.join entry.1) middle fault after ∧
      disk.FirstBlocked (front.map fun entry => directory.join entry.1)
        (directory.join entry.1) := by
  rcases writeAll_cases tree directory files.sorted with
    ⟨_, hrun, -⟩ | ⟨_, _, front, entry, back, middle, hrun, hsplit, deposits, refused⟩
  · cases hrun.symm.trans h
  · obtain ⟨rfl, rfl⟩ := (EStateM.Result.error.injEq ..).mp (hrun.symm.trans h)
    have blocked := refused.blocked (deposits.limits.trans unlimited)
    refine ⟨front, entry, back, middle, hsplit, deposits, refused, ?_⟩
    rw [← map_fst_placed]
    exact deposits.firstBlocked blocked

/-- Whether writing fails does not depend on the order of the files. -/
theorem write_fails_iff :
    (∃ fault after, write files directory disk = .error fault after) ↔
      ∃ entry ∈ files, disk.Blocked (files.map fun entry => directory.join entry.1)
        (directory.join entry.1) := by
  have hperm := (sorted_perm files).map fun entry => directory.join entry.1
  constructor
  · rintro ⟨fault, after, h⟩
    obtain ⟨front, entry, back, _, hsplit, -, -, first⟩ :=
      deposits_of_write_eq_error tree unlimited h
    refine ⟨entry, (sorted_perm files).mem_iff.mp (by simp [hsplit]), first.blocked.mono ?_⟩
    refine List.Subset.trans ?_ hperm.subset
    simp [hsplit]
  · rintro ⟨entry, hmem, blocked⟩
    have hexists : ∃ path ∈ (placed directory files.sorted).map Prod.fst,
        disk.Blocked ((placed directory files.sorted).map Prod.fst) path := by
      rw [map_fst_placed]
      exact ⟨directory.join entry.1,
        hperm.mem_iff.mpr (List.mem_map_of_mem hmem), blocked.mono hperm.symm.subset⟩
    obtain ⟨front, path, back, hsplit, hblocked⟩ := Disk.exists_blocked_iff.mp hexists
    rcases writeAll_cases tree directory files.sorted with
      ⟨_, -, deposits⟩ | ⟨fault, after, _, _, _, _, hrun, -⟩
    · exact absurd hblocked (deposits.not_blocked hsplit)
    · exact ⟨fault, after, hrun⟩

include distinct inner

/-- **What writing stub files does to the disk.**

If it succeeds, the paths are told in ascending order, every file is in its place and holds its text,
and nothing else is different but for new directories; and once all that is so, writing again tells
the same and changes nothing. It fails exactly if there is a file whose path has a null character,
whose place is a directory, or that has a file on the way to it, on the disk or through the paths
that are written. Then all files in front of the first such one are in their places, and nothing else
is different. -/
theorem write_effect (directory : Path) :
    (∀ written after, write files directory disk = .ok written after →
      (∃ relatives : List Path, relatives.Perm (files.map Prod.fst) ∧
        relatives.Pairwise (fun first second => first.le second ∧ first ≠ second) ∧
        written = relatives.map directory.join) ∧
      InPlace (placed directory files) after ∧
      KeepsOutside (· ∈ placesOf disk.working (placed directory files)) disk after ∧
      write files directory after = .ok written after) ∧
    ((∃ fault after, write files directory disk = .error fault after) ↔
      ∃ entry ∈ files, disk.Blocked (files.map fun entry => directory.join entry.1)
        (directory.join entry.1)) ∧
    ∀ fault after, write files directory disk = .error fault after →
      ∃ front entry back, files.sorted = front ++ entry :: back ∧
        disk.FirstBlocked (front.map fun entry => directory.join entry.1)
          (directory.join entry.1) ∧
        InPlace (placed directory front) after ∧
        KeepsOutside (· ∈ placesOf disk.working (placed directory front)) disk after := by
  have distinct' := nodup_placesOf_sorted inner distinct directory disk.working
  refine ⟨fun written after h => ?_, write_fails_iff tree unlimited, fun fault after h => ?_⟩
  · rcases writeAll_cases tree directory files.sorted with ⟨_, hrun, deposits⟩ | ⟨_, _, _, _, _, _, hrun, -⟩
    · obtain ⟨rfl, rfl⟩ := (EStateM.Result.ok.injEq ..).mp (hrun.symm.trans h)
      have inPlace := deposits.inPlace distinct'
      have hplaced := (sorted_perm files).map fun entry =>
        (directory.join entry.1, entry.2.toUTF8)
      refine ⟨⟨files.sorted.map Prod.fst, (sorted_perm files).map _, sorted_ascending distinct, by simp⟩,
        inPlace.of_subset hplaced.symm.subset, deposits.keepsOutside.mono fun place hmem => ?_,
        writeAll_eq_self (deposits.tree tree) (deposits.limits.trans unlimited) inPlace⟩
      exact (hplaced.map _).mem_iff.mp hmem
    · cases hrun.symm.trans h
  · obtain ⟨front, entry, back, middle, hsplit, deposits, refused, first⟩ :=
      deposits_of_write_eq_error tree unlimited h
    have hfront : (placesOf disk.working (placed directory front)).Nodup := by
      rw [hsplit, placed, placesOf, List.map_append, List.map_append] at distinct'
      exact (List.nodup_append'.mp distinct').1
    exact ⟨front, entry, back, hsplit, first, refused.inPlace (deposits.inPlace hfront),
      deposits.keepsOutside.trans (refused.kept.mono fun _ h => h.elim)⟩

end

/-- Two stub files, one of them in a directory of its own. -/
def twoFiles : Files :=
  [(⟨.relative, ["b.pyi"]⟩, "B"), (⟨.relative, ["a", "c.pyi"]⟩, "C")]

/-- An output directory with one entry in it. -/
def outputWith (name : String) (entry : Disk.Entry) : Disk where
  entries := [(["out"], .directory), (["out", name], entry)]
  limits := none

theorem tree_outputWith (name : String) (entry : Disk.Entry) : (outputWith name entry).Tree := by
  refine Disk.tree_of_entries rfl fun other h => ?_
  simp only [outputWith, List.mem_cons, List.not_mem_nil, or_false] at h
  rcases h with rfl | rfl <;> rfl

theorem sorted_twoFiles : twoFiles.sorted =
    [(⟨.relative, ["a", "c.pyi"]⟩, "C"), (⟨.relative, ["b.pyi"]⟩, "B")] := by
  simp +decide [Files.sorted, List.mergeSort, twoFiles]

/-- An older file is replaced. Where a file has the name of the directory that is needed, writing
fails. -/
theorem write_effect_replaced :
    (twoFiles.map Prod.fst).Nodup ∧ (∀ entry ∈ twoFiles, entry.1.Inner) ∧
    (∃ after, write twoFiles ⟨.slash, ["out"]⟩ (outputWith "b.pyi" (.file "old".toUTF8)) =
        .ok [⟨.slash, ["out", "a", "c.pyi"]⟩, ⟨.slash, ["out", "b.pyi"]⟩] after ∧
      after.find? ["out", "b.pyi"] = some (.file "B".toUTF8) ∧
      write twoFiles ⟨.slash, ["out"]⟩ after =
        .ok [⟨.slash, ["out", "a", "c.pyi"]⟩, ⟨.slash, ["out", "b.pyi"]⟩] after) ∧
    ∃ fault after, write twoFiles ⟨.slash, ["out"]⟩ (outputWith "a" (.file "old".toUTF8)) =
      .error fault after := by
  have distinct : (twoFiles.map Prod.fst).Nodup := by decide
  have inner : ∀ entry ∈ twoFiles, entry.1.Inner := by decide
  have hrun : ∃ after, write twoFiles ⟨.slash, ["out"]⟩ (outputWith "b.pyi" (.file "old".toUTF8)) =
      .ok [⟨.slash, ["out", "a", "c.pyi"]⟩, ⟨.slash, ["out", "b.pyi"]⟩] after := by
    rw [write, sorted_twoFiles]
    exact ⟨_, rfl⟩
  refine ⟨distinct, inner, ?_, ?_⟩
  · obtain ⟨after, hrun⟩ := hrun
    obtain ⟨-, inPlace, -, hagain⟩ :=
      (write_effect (tree_outputWith _ _) rfl distinct inner _).1 _ after hrun
    exact ⟨after, hrun, inPlace.held (⟨.slash, ["out", "b.pyi"]⟩, "B".toUTF8)
      (List.mem_map.mpr ⟨(⟨.relative, ["b.pyi"]⟩, "B"), by decide, rfl⟩), hagain⟩
  · refine (write_effect (tree_outputWith _ _) rfl distinct inner _).2.1.mpr
      ⟨(⟨.relative, ["a", "c.pyi"]⟩, "C"), by decide, .inr (.inr ⟨["out", "a"], ?_, ?_⟩)⟩
    · exact ⟨["out", "a"], ["c.pyi"], rfl, by decide, rfl⟩
    · exact .inl ⟨_, rfl⟩

/-- A file with a null character in its name. -/
def nullFile : Files :=
  [(⟨.relative, ["b\x00.pyi"]⟩, "1")]

/-- A file with a null character in its name cannot be written, though nothing is in its way. -/
theorem write_nullCharacter :
    (∃ fault after, write nullFile ⟨.slash, ["out"]⟩ { limits := none } = .error fault after) ∧
    ¬ ∃ entry ∈ nullFile, Disk.Obstructed { limits := none }
      (nullFile.map fun entry => (⟨.slash, ["out"]⟩ : Path).join entry.1)
      ((⟨.slash, ["out"]⟩ : Path).join entry.1) := by
  let path : Path := ⟨.slash, ["out", "b\x00.pyi"]⟩
  have hpasses : ∀ place, path.PassesThrough [] place ↔ place = [] ∨ place = ["out"] := by
    intro place
    rw [Path.passesThrough_iff (by decide)]
    exact (Path.meets_cons.trans (or_congr_right Path.meets_nil))
  have hsorted : nullFile.sorted = nullFile := List.mergeSort_singleton _
  refine ⟨⟨.nullCharacter, _, by rw [write, hsorted]; rfl⟩, ?_⟩
  rintro ⟨entry, hmem, obstructed⟩
  obtain rfl := List.mem_singleton.mp hmem
  rcases obstructed with (hdirectory | ⟨other, hother, hother'⟩) |
    ⟨place, hplace, ⟨bytes, hfile⟩ | ⟨other, hother, rfl⟩⟩
  · cases hdirectory
  · obtain rfl := List.mem_singleton.mp hother
    rcases (hpasses _).mp hother' with h | h <;> cases h
  · rcases (hpasses _).mp hplace with rfl | rfl <;> cases hfile
  · obtain rfl := List.mem_singleton.mp hother
    rcases (hpasses _).mp hplace with h | h <;> cases h

end Introspection.Stub
