import Introspection.Proofs.Disk.Tree

/-!
# Appending to files

Bytes that are appended to a file come behind those that it holds. What is said about that here
does not ask whether there is a file at a place already: a place without one holds nothing, and
stays so when directories are made.

## Main definitions

* `Disk.Grows` — files are files still, with more behind what they held at most

## Main results

* `Disk.heldAt_appendAt` — what a place holds after bytes were appended somewhere
* `Disk.Tree.appendAt` — a tree stays one
* `Disk.openForAppending_cases`
* `Disk.grows_appendAt`, `Disk.KeepsOutside.grows`
-/

namespace Introspection.Disk

open Introspection.Path (Location)

variable {disk middle after : Disk} {location place : Location}

/-- Bytes are appended at one place, and every other holds what it held. -/
theorem heldAt_appendAt (named : location ≠ []) (bytes : ByteArray) (place : Location) :
    (disk.appendAt location bytes).heldAt place =
      disk.heldAt place ++ if place = location then bytes else .empty := by
  rw [appendAt, heldAt]
  by_cases hplace : place = location
  · rw [hplace, find?_put_self disk named, if_pos rfl]
  · rw [find?_put_of_ne disk hplace, if_neg hplace, ByteArray.append_empty]
    rfl

/-- A tree stays one when bytes are appended to one of its files. -/
theorem Tree.appendAt (tree : disk.Tree) {old : ByteArray}
    (isFile : disk.find? location = some (.file old)) (bytes : ByteArray) :
    (disk.appendAt location bytes).Tree := by
  have named : location ≠ [] := by
    rintro rfl
    cases isFile
  refine tree.put named (tree.around _ _ isFile) fun isDirectory => ?_
  rw [isFile] at isDirectory
  cases isDirectory

theorem keepsOutside_appendAt {inside : Location → Prop} (h : inside location)
    (bytes : ByteArray) : KeepsOutside inside disk (disk.appendAt location bytes) :=
  keepsOutside_put h _

/-- Where nothing but directories is new, every place holds what it held. -/
theorem KeepsOutside.heldAt (kept : KeepsOutside (fun _ => False) disk after) (place : Location) :
    after.heldAt place = disk.heldAt place := by
  rw [Disk.heldAt, Disk.heldAt]
  rcases kept.frame place id with hsame | ⟨hnone, hmade⟩
  · rw [hsame]
  · rw [hnone, hmade]

/-- What is opened for writing is no directory. -/
theorem ne_directory_of_openFile {path : Path}
    (h : openFile path disk = .ok location after) : disk.find? location ≠ some .directory := by
  rw [openFile] at h
  split at h
  · cases h
  · split at h
    · cases h
    · next hne =>
      obtain ⟨rfl, -⟩ := (EStateM.Result.ok.injEq ..).mp h
      exact hne

/-- A file is there once it was opened for appending, and holds what it held. -/
theorem openForAppending_cases (path : Path) (disk : Disk) :
    (disk.find? (path.resolve disk.working) ≠ some .directory ∧
        openForAppending path disk = .ok (path.resolve disk.working)
          (disk.appendAt (path.resolve disk.working) .empty)) ∨
      ∃ fault, openForAppending path disk = .error fault disk := by
  rcases openFile_cases path disk with hopen | ⟨fault, hopen⟩
  · refine .inl ⟨ne_directory_of_openFile hopen, ?_⟩
    rw [openForAppending, bind_eq_of_ok hopen]
    rfl
  · exact .inr ⟨fault, bind_eq_of_error hopen⟩

/-! ### Files that grow -/

/-- What was a file is one, and holds what it held, possibly with more behind it. -/
def Grows (disk after : Disk) : Prop :=
  ∀ place bytes, disk.find? place = some (.file bytes) →
    ∃ more, after.find? place = some (.file (bytes ++ more))

theorem Grows.refl (disk : Disk) : Grows disk disk := fun place bytes h =>
  ⟨.empty, by rw [h, ByteArray.append_empty]⟩

theorem Grows.trans (first : Grows disk middle) (second : Grows middle after) :
    Grows disk after := by
  intro place bytes h
  obtain ⟨more, hmore⟩ := first place bytes h
  obtain ⟨again, hagain⟩ := second place _ hmore
  exact ⟨more ++ again, by rw [hagain, ByteArray.append_assoc]⟩

theorem KeepsOutside.grows (kept : KeepsOutside (fun _ => False) disk after) :
    Grows disk after := by
  intro place bytes h
  rcases kept.frame place id with hsame | ⟨hnone, -⟩
  · exact ⟨.empty, by rw [hsame, h, ByteArray.append_empty]⟩
  · rw [hnone] at h
    cases h

theorem grows_appendAt (location : Location) (bytes : ByteArray) :
    Grows disk (disk.appendAt location bytes) := by
  intro place old h
  by_cases hplace : place = location
  · subst hplace
    have named : place ≠ [] := by
      rintro rfl
      cases h
    refine ⟨bytes, ?_⟩
    rw [appendAt, find?_put_self disk named, heldAt, h]
  · exact ⟨.empty, by rw [appendAt, find?_put_of_ne disk hplace, h, ByteArray.append_empty]⟩

end Introspection.Disk
