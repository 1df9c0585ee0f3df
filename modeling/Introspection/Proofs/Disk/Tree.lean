import Introspection.Proofs.Disk.Frame
import Introspection.Proofs.Runs
import Mathlib.Data.List.Basic
import Mathlib.Data.List.Induction

/-!
# Trees of directories

A disk is a tree if whatever is somewhere is in a directory. Making directories keeps it one, and on
a tree it can be told exactly. Going along the parts of a path, every place that is met is a
directory in the end, and there is nothing else new; or a file is met, and then the directories
before it have been made.

Only limits of the disk can stop it otherwise. Nothing is ever missing, since it is made.

## Main definitions

* `Path.follow`, `Path.Meets` — going along some parts
* `Path.PassesThrough` — the places on the way to what a path names
* `Disk.Tree`
* `Disk.Entered`, `Disk.Hindered` — how making directories ends

## Main results

* `Disk.Tree.put` — what may be put on a tree
* `Disk.enter_cases`, `Disk.ensureDirectory_cases`
* `Disk.enter_eq_self` — making what is there
-/

namespace Introspection

open Introspection.Path (Location)

/-! ### Places on the way -/

namespace Path

/-- The place that a part leads to from another place. -/
def follow (here : Location) (part : String) : Location :=
  if part = ".." then here.dropLast else here ++ [part]

/-- A path leads through the places that its first parts name, all parts not included. -/
def PassesThrough (path : Path) (working place : Location) : Prop :=
  ∃ front back, path.parts = front ++ back ∧ back ≠ [] ∧
    place = (⟨path.root, front⟩ : Path).resolve working

/-- The places that are met when parts are followed, the first and the last one included. -/
def Meets (here : Location) (parts : List String) (place : Location) : Prop :=
  ∃ front, front <+: parts ∧ place = front.foldl follow here

theorem meets_nil {here place : Location} : Meets here [] place ↔ place = here := by
  simp [Meets]

theorem meets_cons {here place : Location} {part : String} {rest : List String} :
    Meets here (part :: rest) place ↔ place = here ∨ Meets (follow here part) rest place := by
  constructor
  · rintro ⟨front, hprefix, rfl⟩
    rcases List.prefix_cons_iff.mp hprefix with rfl | ⟨front, rfl, hrest⟩
    · exact .inl rfl
    · exact .inr ⟨front, hrest, rfl⟩
  · rintro (rfl | ⟨front, hprefix, rfl⟩)
    · exact ⟨[], List.nil_prefix, rfl⟩
    · exact ⟨part :: front, (List.prefix_cons_inj part).mpr hprefix, rfl⟩

theorem meets_here (here : Location) (parts : List String) : Meets here parts here :=
  ⟨[], List.nil_prefix, rfl⟩

/-- The places on the way are those that are met on the way to the directory around. -/
theorem passesThrough_iff {path : Path} (named : path.parts ≠ []) {working place : Location} :
    path.PassesThrough working place ↔ Meets (path.start working) path.parent.parts place := by
  have hparts : path.parts = path.parent.parts ++ [path.parts.getLast named] :=
    (List.dropLast_concat_getLast named).symm
  constructor
  · rintro ⟨front, back, hsplit, hback, rfl⟩
    refine ⟨front, ?_, rfl⟩
    rw [parent, hsplit, List.dropLast_append_of_ne_nil hback]
    exact List.prefix_append front _
  · rintro ⟨front, ⟨back, hsplit⟩, rfl⟩
    refine ⟨front, back ++ [path.parts.getLast named], ?_, by simp, rfl⟩
    rw [← List.append_assoc, hsplit]
    exact hparts

theorem parts_ne_nil_of_passesThrough {path : Path} {working place : Location}
    (h : path.PassesThrough working place) : path.parts ≠ [] := by
  obtain ⟨front, back, hsplit, hback, -⟩ := h
  rw [hsplit]
  exact List.append_ne_nil_of_right_ne_nil front hback

end Path

namespace Disk

open Introspection.Path (Meets follow meets_nil meets_cons meets_here)

/-! ### Trees -/

/-- Whatever is somewhere is in a directory, and paths start in one. -/
structure Tree (disk : Disk) : Prop where
  around : ∀ location entry, disk.find? location = some entry →
    disk.find? location.dropLast = some .directory
  working : disk.find? disk.working = some .directory

variable {disk after : Disk} {location place here : Location} {path : Path}

/-- Something can be put on a tree if there is a directory around its place, and no directory is
replaced by a file. -/
theorem Tree.put (tree : disk.Tree) {entry : Entry} (named : location ≠ [])
    (inside : disk.find? location.dropLast = some .directory)
    (keeps : disk.find? location = some .directory → entry = .directory) :
    (disk.put location entry).Tree := by
  -- Directories are found again, in the place itself as well.
  have hkept : ∀ other, disk.find? other = some .directory →
      (disk.put location entry).find? other = some .directory := by
    intro other hother
    by_cases heq : other = location
    · rw [heq] at hother ⊢
      rw [find?_put_self disk named, keeps hother]
    · rw [find?_put_of_ne disk heq, hother]
  refine ⟨fun other found hfound => hkept _ ?_, hkept _ tree.working⟩
  by_cases heq : other = location
  · rw [heq]
    exact inside
  · rw [find?_put_of_ne disk heq] at hfound
    exact tree.around other found hfound

/-- A disk is a tree if its entries are in directories. -/
theorem tree_of_entries (working : disk.find? disk.working = some .directory)
    (around : ∀ entry ∈ disk.entries, disk.find? entry.1.dropLast = some .directory) :
    disk.Tree := by
  refine ⟨fun location entry hfound => ?_, working⟩
  rw [find?] at hfound
  split at hfound
  · next htop =>
    rw [htop]
    rfl
  · obtain ⟨front, back, hsplit, -⟩ := List.lookup_eq_some_iff.mp hfound
    exact around (location, entry) (by simp [hsplit])

/-- On the way to a directory there are directories. -/
theorem Tree.directory_of_prefix (tree : disk.Tree) {front : Location}
    (isDirectory : disk.find? place = some .directory) (above : front <+: place) :
    disk.find? front = some .directory := by
  obtain ⟨back, rfl⟩ := above
  induction back using List.reverseRecOn with
  | nil => rwa [List.append_nil] at isDirectory
  | append_singleton back name ih =>
    have haround := tree.around _ _ isDirectory
    rw [← List.append_assoc, List.dropLast_concat] at haround
    exact ih haround

theorem Tree.start (tree : disk.Tree) (path : Path) :
    disk.find? (path.start disk.working) = some .directory := by
  rw [Path.start]
  split
  · exact tree.working
  · rfl

theorem concat_ne_nil (here : Location) (part : String) : here ++ [part] ≠ [] := by
  simp

/-- A disk without limits takes every name. -/
theorem nameTooLong_eq_false (unlimited : disk.limits = none) (name : String) :
    disk.nameTooLong name = false := by
  rw [nameTooLong, unlimited]

/-- Without limits a path is refused for a null character only. -/
theorem hasNull_of_refused (unlimited : disk.limits = none) {fault : Fault}
    (h : disk.refusal? path = some fault) : path.hasNull = true := by
  rw [refusal?, unlimited] at h
  split at h
  · assumption
  · cases h

theorem hasNull_of_refusal? (h : disk.refusal? path = none) : path.hasNull = false := by
  cases hnull : path.hasNull with
  | false => rfl
  | true =>
    rw [refusal?, hnull, if_pos rfl] at h
    cases h

theorem refusal?_ne_notFound : disk.refusal? path ≠ some .notFound := by
  rw [refusal?]
  split
  · simp
  · split
    · split <;> simp
    · simp

/-! ### Making directories -/

/-- What is different when directories have been made: all places that were met are directories,
and there is nothing else. None of them was a file. -/
structure Entered (here : Location) (parts : List String) (disk after : Disk) : Prop where
  tree : after.Tree
  limits : after.limits = disk.limits
  met : ∀ place, Meets here parts place → after.find? place = some .directory
  kept : ∀ place, ¬ Meets here parts place → after.find? place = disk.find? place
  clear : ∀ place, Meets here parts place → ∀ bytes, disk.find? place ≠ some (.file bytes)

/-- How making directories fails: the disk is still a tree, nothing was missing, and unless there
are limits a file was met. -/
structure Hindered (here : Location) (parts : List String) (disk : Disk) (fault : Fault)
    (after : Disk) : Prop where
  tree : after.Tree
  told : fault ≠ .notFound
  obstacle : disk.limits = none →
    ∃ place bytes, Meets here parts place ∧ disk.find? place = some (.file bytes)

/-- Going on from a place that is a directory already. -/
theorem Entered.cons {part : String} {rest : List String}
    (isDirectory : disk.find? here = some .directory)
    (entered : Entered (follow here part) rest disk after) :
    Entered here (part :: rest) disk after where
  tree := entered.tree
  limits := entered.limits
  met place hmeets := by
    by_cases hrest : Meets (follow here part) rest place
    · exact entered.met place hrest
    · obtain rfl := (meets_cons.mp hmeets).resolve_right hrest
      rw [entered.kept place hrest, isDirectory]
  kept place hmeets := entered.kept place fun hrest => hmeets (meets_cons.mpr (.inr hrest))
  clear place hmeets bytes := by
    rcases meets_cons.mp hmeets with rfl | hrest
    · rw [isDirectory]
      simp
    · exact entered.clear place hrest bytes

theorem Hindered.cons {part : String} {rest : List String} {fault : Fault}
    (hindered : Hindered (follow here part) rest disk fault after) :
    Hindered here (part :: rest) disk fault after where
  tree := hindered.tree
  told := hindered.told
  obstacle unlimited := by
    obtain ⟨place, bytes, hmeets, hfile⟩ := hindered.obstacle unlimited
    exact ⟨place, bytes, meets_cons.mpr (.inr hmeets), hfile⟩

/-- A new directory is as good as one that was there. -/
theorem Entered.of_put {parts : List String} (named : here ≠ [])
    (missing : disk.find? here = none)
    (entered : Entered here parts (disk.put here .directory) after) :
    Entered here parts disk after where
  tree := entered.tree
  limits := entered.limits
  met := entered.met
  kept place hmeets := by
    have hne : place ≠ here := fun heq => hmeets (heq ▸ meets_here here parts)
    rw [entered.kept place hmeets, find?_put_of_ne disk hne]
  clear place hmeets bytes hfile := by
    have hne : place ≠ here := by
      rintro rfl
      rw [missing] at hfile
      cases hfile
    exact entered.clear place hmeets bytes (by rw [find?_put_of_ne disk hne, hfile])

theorem Hindered.of_put {parts : List String} {fault : Fault} (named : here ≠ [])
    (hindered : Hindered here parts (disk.put here .directory) fault after) :
    Hindered here parts disk fault after where
  tree := hindered.tree
  told := hindered.told
  obstacle unlimited := by
    obtain ⟨place, bytes, hmeets, hfile⟩ := hindered.obstacle unlimited
    have hne : place ≠ here := by
      rintro rfl
      rw [find?_put_self disk named] at hfile
      cases hfile
    exact ⟨place, bytes, hmeets, by rwa [find?_put_of_ne disk hne] at hfile⟩

/-- Directories are made from a directory on, or something hinders it. -/
theorem enter_cases (tree : disk.Tree) (isDirectory : disk.find? here = some .directory)
    (made : Bool) (parts : List String) :
    (∃ after, enter made here parts disk = .ok () after ∧ Entered here parts disk after) ∨
      ∃ fault after, enter made here parts disk = .error fault after ∧
        Hindered here parts disk fault after := by
  induction parts generalizing made here disk with
  | nil =>
    refine .inl ⟨disk, rfl, tree, rfl, fun place h => ?_, fun _ _ => rfl, fun place h bytes => ?_⟩
    all_goals
      obtain rfl := meets_nil.mp h
      simp [isDirectory]
  | cons part rest ih =>
    rw [enter_cons]
    by_cases hreturn : part = ".."
    · have hfollow : follow here part = here.dropLast := if_pos hreturn
      have haround := tree.around here _ isDirectory
      rw [if_pos hreturn, ← hfollow]
      rw [← hfollow] at haround
      rcases ih tree haround made with ⟨after, hrun, entered⟩ | ⟨fault, after, hrun, hindered⟩
      · exact .inl ⟨after, hrun, entered.cons isDirectory⟩
      · exact .inr ⟨fault, after, hrun, hindered.cons⟩
    have hfollow : follow here part = here ++ [part] := if_neg hreturn
    have hmet : Meets here (part :: rest) (here ++ [part]) :=
      meets_cons.mpr (.inr (hfollow ▸ meets_here _ rest))
    rw [if_neg hreturn]
    by_cases hlong : disk.nameTooLong part
    · rw [if_pos hlong]
      refine .inr ⟨_, _, rfl, tree, by simp, fun unlimited => ?_⟩
      rw [nameTooLong_eq_false unlimited] at hlong
      cases hlong
    rw [if_neg hlong]
    have named := concat_ne_nil here part
    cases hentry : disk.find? (here ++ [part]) with
    | some entry =>
      cases entry with
      | file bytes =>
        refine .inr ⟨_, _, rfl, tree, ?_, fun _ => ⟨_, bytes, hmet, hentry⟩⟩
        split <;> simp
      | directory =>
        rw [← hfollow] at hentry ⊢
        rcases ih tree hentry made with ⟨after, hrun, entered⟩ | ⟨fault, after, hrun, hindered⟩
        · exact .inl ⟨after, hrun, entered.cons isDirectory⟩
        · exact .inr ⟨fault, after, hrun, hindered.cons⟩
    | none =>
      have tree' : (disk.put (here ++ [part]) .directory).Tree :=
        tree.put named (by rwa [List.dropLast_concat]) fun _ => rfl
      have hput : (disk.put (here ++ [part]) .directory).find? (here ++ [part]) =
          some .directory := find?_put_self disk named _
      rw [← hfollow] at hentry hput tree' named ⊢
      rcases ih tree' hput true with ⟨after, hrun, entered⟩ | ⟨fault, after, hrun, hindered⟩
      · exact .inl ⟨after, hrun, (entered.of_put named hentry).cons isDirectory⟩
      · exact .inr ⟨fault, after, hrun, (hindered.of_put named).cons⟩

/-- The directories of a path are made, or the path is refused, or something hinders it. -/
theorem ensureDirectory_cases (tree : disk.Tree) (path : Path) :
    (∃ after, ensureDirectory path disk = .ok () after ∧ path.hasNull = false ∧
        Entered (path.start disk.working) path.parts disk after) ∨
      ∃ fault after, ensureDirectory path disk = .error fault after ∧ after.Tree ∧
        fault ≠ .notFound ∧ (disk.limits = none → path.hasNull = true ∨
          ∃ place bytes, Meets (path.start disk.working) path.parts place ∧
            disk.find? place = some (.file bytes)) := by
  rw [ensureDirectory]
  cases hrefusal : disk.refusal? path with
  | some fault =>
    refine .inr ⟨fault, disk, rfl, tree, ?_, fun unlimited => .inl ?_⟩
    · rintro rfl
      exact refusal?_ne_notFound hrefusal
    · exact hasNull_of_refused unlimited hrefusal
  | none =>
    rcases enter_cases tree (tree.start path) false path.parts with
      ⟨after, hrun, entered⟩ | ⟨fault, after, hrun, hindered⟩
    · exact .inl ⟨after, hrun, hasNull_of_refusal? hrefusal, entered⟩
    · exact .inr ⟨fault, after, hrun, hindered.tree, hindered.told, fun unlimited =>
        .inr (hindered.obstacle unlimited)⟩

/-- Making directories that are there changes nothing. -/
theorem enter_eq_self (unlimited : disk.limits = none) {parts : List String}
    (met : ∀ place, Meets here parts place → disk.find? place = some .directory) (made : Bool) :
    enter made here parts disk = .ok () disk := by
  induction parts generalizing here with
  | nil => rfl
  | cons part rest ih =>
    have hrest := ih fun place h => met place (meets_cons.mpr (.inr h))
    rw [enter_cons]
    by_cases hreturn : part = ".."
    · rw [if_pos hreturn]
      rwa [follow, if_pos hreturn] at hrest
    · have hfollow : follow here part = here ++ [part] := if_neg hreturn
      have hentry := met (here ++ [part])
        (meets_cons.mpr (.inr (hfollow ▸ meets_here (follow here part) rest)))
      rw [if_neg hreturn, if_neg (by rw [nameTooLong_eq_false unlimited]; simp), hentry]
      rwa [hfollow] at hrest

end Disk

end Introspection
