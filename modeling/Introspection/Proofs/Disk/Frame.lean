import Introspection.Disk.Change

/-!
# What a change leaves alone

A change may write in a region of the disk. Everything else keeps what it held, except that a place
that held nothing may have become a directory: making directories is no harm, as it takes nothing
away. Since a change that fails keeps the disk that it reached, what is said here is said about that
disk, too.

The directory that relative paths start in is part of the frame. A region is mostly given by a path,
and stays the same region through a run of changes only if that directory does.

## Main definitions

* `Disk.reached` — the disk after a change, whether it failed or not
* `Disk.KeepsOutside` — two disks that differ inside a region, or by new directories

## Main results

* `Disk.keepsOutside_bind` — changes one after the other
* `Disk.keepsOutside_ensureDirectory`, `Disk.keepsOutside_write`
-/

namespace Introspection.Disk

open Introspection.Path (Location)

variable {α β : Type} {inside : Location → Prop} {disk before middle after : Disk}

/-- The disk that a change has reached when it ends or fails. -/
def reached : EStateM.Result Fault Disk α → Disk
  | .ok _ disk | .error _ disk => disk

/-- Two disks have the same places outside a region, apart from directories that only the second
one has. -/
structure KeepsOutside (inside : Location → Prop) (before after : Disk) : Prop where
  working : after.working = before.working
  frame : ∀ location, ¬ inside location →
    after.find? location = before.find? location ∨
      before.find? location = none ∧ after.find? location = some .directory

theorem KeepsOutside.refl (inside : Location → Prop) (disk : Disk) :
    KeepsOutside inside disk disk where
  working := rfl
  frame _ _ := .inl rfl

theorem KeepsOutside.trans (first : KeepsOutside inside before middle)
    (second : KeepsOutside inside middle after) : KeepsOutside inside before after where
  working := second.working.trans first.working
  frame location outside := by
    rcases second.frame location outside with hsame | ⟨hnone, hmade⟩
    · rw [hsame]
      exact first.frame location outside
    · rcases first.frame location outside with hsame | ⟨-, hmade'⟩
      · exact .inr ⟨hsame.symm.trans hnone, hmade⟩
      · exact .inl (by rw [hmade'] at hnone; cases hnone)

theorem KeepsOutside.mono {large : Location → Prop} (h : KeepsOutside inside before after)
    (included : ∀ location, inside location → large location) :
    KeepsOutside large before after where
  working := h.working
  frame location outside := h.frame location fun hinside => outside (included location hinside)

/-- A new directory takes nothing away. -/
theorem keepsOutside_put_directory {location : Location} (missing : disk.find? location = none) :
    KeepsOutside inside disk (disk.put location .directory) where
  working := rfl
  frame other _ := by
    by_cases heq : other = location
    · subst heq
      have hne : other ≠ [] := fun h => by rw [find?, if_pos h] at missing; cases missing
      exact .inr ⟨missing, find?_put_self disk hne _⟩
    · exact .inl (find?_put_of_ne disk heq _)

theorem keepsOutside_put {location : Location} (h : inside location) (entry : Entry) :
    KeepsOutside inside disk (disk.put location entry) where
  working := rfl
  frame other outside :=
    have hne : other ≠ location := fun heq => outside (by rwa [heq])
    .inl (find?_put_of_ne disk hne entry)

/-! ### Changes one after the other -/

theorem keepsOutside_bind {first : Change α} {next : α → Change β}
    (hfirst : KeepsOutside inside disk (reached (first disk)))
    (hnext : ∀ value middle, first disk = .ok value middle →
      KeepsOutside inside middle (reached (next value middle))) :
    KeepsOutside inside disk (reached ((first >>= next) disk)) := by
  change KeepsOutside inside disk (reached (EStateM.bind first next disk))
  rw [EStateM.bind]
  cases hrun : first disk with
  | ok value middle =>
    rw [hrun] at hfirst
    exact hfirst.trans (hnext value middle hrun)
  | error fault middle =>
    rw [hrun] at hfirst
    exact hfirst

/-! ### Making directories -/

theorem enter_cons (made : Bool) (here : Location) (part : String) (rest : List String)
    (disk : Disk) :
    enter made here (part :: rest) disk =
      if part = ".." then enter made here.dropLast rest disk
      else if disk.nameTooLong part then .error .tooLong disk
      else
        match disk.find? (here ++ [part]) with
        | some .directory => enter made (here ++ [part]) rest disk
        | some (.file _) =>
          .error (if made || rest.isEmpty then .alreadyThere else .notADirectory) disk
        | none => enter true (here ++ [part]) rest (disk.put (here ++ [part]) .directory) :=
  rfl

/-- Making directories changes what is missing, and nothing else. -/
theorem keepsOutside_enter (made : Bool) (here : Location) (parts : List String) :
    KeepsOutside inside disk (reached (enter made here parts disk)) := by
  induction parts generalizing made here disk with
  | nil => exact .refl inside disk
  | cons part rest ih =>
    rw [enter_cons]
    by_cases hreturn : part = ".."
    · rw [if_pos hreturn]
      exact ih made here.dropLast
    rw [if_neg hreturn]
    by_cases hlong : disk.nameTooLong part
    · rw [if_pos hlong]
      exact .refl inside disk
    rw [if_neg hlong]
    cases hentry : disk.find? (here ++ [part]) with
    | none => exact (keepsOutside_put_directory hentry).trans (ih true (here ++ [part]))
    | some entry =>
      cases entry with
      | directory => exact ih made (here ++ [part])
      | file bytes => exact .refl inside disk

theorem keepsOutside_ensureDirectory (path : Path) :
    KeepsOutside inside disk (reached (ensureDirectory path disk)) := by
  rw [ensureDirectory]
  cases disk.refusal? path with
  | some fault => exact .refl inside disk
  | none => exact keepsOutside_enter false _ _

/-! ### Writing files -/

/-- Walking down some parts leads to the place that they spell out. -/
theorem eq_foldl_of_descend {parts : List String} {here location : Location}
    (h : disk.descend here parts = .ok location) :
    location =
      parts.foldl (fun here part => if part = ".." then here.dropLast else here ++ [part])
        here := by
  induction parts generalizing here with
  | nil => exact (Except.ok.inj h).symm
  | cons part rest ih =>
    rw [descend] at h
    split at h
    · cases h
    · cases h
    · split at h
      case isTrue hreturn =>
        rw [List.foldl_cons, if_pos hreturn]
        exact ih h
      case isFalse hstays =>
        split at h
        · cases h
        · rw [List.foldl_cons, if_neg hstays]
          exact ih h

/-- A path leads nowhere but to the place that it names. -/
theorem eq_resolve_of_locate {path : Path} {location : Location}
    (h : disk.locate path = .ok location) : location = path.resolve disk.working := by
  rw [locate] at h
  cases hrefusal : disk.refusal? path with
  | some fault => rw [hrefusal] at h; cases h
  | none =>
    rw [hrefusal] at h
    exact eq_foldl_of_descend h

/-- Opening a file finds its place and leaves the disk alone. -/
theorem openFile_cases (path : Path) (disk : Disk) :
    openFile path disk = .ok (path.resolve disk.working) disk ∨
      ∃ fault, openFile path disk = .error fault disk := by
  rw [openFile]
  cases hlocate : disk.locate path with
  | error fault => exact .inr ⟨fault, rfl⟩
  | ok location =>
    obtain rfl := eq_resolve_of_locate hlocate
    dsimp only
    split
    · exact .inr ⟨_, rfl⟩
    · exact .inl rfl

/-- Writing a file changes nothing but the place that its path names. -/
theorem keepsOutside_write {path : Path} (h : inside (path.resolve disk.working))
    (bytes : ByteArray) : KeepsOutside inside disk (reached (write path bytes disk)) := by
  refine keepsOutside_bind ?_ fun location middle hopen => ?_
  · rcases openFile_cases path disk with hopen | ⟨fault, hopen⟩ <;> rw [hopen] <;>
      exact .refl inside disk
  · rcases openFile_cases path disk with hopen' | ⟨fault, hopen'⟩
    · obtain ⟨rfl, rfl⟩ := (EStateM.Result.ok.injEq ..).mp (hopen.symm.trans hopen')
      exact keepsOutside_put h _
    · rw [hopen] at hopen'
      cases hopen'

end Introspection.Disk
