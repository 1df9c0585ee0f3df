import Introspection.Proofs.Disk.Frame
import Introspection.Proofs.Recovery.Coverage
import Introspection.Proofs.Runs
import Introspection.Proofs.Stub.Layout
import Introspection.Stub.Output

/-!
# Where stub files can end up

Names come from a recovered document as they are, and a name is split at its slashes when it is put
into a path. So a name can bring a root or a double dot of its own, and then the files of its module
are not below the directory that the stubs are written to.

This is decided by the names alone, one by one: joining never takes back what a name brought in, and
never brings in anything itself. The own name of the module at the top plays no part, since its file
is not called by it; that of a module without submodules counts with the suffix.

## Scope

Directories are made on the way to a file, those around the output directory as well. They are no
files, and nothing is taken away by making them.

## Main definitions

* `Stub.Confined` — the trees whose names have neither roots nor double dots
* `Stub.StrictlyBelow` — the places below a place

## Main results

* `Stub.texts_inner_iff` — names bring in what paths end up with
* `Stub.keepsOutside_writeAll` — files at inner paths are written below the directory
* `Stub.files_inner_iff` — exactly confined trees are written below the directory
-/

namespace Introspection.Stub

open Introspection.Api
open Introspection.Disk (KeepsOutside reached keepsOutside_bind)
open Introspection.Path (Location)
open Relation (TransGen)

/-! ### Names -/

/-- What a module puts into the path of its file: its name, with the suffix where the file is called
by it. -/
def placeText (suffix : String) (module : Module) : String :=
  if module.modules.isEmpty then module.name ++ suffix else module.name

/-- No module inside a tree has a name that leads out of the directory it is put into. -/
def Confined (suffix : String) (module : Module) : Prop :=
  ∀ part, TransGen Encloses module part → (Path.ofText (placeText suffix part)).Inner

theorem confined_iff {suffix : String} {module : Module} :
    Confined suffix module ↔
      ∀ submodule ∈ module.modules,
        (Path.ofText (placeText suffix submodule)).Inner ∧ Confined suffix submodule := by
  constructor
  · intro h submodule hmem
    exact ⟨h submodule (.single hmem), fun part hpart => h part (.head hmem hpart)⟩
  · intro h part hpart
    obtain ⟨submodule, hmem, hpart⟩ := transGen_encloses_iff.mp hpart
    rcases hpart with rfl | hpart
    · exact (h submodule hmem).1
    · exact (h submodule hmem).2 part hpart

theorem confined_of_isEmpty {module : Module} (h : module.modules.isEmpty) (suffix : String) :
    Confined suffix module := by
  rw [confined_iff, List.isEmpty_iff.mp h]
  exact fun submodule hmem => absurd hmem List.not_mem_nil

/-- The paths of a tree are inner exactly if the directory is and all names are. -/
theorem texts_inner_iff {suffix : String} (hinit : (Path.ofText (initName ++ suffix)).Inner)
    {directory : Path} {module : Module} :
    (∀ path ∈ (texts suffix directory module).map Prod.fst, path.Inner) ↔
      directory.Inner ∧ Confined suffix module := by
  induction module using Module.induction generalizing directory with
  | step module ih =>
    have hsubmodule : ∀ submodule ∈ module.modules,
        (∀ path ∈ (if submodule.modules.isEmpty then
            [(directory.child (submodule.name ++ suffix), moduleText submodule)]
          else texts suffix (directory.child submodule.name) submodule).map Prod.fst, path.Inner) ↔
          directory.Inner ∧ (Path.ofText (placeText suffix submodule)).Inner ∧
            Confined suffix submodule := by
      intro submodule hmem
      by_cases hleaf : submodule.modules.isEmpty
      · rw [if_pos hleaf, placeText, if_pos hleaf, List.map_singleton, List.forall_mem_singleton,
          Path.child, Path.inner_join_iff]
        exact and_congr_right' (and_iff_left (confined_of_isEmpty hleaf suffix)).symm
      · rw [if_neg hleaf, placeText, if_neg hleaf, ih submodule hmem, Path.child,
          Path.inner_join_iff, and_assoc]
    rw [texts_eq, submoduleTexts_eq_flatMap, List.map_cons, List.map_flatMap,
      List.forall_mem_cons, Path.child, Path.inner_join_iff, confined_iff]
    simp only [List.mem_flatMap, forall_exists_index, and_imp]
    constructor
    · rintro ⟨⟨hdirectory, -⟩, h⟩
      exact ⟨hdirectory, fun submodule hmem =>
        ((hsubmodule submodule hmem).mp fun path => h path submodule hmem).2⟩
    · rintro ⟨hdirectory, h⟩
      exact ⟨⟨hdirectory, hinit⟩, fun path submodule hmem =>
        (hsubmodule submodule hmem).mpr ⟨hdirectory, h submodule hmem⟩ path⟩

/-! ### Writing below a directory -/

/-- A place is below another one, and not the same. -/
def StrictlyBelow (place location : Location) : Prop :=
  ∃ names, names ≠ [] ∧ location = place ++ names

theorem strictlyBelow_resolve {relative : Path} (inner : relative.Inner)
    (named : relative.parts ≠ []) (directory : Path) (working : Location) :
    StrictlyBelow (directory.resolve working) ((directory.join relative).resolve working) :=
  ⟨relative.parts, named, Path.resolve_join inner directory working⟩

variable {disk disk' : Disk} {directory : Path}

theorem keepsOutside_writeFile {relative : Path} (inner : relative.Inner)
    (named : relative.parts ≠ []) (text : String) :
    KeepsOutside (StrictlyBelow (directory.resolve disk.working)) disk
      (reached (writeFile directory relative text disk)) := by
  refine keepsOutside_bind (Disk.keepsOutside_ensureDirectory _) fun _ middle hrun => ?_
  refine keepsOutside_bind (Disk.keepsOutside_write ?_ _) fun _ _ _ => .refl _ _
  -- The region is given by a path, and making directories has not moved it.
  have hworking : middle.working = disk.working := by
    have hkept : KeepsOutside (fun _ => False) disk
        (reached (Disk.ensureDirectory (directory.join relative).parent disk)) :=
      Disk.keepsOutside_ensureDirectory _
    rw [hrun] at hkept
    exact hkept.working
  rw [hworking]
  exact strictlyBelow_resolve inner named directory disk.working

/-- Files at inner paths are written below the directory, also where not all of them can be. -/
theorem keepsOutside_writeAll {files : List (Path × String)}
    (inner : ∀ entry ∈ files, entry.1.Inner) (named : ∀ entry ∈ files, entry.1.parts ≠ []) :
    KeepsOutside (StrictlyBelow (directory.resolve disk.working)) disk
      (reached (writeAll directory files disk)) := by
  induction files generalizing disk with
  | nil => exact .refl _ disk
  | cons entry rest ih =>
    obtain ⟨relative, text⟩ := entry
    obtain ⟨hinner, inner⟩ := List.forall_mem_cons.mp inner
    obtain ⟨hnamed, named⟩ := List.forall_mem_cons.mp named
    have hfile : KeepsOutside (StrictlyBelow (directory.resolve disk.working)) disk
        (reached (writeFile directory relative text disk)) :=
      keepsOutside_writeFile hinner hnamed text
    refine keepsOutside_bind hfile fun _ middle hrun => ?_
    rw [hrun] at hfile
    have hworking : middle.working = disk.working := hfile.working
    refine keepsOutside_bind ?_ fun _ _ _ => .refl _ _
    rw [← hworking]
    exact ih inner named

/-- What is told to be written is the path of each file below the directory. -/
theorem eq_map_of_writeAll {files : List (Path × String)} {written : List Path}
    (h : writeAll directory files disk = .ok written disk') :
    written = files.map fun entry => directory.join entry.1 := by
  induction files generalizing disk disk' written with
  | nil => exact ((EStateM.Result.ok.injEq ..).mp h).1.symm
  | cons entry rest ih =>
    obtain ⟨path, middle, hfile, h⟩ := bind_eq_ok_iff.mp h
    obtain ⟨paths, last, hrest, h⟩ := bind_eq_ok_iff.mp h
    obtain ⟨_, _, -, hfile⟩ := bind_eq_ok_iff.mp hfile
    obtain ⟨_, _, -, hfile⟩ := bind_eq_ok_iff.mp hfile
    have hpath : directory.join entry.1 = path := ((EStateM.Result.ok.injEq ..).mp hfile).1
    have hwritten : path :: paths = written := ((EStateM.Result.ok.injEq ..).mp h).1
    rw [← hwritten, ih hrest, List.map_cons, hpath]

/-! ### The files of a tree -/

theorem inner_initName : (Path.ofText (initName ++ ".pyi")).Inner := by
  decide

theorem parts_ne_nil_of_mem_files {module : Module} {path : Path}
    (h : path ∈ (files module ".pyi").map Prod.fst) : path.parts ≠ [] := by
  obtain ⟨above, name, rfl⟩ := exists_child_of_mem_texts (mem_keys_ofTexts.mp h)
  exact Path.parts_join_ne_nil above (Path.parts_ofText_append_ne_nil name (by decide))

/-- The stub files of a tree have inner paths exactly if the tree is confined. Those of a confined
tree are all written below the directory they are written to, and on the way there nothing else
changes, whatever the disk is like and wherever writing stops. -/
theorem files_inner_iff (module : Module) :
    ((∀ path ∈ (files module ".pyi").map Prod.fst, path.Inner) ↔ Confined ".pyi" module) ∧
      (Confined ".pyi" module → ∀ (directory : Path) (disk : Disk),
        KeepsOutside (StrictlyBelow (directory.resolve disk.working)) disk
            (reached (write (files module ".pyi") directory disk)) ∧
          ∀ written disk', write (files module ".pyi") directory disk = .ok written disk' →
            ∀ path ∈ written,
              StrictlyBelow (directory.resolve disk.working) (path.resolve disk.working)) := by
  have hiff : (∀ path ∈ (files module ".pyi").map Prod.fst, path.Inner) ↔
      Confined ".pyi" module := by
    simp only [files, mem_keys_ofTexts]
    exact (texts_inner_iff inner_initName).trans (and_iff_right Path.inner_here)
  refine ⟨hiff, fun confined directory disk => ?_⟩
  have hmem : ∀ entry ∈ (files module ".pyi").sorted,
      entry.1 ∈ (files module ".pyi").map Prod.fst := fun entry hentry =>
    List.mem_map_of_mem (List.mem_mergeSort.mp hentry)
  have inner : ∀ entry ∈ (files module ".pyi").sorted, entry.1.Inner := fun entry hentry =>
    hiff.mpr confined entry.1 (hmem entry hentry)
  have named : ∀ entry ∈ (files module ".pyi").sorted, entry.1.parts ≠ [] := fun entry hentry =>
    parts_ne_nil_of_mem_files (hmem entry hentry)
  refine ⟨keepsOutside_writeAll inner named, fun written disk' hrun path hpath => ?_⟩
  rw [eq_map_of_writeAll hrun] at hpath
  obtain ⟨entry, hentry, rfl⟩ := List.mem_map.mp hpath
  exact strictlyBelow_resolve (inner entry hentry) (named entry hentry) directory disk.working

/-- A module and a package in it, of which one name has a slash inside. -/
def slashedModule : Module where
  name := "../top"
  modules := [{ name := "inner/./part", modules := [{ name := ".." }] }]

/-- The names of `slashedModule` are odd, but none leads out: its own is not used, and the suffix
makes a double dot into something else. -/
theorem files_inner_iff_slashed : Confined ".pyi" slashedModule ∧
    (files slashedModule ".pyi").map Prod.fst =
      [⟨.relative, ["__init__.pyi"]⟩, ⟨.relative, ["inner", "part", "__init__.pyi"]⟩,
        ⟨.relative, ["inner", "part", "...pyi"]⟩] ∧
    ∀ disk written disk', write (files slashedModule ".pyi") ⟨.slash, ["out"]⟩ disk =
      .ok written disk' → ∀ path ∈ written, StrictlyBelow ["out"] (path.resolve disk.working) := by
  have inner : ∀ path ∈ (files slashedModule ".pyi").map Prod.fst, path.Inner := by decide
  have confined : Confined ".pyi" slashedModule := (files_inner_iff slashedModule).1.mp inner
  exact ⟨confined, by decide, fun disk =>
    ((files_inner_iff slashedModule).2 confined ⟨.slash, ["out"]⟩ disk).2⟩

/-- The fragments of a module with a submodule whose name has a double dot. -/
def escapingFragments : List Recovery.Fragment :=
  [[("id", .str "t"), ("type", .str "module"), ("name", .str "top"),
      ("members", .array [.str "s"])],
    [("id", .str "s"), ("type", .str "module"), ("name", .str "../evil")]]

/-- A name from a document leads out of the output directory, and a file is written beside it. -/
theorem not_inner_escaping : ∃ module records,
    Recovery.resolve escapingFragments none .error = (.ok module, records) ∧
      (∃ path ∈ (files module ".pyi").map Prod.fst, ".." ∈ path.parts) ∧
      ∃ written disk', write (files module ".pyi") ⟨.relative, ["out"]⟩ {} = .ok written disk' ∧
        disk'.find? ["evil.pyi"] = some (.file .empty) := by
  let module : Module := { name := "top", modules := [{ name := "../evil" }] }
  let arena : Recovery.Arena := ["t", "s"].zip escapingFragments
  have hindex : Recovery.index .error escapingFragments = (.ok arena, []) := rfl
  have hroot : Recovery.findRoot arena none = .ok ("t", escapingFragments[0]) := rfl
  have hwithin : Recovery.moduleWithin arena 3 [] "t" escapingFragments[0] = some (.ok module) :=
    rfl
  have hunfold := Recovery.unfoldModule_of_moduleWithin (by decide) rfl hwithin
  have resolved := Recovery.resolve_eq_ok_iff.mpr ⟨arena, [], _, hindex, hroot, hunfold, rfl⟩
  have hfiles : files module ".pyi" =
      [(⟨.relative, ["__init__.pyi"]⟩, ""), (⟨.relative, ["..", "evil.pyi"]⟩, "")] := by decide
  have hsorted : (files module ".pyi").sorted =
      [(⟨.relative, ["..", "evil.pyi"]⟩, ""), (⟨.relative, ["__init__.pyi"]⟩, "")] := by
    rw [hfiles]
    simp +decide [Files.sorted, List.mergeSort]
  refine ⟨module, _, resolved, ⟨⟨.relative, ["..", "evil.pyi"]⟩, ?_, by decide⟩, ?_⟩
  · rw [hfiles]
    decide
  · rw [write, hsorted]
    exact ⟨_, _, rfl, by decide⟩

end Introspection.Stub
