import Introspection.Proofs.Api.Tree
import Introspection.Proofs.Path.Parts
import Introspection.Stub.Layout
import Mathlib.Data.List.Nodup

/-!
# Where the modules of a tree are declared

Every module of a tree has a stub file of its own, and the way down to the module says where: each
module on the way is a directory, except that a module without submodules at the end is a file
beside that of its parent. Setting the text of a path replaces the one it had, so nothing is lost
only because no two ways down lead to one path.

That is where the names matter. At the end of two ways the files differ because the names do, or
because one of them is the file of a package and no module may be called like that. Further up two
ways part at two siblings; a file and a directory of one name do not meet, for a way goes on below
the directory.

## Scope

A path is compared as it is written. Names may be a double dot here; where such a path leads on a
disk is a matter of confinement.

## Main definitions

* `Stub.place` — the parts of the path of a module, from the way down to it
* `Stub.WellNamed` — the trees whose modules can be told apart by name

## Main results

* `Stub.texts_eq_map_descents` — the texts of a tree, one for each way down
* `Stub.nodup_places` — no two ways down lead to one path
* `Stub.files_of_wellNamed` — the stub files of a tree
-/

namespace Introspection.Stub

open Introspection.Api
open Relation (ReflTransGen)

/-! ### Texts of a tree -/

theorem texts_eq (suffix : String) (directory : Path) (module : Module) :
    texts suffix directory module =
      (directory.child (initName ++ suffix), moduleText module) ::
        submoduleTexts suffix directory module.modules := by
  cases module
  rw [texts]

/-- The texts of submodules, each with its own. -/
theorem submoduleTexts_eq_flatMap (suffix : String) (directory : Path) (modules : List Module) :
    submoduleTexts suffix directory modules =
      modules.flatMap fun module =>
        if module.modules.isEmpty then
          [(directory.child (module.name ++ suffix), moduleText module)]
        else texts suffix (directory.child module.name) module := by
  induction modules with
  | nil => rfl
  | cons module rest ih =>
    obtain ⟨name, submodules, classes, functions⟩ := module
    rw [List.flatMap_cons, ← ih]
    cases submodules <;> rfl

/-- The lines of a module are those of its classes and then those of its functions. -/
theorem moduleText_eq (module : Module) :
    moduleText module =
      String.join
        ((module.classes.map fun value => "class " ++ value.name ++ ": ...\n") ++
          module.functions.map fun function => functionLine function ++ "\n") := by
  have hline (value : Api.Class) :
      classLine value ++ "\n" = "class " ++ value.name ++ ": ...\n" := by
    rw [classLine, String.append_assoc]
    rfl
  simp [moduleText, Function.comp_def, hline]

/-- A path of a tree ends with a name and the suffix. -/
theorem exists_child_of_mem_texts {suffix : String} {directory path : Path} {module : Module}
    (h : path ∈ (texts suffix directory module).map Prod.fst) :
    ∃ (above : Path) (name : String), path = above.child (name ++ suffix) := by
  induction module using Module.induction generalizing directory with
  | step module ih =>
    rw [texts_eq, submoduleTexts_eq_flatMap, List.map_cons, List.map_flatMap, List.mem_cons,
      List.mem_flatMap] at h
    rcases h with rfl | ⟨submodule, hmem, h⟩
    · exact ⟨directory, initName, rfl⟩
    · split at h
      · exact ⟨directory, submodule.name, by simpa using h⟩
      · exact ih submodule hmem h

/-! ### One text for each path -/

theorem mem_keys_put {files : Files} {path other : Path} {text : String} :
    other ∈ (files.put path text).map Prod.fst ↔ other = path ∨ other ∈ files.map Prod.fst := by
  induction files with
  | nil => simp [Files.put]
  | cons entry rest ih =>
    rw [Files.put]
    split
    case isTrue heq => simp [heq]
    case isFalse =>
      rw [List.map_cons, List.mem_cons, ih, List.map_cons, List.mem_cons, or_left_comm]

/-- Every text leaves a file at its path, if not with itself in it. -/
theorem mem_keys_ofTexts {texts : List (Path × String)} {path : Path} :
    path ∈ (Files.ofTexts texts).map Prod.fst ↔ path ∈ texts.map Prod.fst := by
  have hfold (files : Files) :
      path ∈ (texts.foldl (fun files entry => files.put entry.1 entry.2) files).map Prod.fst ↔
        path ∈ texts.map Prod.fst ∨ path ∈ files.map Prod.fst := by
    induction texts generalizing files with
    | nil => simp
    | cons entry rest ih =>
      rw [List.foldl_cons, ih, mem_keys_put, List.map_cons, List.mem_cons, or_left_comm, or_assoc]
  rw [Files.ofTexts, hfold]
  simp

theorem put_of_not_mem {files : Files} {path : Path} (h : path ∉ files.map Prod.fst)
    (text : String) : files.put path text = files ++ [(path, text)] := by
  induction files with
  | nil => rfl
  | cons entry rest ih =>
    rw [List.map_cons, List.mem_cons, not_or] at h
    rw [Files.put, if_neg (Ne.symm h.1), ih h.2, List.cons_append]

/-- Texts for different paths are the files as they are. -/
theorem ofTexts_of_nodup {texts : List (Path × String)} (distinct : (texts.map Prod.fst).Nodup) :
    Files.ofTexts texts = texts := by
  have hfold (files : Files) (h : ((files ++ texts).map Prod.fst).Nodup) :
      texts.foldl (fun files entry => files.put entry.1 entry.2) files = files ++ texts := by
    clear distinct
    induction texts generalizing files with
    | nil => simp
    | cons entry rest ih =>
      have hnew : entry.1 ∉ files.map Prod.fst := by
        rw [List.map_append, List.map_cons, List.nodup_middle, List.nodup_cons, List.mem_append]
          at h
        exact fun hmem => h.1 (.inl hmem)
      rw [List.foldl_cons, put_of_not_mem hnew, ih _ (by simpa using h), List.append_assoc,
        List.singleton_append]
  exact hfold [] distinct

/-! ### Names that tell modules apart -/

/-- Some siblings can be told apart: each name is a part of a path, none without submodules is
called like the file of a package, and no two that both have submodules, or both have none, share
a name. -/
structure SiblingsNamed (modules : List Module) : Prop where
  part : ∀ module ∈ modules, Path.SinglePart module.name
  notInit : ∀ module ∈ modules, module.modules.isEmpty → module.name ≠ initName
  distinct : (modules.map fun module => (module.modules.isEmpty, module.name)).Nodup

/-- The modules of a tree can be told apart, wherever some are siblings. -/
def WellNamed (module : Module) : Prop :=
  ∀ part, ReflTransGen Encloses module part → SiblingsNamed part.modules

theorem wellNamed_iff {module : Module} :
    WellNamed module ↔
      SiblingsNamed module.modules ∧ ∀ submodule ∈ module.modules, WellNamed submodule := by
  constructor
  · exact fun h => ⟨h module .refl, fun submodule hmem part hpart => h part (.head hmem hpart)⟩
  · rintro ⟨hsiblings, hsubmodules⟩ part hpart
    rcases hpart.cases_head with rfl | ⟨submodule, hmem, hpart⟩
    · exact hsiblings
    · exact hsubmodules submodule hmem part hpart

/-! ### Places -/

/-- The parts of the path of the module that a way leads down to: each module on the way is a
directory, and the file in the last one is that of a package, unless the way ends with a module
without submodules, which is a file itself. -/
def place (suffix : String) : List Module → List String
  | [] => [initName ++ suffix]
  | module :: below =>
    if module.modules.isEmpty then [module.name ++ suffix] else module.name :: place suffix below

theorem place_of_isEmpty {module : Module} (h : module.modules.isEmpty) (suffix : String)
    (below : List Module) : place suffix (module :: below) = [module.name ++ suffix] := by
  rw [place, if_pos h]

theorem place_of_not_isEmpty {module : Module} (h : ¬module.modules.isEmpty) (suffix : String)
    (below : List Module) :
    place suffix (module :: below) = module.name :: place suffix below := by
  rw [place, if_neg h]

theorem place_ne_nil (suffix : String) (below : List Module) : place suffix below ≠ [] := by
  cases below with
  | nil => simp [place]
  | cons module below => rw [place]; split <;> simp

/-- The place of a package's own file is that of no module below it. -/
theorem place_cons_ne_place_nil {module : Module}
    (notInit : module.modules.isEmpty → module.name ≠ initName) (suffix : String)
    (below : List Module) : place suffix (module :: below) ≠ place suffix [] := by
  intro heq
  by_cases hleaf : module.modules.isEmpty
  · rw [place_of_isEmpty hleaf, place, List.singleton_inj, String.append_left_inj] at heq
    exact notInit hleaf heq
  · rw [place_of_not_isEmpty hleaf, place, List.cons_eq_cons] at heq
    exact place_ne_nil suffix below heq.2

/-- Two ways to one place begin with modules of one name, and either both or none of them have
submodules. -/
theorem eq_of_place_eq {suffix : String} {first second : Module} {below below' : List Module}
    (heq : place suffix (first :: below) = place suffix (second :: below')) :
    (first.modules.isEmpty, first.name) = (second.modules.isEmpty, second.name) := by
  by_cases hfirst : first.modules.isEmpty <;> by_cases hsecond : second.modules.isEmpty
  · rw [place_of_isEmpty hfirst, place_of_isEmpty hsecond, List.singleton_inj,
      String.append_left_inj] at heq
    rw [hfirst, hsecond, heq]
  · rw [place_of_isEmpty hfirst, place_of_not_isEmpty hsecond, List.cons_eq_cons] at heq
    exact absurd heq.2.symm (place_ne_nil suffix below')
  · rw [place_of_not_isEmpty hfirst, place_of_isEmpty hsecond, List.cons_eq_cons] at heq
    exact absurd heq.2 (place_ne_nil suffix below)
  · rw [place_of_not_isEmpty hfirst, place_of_not_isEmpty hsecond, List.cons_eq_cons] at heq
    rw [Bool.not_eq_true] at hfirst hsecond
    rw [hfirst, hsecond, heq.1]

/-- The ways down from a module without submodules are only the one to itself. -/
theorem descents_of_isEmpty {module : Module} (h : module.modules.isEmpty) :
    descents module = [[]] := by
  rw [descents_eq, List.isEmpty_iff.mp h, List.flatMap_nil]

/-- No two ways down lead to one path. -/
theorem nodup_places {module : Module} (named : WellNamed module) (suffix : String) :
    ((descents module).map (place suffix)).Nodup := by
  induction module using Module.induction with
  | step module ih =>
    obtain ⟨siblings, submodules⟩ := wellNamed_iff.mp named
    rw [descents_eq, List.map_cons, List.map_flatMap, List.nodup_cons, List.nodup_flatMap]
    refine ⟨?ownFile, fun submodule hmem => ?inOne, ?acrossSiblings⟩
    case ownFile =>
      simp only [List.mem_flatMap, List.mem_map, not_exists, not_and]
      rintro submodule hmem _ ⟨below, -, rfl⟩
      exact place_cons_ne_place_nil (siblings.notInit submodule hmem) suffix below
    case inOne =>
      by_cases hleaf : submodule.modules.isEmpty
      · rw [descents_of_isEmpty hleaf]
        exact List.nodup_singleton _
      · have hnodup := (ih submodule hmem (submodules submodule hmem)).map
          (List.cons_injective (a := submodule.name))
        simpa [Function.comp_def, place_of_not_isEmpty hleaf] using hnodup
    case acrossSiblings =>
      refine (List.pairwise_map.mp siblings.distinct).imp fun hne => ?_
      rintro path hfirst hsecond
      obtain ⟨_, ⟨below, -, rfl⟩, rfl⟩ := by simpa only [List.mem_map] using hfirst
      obtain ⟨_, ⟨below', -, rfl⟩, heq⟩ := by simpa only [List.mem_map] using hsecond
      exact hne (eq_of_place_eq heq.symm)

/-! ### The files of a tree -/

variable {suffix : String}

theorem singlePart_initName : Path.SinglePart initName := by
  decide

/-- The texts of a tree, one for each way down. -/
theorem texts_eq_map_descents (hsuffix : '/' ∉ suffix.toList) {module : Module}
    (named : WellNamed module) (parts : List String) :
    texts suffix ⟨.relative, parts⟩ module =
      (descents module).map fun below =>
        (⟨.relative, parts ++ place suffix below⟩, moduleText (below.getLastD module)) := by
  induction module using Module.induction generalizing parts with
  | step module ih =>
    obtain ⟨siblings, submodules⟩ := wellNamed_iff.mp named
    rw [texts_eq, submoduleTexts_eq_flatMap, descents_eq, List.map_cons, List.map_flatMap,
      Path.child_of_singlePart (singlePart_initName.append hsuffix)]
    refine congrArg _ (List.flatMap_congr fun submodule hmem => ?_)
    have hpart := siblings.part submodule hmem
    by_cases hleaf : submodule.modules.isEmpty
    · rw [if_pos hleaf, Path.child_of_singlePart (hpart.append hsuffix), descents_of_isEmpty hleaf]
      simp [place_of_isEmpty hleaf]
    · rw [if_neg hleaf, Path.child_of_singlePart hpart,
        ih submodule hmem (submodules submodule hmem)]
      simp only [List.map_map, Function.comp_def, place_of_not_isEmpty hleaf, List.getLastD_cons,
        List.append_assoc, List.singleton_append]

/-- Below a module whose siblings can be told apart at every level, each module has a file of its
own: at the place that the way down to it spells out, and with the lines of its own classes and then
of its own functions, each in the order of declaration and ended by a line feed. No two files have
one path. -/
theorem files_of_wellNamed (hsuffix : '/' ∉ suffix.toList) {module : Module}
    (named : WellNamed module) :
    files module suffix =
        ((descents module).map fun below =>
          (⟨.relative, place suffix below⟩,
            String.join
              (((below.getLastD module).classes.map fun value =>
                  "class " ++ value.name ++ ": ...\n") ++
                (below.getLastD module).functions.map fun function =>
                  functionLine function ++ "\n"))) ∧
      ((files module suffix).map Prod.fst).Nodup ∧
      ∀ below, below ∈ descents module ↔ List.IsChain Encloses (module :: below) := by
  have htexts : texts suffix Path.here module =
      (descents module).map fun below =>
        (⟨.relative, place suffix below⟩, moduleText (below.getLastD module)) := by
    rw [Path.here, texts_eq_map_descents hsuffix named]
    simp only [List.nil_append]
  have hdistinct : ((texts suffix Path.here module).map Prod.fst).Nodup := by
    have hplaces := (nodup_places named suffix).map
      (f := fun parts => (⟨.relative, parts⟩ : Path)) fun _ _ heq => (Path.mk.injEq ..).mp heq |>.2
    rw [htexts]
    simpa [Function.comp_def] using hplaces
  have hfiles : files module suffix = texts suffix Path.here module := ofTexts_of_nodup hdistinct
  refine ⟨?_, hfiles ▸ hdistinct, fun below => mem_descents_iff⟩
  simp only [hfiles, htexts, moduleText_eq]

/-- A module with a submodule and a package of one name. -/
def nestedModule : Module where
  name := "root"
  classes := [⟨"Top"⟩]
  modules :=
    [{ name := "part", classes := [⟨"Leaf"⟩] },
      { name := "part", classes := [⟨"Package"⟩],
        modules := [{ name := "inner", functions := [⟨"deep", []⟩] }] }]

/-- The four files of `nestedModule`. -/
theorem files_of_wellNamed_nested : WellNamed nestedModule ∧
    files nestedModule ".pyi" =
      [(⟨.relative, ["__init__.pyi"]⟩, "class Top: ...\n"),
        (⟨.relative, ["part.pyi"]⟩, "class Leaf: ...\n"),
        (⟨.relative, ["part", "__init__.pyi"]⟩, "class Package: ...\n"),
        (⟨.relative, ["part", "inner.pyi"]⟩, "def deep(): ...\n")] := by
  have leaf (name : String) (classes : List Api.Class) (functions : List Function) :
      WellNamed { name, classes, functions } :=
    wellNamed_iff.mpr ⟨⟨by simp, by simp, by simp⟩, by simp⟩
  have package : WellNamed nestedModule.modules[1] :=
    wellNamed_iff.mpr ⟨⟨by decide, by decide, by decide⟩,
      List.forall_mem_singleton.mpr (leaf _ _ _)⟩
  have named : WellNamed nestedModule :=
    wellNamed_iff.mpr ⟨⟨by decide, by decide, by decide⟩,
      List.forall_mem_cons.mpr ⟨leaf _ _ _, List.forall_mem_singleton.mpr package⟩⟩
  exact ⟨named, (files_of_wellNamed (by decide) named).1⟩

end Introspection.Stub
