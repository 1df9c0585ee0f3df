import Introspection.Api.Module
import Mathlib.Data.List.Chain
import Mathlib.Logic.Relation

/-!
# Module trees

A module is the root of a tree, and its submodules are the roots of smaller ones. Two views of such
a tree are used: the relation between a module and its submodules, and the list of all ways down.
A way down names one module of the tree together with everything around it, so it tells modules
apart that look the same.

## Main definitions

* `Api.Encloses` — the edges of a module tree
* `Api.descents` — all ways down from a module, in the order of a walk through its tree

## Main results

* `Api.Module.induction` — induction over a tree
* `Api.mem_descents_iff` — the ways down are the chains of submodules
-/

namespace Introspection.Api

open Relation (TransGen)

/-- One module of a tree has another one as a submodule. -/
def Encloses (outer inner : Module) : Prop :=
  inner ∈ outer.modules

theorem sizeOf_lt_of_mem_modules {module submodule : Module} (h : submodule ∈ module.modules) :
    sizeOf submodule < sizeOf module := by
  have hmem := List.sizeOf_lt_of_mem h
  have hmodule : sizeOf module.modules < sizeOf module := by
    cases module
    simp +arith
  exact Nat.lt_trans hmem hmodule

/-- What a module has because all its submodules have it, every module has. -/
theorem Module.induction {motive : Module → Prop}
    (step : ∀ module, (∀ submodule ∈ module.modules, motive submodule) → motive module)
    (module : Module) : motive module :=
  step module fun submodule _ => Module.induction step submodule
termination_by sizeOf module
decreasing_by exact sizeOf_lt_of_mem_modules ‹_›

/-- What is inside a module is one of its submodules or inside one of them. -/
theorem transGen_encloses_iff {module part : Module} :
    TransGen Encloses module part ↔
      ∃ submodule ∈ module.modules, submodule = part ∨ TransGen Encloses submodule part := by
  rw [TransGen.head'_iff]
  refine exists_congr fun submodule => and_congr Iff.rfl ?_
  rw [Relation.reflTransGen_iff_eq_or_transGen, eq_comm]

/-! ### Ways down -/

mutual

/-- The ways down from a module. The empty one leads to the module itself. -/
def descents : Module → List (List Module)
  | ⟨_, modules, _, _⟩ => [] :: descentsInto modules

/-- The ways down that begin with one of some submodules. -/
def descentsInto : List Module → List (List Module)
  | [] => []
  | submodule :: rest => (descents submodule).map (submodule :: ·) ++ descentsInto rest

end

theorem descentsInto_eq_flatMap (modules : List Module) :
    descentsInto modules =
      modules.flatMap fun submodule => (descents submodule).map (submodule :: ·) := by
  induction modules with
  | nil => rfl
  | cons submodule rest ih => rw [descentsInto, ih, List.flatMap_cons]

theorem descents_eq (module : Module) :
    descents module = [] ::
      module.modules.flatMap fun submodule => (descents submodule).map (submodule :: ·) := by
  rw [← descentsInto_eq_flatMap]
  cases module
  rw [descents]

/-- The ways down are the chains of submodules. -/
theorem mem_descents_iff {module : Module} {below : List Module} :
    below ∈ descents module ↔ List.IsChain Encloses (module :: below) := by
  induction below generalizing module with
  | nil =>
    rw [descents_eq]
    simp
  | cons submodule below ih =>
    rw [descents_eq, List.isChain_cons_cons, ← ih]
    simp [Encloses]

end Introspection.Api
