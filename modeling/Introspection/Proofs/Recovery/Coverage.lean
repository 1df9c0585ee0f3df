import Introspection.Proofs.Recovery.Loading
import Introspection.Proofs.Recovery.Unfolding
import Mathlib.Data.Fintype.Card
import Mathlib.Data.Set.Finite.List
import Mathlib.Order.WellFounded

/-!
# Modules that a tree leaves out

If no root is named, the tree of a document starts at the only module that is a member of no module.
One would expect every module of the document to be in that tree, and two checks to see to it: the
choice of the root, as any module beside it has to be a member of something, and the check for
modules that contain themselves.

Neither check sees modules that are members of each other and of nothing else. The choice of the
root asks whether a module is referred to, and they are; the check for cycles looks at what is
below the root, and they are not. So they are left out without a fault, with all that is below them
alone. `reachable_iff_acyclic_of_resolve` says that nothing else is ever left out.

## Scope

The graph is the one that `Submodule` is the edges of. What happens below the root is known from
`Unfolds` already; here the same edges are followed backwards, from a module to what it is a member
of. This comes to an end at the root, or not at all, and then it goes around.

## Main results

* `Recovery.exists_above` — every module but the root is a member of a module
* `Recovery.reachable_or_below_cycle` — a module that is left out lies below a cycle
* `Recovery.reachable_iff_acyclic_of_resolve`
-/

namespace Introspection.Recovery

open Introspection.Api (Encloses Module)
open Relation (ReflTransGen TransGen)

variable {arena : Arena}

/-! ### The choice of the root -/

/-- An id is referred to by a module that has it among its members. -/
theorem mem_referenced_iff {entries : List (String × Fragment)} {ids : List String}
    (h : referenced entries = .ok ids) {id : String} :
    id ∈ ids ↔ ∃ entry ∈ entries, ∃ members, HasMembers entry.2 members ∧ id ∈ members := by
  induction entries generalizing ids with
  | nil =>
    cases h
    simp
  | cons entry entries ih =>
    obtain ⟨key, fragment⟩ := entry
    rw [referenced] at h
    split at h
    · cases h
    · next members hmembers =>
      split at h
      · cases h
      · next more hmore =>
        cases h
        have listed : HasMembers fragment members := memberIds_eq_ok_iff.mp hmembers
        rw [List.mem_append, ih hmore, List.exists_mem_cons_iff]
        refine or_congr ⟨fun hid => ⟨members, listed, hid⟩, ?_⟩ Iff.rfl
        rintro ⟨others, hothers, hid⟩
        rwa [listed.unique hothers]

/-- The root is a module, and any other module is a member of a module. -/
theorem member_of_findTopRoot {root : String × Fragment} (h : findTopRoot arena = .ok root) :
    root ∈ arena.modules ∧ ∀ entry ∈ arena.modules, entry = root ∨
      ∃ above ∈ arena.modules, ∃ ids, HasMembers above.2 ids ∧ entry.1 ∈ ids := by
  rw [findTopRoot] at h
  split at h
  · cases h
  · next ids hids =>
    split at h
    · next only honly =>
      cases h
      have hmem : root ∈ arena.modules.filter fun entry => !ids.contains entry.1 := by
        rw [honly]
        exact List.mem_singleton_self root
      refine ⟨(List.mem_filter.mp hmem).1, fun entry hentry => ?_⟩
      by_cases hid : entry.1 ∈ ids
      · exact .inr ((mem_referenced_iff hids).mp hid)
      · have hkept : entry ∈ arena.modules.filter fun entry => !ids.contains entry.1 :=
          List.mem_filter.mpr ⟨hentry, by simpa using hid⟩
        rw [honly] at hkept
        exact .inl (List.mem_singleton.mp hkept)
    · cases h

theorem mem_modules_iff {entry : String × Fragment} :
    entry ∈ arena.modules ↔ entry ∈ arena ∧ HasText entry.2 "type" "module" := by
  rw [Arena.modules, List.mem_filter, hasType_iff]

/-- What is looked up is an entry of the arena. -/
theorem mem_of_get? {id : String} {fragment : Fragment} (found : arena.get? id = some fragment) :
    (id, fragment) ∈ arena := by
  obtain ⟨entry, hentry, rfl⟩ := Option.map_eq_some_iff.mp found
  have hid : entry.1 = id := by simpa using List.find?_some hentry
  subst hid
  exact List.mem_of_find?_eq_some hentry

/-- Every module but the root is a member of a module. -/
theorem exists_above {fragments : List Fragment} (holds : Holds arena fragments)
    {root : String × Fragment} (h : findTopRoot arena = .ok root) {id : String}
    (typed : arena.isOf "module" id = true) :
    id = root.1 ∨ ∃ above, Submodule arena above id := by
  obtain ⟨fragment, found, hfragment⟩ := (Option.any_eq_true _ _).mp typed
  have hentry : (id, fragment) ∈ arena.modules :=
    mem_modules_iff.mpr ⟨mem_of_get? found, hasType_iff.mp hfragment⟩
  rcases (member_of_findTopRoot h).2 _ hentry with rfl | ⟨above, habove, ids, listed, hid⟩
  · exact .inl rfl
  · obtain ⟨hmem, typed'⟩ := mem_modules_iff.mp habove
    have found' : arena.get? above.1 = some above.2 := holds.get? hmem
    exact .inr ⟨above.1, (Arena.isOf_iff found').mpr typed', typed, ids, ⟨above.2, found', listed⟩,
      hid⟩

/-! ### Following members backwards -/

/-- There are only so many modules. -/
theorem finite_modules (arena : Arena) : {id | arena.isOf "module" id = true}.Finite := by
  refine (List.finite_toSet (arena.map Prod.fst)).subset fun id typed => ?_
  obtain ⟨fragment, found, -⟩ := (Option.any_eq_true _ _).mp typed
  exact List.mem_map.mpr ⟨(id, fragment), mem_of_get? found, rfl⟩

/-- A module is below the root, or below a module that is below itself. Without a cycle above it,
what is above a module is well-founded, and the induction goes from the top down. -/
theorem reachable_or_below_cycle {root id : String}
    (top : ∀ id, arena.isOf "module" id = true → id = root ∨ ∃ above, Submodule arena above id)
    (typed : arena.isOf "module" id = true) :
    ReflTransGen (Submodule arena) root id ∨
      ∃ above, TransGen (Submodule arena) above above ∧
        ReflTransGen (Submodule arena) above id := by
  by_cases cyclic : ∃ above, TransGen (Submodule arena) above above ∧
      ReflTransGen (Submodule arena) above id
  · exact .inr cyclic
  let Above := {above : String //
    arena.isOf "module" above = true ∧ ReflTransGen (Submodule arena) above id}
  let Over (first second : Above) : Prop := TransGen (Submodule arena) first.1 second.1
  have finite : Finite Above := ((finite_modules arena).subset fun _ h => h.1).to_subtype
  have trans : IsTrans Above Over := ⟨fun _ _ _ h h' => h.trans h'⟩
  have irrefl : Std.Irrefl Over := ⟨fun above h => cyclic ⟨above.1, h, above.2.2⟩⟩
  have wellFounded : WellFounded Over := Finite.wellFounded_of_trans_of_irrefl Over
  have reach (below : Above) : ReflTransGen (Submodule arena) root below.1 := by
    induction below using wellFounded.induction with
    | _ below ih =>
      rcases top below.1 below.2.1 with heq | ⟨above, edge⟩
      · rw [heq]
      · have habove : ReflTransGen (Submodule arena) root above :=
          ih ⟨above, edge.1, .head edge below.2.2⟩ (.single edge)
        exact habove.tail edge
  exact .inl (reach ⟨id, typed, .refl⟩)

/-! ### What is in the tree -/

/-- A submodule in the graph is one in the tree. -/
theorem Unfolding.submodule {id below : String} {module : Module} (h : Unfolding arena id module)
    (edge : Submodule arena id below) :
    ∃ part, Encloses module part ∧ Unfolding arena below part := by
  obtain ⟨-, typed, ids', ⟨fragment', found', listed'⟩, hbelow⟩ := edge
  cases h with
  | intro found named listed modules classes functions =>
    rw [found] at found'
    cases found'
    obtain rfl := listed.unique listed'
    exact exists_of_forall₂ modules (List.mem_filter.mpr ⟨hbelow, typed⟩)

/-- What is below a module of the graph is in its tree. -/
theorem Unfolding.reachable {id below : String} {module : Module} (h : Unfolding arena id module)
    (reach : ReflTransGen (Submodule arena) id below) :
    ∃ part, ReflTransGen Encloses module part ∧ Unfolding arena below part := by
  induction reach with
  | refl => exact ⟨module, .refl, h⟩
  | tail _ edge ih =>
    obtain ⟨part, hpart, hmiddle⟩ := ih
    obtain ⟨inner, hinner, hbelow⟩ := hmiddle.submodule edge
    exact ⟨inner, hpart.tail hinner, hbelow⟩

/-- Some fragments have a tree if they can be indexed, a root is found, and the graph unfolds from
there. -/
theorem resolve_eq_ok_iff {fragments : List Fragment} {name : Option String}
    {policy : DuplicatePolicy} {module : Module} {records : List Log.Record} :
    resolve fragments name policy = (.ok module, records) ↔
      ∃ arena notes root, index policy fragments = (.ok arena, notes) ∧
        findRoot arena name = .ok root ∧ unfoldModule arena [root.1] root.2 = .ok module ∧
        records = notes ++ [resolvingRecord arena root.1] := by
  constructor
  · intro h
    rw [resolve] at h
    split at h
    · cases h
    · next arena notes hindex =>
      rw [resolveArena] at h
      split at h
      · next hroot =>
        split at hroot
        · cases hroot
          cases h
        · next id fragment hfound =>
          cases hroot
          obtain ⟨hunfold, rfl⟩ := Prod.mk.inj h
          exact ⟨arena, notes, (id, fragment), hindex, hfound, hunfold, rfl⟩
  · rintro ⟨arena, notes, root, hindex, hroot, hunfold, rfl⟩
    rw [resolve, hindex]
    dsimp only
    rw [resolveArena, hroot]
    dsimp only
    rw [hunfold]

/-- **All modules of a document are in its tree, unless some are members of each other.**

If the tree starts at the only module on top, what is below this module in the graph is in the tree.
These are all modules of the document exactly if no module of the document is below itself. -/
theorem reachable_iff_acyclic_of_resolve {fragments : List Fragment} {module : Module}
    {records : List Log.Record}
    (resolved : resolve fragments none .error = (.ok module, records)) :
    ∃ arena root, index .error fragments = (.ok arena, []) ∧ findRoot arena none = .ok root ∧
      (∀ id, ReflTransGen (Submodule arena) root.1 id →
        ∃ part, ReflTransGen Encloses module part ∧ Unfolding arena id part) ∧
      ((∀ fragment ∈ fragments, HasText fragment "type" "module" →
          ∃ id, HasText fragment "id" id ∧ ReflTransGen (Submodule arena) root.1 id) ↔
        ∀ id, ¬ TransGen (Submodule arena) id id) := by
  obtain ⟨arena, notes, root, hindex, hroot, unfolded, -⟩ := resolve_eq_ok_iff.mp resolved
  obtain ⟨holds, rfl⟩ := holds_of_index hindex
  have htop : findTopRoot arena = .ok root := hroot
  obtain ⟨hmem, typed⟩ := mem_modules_iff.mp (member_of_findTopRoot htop).1
  have found : arena.get? root.1 = some root.2 := holds.get? hmem
  have unfolding : Unfolding arena root.1 module := unfolding_of_unfoldModule found unfolded
  have unfolds : Unfolds arena [root.1] root.1 :=
    ⟨List.mem_singleton_self root.1, root.2, module, found, typed, unfolded⟩
  refine ⟨arena, root, hindex, hroot, fun id reach => unfolding.reachable reach, ?_, ?_⟩
  · intro all id cycle
    obtain ⟨below, edge, -⟩ := TransGen.head'_iff.mp cycle
    obtain ⟨fragment, found', hfragment⟩ := (Option.any_eq_true _ _).mp edge.1
    have hentry : (id, fragment) ∈ arena := mem_of_get? found'
    obtain ⟨other, hother, reach⟩ := all fragment
      (holds.fragments ▸ List.mem_map_of_mem hentry) (hasType_iff.mp hfragment)
    obtain rfl : other = id := hother.unique (holds.ids _ hentry)
    obtain ⟨longer, -, hbelow⟩ := unfolds.reachable reach
    exact hbelow.acyclic cycle
  · intro acyclic fragment hfragment typed'
    obtain ⟨id, hid, found'⟩ := holds.exists_entry hfragment
    have htyped : arena.isOf "module" id = true := (Arena.isOf_iff found').mpr typed'
    have top : ∀ id, arena.isOf "module" id = true →
        id = root.1 ∨ ∃ above, Submodule arena above id :=
      fun _ typed => exists_above holds htop typed
    rcases reachable_or_below_cycle top htyped with reach | ⟨above, cycle, -⟩
    · exact ⟨id, hid, reach⟩
    · exact absurd cycle (acyclic above)

/-- The fragments of a module with two submodules that share a third one. -/
def sharedFragments : List Fragment :=
  [[("id", .str "s"), ("type", .str "module"), ("name", .str "shared")],
    [("id", .str "l"), ("type", .str "module"), ("name", .str "left"),
      ("members", .array [.str "s"])],
    [("id", .str "t"), ("type", .str "module"), ("name", .str "top"),
      ("members", .array [.str "l", .str "s"])]]

/-- What is shared is no cycle, and all modules of `sharedFragments` are in the tree. -/
theorem reachable_iff_acyclic_of_resolve_shared : ∃ module records,
    resolve sharedFragments none .error = (.ok module, records) ∧
    module.modules.map (·.name) = ["left", "shared"] ∧
    ∃ arena root, index .error sharedFragments = (.ok arena, []) ∧
      findRoot arena none = .ok root ∧ (∀ id, ¬ TransGen (Submodule arena) id id) ∧
      ∀ fragment ∈ sharedFragments, HasText fragment "type" "module" →
        ∃ id, HasText fragment "id" id ∧ ReflTransGen (Submodule arena) root.1 id := by
  let arena : Arena := ["s", "l", "t"].zip sharedFragments
  let top : Fragment := sharedFragments[2]
  have hindex : index .error sharedFragments = (.ok arena, []) := rfl
  have hroot : findRoot arena none = .ok ("t", top) := rfl
  have hwithin : moduleWithin arena 4 [] "t" top = some (.ok {
      name := "top", modules := [{ name := "left", modules := [{ name := "shared" }] },
        { name := "shared" }] }) := rfl
  have hunfold := unfoldModule_of_moduleWithin (by decide) rfl hwithin
  have resolved := resolve_eq_ok_iff.mpr ⟨arena, [], _, hindex, hroot, hunfold, rfl⟩
  refine ⟨_, _, resolved, rfl, ?_⟩
  obtain ⟨arena', root, hindex', hroot', -, hall⟩ := reachable_iff_acyclic_of_resolve resolved
  obtain rfl : arena = arena' := by
    have := hindex.symm.trans hindex'
    simpa using this
  obtain rfl : ("t", top) = root := Except.ok.inj (hroot.symm.trans hroot')
  have edge (id : String) (typed : arena.isOf "module" id = true) (h : id ∈ ["l", "s"]) :
      Submodule arena "t" id :=
    ⟨rfl, typed, ["l", "s"], ⟨top, rfl, .inr rfl⟩, h⟩
  have reach : ∀ fragment ∈ sharedFragments, HasText fragment "type" "module" →
      ∃ id, HasText fragment "id" id ∧ ReflTransGen (Submodule arena) "t" id := by
    intro fragment hfragment _
    rw [sharedFragments] at hfragment
    simp only [List.mem_cons, List.not_mem_nil, or_false] at hfragment
    rcases hfragment with rfl | rfl | rfl
    · exact ⟨"s", rfl, .single (edge "s" rfl (by decide))⟩
    · exact ⟨"l", rfl, .single (edge "l" rfl (by decide))⟩
    · exact ⟨"t", rfl, .refl⟩
  exact ⟨arena, _, hindex, hroot, hall.mp reach, reach⟩

/-- The fragments of a module without members, and of two modules that are members of each other. -/
def strayFragments : List Fragment :=
  [[("id", .str "t"), ("type", .str "module"), ("name", .str "top")],
    [("id", .str "a"), ("type", .str "module"), ("name", .str "first"),
      ("members", .array [.str "b"])],
    [("id", .str "b"), ("type", .str "module"), ("name", .str "second"),
      ("members", .array [.str "a"])]]

/-- The two modules of `strayFragments` are lost: the tree is that of the module beside them. -/
theorem not_reachable_strayFragments : ∃ arena root records,
    resolve strayFragments none .error = (.ok { name := "top" }, records) ∧
    index .error strayFragments = (.ok arena, []) ∧ findRoot arena none = .ok root ∧
    TransGen (Submodule arena) "a" "a" ∧
    ∃ fragment ∈ strayFragments, HasText fragment "type" "module" ∧
      ∀ id, HasText fragment "id" id → ¬ ReflTransGen (Submodule arena) root.1 id := by
  let arena : Arena := ["t", "a", "b"].zip strayFragments
  let top : Fragment := strayFragments[0]
  have hindex : index .error strayFragments = (.ok arena, []) := rfl
  have hroot : findRoot arena none = .ok ("t", top) := rfl
  have hwithin : moduleWithin arena 4 [] "t" top = some (.ok { name := "top" }) := rfl
  have hunfold := unfoldModule_of_moduleWithin (by decide) rfl hwithin
  have resolved := resolve_eq_ok_iff.mpr ⟨arena, [], _, hindex, hroot, hunfold, rfl⟩
  have there : Submodule arena "a" "b" :=
    ⟨rfl, rfl, ["b"], ⟨strayFragments[1], rfl, .inr rfl⟩, by decide⟩
  have back : Submodule arena "b" "a" :=
    ⟨rfl, rfl, ["a"], ⟨strayFragments[2], rfl, .inr rfl⟩, by decide⟩
  refine ⟨arena, _, _, resolved, hindex, hroot, .tail (.single there) back, strayFragments[1],
    List.getElem_mem _, rfl, ?_⟩
  intro id hid reach
  obtain rfl : id = "a" := hid.unique rfl
  rcases reach.cases_head with h | ⟨below, ⟨-, -, ids, ⟨fragment, found, listed⟩, hbelow⟩, -⟩
  · exact absurd h (by decide)
  · obtain rfl : top = fragment := Option.some.inj found
    obtain rfl : [] = ids := HasMembers.unique (.inl ⟨rfl, rfl⟩) listed
    cases hbelow

end Introspection.Recovery
