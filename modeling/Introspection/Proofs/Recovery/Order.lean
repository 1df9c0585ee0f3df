import Introspection.Proofs.Recovery.Coverage

/-!
# The order of fragments

Fragments are found in whatever order a section keeps them, so the tree must not depend on it.
Unless a repeated id is let pass, it does not: fragments in another order resolve to the same tree,
or to none in both orders. Which fault is reported may well be another one, as the first one that
is met is.

## Where the order goes

Indexing keeps it. The arena lists the fragments as they came, and the root is looked for in that
list. What makes the order harmless is that the ids of an arena are distinct: then a look-up does
not depend on where in the arena an entry stands, and everything below the root is looked up. The
root itself is the only entry that a filter leaves, and a list of one entry has one order.

If a repeated id is let pass, the first fragment of an id hides the others, and the order decides
which one that is.

## Main definitions

* `Recovery.identity` — the id of a fragment
* `Recovery.Identified` — every fragment has an id, and no two the same

## Main results

* `Recovery.index_eq_ok_iff` — what is indexed
* `Recovery.get?_eq_of_perm`, `Recovery.findRoot_of_perm`, `Recovery.unfoldModule_of_get?_eq`
* `Recovery.resolve_perm`
-/

namespace Introspection.Recovery

open Introspection.Api (Member Module)

variable {fragments others : List Fragment} {arena other : Arena}

/-! ### Indexing -/

/-- The id of a fragment, where it has one. -/
def identity (fragment : Fragment) : String :=
  (requireText fragment "id").toOption.getD ""

theorem identity_eq {fragment : Fragment} {id : String} (h : HasText fragment "id" id) :
    identity fragment = id := by
  rw [identity, requireText_eq_ok_iff.mpr h]
  rfl

/-- Every fragment has an id, and no two have the same. -/
structure Identified (fragments : List Fragment) : Prop where
  ids : ∀ fragment ∈ fragments, HasText fragment "id" (identity fragment)
  distinct : (fragments.map identity).Nodup

theorem Identified.of_perm (h : Identified fragments) (perm : fragments.Perm others) :
    Identified others where
  ids fragment hfragment := h.ids fragment (perm.mem_iff.mpr hfragment)
  distinct := (perm.map identity).nodup_iff.mp h.distinct

/-- Fragments are indexed if each has an id of its own, and the arena lists them as they came. -/
theorem index_eq_ok_iff {records : List Log.Record} :
    index .error fragments = (.ok arena, records) ↔
      Identified fragments ∧ arena = arenaOf identity id fragments ∧ records = [] := by
  constructor
  · intro h
    obtain ⟨holds, rfl⟩ := holds_of_index h
    have hkey : ∀ entry ∈ arena, entry = (identity entry.2, entry.2) := fun entry hentry => by
      rw [identity_eq (holds.ids entry hentry)]
    have harena : arena = arenaOf identity id fragments := by
      rw [arenaOf, ← holds.fragments, List.map_map]
      exact (List.map_id arena).symm.trans (List.map_congr_left hkey)
    refine ⟨⟨fun fragment hfragment => ?_, ?_⟩, harena, rfl⟩
    · obtain ⟨id, hid, -⟩ := holds.exists_entry hfragment
      rwa [identity_eq hid]
    · have hdistinct := holds.distinct
      rw [harena, arenaOf, List.map_map] at hdistinct
      exact hdistinct
  · rintro ⟨identified, rfl, rfl⟩
    have hindex : index .error (fragments.map id) = (.ok (arenaOf identity id fragments), []) :=
      index_eq_arenaOf .error identified.distinct identified.ids
    rwa [List.map_id] at hindex

/-- In another order fragments are indexed if they are in this one, in that order. -/
theorem index_of_perm {records : List Log.Record}
    (h : index .error fragments = (.ok arena, records)) (perm : fragments.Perm others) :
    ∃ other, index .error others = (.ok other, records) ∧ arena.Perm other := by
  obtain ⟨identified, rfl, rfl⟩ := index_eq_ok_iff.mp h
  exact ⟨arenaOf identity id others, index_eq_ok_iff.mpr ⟨identified.of_perm perm, rfl, rfl⟩,
    perm.map _⟩

/-! ### Looking up -/

/-- What is found under an id is the entry with this id. -/
theorem Holds.get?_eq_some_iff (holds : Holds arena fragments) {id : String} {fragment : Fragment} :
    arena.get? id = some fragment ↔ (id, fragment) ∈ arena :=
  ⟨mem_of_get?, fun h => holds.get? h⟩

/-- In another order the same is found. -/
theorem get?_eq_of_perm (holds : Holds arena fragments) (holds' : Holds other others)
    (perm : arena.Perm other) (id : String) : arena.get? id = other.get? id := by
  ext fragment
  rw [holds.get?_eq_some_iff, holds'.get?_eq_some_iff, perm.mem_iff]

/-! ### The root -/

/-- The only item that is kept is the only one in another order. -/
theorem filter_eq_singleton_of_perm {α : Type} {keep keep' : α → Bool} {items items' : List α}
    {item : α} (h : items.filter keep = [item]) (perm : items.Perm items')
    (same : ∀ item, keep item = keep' item) : items'.filter keep' = [item] := by
  have hkept := perm.filter keep
  rw [h] at hkept
  rw [← funext same]
  exact List.perm_singleton.mp hkept.symm

/-- The ids that modules refer to are known if all modules have lists of members. -/
theorem exists_referenced_iff {entries : List (String × Fragment)} :
    (∃ ids, referenced entries = .ok ids) ↔
      ∀ entry ∈ entries, ∃ members, HasMembers entry.2 members := by
  induction entries with
  | nil => simp [referenced]
  | cons entry entries ih =>
    obtain ⟨key, fragment⟩ := entry
    rw [List.forall_mem_cons, ← ih, referenced]
    constructor
    · rintro ⟨ids, h⟩
      split at h
      · cases h
      · next members hmembers =>
        split at h
        · cases h
        · next more hmore => exact ⟨⟨members, memberIds_eq_ok_iff.mp hmembers⟩, more, hmore⟩
    · rintro ⟨⟨members, hmembers⟩, more, hmore⟩
      rw [memberIds_eq_ok_iff.mpr hmembers]
      dsimp only
      rw [hmore]
      exact ⟨_, rfl⟩

/-- In another order the modules refer to the same ids. -/
theorem referenced_of_perm {entries entries' : List (String × Fragment)} {ids : List String}
    (h : referenced entries = .ok ids) (perm : entries.Perm entries') :
    ∃ ids', referenced entries' = .ok ids' ∧ ∀ id, id ∈ ids ↔ id ∈ ids' := by
  have hlisted := exists_referenced_iff.mp ⟨ids, h⟩
  obtain ⟨ids', h'⟩ : ∃ ids', referenced entries' = .ok ids' :=
    exists_referenced_iff.mpr fun entry hentry => hlisted entry (perm.mem_iff.mpr hentry)
  refine ⟨ids', h', fun id => ?_⟩
  rw [mem_referenced_iff h, mem_referenced_iff h']
  simp only [perm.mem_iff]

theorem findNamedRoot_of_perm {name : String} {root : String × Fragment}
    (h : findNamedRoot arena name = .ok root) (perm : arena.Perm other) :
    findNamedRoot other name = .ok root := by
  rw [findNamedRoot] at h ⊢
  split at h
  · next only honly =>
    cases h
    rw [Arena.modules, filter_eq_singleton_of_perm honly (perm.filter _) fun _ => rfl]
  · cases h

theorem findTopRoot_of_perm {root : String × Fragment} (h : findTopRoot arena = .ok root)
    (perm : arena.Perm other) : findTopRoot other = .ok root := by
  rw [findTopRoot] at h ⊢
  split at h
  · cases h
  · next ids hids =>
    split at h
    · next only honly =>
      cases h
      obtain ⟨ids', hids', same⟩ := referenced_of_perm hids (perm.filter _)
      have hkeep : ∀ entry : String × Fragment,
          (!ids.contains entry.1) = !ids'.contains entry.1 := fun entry => by
        rw [Bool.eq_iff_iff]
        simp [same]
      rw [Arena.modules, hids']
      dsimp only
      rw [filter_eq_singleton_of_perm honly (perm.filter _) hkeep]
    · cases h

/-- The root is the same in another order. -/
theorem findRoot_of_perm {name : Option String} {root : String × Fragment}
    (h : findRoot arena name = .ok root) (perm : arena.Perm other) :
    findRoot other name = .ok root := by
  cases name with
  | none => exact findTopRoot_of_perm h perm
  | some name => exact findNamedRoot_of_perm h perm

/-! ### The tree below the root -/

/-- A module unfolds to the same tree if the same is found under every id. The induction is on the
ids that are not on the path; there is none over the other arena, as it may be any. -/
theorem unfoldModule_of_get?_eq (same : ∀ id, arena.get? id = other.get? id) {path : List String}
    {fragment : Fragment} {module : Module}
    (unfolded : unfoldModule arena path fragment = .ok module) :
    unfoldModule other path fragment = .ok module := by
  induction hsize : remaining arena path using Nat.strongRecOn
    generalizing path fragment module with
  | ind size ih =>
    obtain ⟨name, ids, members, named, listed, hmembers, rfl⟩ := unfoldModule_eq_ok_iff.mp unfolded
    refine unfoldModule_eq_ok_iff.mpr ⟨name, ids, members, named, listed, ?_, rfl⟩
    refine hmembers.imp fun id member h => ?_
    cases h with
    | module found typed fresh unfolded =>
      have hless : remaining arena (id :: path) < size :=
        hsize ▸ remaining_cons_lt found (by simpa using fresh)
      exact .module (same id ▸ found) typed fresh (ih _ hless unfolded rfl)
    | «class» found typed described => exact .class (same id ▸ found) typed described
    | function found typed described => exact .function (same id ▸ found) typed described

/-! ### Resolving -/

theorem resolvingRecord_of_perm (perm : arena.Perm other) (root : String) :
    resolvingRecord arena root = resolvingRecord other root := by
  rw [resolvingRecord, resolvingRecord, perm.length_eq]

/-- What resolves in one order resolves in another one, to the same tree and with the same
report. -/
theorem resolve_of_perm {name : Option String} {module : Module} {records : List Log.Record}
    (h : resolve fragments name .error = (.ok module, records)) (perm : fragments.Perm others) :
    resolve others name .error = (.ok module, records) := by
  obtain ⟨arena, notes, root, hindex, hroot, unfolded, rfl⟩ := resolve_eq_ok_iff.mp h
  obtain ⟨other, hindex', permArena⟩ := index_of_perm hindex perm
  have same := get?_eq_of_perm (holds_of_index hindex).1 (holds_of_index hindex').1 permArena
  refine resolve_eq_ok_iff.mpr ⟨other, notes, root, hindex', findRoot_of_perm hroot permArena,
    unfoldModule_of_get?_eq same unfolded, ?_⟩
  rw [resolvingRecord_of_perm permArena]

theorem ofName_of_ne {policy : String} (strict : policy ≠ "warn") :
    DuplicatePolicy.ofName policy = .error :=
  if_neg strict

/-- **The order of fragments does not matter.**

Unless repeated ids are let pass with a warning, fragments in another order resolve to the same tree,
or there is a fault in both orders. -/
theorem resolve_perm (perm : fragments.Perm others) (root : Option String) {policy : String}
    (strict : policy ≠ "warn") :
    (∃ module records, resolve fragments root (.ofName policy) = (.ok module, records) ∧
      resolve others root (.ofName policy) = (.ok module, records)) ∨
    ∃ fault fault' records records',
      resolve fragments root (.ofName policy) = (.error fault, records) ∧
      resolve others root (.ofName policy) = (.error fault', records') := by
  rw [ofName_of_ne strict]
  cases h : resolve fragments root .error with
  | mk result records =>
    cases h' : resolve others root .error with
    | mk result' records' =>
      cases result with
      | ok module =>
        rw [resolve_of_perm h perm] at h'
        cases h'
        exact .inl ⟨module, records, rfl, rfl⟩
      | error fault =>
        cases result' with
        | ok module =>
          -- what resolves in the other order would resolve in this one
          rw [resolve_of_perm h' perm.symm] at h
          cases h
        | error fault' => exact .inr ⟨fault, fault', records, records', rfl, rfl⟩

/-- The fragments of `sharedFragments` from the first one to the last and the other way round. -/
theorem resolve_perm_shared : ∃ module records,
    resolve sharedFragments none (.ofName "strict") = (.ok module, records) ∧
    resolve sharedFragments.reverse none (.ofName "strict") = (.ok module, records) ∧
    module.modules.map (·.name) = ["left", "shared"] := by
  let arena : Arena := ["s", "l", "t"].zip sharedFragments
  have hindex : index .error sharedFragments = (.ok arena, []) := rfl
  have hroot : findRoot arena none = .ok ("t", sharedFragments[2]) := rfl
  have hwithin : moduleWithin arena 4 [] "t" sharedFragments[2] = some (.ok {
      name := "top", modules := [{ name := "left", modules := [{ name := "shared" }] },
        { name := "shared" }] }) := rfl
  have hunfold := unfoldModule_of_moduleWithin (by decide) rfl hwithin
  have resolved := resolve_eq_ok_iff.mpr ⟨arena, [], _, hindex, hroot, hunfold, rfl⟩
  have strict : "strict" ≠ "warn" := by decide
  rcases resolve_perm (List.reverse_perm sharedFragments).symm none strict with
    ⟨module, records, h, h'⟩ | ⟨fault, _, _, _, h, -⟩
  · refine ⟨module, records, h, h', ?_⟩
    rw [ofName_of_ne strict, resolved] at h
    cases h
    rfl
  · rw [ofName_of_ne strict, resolved] at h
    cases h

end Introspection.Recovery
