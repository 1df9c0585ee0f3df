import Mathlib.Data.List.Forall2
import Mathlib.Data.List.Nodup

/-!
# Lists related item by item

What is read off a list is related to it item by item. These are the facts about such pairs of
lists, and about picking items, that more than one reader needs.

## Main results

* `exists_of_forall₂`, `exists_forall₂` — from a pair of lists to pairs of items, and back
* `forall₂_imp_of_mem`
* `forall₂_filterMap` — the items of a kind
* `forall₂_unique` — a list is determined by what it is related to
* `filter_eq_singleton` — the only item to keep
* `mem_intercalate` — what stands between separators
* `map_mapIdx`, `mapIdx_eq_map` — mapping items with their places
-/

namespace Introspection

variable {α β γ : Type} {Related : α → β → Prop} {items : List α}

/-- An item of one of two related lists is related to an item of the other one. -/
theorem exists_of_forall₂ {others : List β} (related : List.Forall₂ Related items others) {a : α}
    (h : a ∈ items) : ∃ b ∈ others, Related a b := by
  induction related with
  | nil => cases h
  | cons head tail ih =>
    rcases List.mem_cons.mp h with rfl | h
    · exact ⟨_, List.mem_cons_self, head⟩
    · obtain ⟨b, hb, hab⟩ := ih h
      exact ⟨b, List.mem_cons_of_mem _ hb, hab⟩

theorem exists_forall₂ (h : ∀ a ∈ items, ∃ b, Related a b) :
    ∃ others, List.Forall₂ Related items others := by
  induction items with
  | nil => exact ⟨[], .nil⟩
  | cons a items ih =>
    obtain ⟨b, hb⟩ := h a List.mem_cons_self
    obtain ⟨others, hothers⟩ := ih fun a ha => h a (List.mem_cons_of_mem _ ha)
    exact ⟨b :: others, .cons hb hothers⟩

/-- Related items may be related in another way, each pair for its own reason. -/
theorem forall₂_imp_of_mem {others : List β} {Other : α → β → Prop}
    (related : List.Forall₂ Related items others)
    (imp : ∀ a ∈ items, ∀ b ∈ others, Related a b → Other a b) :
    List.Forall₂ Other items others := by
  induction related with
  | nil => exact .nil
  | cons head tail ih =>
    refine .cons (imp _ List.mem_cons_self _ List.mem_cons_self head) (ih fun a ha b hb => ?_)
    exact imp a (List.mem_cons_of_mem _ ha) b (List.mem_cons_of_mem _ hb)

/-- Keeping some items of one list and viewing the items of another one agree, if they do so item
by item. -/
theorem forall₂_filterMap {others : List β} {Kept : α → γ → Prop} {keep : α → Bool}
    {view : β → Option γ} (related : List.Forall₂ Related items others)
    (agree : ∀ a b, Related a b →
      (keep a = true ∧ ∃ c, view b = some c ∧ Kept a c) ∨ (keep a = false ∧ view b = none)) :
    List.Forall₂ Kept (items.filter keep) (others.filterMap view) := by
  induction related with
  | nil => exact .nil
  | cons head _ ih =>
    rcases agree _ _ head with ⟨hkeep, c, hview, hkept⟩ | ⟨hkeep, hview⟩
    · rw [List.filter_cons_of_pos hkeep, List.filterMap_cons_some hview]
      exact .cons hkept ih
    · rw [List.filter_cons_of_neg (by simp [hkeep]), List.filterMap_cons_none hview]
      exact ih

/-- Two lists are the same if they are related to a third one and each item of the first list is
all that its counterpart is related to. -/
theorem forall₂_unique {first second : List β} (related : List.Forall₂ Related items first)
    (other : List.Forall₂ Related items second)
    (unique : ∀ a, ∀ b ∈ first, ∀ b', Related a b → Related a b' → b = b') : first = second := by
  induction related generalizing second with
  | nil => cases other; rfl
  | cons head tail ih =>
    obtain ⟨b, rest, head', tail', rfl⟩ := List.forall₂_cons_left_iff.mp other
    rw [unique _ _ List.mem_cons_self _ head head',
      ih tail' fun a b hb => unique a b (List.mem_cons_of_mem _ hb)]

/-- Filtering leaves one item, if it is the only one to keep and no item stands twice. -/
theorem filter_eq_singleton {keep : α → Bool} {item : α} (distinct : items.Nodup)
    (only : ∀ other ∈ items, keep other = true ↔ other = item) (h : item ∈ items) :
    items.filter keep = [item] := by
  have hsame : ∀ other ∈ items.filter keep, other = item := fun other hother =>
    (only other (List.mem_filter.mp hother).1).mp (List.mem_filter.mp hother).2
  have hmem : item ∈ items.filter keep := List.mem_filter.mpr ⟨h, (only item h).mpr rfl⟩
  have hreplicate := List.eq_replicate_of_mem hsame
  have hle : (items.filter keep).length ≤ 1 := by
    have := distinct.filter keep
    rw [hreplicate, List.nodup_replicate] at this
    exact this
  have hpos : 0 < (items.filter keep).length := List.length_pos_of_mem hmem
  rw [hreplicate, show (items.filter keep).length = 1 by omega]
  rfl

/-- What is no separator stands in one of the lists between separators. -/
theorem mem_intercalate {separator item : α} {lists : List (List α)} (h : item ≠ separator) :
    item ∈ [separator].intercalate lists ↔ ∃ list ∈ lists, item ∈ list := by
  induction lists with
  | nil => simp
  | cons first rest ih =>
    cases rest with
    | nil => simp
    | cons second rest =>
      rw [List.intercalate_cons_cons, List.mem_append, List.mem_append, ih, List.mem_singleton,
        or_iff_left h]
      simp only [List.exists_mem_cons_iff]

theorem map_mapIdx (f : β → γ) (g : Nat → α → β) (items : List α) :
    (items.mapIdx g).map f = items.mapIdx fun place item => f (g place item) := by
  induction items generalizing g with
  | nil => rfl
  | cons item items ih => rw [List.mapIdx_cons, List.map_cons, ih, List.mapIdx_cons]

/-- Mapping items with their places is mapping them, if places do not matter. -/
theorem mapIdx_eq_map (f : α → β) (items : List α) :
    (items.mapIdx fun _ item => f item) = items.map f := by
  induction items with
  | nil => rfl
  | cons item items ih => rw [List.mapIdx_cons, ih, List.map_cons]

end Introspection
