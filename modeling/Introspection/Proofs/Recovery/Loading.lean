import Introspection.Proofs.Json.Reading
import Introspection.Proofs.Lists
import Introspection.Proofs.Recovery.Description
import Introspection.Proofs.Text.Trimming

/-!
# Loading and indexing fragments

A document with the texts of some fragments and any white space around them loads to these
fragments, and fragments whose ids differ are indexed as they come. So what is known of the
fragments one by one is known of the arena, in whatever order they were found.

Everything is stated for fragments that are made from some items by a function, with ids made from
the same items: what is looked up in the arena is then an item again.

## Main definitions

* `Recovery.ReadsFragment` — a text is read as a fragment, in front of anything
* `Recovery.Spaced` — a document with some texts in it and white space around them
* `Recovery.arenaOf` — the arena of the fragments of some items

## Main results

* `Recovery.load_of_spaced`
* `Recovery.index_eq_arenaOf`, `Recovery.get?_arenaOf`
* `Recovery.findTopRoot_arenaOf`
-/

namespace Introspection.Recovery

open Introspection.Json (Answers Reads answers_iff)
open Introspection.Text (isBlank trim trimLeft trimRight)

/-! ### Documents -/

/-- A text is read as a fragment whatever follows it, and stands between braces. -/
structure ReadsFragment (text : String) (fragment : Fragment) : Prop where
  reads : Reads text.toList (.object fragment)
  braced : ∃ inside, text.toList = '\x7b' :: (inside ++ ['\x7d'])

/-- A document holds some texts in order, with any white space around them. -/
inductive Spaced : List String → List Char → Prop
  | last {blanks : List Char} (blank : ∀ c ∈ blanks, isBlank c = true) : Spaced [] blanks
  | more {blanks rest : List Char} {text : String} {texts : List String}
      (blank : ∀ c ∈ blanks, isBlank c = true) (tail : Spaced texts rest) :
      Spaced (text :: texts) (blanks ++ (text.toList ++ rest))

/-- The white space behind a text that ends with a brace is all that is trimmed. -/
theorem ReadsFragment.trimRight_append {text : String} {fragment : Fragment}
    (h : ReadsFragment text fragment) (before rest : List Char) :
    trimRight (before ++ (text.toList ++ rest)) = before ++ (text.toList ++ trimRight rest) := by
  obtain ⟨inside, htext⟩ := h.braced
  have htrim (after : List Char) : before ++ (text.toList ++ after) =
      (before ++ '\x7b' :: inside) ++ '\x7d' :: after := by simp [htext]
  rw [htrim, htrim]
  exact Text.trimRight_append_of_last (by decide) rest

theorem ReadsFragment.trimLeft_append {text : String} {fragment : Fragment}
    (h : ReadsFragment text fragment) (rest : List Char) :
    trimLeft (text.toList ++ rest) = text.toList ++ rest := by
  obtain ⟨inside, htext⟩ := h.braced
  rw [htext]
  rfl

theorem trimRight_of_blank {blanks : List Char} (blank : ∀ c ∈ blanks, isBlank c = true) :
    trimRight blanks = [] :=
  Text.trimRight_append_of_blank blank []

/-- Trimming a document at its end leaves its texts. -/
theorem Spaced.trimRight {texts : List String} {fragments : List Fragment} {document : List Char}
    (h : Spaced texts document) (reads : List.Forall₂ ReadsFragment texts fragments) :
    Spaced texts (trimRight document) := by
  induction h generalizing fragments with
  | last blank =>
    rw [trimRight_of_blank blank]
    exact .last (by simp)
  | more blank tail ih =>
    obtain ⟨fragment, fragments, htext, htexts, rfl⟩ := List.forall₂_cons_left_iff.mp reads
    rw [htext.trimRight_append]
    exact .more blank (ih htexts)

/-- One text is read and the others are left. -/
theorem ReadsFragment.readRun {text : String} {fragment : Fragment}
    (h : ReadsFragment text fragment) (whole rest : List Char) {values : List Json}
    (hrest : readRun whole (trimLeft rest) = .ok values) :
    readRun whole (text.toList ++ rest) = .ok (.object fragment :: values) := by
  obtain ⟨inside, htext⟩ := h.braced
  have answers := h.reads.answers rest
  rw [htext, List.cons_append] at answers ⊢
  obtain ⟨shorter, hread⟩ := answers_iff.mp answers
  rw [Recovery.readRun, hread]
  dsimp only
  rw [hrest]

/-- All texts of a document are read, from the first one on. -/
theorem Spaced.readRun {texts : List String} {fragments : List Fragment} {document : List Char}
    (h : Spaced texts document) (reads : List.Forall₂ ReadsFragment texts fragments)
    (whole : List Char) : readRun whole (trimLeft document) = .ok (fragments.map .object) := by
  induction h generalizing fragments with
  | @last blanks blank =>
    obtain rfl := List.forall₂_nil_left_iff.mp reads
    have hblanks : trimLeft (blanks ++ []) = trimLeft [] := Text.trimLeft_append_of_blank blank []
    rw [List.append_nil] at hblanks
    rw [hblanks, Text.trimLeft_nil, Recovery.readRun]
    rfl
  | @more blanks rest text texts blank tail ih =>
    obtain ⟨fragment, fragments, htext, htexts, rfl⟩ := List.forall₂_cons_left_iff.mp reads
    rw [Text.trimLeft_append_of_blank blank, htext.trimLeft_append]
    exact htext.readRun whole rest (ih htexts)

theorem asFragments_objects (fragments : List Fragment) :
    asFragments (fragments.map .object) = .ok fragments := by
  induction fragments with
  | nil => rfl
  | cons fragment fragments ih => rw [List.map_cons, asFragments, ih]

/-- A trimmed document is empty or begins with a brace, and its texts are the same. -/
theorem Spaced.trim {texts : List String} {fragments : List Fragment} {document : List Char}
    (h : Spaced texts document) (reads : List.Forall₂ ReadsFragment texts fragments) :
    Spaced texts (trim document) ∧
      (trim document = [] ∨ ∃ rest, trim document = '\x7b' :: rest) := by
  cases h with
  | @last blanks blank =>
    have hnil : Text.trim ([] ++ ([] ++ document)) = [] :=
      Text.trim_blanks_append (by simp) Text.tight_nil blank
    rw [List.nil_append, List.nil_append] at hnil
    exact ⟨hnil ▸ .last (by simp), .inl hnil⟩
  | @more blanks rest text texts blank tail =>
    obtain ⟨fragment, fragments, htext, htexts, rfl⟩ := List.forall₂_cons_left_iff.mp reads
    have htrim : Text.trim (blanks ++ (text.toList ++ rest)) =
        [] ++ (text.toList ++ Text.trimRight rest) := by
      rw [Text.trim, Text.trimLeft_append_of_blank blank, htext.trimLeft_append]
      exact htext.trimRight_append [] rest
    rw [htrim]
    refine ⟨.more (by simp) (tail.trimRight htexts), .inr ?_⟩
    obtain ⟨inside, hbraces⟩ := htext.braced
    rw [hbraces]
    exact ⟨_, rfl⟩

/-- A document with the texts of some fragments loads to these fragments. -/
theorem load_of_spaced {texts : List String} {fragments : List Fragment} {document : String}
    (reads : List.Forall₂ ReadsFragment texts fragments) (h : Spaced texts document.toList) :
    load document = .ok fragments := by
  obtain ⟨spaced, hcases⟩ := h.trim reads
  have hrun := spaced.readRun reads (trim document.toList)
  rw [load]
  rcases hcases with hnil | ⟨rest, hbrace⟩
  · rw [hnil] at hrun ⊢
    rw [loadTrimmed]
    · rw [show Recovery.readRun [] [] = _ from hrun]
      exact asFragments_objects fragments
    · intro tail htail
      cases htail
  · rw [hbrace] at hrun ⊢
    have hleft : trimLeft ('\x7b' :: rest) = '\x7b' :: rest := rfl
    rw [hleft] at hrun
    rw [loadTrimmed]
    · rw [hrun]
      exact asFragments_objects fragments
    · intro tail htail
      cases htail

/-! ### Arenas -/

section Arena

variable {α : Type} (idOf : α → String) (fragmentOf : α → Fragment)

/-- The arena of the fragments of some items. -/
def arenaOf (items : List α) : Arena :=
  items.map fun item => (idOf item, fragmentOf item)

variable {idOf fragmentOf} {items : List α}

theorem get?_arenaOf_eq_none {id : String} (h : ∀ item ∈ items, idOf item ≠ id) :
    (arenaOf idOf fragmentOf items).get? id = none := by
  rw [Arena.get?, Option.map_eq_none_iff, List.find?_eq_none]
  intro entry hentry
  obtain ⟨item, hitem, rfl⟩ := List.mem_map.mp hentry
  simpa using h item hitem

/-- What is found in the arena is the fragment of an item. -/
theorem exists_of_get?_arenaOf {id : String} {fragment : Fragment}
    (found : (arenaOf idOf fragmentOf items).get? id = some fragment) :
    ∃ item ∈ items, idOf item = id ∧ fragmentOf item = fragment := by
  obtain ⟨entry, hentry, hfragment⟩ := Option.map_eq_some_iff.mp found
  obtain ⟨item, hitem, rfl⟩ := List.mem_map.mp (List.mem_of_find?_eq_some hentry)
  have hid : idOf item = id := by simpa using List.find?_some hentry
  exact ⟨item, hitem, hid, hfragment⟩

/-- The fragment of an item is found, if no other item has its id. -/
theorem get?_arenaOf (distinct : (items.map idOf).Nodup) {item : α} (h : item ∈ items) :
    (arenaOf idOf fragmentOf items).get? (idOf item) = some (fragmentOf item) := by
  cases hfound : (arenaOf idOf fragmentOf items).get? (idOf item) with
  | none =>
    rw [Arena.get?, Option.map_eq_none_iff, List.find?_eq_none] at hfound
    have hmem := hfound (idOf item, fragmentOf item) (List.mem_map_of_mem h)
    simp at hmem
  | some fragment =>
    obtain ⟨other, hother, hid, rfl⟩ := exists_of_get?_arenaOf hfound
    rw [List.inj_on_of_nodup_map distinct hother h hid]

/-- Further fragments go behind those of the arena, if all ids differ. -/
theorem indexFrom_arenaOf (policy : DuplicatePolicy) {first rest : List α}
    (distinct : ((first ++ rest).map idOf).Nodup)
    (ids : ∀ item ∈ rest, HasText (fragmentOf item) "id" (idOf item)) :
    indexFrom policy (arenaOf idOf fragmentOf first) (rest.map fragmentOf) =
      (.ok (arenaOf idOf fragmentOf (first ++ rest)), []) := by
  induction rest generalizing first with
  | nil =>
    rw [List.append_nil]
    rfl
  | cons item rest ih =>
    have hfresh : ∀ other ∈ first, idOf other ≠ idOf item := by
      intro other hother heq
      rw [List.map_append, List.map_cons] at distinct
      exact List.disjoint_of_nodup_append distinct (List.mem_map_of_mem hother)
        (heq ▸ List.mem_cons_self)
    have hnext : first ++ item :: rest = (first ++ [item]) ++ rest := by simp
    have hadd : arenaOf idOf fragmentOf first ++ [(idOf item, fragmentOf item)] =
        arenaOf idOf fragmentOf (first ++ [item]) := by simp [arenaOf]
    rw [List.map_cons, indexFrom, requireText_eq_ok_iff.mpr (ids item List.mem_cons_self)]
    dsimp only
    rw [get?_arenaOf_eq_none hfresh]
    dsimp only
    rw [hnext] at distinct ⊢
    rw [hadd, ih distinct fun other hother => ids other (List.mem_cons_of_mem _ hother)]

/-- Fragments whose ids differ are indexed as they come. -/
theorem index_eq_arenaOf (policy : DuplicatePolicy) (distinct : (items.map idOf).Nodup)
    (ids : ∀ item ∈ items, HasText (fragmentOf item) "id" (idOf item)) :
    index policy (items.map fragmentOf) = (.ok (arenaOf idOf fragmentOf items), []) := by
  have hdistinct : (([] ++ items).map idOf).Nodup := distinct
  exact indexFrom_arenaOf policy hdistinct ids

/-- An arena holds some fragments in order, each by its id, and no id twice. -/
structure Holds (arena : Arena) (fragments : List Fragment) : Prop where
  fragments : arena.map Prod.snd = fragments
  ids : ∀ entry ∈ arena, HasText entry.2 "id" entry.1
  distinct : (arena.map Prod.fst).Nodup

/-- Unless a repeated id is let pass, indexing adds every fragment under an id of its own. -/
theorem Holds.indexFrom {arena result : Arena} {fragments rest : List Fragment}
    {records : List Log.Record} (holds : Holds arena fragments)
    (h : indexFrom .error arena rest = (.ok result, records)) :
    Holds result (fragments ++ rest) ∧ records = [] := by
  induction rest generalizing arena fragments with
  | nil =>
    cases h
    rw [List.append_nil]
    exact ⟨holds, rfl⟩
  | cons fragment rest ih =>
    rw [Recovery.indexFrom] at h
    split at h
    · cases h
    · next id hid =>
      split at h
      · next hfresh =>
        rw [Arena.get?, Option.map_eq_none_iff, List.find?_eq_none] at hfresh
        have holds' : Holds (arena ++ [(id, fragment)]) (fragments ++ [fragment]) := by
          refine ⟨by simp [holds.fragments], fun entry hentry => ?_, ?_⟩
          · rcases List.mem_append.mp hentry with hentry | hentry
            · exact holds.ids entry hentry
            · rw [List.mem_singleton.mp hentry]
              exact requireText_eq_ok_iff.mp hid
          · rw [List.map_append, List.nodup_append]
            refine ⟨holds.distinct, by simp, ?_⟩
            rintro other hother _ hid' rfl
            obtain ⟨entry, hentry, rfl⟩ := List.mem_map.mp hother
            exact hfresh entry hentry (by simpa using hid')
        rw [List.append_cons]
        exact ih holds' h
      · cases h

theorem holds_of_index {arena : Arena} {fragments : List Fragment} {records : List Log.Record}
    (h : index .error fragments = (.ok arena, records)) :
    Holds arena fragments ∧ records = [] := by
  have empty : Holds [] [] := ⟨rfl, by simp, by simp⟩
  exact empty.indexFrom h

/-- Every entry of an arena without repeated ids is found. -/
theorem Holds.get? {arena : Arena} {fragments : List Fragment} (holds : Holds arena fragments)
    {entry : String × Fragment} (h : entry ∈ arena) : arena.get? entry.1 = some entry.2 := by
  have harena : arenaOf Prod.fst Prod.snd arena = arena := List.map_id arena
  have hfound : (arenaOf Prod.fst Prod.snd arena).get? entry.1 = some entry.2 :=
    get?_arenaOf holds.distinct h
  rwa [harena] at hfound

/-- Every fragment is in the arena by its id. -/
theorem Holds.exists_entry {arena : Arena} {fragments : List Fragment}
    (holds : Holds arena fragments) {fragment : Fragment} (h : fragment ∈ fragments) :
    ∃ id, HasText fragment "id" id ∧ arena.get? id = some fragment := by
  rw [← holds.fragments] at h
  obtain ⟨entry, hentry, rfl⟩ := List.mem_map.mp h
  exact ⟨entry.1, holds.ids entry hentry, holds.get? hentry⟩

/-- The ids that some fragments refer to. -/
theorem referenced_map {membersOf : α → List String}
    (members : ∀ item ∈ items, HasMembers (fragmentOf item) (membersOf item)) :
    referenced (arenaOf idOf fragmentOf items) = .ok (items.flatMap membersOf) := by
  induction items with
  | nil => rfl
  | cons item items ih =>
    have hrest := ih fun other hother => members other (List.mem_cons_of_mem _ hother)
    rw [arenaOf] at hrest ⊢
    rw [List.map_cons, referenced, memberIds_eq_ok_iff.mpr (members item List.mem_cons_self)]
    dsimp only
    rw [hrest, List.flatMap_cons]

/-- The root of an arena is the only module that is a member of no module. -/
theorem findTopRoot_arenaOf {membersOf : α → List String} {root : α}
    (members : ∀ item ∈ items, hasType "module" (fragmentOf item) = true →
      HasMembers (fragmentOf item) (membersOf item))
    (distinct : items.Nodup)
    (top : ∀ item ∈ items, (hasType "module" (fragmentOf item) = true ∧
      ∀ other ∈ items, hasType "module" (fragmentOf other) = true →
        idOf item ∉ membersOf other) ↔ item = root)
    (hroot : root ∈ items) :
    findTopRoot (arenaOf idOf fragmentOf items) = .ok (idOf root, fragmentOf root) := by
  let modules := items.filter fun item => hasType "module" (fragmentOf item)
  have hmem {item : α} : item ∈ modules ↔
      item ∈ items ∧ hasType "module" (fragmentOf item) = true :=
    List.mem_filter
  have hmodules : (arenaOf idOf fragmentOf items).modules = arenaOf idOf fragmentOf modules := by
    rw [Arena.modules, arenaOf, List.filter_map]
    rfl
  have hreferenced : referenced (arenaOf idOf fragmentOf modules) =
      .ok (modules.flatMap membersOf) :=
    referenced_map fun item hitem => members item (hmem.mp hitem).1 (hmem.mp hitem).2
  have hroot : (modules.filter fun item => !(modules.flatMap membersOf).contains (idOf item)) =
      [root] := by
    refine filter_eq_singleton (distinct.filter _) (fun item hitem => ?_)
      (hmem.mpr ⟨hroot, ((top root hroot).mpr rfl).1⟩)
    rw [← top item (hmem.mp hitem).1]
    simp only [Bool.not_eq_true', List.contains_eq_mem, decide_eq_false_iff_not, List.mem_flatMap,
      hmem, (hmem.mp hitem).2, true_and]
    constructor
    · intro h other hother htype hmember
      exact h ⟨other, ⟨hother, htype⟩, hmember⟩
    · rintro h ⟨other, ⟨hother, htype⟩, hmember⟩
      exact h other hother htype hmember
  have hcandidates : ((arenaOf idOf fragmentOf modules).filter fun entry =>
      !(modules.flatMap membersOf).contains entry.1) = [(idOf root, fragmentOf root)] := by
    rw [arenaOf, List.filter_map]
    exact congrArg (List.map _) hroot
  rw [findTopRoot, hmodules, hreferenced]
  dsimp only
  rw [hcandidates]

end Arena

end Introspection.Recovery
