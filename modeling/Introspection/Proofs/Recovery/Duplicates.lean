import Introspection.Recovery.Tree

/-!
# Going on after duplicate ids

With the policy to warn, a further fragment of an id that was already there is dropped with a note.
Nothing of it may be seen again: no choice of a root, no member and no note on yet another fragment
of this id may depend on it. So the tree, or the fault, has to be the one that comes of the
fragments without the dropped ones, where the strict policy finds nothing to complain about.

Which fragments are dropped is said from the list alone, fragment by fragment with the ones in front
of it. Those that were dropped themselves are in front as well. They do not count, as the first
fragment of an id is never dropped.

## Main definitions

* `Recovery.textId?`, `Recovery.holder?` — the id of a fragment, and the first fragment of an id
* `Recovery.withoutRepeats` — the fragments that are left when further ones of an id are taken out
* `Recovery.repeatNotes` — the notes on the fragments that are taken out

## Main results

* `Recovery.indexFrom_warn` — indexing with notes is indexing what is left
* `Recovery.resolve_warn`
* `Recovery.of_mem_repeatNotes` — what a note says
-/

namespace Introspection.Recovery

/-! ### Fragments and what is in front of them -/

/-- The id of a fragment, if it has one that is a text. -/
def textId? (fragment : Fragment) : Option String :=
  (Json.get? fragment "id").bind Json.asString?

/-- The first fragment of an id. -/
def holder? (fragments : List Fragment) (id : String) : Option Fragment :=
  fragments.find? fun fragment => textId? fragment = some id

/-- The first of some earlier fragments that has the id of a fragment. -/
def original? (earlier : List Fragment) (fragment : Fragment) : Option Fragment :=
  (textId? fragment).bind (holder? earlier)

/-- The note on a fragment, if there is an earlier one of its id. -/
def repeatNote? (earlier : List Fragment) (fragment : Fragment) : Option Log.Record :=
  (textId? fragment).bind fun id => (original? earlier fragment).map fun first =>
    droppedRecord id (fieldOrNull first "name") (fieldOrNull fragment "name")

/-- The items of a list, each with all items in front of it. The items of `earlier` are in front of
all of them. -/
def withEarlier {α : Type} (earlier : List α) : List α → List (List α × α)
  | [] => []
  | item :: rest => (earlier, item) :: withEarlier (earlier ++ [item]) rest

/-- The fragments behind some earlier ones, without those that have the id of a fragment in front
of them. -/
def withoutRepeatsBehind (earlier fragments : List Fragment) : List Fragment :=
  ((withEarlier earlier fragments).filter fun (earlier, fragment) =>
    (original? earlier fragment).isNone).map Prod.snd

/-- The fragments up to the first one without an id. -/
def readable (fragments : List Fragment) : List Fragment :=
  fragments.takeWhile fun fragment => (textId? fragment).isSome

/-- The notes on fragments behind some earlier ones, up to the first fragment without an id. -/
def repeatNotesBehind (earlier fragments : List Fragment) : List Log.Record :=
  (withEarlier earlier (readable fragments)).filterMap fun (earlier, fragment) =>
    repeatNote? earlier fragment

/-- The fragments without those that have the id of an earlier one. -/
def withoutRepeats (fragments : List Fragment) : List Fragment :=
  withoutRepeatsBehind [] fragments

/-- The notes on the fragments that have the id of an earlier one, up to the first fragment without
an id. -/
def repeatNotes (fragments : List Fragment) : List Log.Record :=
  repeatNotesBehind [] fragments

/-- The second and the third fragment of an id are both compared with the first. -/
example :
    let named (name : String) : Fragment := [("id", .str "1"), ("name", .str name)]
    withoutRepeats [named "a", named "b", named "c"] = [named "a"] ∧
      repeatNotes [named "a", named "b", named "c"] =
        [droppedRecord "1" (.str "a") (.str "b"), droppedRecord "1" (.str "a") (.str "c")] := by
  exact ⟨rfl, rfl⟩

section

variable {earlier : List Fragment} {fragment : Fragment} {id : String}

theorem requireText_of_textId? (h : textId? fragment = some id) :
    requireText fragment "id" = .ok id := by
  obtain ⟨value, hvalue, htext⟩ := Option.bind_eq_some_iff.mp h
  cases value with
  | str text =>
    cases htext
    rw [requireText, hvalue]
  | _ => cases htext

theorem requireText_of_textId?_eq_none (h : textId? fragment = none) :
    requireText fragment "id" = .error (.fieldNotText "id" fragment) := by
  rw [requireText]
  split
  · next text hvalue =>
    rw [textId?, hvalue] at h
    cases h
  · rfl

/-- A fragment without an id is kept, and no notes are left from there on. -/
theorem repeats_cons_of_textId?_eq_none (h : textId? fragment = none) (rest : List Fragment) :
    withoutRepeatsBehind earlier (fragment :: rest) =
        fragment :: withoutRepeatsBehind (earlier ++ [fragment]) rest ∧
      repeatNotesBehind earlier (fragment :: rest) = [] := by
  constructor
  · rw [withoutRepeatsBehind, withEarlier, List.filter_cons_of_pos (by simp [original?, h])]
    rfl
  · rw [repeatNotesBehind, readable, List.takeWhile_cons_of_neg (by simp [h])]
    rfl

/-- The first fragment of an id is kept without a note. -/
theorem repeats_cons_of_holder?_eq_none (h : textId? fragment = some id)
    (first : holder? earlier id = none) (rest : List Fragment) :
    withoutRepeatsBehind earlier (fragment :: rest) =
        fragment :: withoutRepeatsBehind (earlier ++ [fragment]) rest ∧
      repeatNotesBehind earlier (fragment :: rest) =
        repeatNotesBehind (earlier ++ [fragment]) rest := by
  constructor
  · rw [withoutRepeatsBehind, withEarlier, List.filter_cons_of_pos (by simp [original?, h, first])]
    rfl
  · rw [repeatNotesBehind, readable, List.takeWhile_cons_of_pos (by simp [h]), withEarlier,
      List.filterMap_cons_none (by simp [repeatNote?, original?, h, first])]
    rfl

/-- A further fragment of an id is dropped, with a note on the first one and on this one. -/
theorem repeats_cons_of_holder? (h : textId? fragment = some id) {first : Fragment}
    (held : holder? earlier id = some first) (rest : List Fragment) :
    withoutRepeatsBehind earlier (fragment :: rest) =
        withoutRepeatsBehind (earlier ++ [fragment]) rest ∧
      repeatNotesBehind earlier (fragment :: rest) =
        droppedRecord id (fieldOrNull first "name") (fieldOrNull fragment "name") ::
          repeatNotesBehind (earlier ++ [fragment]) rest := by
  have hnote : repeatNote? earlier fragment =
      some (droppedRecord id (fieldOrNull first "name") (fieldOrNull fragment "name")) := by
    rw [repeatNote?, original?, h, Option.bind_some, Option.bind_some, held, Option.map_some]
  constructor
  · rw [withoutRepeatsBehind, withEarlier, List.filter_cons_of_neg (by simp [original?, h, held])]
    rfl
  · rw [repeatNotesBehind, readable, List.takeWhile_cons_of_pos (by simp [h]), withEarlier]
    exact List.filterMap_cons_some hnote

/-- In front of an item are the earlier ones and those in front of it in the list. -/
theorem of_mem_withEarlier {α : Type} {earlier items front : List α} {item : α}
    (h : (front, item) ∈ withEarlier earlier items) :
    ∃ between back, items = between ++ item :: back ∧ front = earlier ++ between := by
  induction items generalizing earlier with
  | nil => cases h
  | cons head items ih =>
    rcases List.mem_cons.mp h with hhead | hrest
    · cases hhead
      exact ⟨[], items, rfl, (List.append_nil _).symm⟩
    · obtain ⟨between, back, rfl, rfl⟩ := ih hrest
      exact ⟨head :: between, back, rfl, List.append_assoc ..⟩

theorem length_withEarlier {α : Type} (earlier items : List α) :
    (withEarlier earlier items).length = items.length := by
  induction items generalizing earlier with
  | nil => rfl
  | cons item items ih => rw [withEarlier, List.length_cons, ih, List.length_cons]

theorem isSome_repeatNote? (earlier : List Fragment) (fragment : Fragment) :
    (repeatNote? earlier fragment).isSome = (original? earlier fragment).isSome := by
  cases htext : textId? fragment <;> simp [repeatNote?, original?, htext]

/-- There is one note for each readable fragment that is taken out. -/
theorem length_repeatNotes (fragments : List Fragment) :
    (repeatNotes fragments).length + (withoutRepeats (readable fragments)).length =
      (readable fragments).length := by
  have hnotes : (repeatNotes fragments).length = (withEarlier [] (readable fragments)).countP
      fun (earlier, fragment) => (original? earlier fragment).isSome := by
    rw [repeatNotes, repeatNotesBehind, List.length_filterMap_eq_countP]
    simp only [isSome_repeatNote?]
  have hkept : (withoutRepeats (readable fragments)).length =
      (withEarlier [] (readable fragments)).countP
        fun (earlier, fragment) => (original? earlier fragment).isNone := by
    rw [withoutRepeats, withoutRepeatsBehind, List.length_map, List.countP_eq_length_filter]
  rw [hnotes, hkept, ← length_withEarlier [] (readable fragments),
    List.length_eq_countP_add_countP fun (earlier, fragment) => (original? earlier fragment).isSome]
  refine congrArg (_ + ·) (List.countP_congr fun entry _ => ?_)
  simp

/-! ### The arena -/

variable {arena : Arena} (holders : ∀ id, arena.get? id = holder? earlier id)
include holders

/-- Adding a fragment under its id keeps the first fragment of every id. -/
theorem get?_append_holder (h : textId? fragment = some id) (other : String) :
    Arena.get? (arena ++ [(id, fragment)]) other = holder? (earlier ++ [fragment]) other := by
  have hsingle : Arena.get? [(id, fragment)] other = holder? [fragment] other := by
    by_cases hid : id = other <;> simp [Arena.get?, holder?, h, hid]
  have hhold : holder? (earlier ++ [fragment]) other =
      (holder? earlier other).or (holder? [fragment] other) := List.find?_append
  have hget : Arena.get? (arena ++ [(id, fragment)]) other =
      (arena.get? other).or (Arena.get? [(id, fragment)] other) := by
    rw [Arena.get?, List.find?_append, Option.map_or]
    rfl
  rw [hget, hhold, holders, hsingle]

/-- Passing over a fragment keeps the first fragment of every id, if its id is there already. -/
theorem get?_holder_append (h : textId? fragment = some id) {first : Fragment}
    (held : holder? earlier id = some first) (other : String) :
    arena.get? other = holder? (earlier ++ [fragment]) other := by
  have hhold : holder? (earlier ++ [fragment]) other =
      (holder? earlier other).or (holder? [fragment] other) := List.find?_append
  rw [holders, hhold]
  by_cases hid : id = other
  · rw [← hid, held]
    rfl
  · have hsingle : holder? [fragment] other = none := by
      simp [holder?, h, hid]
    rw [hsingle, Option.or_none]

/-- **Indexing with notes is indexing what is left when further fragments of an id are taken out.**
The arena holds the first fragments of ids so far, which are the same whether the dropped ones are
counted or not. -/
theorem indexFrom_warn (fragments : List Fragment) :
    indexFrom .warn arena fragments =
      ((indexFrom .error arena (withoutRepeatsBehind earlier fragments)).1,
        repeatNotesBehind earlier fragments) := by
  induction fragments generalizing arena earlier with
  | nil => rfl
  | cons fragment rest ih =>
    cases htext : textId? fragment with
    | none =>
      have hrequire := requireText_of_textId?_eq_none htext
      obtain ⟨hkept, hnotes⟩ := repeats_cons_of_textId?_eq_none htext rest
      rw [hkept, hnotes, indexFrom, indexFrom, hrequire]
    | some id =>
      have hrequire := requireText_of_textId? htext
      cases hheld : holder? earlier id with
      | none =>
        have hget : arena.get? id = none := (holders id).trans hheld
        obtain ⟨hkept, hnotes⟩ := repeats_cons_of_holder?_eq_none htext hheld rest
        rw [hkept, hnotes, indexFrom, indexFrom, hrequire]
        dsimp only
        rw [hget]
        exact ih (get?_append_holder holders htext)
      | some first =>
        have hget : arena.get? id = some first := (holders id).trans hheld
        obtain ⟨hkept, hnotes⟩ := repeats_cons_of_holder? htext hheld rest
        rw [hkept, hnotes, indexFrom, hrequire]
        dsimp only
        rw [hget]
        dsimp only
        rw [ih (get?_holder_append holders htext hheld)]

end

/-! ### Trees -/

/-- The strict policy leaves no notes. -/
theorem indexFrom_error_notes (arena : Arena) (fragments : List Fragment) :
    (indexFrom .error arena fragments).2 = [] := by
  induction fragments generalizing arena with
  | nil => rfl
  | cons fragment rest ih =>
    rw [indexFrom]
    split
    · rfl
    · split
      · exact ih _
      · rfl

/-- With the strict policy nothing is reported but the root. -/
theorem level_of_mem_resolve_error {fragments : List Fragment} {root : Option String}
    {record : Log.Record} (h : record ∈ (resolve fragments root .error).2) :
    record.level = .debug := by
  have hnotes := indexFrom_error_notes [] fragments
  rw [resolve, index] at h
  split at h
  · next records hindex =>
    rw [hindex] at hnotes
    cases hnotes
    cases h
  · next records hindex =>
    rw [hindex] at hnotes
    cases hnotes
    dsimp only [List.nil_append] at h
    rw [resolveArena] at h
    split at h
    · cases h
    · rw [List.mem_singleton.mp h]
      rfl

theorem level_of_mem_repeatNotes {fragments : List Fragment} {record : Log.Record}
    (h : record ∈ repeatNotes fragments) : record.level = .warning := by
  obtain ⟨⟨earlier, fragment⟩, -, hnote⟩ := List.mem_filterMap.mp h
  obtain ⟨id, -, hnote⟩ := Option.bind_eq_some_iff.mp hnote
  obtain ⟨first, -, rfl⟩ := Option.map_eq_some_iff.mp hnote
  rfl

/-- The tree or the fault is found without the dropped fragments, and the notes on these stand in
front of what is reported anyway. -/
theorem resolve_warn_eq (fragments : List Fragment) (root : Option String) :
    resolve fragments root .warn =
      ((resolve (withoutRepeats fragments) root .error).1,
        repeatNotes fragments ++ (resolve (withoutRepeats fragments) root .error).2) := by
  have hindex : index .warn fragments =
      ((index .error (withoutRepeats fragments)).1, repeatNotes fragments) :=
    indexFrom_warn (fun _ => rfl) fragments
  have hnotes : (index .error (withoutRepeats fragments)).2 = [] := indexFrom_error_notes [] _
  rw [resolve, resolve, hindex]
  generalize index .error (withoutRepeats fragments) = indexed at hnotes ⊢
  obtain ⟨result, records⟩ := indexed
  cases hnotes
  cases result with
  | error fault => rw [List.append_nil]
  | ok arena => rfl

/-- **Going on after duplicate ids is the same as not having them.**

With the policy to warn, the tree or the fault is the one that the strict policy finds for the
fragments without those that have the id of an earlier one. The warnings are the notes on these, up
to the first fragment without an id, one note for each. They stand in front of what is reported
anyway. -/
theorem resolve_warn (fragments : List Fragment) (root : Option String) :
    (resolve fragments root .warn).1 = (resolve (withoutRepeats fragments) root .error).1 ∧
      (resolve fragments root .warn).2 =
        repeatNotes fragments ++ (resolve (withoutRepeats fragments) root .error).2 ∧
      (resolve fragments root .warn).2.filter (·.level = .warning) = repeatNotes fragments ∧
      (repeatNotes fragments).length + (withoutRepeats (readable fragments)).length =
        (readable fragments).length := by
  have hrun := resolve_warn_eq fragments root
  refine ⟨by rw [hrun], by rw [hrun], ?_, length_repeatNotes fragments⟩
  have hwarnings : (repeatNotes fragments).filter (·.level = .warning) = repeatNotes fragments :=
    List.filter_eq_self.mpr fun record h => decide_eq_true (level_of_mem_repeatNotes h)
  have hothers : (resolve (withoutRepeats fragments) root .error).2.filter (·.level = .warning) =
      [] := by
    refine List.filter_eq_nil_iff.mpr fun record h => ?_
    rw [level_of_mem_resolve_error h]
    decide
  rw [hrun, List.filter_append, hwarnings, hothers, List.append_nil]

/-- What a note says: the id, the name of the first fragment that has it, and that of the fragment
that is dropped. -/
theorem of_mem_repeatNotes {fragments : List Fragment} {record : Log.Record}
    (h : record ∈ repeatNotes fragments) :
    ∃ front fragment back id first,
      readable fragments = front ++ fragment :: back ∧
      textId? fragment = some id ∧ holder? front id = some first ∧
      record =
        { level := .warning
          logger := "stubsmith.resolve"
          message :=
            "Duplicate element id " ++ id ++ ": " ++ (fieldOrNull first "name").display ++ " and " ++
              (fieldOrNull fragment "name").display ++ "; keeping the first fragment" } := by
  obtain ⟨⟨front, fragment⟩, hmem, hnote⟩ := List.mem_filterMap.mp h
  obtain ⟨between, back, hsplit, hfront⟩ := of_mem_withEarlier hmem
  rw [List.nil_append] at hfront
  obtain ⟨id, hid, hnote⟩ := Option.bind_eq_some_iff.mp hnote
  obtain ⟨first, hfirst, rfl⟩ := Option.map_eq_some_iff.mp hnote
  rw [original?, hid, Option.bind_some] at hfirst
  exact ⟨front, fragment, back, id, first, hfront ▸ hsplit, hid, hfirst, rfl⟩

end Introspection.Recovery
