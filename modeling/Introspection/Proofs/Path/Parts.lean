import Introspection.Path
import Mathlib.Data.List.Basic

/-!
# Parts of paths

A name that is a part of its own keeps its place and its text in every path it is put into: a text
without slashes that is neither empty nor a single dot. A double dot is such a part; it stays in a
path, and only walking the path takes something back. So whether joining paths can lead out of
where they are joined depends on two things alone, on a root and on a double dot.

## Scope

Nothing is said about how texts are split that have slashes inside, except that what stands behind
their last slash ends the last segment.

## Main definitions

* `Path.SinglePart` — the texts that are parts as they stand
* `Path.Inner` — the paths that never lead out of where they start

## Main results

* `Path.child_of_singlePart` — a part is put behind the parts of a directory
* `Path.inner_join_iff` — a joined path is inner exactly if both its halves are
* `Path.resolve_join` — an inner path leads to the place that its parts spell out
* `Path.resolve_ofLocation`, `Path.not_mem_resolve` — places have no double dots
* `Path.le_trans`, `Path.le_total` — paths are ordered
-/

namespace Introspection.Path

/-! ### Splitting at slashes -/

theorem segments_of_not_mem {text : List Char} (h : '/' ∉ text) : segments text = [text] := by
  induction text with
  | nil => rfl
  | cons c rest ih =>
    rw [List.mem_cons, not_or] at h
    rw [segments, if_neg (Ne.symm h.1), ih h.2]

/-- What is put behind a text and has no slash ends the last segment. -/
theorem exists_segments_append (text : List Char) {tail : List Char} (h : '/' ∉ tail) :
    ∃ front last, segments (text ++ tail) = front ++ [last ++ tail] := by
  induction text with
  | nil => exact ⟨[], [], segments_of_not_mem h⟩
  | cons c rest ih =>
    obtain ⟨front, last, ih⟩ := ih
    rw [List.cons_append, segments, ih]
    split
    · exact ⟨[] :: front, last, rfl⟩
    · -- The character joins the first segment, which may be the last one as well.
      cases front with
      | nil => exact ⟨[], c :: last, rfl⟩
      | cons first front => exact ⟨(c :: first) :: front, last, rfl⟩

/-! ### Names as parts -/

/-- A text is a part as it stands. -/
structure SinglePart (text : String) : Prop where
  ne_empty : text ≠ ""
  ne_dot : text ≠ "."
  no_slash : '/' ∉ text.toList

theorem singlePart_iff {text : String} :
    SinglePart text ↔ text ≠ "" ∧ text ≠ "." ∧ '/' ∉ text.toList :=
  ⟨fun h => ⟨h.ne_empty, h.ne_dot, h.no_slash⟩, fun h => ⟨h.1, h.2.1, h.2.2⟩⟩

instance (text : String) : Decidable (SinglePart text) :=
  decidable_of_iff _ singlePart_iff.symm

/-- A part stays one with anything behind it that has no slash. -/
theorem SinglePart.append {name tail : String} (h : SinglePart name) (htail : '/' ∉ tail.toList) :
    SinglePart (name ++ tail) where
  ne_empty heq := h.ne_empty (String.append_eq_empty_iff.mp heq).1
  ne_dot heq := by
    have hlist : name.toList ++ tail.toList = ['.'] := by
      rw [← String.toList_append, heq]
      rfl
    rcases List.append_eq_singleton_iff.mp hlist with ⟨hname, -⟩ | ⟨hname, -⟩
    · exact h.ne_empty (String.toList_inj.mp hname)
    · exact h.ne_dot (String.toList_inj.mp hname)
  no_slash := by
    rw [String.toList_append, List.mem_append]
    exact not_or.mpr ⟨h.no_slash, htail⟩

theorem rootOf_of_not_mem {text : List Char} (h : '/' ∉ text) : rootOf text = .relative := by
  have hnone : text.takeWhile (· = '/') = [] := by
    cases text with
    | nil => rfl
    | cons c rest => simp [List.ne_of_not_mem_cons h |>.symm]
  rw [rootOf, hnone]
  rfl

/-- A segment that ends with a part is one. -/
theorem isPart_append {text : String} (h : SinglePart text) (front : List Char) :
    isPart (front ++ text.toList) = true := by
  have hempty : text.toList ≠ [] := fun heq => h.ne_empty (String.toList_inj.mp heq)
  have hdot : text.toList ≠ ['.'] := fun heq => h.ne_dot (String.toList_inj.mp heq)
  simp [isPart, List.append_eq_singleton_iff, hempty, hdot]

theorem ofText_of_singlePart {text : String} (h : SinglePart text) :
    ofText text = ⟨.relative, [text]⟩ := by
  have hkept : isPart text.toList = true := isPart_append h []
  rw [ofText, rootOf_of_not_mem h.no_slash, segments_of_not_mem h.no_slash,
    List.filter_cons_of_pos hkept, List.filter_nil, List.map_singleton,
    String.ofList_toList]

/-- A part is put behind the parts of a directory. -/
theorem child_of_singlePart {text : String} (h : SinglePart text) (directory : Path) :
    directory.child text = ⟨directory.root, directory.parts ++ [text]⟩ := by
  rw [child, ofText_of_singlePart h, join]

/-- A text that ends with a part has one, if not the same. -/
theorem parts_ofText_append_ne_nil (name : String) {tail : String} (h : SinglePart tail) :
    (ofText (name ++ tail)).parts ≠ [] := by
  obtain ⟨front, last, hsegments⟩ := exists_segments_append name.toList h.no_slash
  simp [ofText, String.toList_append, hsegments, List.filter_append, isPart_append h]

theorem parts_join_ne_nil (base : Path) {path : Path} (h : path.parts ≠ []) :
    (base.join path).parts ≠ [] := by
  rw [join]
  split
  · exact List.append_ne_nil_of_right_ne_nil _ h
  · exact h

/-! ### Paths that lead further in -/

/-- A path that never leads out of where it starts: it has no root and no double dot. -/
structure Inner (path : Path) : Prop where
  relative : path.root = .relative
  no_return : ".." ∉ path.parts

theorem inner_iff {path : Path} : path.Inner ↔ path.root = .relative ∧ ".." ∉ path.parts :=
  ⟨fun h => ⟨h.relative, h.no_return⟩, fun h => ⟨h.1, h.2⟩⟩

instance (path : Path) : Decidable path.Inner :=
  decidable_of_iff _ inner_iff.symm

theorem inner_here : here.Inner where
  relative := rfl
  no_return := List.not_mem_nil

/-- A joined path is inner exactly if both its halves are. A rooted path is not, and the one before
it is dropped then. -/
theorem inner_join_iff {base path : Path} : (base.join path).Inner ↔ base.Inner ∧ path.Inner := by
  obtain ⟨root, parts⟩ := path
  cases root with
  | relative => simp [inner_iff, join, and_assoc]
  | slash => simp [inner_iff, join]
  | doubleSlash => simp [inner_iff, join]

/-- Without double dots every part leads one place further in. -/
theorem foldl_of_no_return {parts : List String} (h : ".." ∉ parts) (here : Location) :
    parts.foldl (fun here part => if part = ".." then here.dropLast else here ++ [part]) here =
      here ++ parts := by
  induction parts generalizing here with
  | nil => simp
  | cons part rest ih =>
    rw [List.mem_cons, not_or] at h
    rw [List.foldl_cons, if_neg (Ne.symm h.1), ih h.2, List.append_assoc, List.singleton_append]

/-- An inner path leads to the place that its parts spell out. -/
theorem resolve_join {path : Path} (h : path.Inner) (base : Path) (working : Location) :
    (base.join path).resolve working = base.resolve working ++ path.parts := by
  have hjoin : base.join path = ⟨base.root, base.parts ++ path.parts⟩ := by
    rw [join, h.relative]
  rw [hjoin, resolve, List.foldl_append]
  exact foldl_of_no_return h.no_return _

/-- A place is named by the path that spells it out. -/
theorem resolve_ofLocation {location : Location} (h : ".." ∉ location) (working : Location) :
    (ofLocation location).resolve working = location :=
  foldl_of_no_return h []

/-- No double dot is left in what a path names. -/
theorem not_mem_resolve {working : Location} (h : ".." ∉ working) (path : Path) :
    ".." ∉ path.resolve working := by
  have hfold : ∀ (parts : List String) (here : Location), ".." ∉ here → ".." ∉ parts.foldl
      (fun here part => if part = ".." then here.dropLast else here ++ [part]) here := by
    intro parts
    induction parts with
    | nil => exact fun here hhere => hhere
    | cons part rest ih =>
      intro here hhere
      rw [List.foldl_cons]
      split
      · exact ih _ fun hmem => hhere (List.dropLast_subset _ hmem)
      · next hpart => exact ih _ (by simp [hhere, Ne.symm hpart])
  refine hfold path.parts (path.start working) ?_
  rw [start]
  split
  · exact h
  · exact List.not_mem_nil

/-! ### The order of paths -/

-- Texts and lists have the order of their own types, also where a linear order is in scope.
attribute [local instance (high)] String.instLT String.decidableLT List.instLE List.decidableLE

theorem le_trans {first second third : Path} (h : first.le second) (h' : second.le third) :
    first.le third := by
  rw [le, decide_eq_true_iff] at *
  exact List.le_trans h h'

theorem le_total (first second : Path) : (first.le second || second.le first) = true := by
  rw [le, le, Bool.or_eq_true, decide_eq_true_iff, decide_eq_true_iff]
  exact List.le_total _ _

end Introspection.Path
