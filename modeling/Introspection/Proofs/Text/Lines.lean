import Introspection.Proofs.Lists
import Introspection.Text.Lines

/-!
# Splitting texts into lines

A text is split at more characters than joining puts in. So lines that are joined and split again
come back exactly if no character of them ends a line, and whatever was split is free of such
characters afterwards: what was between two lines is lost.

## Main results

* `Text.splitLines_joinLines` — lines without line ends come back
* `Text.not_isLineEnd_of_mem_splitLines` — no line end is left inside a line
-/

namespace Introspection.Text

theorem joinLines_singleton (line : List Char) : joinLines [line] = line :=
  List.intercalate_singleton

theorem joinLines_cons_cons (line next : List Char) (lines : List (List Char)) :
    joinLines (line :: next :: lines) = line ++ '\n' :: joinLines (next :: lines) := by
  rw [joinLines, List.intercalate_cons_cons, joinLines]
  simp

/-- A line feed behind each of two stretches of lines. -/
theorem joinLines_append {first second : List (List Char)} (hfirst : first ≠ [])
    (hsecond : second ≠ []) :
    joinLines (first ++ second) = joinLines first ++ '\n' :: joinLines second := by
  induction first with
  | nil => exact absurd rfl hfirst
  | cons line rest ih =>
    cases rest with
    | nil =>
      obtain ⟨next, second, rfl⟩ := List.exists_cons_of_ne_nil hsecond
      rw [List.singleton_append, joinLines_cons_cons, joinLines_singleton]
    | cons next rest =>
      rw [List.cons_append, List.cons_append, joinLines_cons_cons, ← List.cons_append,
        ih (List.cons_ne_nil _ _), joinLines_cons_cons, List.append_assoc, List.cons_append]

/-- Joined lines end with the last of them. -/
theorem exists_joinLines_concat (lines : List (List Char)) (line : List Char) :
    ∃ front, joinLines (lines ++ [line]) = front ++ line := by
  cases lines with
  | nil => exact ⟨[], by rw [List.nil_append, joinLines_singleton, List.nil_append]⟩
  | cons first lines =>
    refine ⟨joinLines (first :: lines) ++ ['\n'], ?_⟩
    rw [joinLines_append (List.cons_ne_nil _ _) (List.cons_ne_nil _ _), joinLines_singleton,
      List.append_assoc, List.singleton_append]

theorem infix_joinLines_of_mem {lines : List (List Char)} {line : List Char} (h : line ∈ lines) :
    line <:+: joinLines lines := by
  induction lines with
  | nil => cases h
  | cons first rest ih =>
    cases rest with
    | nil =>
      obtain rfl := List.mem_singleton.mp h
      exact ⟨[], [], by simp [joinLines_singleton]⟩
    | cons next rest =>
      rw [joinLines_cons_cons]
      rcases List.mem_cons.mp h with rfl | h
      · exact (List.prefix_append _ _).isInfix
      · exact (ih h).trans ((List.suffix_cons _ _).trans (List.suffix_append _ _)).isInfix

/-- The characters of joined lines are those of the lines and the line feed. -/
theorem mem_joinLines {lines : List (List Char)} {c : Char} (hc : c ≠ '\n') :
    c ∈ joinLines lines ↔ ∃ line ∈ lines, c ∈ line :=
  mem_intercalate hc

/-! ### Splitting -/

/-- A character that ends no line, nor is half of a line end, stands in the first line. -/
theorem splitLines_cons {c : Char} (h : isLineEnd c = false) (rest : List Char) :
    splitLines (c :: rest) = consChar c (splitLines rest) := by
  rw [splitLines]
  · rw [h]
    rfl
  · rintro tail rfl -
    cases h

theorem splitLines_append_feed {line : List Char} (h : ∀ c ∈ line, isLineEnd c = false)
    (rest : List Char) : splitLines (line ++ '\n' :: rest) = line :: splitLines rest := by
  induction line with
  | nil =>
    rw [List.nil_append, splitLines]
    · rfl
    · rintro tail h -
      cases h
  | cons c line ih =>
    obtain ⟨hc, h⟩ := List.forall_mem_cons.mp h
    rw [List.cons_append, splitLines_cons hc, ih h, consChar]

/-- Lines without line ends come back. -/
theorem splitLines_joinLines {lines : List (List Char)} (hne : lines ≠ [])
    (h : ∀ line ∈ lines, ∀ c ∈ line, isLineEnd c = false) :
    splitLines (joinLines lines ++ ['\n']) = lines := by
  induction lines with
  | nil => exact absurd rfl hne
  | cons line rest ih =>
    obtain ⟨hline, h⟩ := List.forall_mem_cons.mp h
    cases rest with
    | nil => rw [joinLines_singleton, splitLines_append_feed hline, splitLines]
    | cons next rest =>
      rw [joinLines_cons_cons, List.append_assoc, List.cons_append, splitLines_append_feed hline,
        ih (List.cons_ne_nil _ _) h]

/-- No line end is left inside a line. -/
theorem not_isLineEnd_of_mem_splitLines {text line : List Char} (h : line ∈ splitLines text)
    {c : Char} (hc : c ∈ line) : isLineEnd c = false := by
  induction text using splitLines.induct generalizing line with
  | case1 => cases h
  | case2 rest ih =>
    rw [splitLines] at h
    rcases List.mem_cons.mp h with rfl | h
    · cases hc
    · exact ih h hc
  | case3 d rest hcrlf hend ih =>
    rw [splitLines.eq_3 _ _ hcrlf, if_pos hend] at h
    rcases List.mem_cons.mp h with rfl | h
    · cases hc
    · exact ih h hc
  | case4 d rest hcrlf hend ih =>
    rw [splitLines.eq_3 _ _ hcrlf, if_neg hend] at h
    rw [Bool.not_eq_true] at hend
    cases hlines : splitLines rest with
    | nil =>
      rw [hlines, consChar, List.mem_singleton] at h
      rw [h, List.mem_singleton] at hc
      rwa [hc]
    | cons first lines =>
      rw [hlines] at ih h
      rw [consChar] at h
      rcases List.mem_cons.mp h with rfl | h
      · rcases List.mem_cons.mp hc with rfl | hc
        · exact hend
        · exact ih List.mem_cons_self hc
      · exact ih (List.mem_cons_of_mem _ h) hc

end Introspection.Text
