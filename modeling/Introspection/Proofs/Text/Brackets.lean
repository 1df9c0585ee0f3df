import Introspection.Text.Blank
import Mathlib.Data.List.Induction

/-!
# Texts with brackets

A separator counts only outside brackets. What is open is kept as the brackets that are due, the
innermost first, so a text in which `(` is closed by `]` is no text with brackets at all.

Every fact here is about a text with more text behind it, since that is how the parts of a line are
met when it is read from the left.

## Main definitions

* `Text.nest` — the brackets due behind a character
* `Text.Closed` — all brackets are closed, and outside them some characters do not occur
* `Text.splitOutside` — the parts of a text between separators outside brackets
* `Text.inside` — the text up to the bracket that closes it

## Main results

* `Text.splitOutside_intercalate` — joined parts are split into themselves
* `Text.inside_append` — a text is found again in front of the bracket that closes it
-/

namespace Introspection.Text

/-! ### Brackets -/

/-- The bracket that closes an opening one. -/
def closing? : Char → Option Char
  | '(' => some ')'
  | '[' => some ']'
  | '\x7b' => some '\x7d'
  | _ => none

/-- Whether a character closes a bracket. -/
def isClosing (c : Char) : Bool :=
  c == ')' || c == ']' || c == '\x7d'

/-- The brackets that are due behind a character. A closing bracket has to be the one that is due
next. -/
def nest (due : List Char) (c : Char) : Option (List Char) :=
  match closing? c with
  | some last => some (last :: due)
  | none =>
    if isClosing c then
      match due with
      | next :: others => if c = next then some others else none
      | [] => none
    else some due

/-- All brackets of a text are closed, those that were due before it included, and outside brackets
no character is one to avoid. -/
def Closed (avoid : Char → Bool) (due : List Char) : List Char → Prop
  | [] => due = []
  | c :: rest =>
    (due = [] → avoid c = false) ∧
      match nest due c with
      | some due => Closed avoid due rest
      | none => False

instance Closed.decide (avoid : Char → Bool) : (due text : List Char) →
    Decidable (Closed avoid due text)
  | due, [] => inferInstanceAs (Decidable (due = []))
  | due, c :: rest =>
    have : Decidable (match nest due c with
        | some due => Closed avoid due rest
        | none => False) :=
      match nest due c with
      | some due => Closed.decide avoid due rest
      | none => instDecidableFalse
    inferInstanceAs (Decidable (_ ∧ _))

variable {avoid : Char → Bool} {due text : List Char}

theorem closed_cons_iff {c : Char} {rest : List Char} :
    Closed avoid due (c :: rest) ↔
      (due = [] → avoid c = false) ∧ ∃ more, nest due c = some more ∧ Closed avoid more rest := by
  rw [Closed]
  cases nest due c with
  | none => simp
  | some more => simp

/-- A bracket that is not due is no part of a text with closed brackets. -/
theorem nest_nil_of_isClosing {c : Char} (h : isClosing c = true) : nest [] c = none := by
  have hcases : c = ')' ∨ c = ']' ∨ c = '\x7d' := by simpa [isClosing, or_assoc] using h
  rcases hcases with rfl | rfl | rfl <;> rfl

/-- What is avoided in addition does no harm. -/
theorem Closed.mono {avoid' : Char → Bool} (h : Closed avoid due text)
    (less : ∀ c, avoid' c = true → avoid c = true) : Closed avoid' due text := by
  induction text generalizing due with
  | nil => exact h
  | cons c rest ih =>
    obtain ⟨hout, more, hnest, hrest⟩ := closed_cons_iff.mp h
    refine closed_cons_iff.mpr ⟨fun hdue => ?_, more, hnest, ih hrest⟩
    rw [Bool.eq_false_iff]
    intro hc
    exact absurd (less c hc) (by simp [hout hdue])

theorem Closed.append {other : List Char} (h : Closed avoid due text)
    (h' : Closed avoid [] other) : Closed avoid due (text ++ other) := by
  induction text generalizing due with
  | nil =>
    rw [show due = [] from h]
    exact h'
  | cons c rest ih =>
    obtain ⟨hout, more, hnest, hrest⟩ := closed_cons_iff.mp h
    exact closed_cons_iff.mpr ⟨hout, more, hnest, ih hrest⟩

/-- A text without brackets is closed. -/
theorem closed_of_forall
    (h : ∀ c ∈ text, avoid c = false ∧ closing? c = none ∧ isClosing c = false) :
    Closed avoid [] text := by
  induction text with
  | nil => rfl
  | cons c rest ih =>
    obtain ⟨hout, hopen, hclose⟩ := h c List.mem_cons_self
    have hrest : Closed avoid [] rest := ih fun d hd => h d (List.mem_cons_of_mem _ hd)
    refine closed_cons_iff.mpr ⟨fun _ => hout, [], ?_, hrest⟩
    rw [nest, hopen, hclose]
    rfl

/-! ### Splitting -/

/-- The parts of a text between separators outside brackets, if its brackets are closed. -/
def splitOutside (separator : Char) (due : List Char) : List Char → Option (List (List Char))
  | [] => if due = [] then some [[]] else none
  | c :: rest =>
    if due = [] ∧ c = separator then (splitOutside separator [] rest).map ([] :: ·)
    else
      match nest due c with
      | some due => (splitOutside separator due rest).map (List.modifyHead (c :: ·))
      | none => none

/-- One character that does not separate goes to the first part. -/
theorem splitOutside_cons {separator c : Char} {more rest : List Char}
    (hout : due = [] → (c == separator) = false) (hnest : nest due c = some more) :
    splitOutside separator due (c :: rest) =
      (splitOutside separator more rest).map (List.modifyHead (c :: ·)) := by
  rw [splitOutside, if_neg, hnest]
  rintro ⟨hdue, rfl⟩
  simpa using hout hdue

/-- A text without separators outside brackets is its only part. -/
theorem splitOutside_of_closed {separator : Char} (h : Closed (· == separator) due text) :
    splitOutside separator due text = some [text] := by
  induction text generalizing due with
  | nil => rw [splitOutside, if_pos (show due = [] from h)]
  | cons c rest ih =>
    obtain ⟨hout, more, hnest, hrest⟩ := closed_cons_iff.mp h
    rw [splitOutside_cons hout hnest, ih hrest]
    rfl

/-- Behind a text without separators outside brackets the next part begins. -/
theorem splitOutside_append {separator : Char} (h : Closed (· == separator) due text)
    (rest : List Char) : splitOutside separator due (text ++ separator :: rest) =
      (splitOutside separator [] rest).map (text :: ·) := by
  induction text generalizing due with
  | nil =>
    rw [show due = [] from h, List.nil_append, splitOutside, if_pos ⟨rfl, rfl⟩]
  | cons c text ih =>
    obtain ⟨hout, more, hnest, hrest⟩ := closed_cons_iff.mp h
    rw [List.cons_append, splitOutside_cons hout hnest, ih hrest, Option.map_map]
    rfl

/-- Joined parts are split into themselves. -/
theorem splitOutside_intercalate {separator : Char} {part : List Char} {parts : List (List Char)}
    (h : ∀ other ∈ part :: parts, Closed (· == separator) [] other) :
    splitOutside separator [] ([separator].intercalate (part :: parts)) = some (part :: parts) := by
  induction parts generalizing part with
  | nil =>
    rw [List.intercalate_singleton]
    exact splitOutside_of_closed (h part List.mem_cons_self)
  | cons next parts ih =>
    rw [List.intercalate_cons_cons, List.append_assoc, List.singleton_append,
      splitOutside_append (h part List.mem_cons_self),
      ih fun other hother => h other (List.mem_cons_of_mem _ hother)]
    rfl

/-! ### The inside of brackets -/

/-- The text up to a round bracket that closes none of its own, and the text behind it. -/
def inside (due : List Char) : List Char → Option (List Char × List Char)
  | [] => none
  | c :: rest =>
    if due = [] ∧ c = ')' then some ([], rest)
    else
      match nest due c with
      | some due => (inside due rest).map (Prod.map (c :: ·) id)
      | none => none

/-- A text with closed brackets is found again in front of the bracket that closes it. -/
theorem inside_append (h : Closed avoid due text) (rest : List Char) :
    inside due (text ++ ')' :: rest) = some (text, rest) := by
  induction text generalizing due with
  | nil => rw [show due = [] from h, List.nil_append, inside, if_pos ⟨rfl, rfl⟩]
  | cons c text ih =>
    obtain ⟨-, more, hnest, hrest⟩ := closed_cons_iff.mp h
    rw [List.cons_append, inside, if_neg, hnest]
    · dsimp only
      rw [ih hrest]
      rfl
    · rintro ⟨rfl, rfl⟩
      rw [nest_nil_of_isClosing rfl] at hnest
      cases hnest

end Introspection.Text
