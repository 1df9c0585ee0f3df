import Introspection.Stub.Line
import Mathlib.Data.List.Basic
import Mathlib.Data.List.Count

/-!
# Where the markers of a stub line stand

Every list of parameters has a stub line, whether it is a signature or not. Its tokens are written
from left to right, and what is remembered of the parameters so far decides which markers come
next. The rule itself looks at places only. The slash is due before the first parameter that is not
passed by position alone, if that one has others before it; the star is due before the first
parameter that is passed by keyword alone, if no variadic positional parameter stands before it.
Either is due at one place at most, as the parameter behind it spoils all later places, so both
markers come once at most, in lists of any kind.

The first of these places is missing if all parameters are passed by position alone. Then no slash
is written.

## Main definitions

* `Stub.Token` — a part of a parameter list
* `Stub.Marker.Due` — the places of the markers
* `Stub.arranged` — the parameters with the markers that are due
* `Stub.Marks.Records` — what is remembered of the parameters so far
* `Stub.Placed` — the markers stand where they are due, and nowhere else

## Main results

* `Stub.Marks.Records.behind` — one parameter on, what is remembered is still true
* `Stub.parameterTokens_eq` — the tokens are the parameters with the markers that are due
* `Stub.Marker.Due.not_due` — a marker is due once
* `Stub.functionLine_placed`
-/

namespace Introspection.Stub

open Introspection.Api

/-! ### Tokens -/

/-- What is written between parameters. -/
inductive Marker where
  | slash
  | star
deriving DecidableEq, Repr

/-- A part of a parameter list. -/
inductive Token where
  | marker (value : Marker)
  | parameter (value : Parameter)
deriving DecidableEq, Repr

/-- The text of a part. The parameters that take all remaining arguments have stars and nothing
else; the others have an annotation and a default if there are any. -/
def Token.text : Token → String
  | .marker .slash => "/"
  | .marker .star => "*"
  | .parameter ⟨name, .variadicPositional, _, _⟩ => "*" ++ name
  | .parameter ⟨name, .variadicKeyword, _, _⟩ => "**" ++ name
  | .parameter ⟨name, _, false, none⟩ => name
  | .parameter ⟨name, _, true, none⟩ => name ++ " = ..."
  | .parameter ⟨name, _, false, some hint⟩ => name ++ ": " ++ hint
  | .parameter ⟨name, _, true, some hint⟩ => name ++ ": " ++ hint ++ " = ..."

/-- The parameter that a part is. -/
def Token.parameter? : Token → Option Parameter
  | .marker _ => none
  | .parameter value => some value

/-! ### The rule -/

/-- A marker is due before a parameter that has some others before it. -/
def Marker.Due : Marker → List Parameter → Parameter → Prop
  | .slash, before, parameter =>
    before ≠ [] ∧ (∀ earlier ∈ before, earlier.kind = .positionalOnly) ∧
      parameter.kind ≠ .positionalOnly
  | .star, before, parameter =>
    parameter.kind = .keywordOnly ∧
      ∀ earlier ∈ before, earlier.kind ≠ .keywordOnly ∧ earlier.kind ≠ .variadicPositional

instance (marker : Marker) (before : List Parameter) (parameter : Parameter) :
    Decidable (marker.Due before parameter) :=
  match marker with
  | .slash => inferInstanceAs (Decidable (_ ∧ _ ∧ _))
  | .star => inferInstanceAs (Decidable (_ ∧ _))

/-- The markers that are due before a parameter. -/
def markersBefore (before : List Parameter) (parameter : Parameter) : List Token :=
  ([.slash, .star].filter fun marker => marker.Due before parameter).map .marker

/-- Parameters behind some others, with the markers that are due. -/
def arrangedBehind (before : List Parameter) : List Parameter → List Token
  | [] => []
  | parameter :: rest =>
    markersBefore before parameter ++
      .parameter parameter :: arrangedBehind (before ++ [parameter]) rest

/-- Parameters with the markers that are due. -/
def arranged (parameters : List Parameter) : List Token :=
  arrangedBehind [] parameters

/-- The markers of a parameter list stand where they are due: each of them once at most, before the
parameter that it is due for, with nothing but the star between the slash and its parameter. -/
structure Placed (parameters : List Parameter) (tokens : List Token) : Prop where
  parameters_eq : tokens.filterMap Token.parameter? = parameters
  count_le : ∀ marker, tokens.count (.marker marker) ≤ 1
  mem_iff : ∀ marker, .marker marker ∈ tokens ↔
    ∃ before parameter after, parameters = before ++ parameter :: after ∧
      marker.Due before parameter
  due : ∀ marker front back, tokens = front ++ .marker marker :: back →
    ∃ parameter rest, marker.Due (front.filterMap Token.parameter?) parameter ∧
      (back = .parameter parameter :: rest ∨
        marker = .slash ∧ back = .marker .star :: .parameter parameter :: rest)

/-! ### What is remembered -/

/-- What is remembered is true of the parameters so far. -/
structure Marks.Records (marks : Marks) (before : List Parameter) : Prop where
  atStart : marks.atStart = true ↔ before = []
  positionalOnly : marks.positionalOnly = true ↔
    ∀ earlier ∈ before, earlier.kind = .positionalOnly
  keywordOnly : marks.keywordOnly = false ↔
    ∀ earlier ∈ before, earlier.kind ≠ .keywordOnly ∧ earlier.kind ≠ .variadicPositional

theorem Marks.records_nil : Marks.Records {} [] where
  atStart := by simp
  positionalOnly := by simp
  keywordOnly := by simp

section Records

variable {marks : Marks} {before : List Parameter} (records : marks.Records before)
include records

theorem Marks.Records.behind (parameter : Parameter) :
    (marks.behind parameter).Records (before ++ [parameter]) where
  atStart := by simp [Marks.behind]
  positionalOnly := by
    simp only [Marks.behind, Bool.and_eq_true, beq_iff_eq, records.positionalOnly,
      List.forall_mem_append, List.forall_mem_singleton]
  keywordOnly := by
    simp only [Marks.behind, Bool.or_eq_false_iff, beq_eq_false_iff_ne, records.keywordOnly,
      List.forall_mem_append, List.forall_mem_singleton, and_assoc]

theorem Marks.Records.slashBefore_iff (parameter : Parameter) :
    marks.slashBefore parameter = true ↔ Marker.slash.Due before parameter := by
  have hstart : marks.atStart = false ↔ before ≠ [] := by
    rw [← Bool.not_eq_true, records.atStart]
  simp only [Marks.slashBefore, Bool.and_eq_true, Bool.not_eq_true', bne_iff_ne, hstart,
    records.positionalOnly, Marker.Due]
  tauto

theorem Marks.Records.starBefore_iff (parameter : Parameter) :
    marks.starBefore parameter = true ↔ Marker.star.Due before parameter := by
  rw [Marks.starBefore, Bool.and_eq_true, Bool.not_eq_true', beq_iff_eq, records.keywordOnly,
    Marker.Due, and_comm]

/-- The markers that are written before a parameter are those that are due. -/
theorem Marks.Records.markersBefore (parameter : Parameter) :
    (if marks.slashBefore parameter then ["/"] else []) ++
        (if marks.starBefore parameter then ["*"] else []) =
      (markersBefore before parameter).map Token.text := by
  simp only [records.slashBefore_iff, records.starBefore_iff, Stub.markersBefore, List.filter_cons,
    List.filter_nil, decide_eq_true_eq]
  split_ifs <;> rfl

end Records

theorem text_parameter (parameter : Parameter) :
    (Token.parameter parameter).text = parameterText parameter := by
  obtain ⟨name, kind, hasDefault, hint⟩ := parameter
  cases kind <;> cases hasDefault <;> cases hint <;>
    simp [Token.text, parameterText, String.append_assoc]

theorem parameterTokens_eq_arrangedBehind {marks : Marks} {before : List Parameter}
    (records : marks.Records before) (parameters : List Parameter) :
    parameterTokens marks parameters = (arrangedBehind before parameters).map Token.text := by
  induction parameters generalizing marks before with
  | nil => rfl
  | cons parameter rest ih =>
    rw [parameterTokens, arrangedBehind, records.markersBefore, ih (records.behind parameter),
      List.map_append, List.map_cons, text_parameter]

/-- The tokens of a parameter list are its parameters with the markers that are due. -/
theorem parameterTokens_eq (parameters : List Parameter) :
    parameterTokens {} parameters = (arranged parameters).map Token.text :=
  parameterTokens_eq_arrangedBehind Marks.records_nil parameters

/-! ### Places -/

theorem marker_mem_markersBefore {marker : Marker} {before : List Parameter}
    {parameter : Parameter} :
    .marker marker ∈ markersBefore before parameter ↔ marker.Due before parameter := by
  cases marker <;> simp [markersBefore]

theorem filterMap_markersBefore (before : List Parameter) (parameter : Parameter) :
    (markersBefore before parameter).filterMap Token.parameter? = [] := by
  rw [markersBefore, List.filterMap_map]
  exact List.filterMap_eq_nil_iff.mpr fun _ _ => rfl

theorem filterMap_arrangedBehind (before parameters : List Parameter) :
    (arrangedBehind before parameters).filterMap Token.parameter? = parameters := by
  induction parameters generalizing before with
  | nil => rfl
  | cons parameter rest ih =>
    have hhead : Token.parameter? (.parameter parameter) = some parameter := rfl
    rw [arrangedBehind, List.filterMap_append, filterMap_markersBefore,
      List.filterMap_cons_some hhead, ih, List.nil_append]

theorem arrangedBehind_append (before first second : List Parameter) :
    arrangedBehind before (first ++ second) =
      arrangedBehind before first ++ arrangedBehind (before ++ first) second := by
  induction first generalizing before with
  | nil => rw [List.append_nil]; rfl
  | cons parameter rest ih =>
    rw [List.cons_append, arrangedBehind, arrangedBehind, ih, List.append_assoc, List.append_assoc,
      List.cons_append]
    rfl

/-- The parameter that a marker is due for spoils all later places. -/
theorem Marker.Due.not_due {marker : Marker} {before between : List Parameter}
    {parameter later : Parameter} (h : marker.Due before parameter) :
    ¬ marker.Due (before ++ parameter :: between) later := by
  have hmem : parameter ∈ before ++ parameter :: between := by simp
  cases marker with
  | slash =>
    rintro ⟨-, hall, -⟩
    exact h.2.2 (hall parameter hmem)
  | star =>
    rintro ⟨-, hnone⟩
    exact (hnone parameter hmem).1 h.1

/-- A marker stands among parameters if it is due for one of them. -/
theorem marker_mem_arrangedBehind {marker : Marker} {before parameters : List Parameter} :
    .marker marker ∈ arrangedBehind before parameters ↔
      ∃ first parameter second, parameters = first ++ parameter :: second ∧
        marker.Due (before ++ first) parameter := by
  induction parameters generalizing before with
  | nil => simp [arrangedBehind]
  | cons parameter rest ih =>
    rw [arrangedBehind, List.mem_append, marker_mem_markersBefore, List.mem_cons, ih]
    constructor
    · rintro (hdue | hmem | ⟨first, other, second, rfl, hdue⟩)
      · exact ⟨[], parameter, rest, rfl, by rwa [List.append_nil]⟩
      · cases hmem
      · exact ⟨parameter :: first, other, second, rfl, by simpa using hdue⟩
    · rintro ⟨first, other, second, heq, hdue⟩
      cases first with
      | nil =>
        obtain ⟨rfl, rfl⟩ := List.cons.inj heq
        exact .inl (by rwa [List.append_nil] at hdue)
      | cons head first =>
        obtain ⟨rfl, rfl⟩ := List.cons.inj heq
        exact .inr (.inr ⟨first, other, second, rfl, by simpa using hdue⟩)

/-- The markers of one place, taken apart at one of them. -/
theorem exists_markersBefore_eq {marker : Marker} {before : List Parameter} {parameter : Parameter}
    (h : marker.Due before parameter) :
    ∃ front back, markersBefore before parameter = front ++ .marker marker :: back ∧
      .marker marker ∉ front ∧ .marker marker ∉ back ∧ front.filterMap Token.parameter? = [] ∧
      (back = [] ∨ marker = .slash ∧ back = [.marker .star]) := by
  cases marker with
  | slash =>
    by_cases hstar : Marker.star.Due before parameter
    · exact ⟨[], [.marker .star], by simp [markersBefore, h, hstar], by simp, by simp, rfl, by simp⟩
    · exact ⟨[], [], by simp [markersBefore, h, hstar], by simp, by simp, rfl, by simp⟩
  | star =>
    by_cases hslash : Marker.slash.Due before parameter
    · exact ⟨[.marker .slash], [], by simp [markersBefore, h, hslash], by simp, by simp, rfl,
        by simp⟩
    · exact ⟨[], [], by simp [markersBefore, h, hslash], by simp, by simp, rfl, by simp⟩

/-- A marker that is due stands once, directly before the parameter that it is due for. -/
theorem exists_arranged_eq {marker : Marker} {before : List Parameter} {parameter : Parameter}
    (h : marker.Due before parameter) (after : List Parameter) :
    ∃ front back rest, arranged (before ++ parameter :: after) = front ++ .marker marker :: back ∧
      .marker marker ∉ front ∧ .marker marker ∉ back ∧ front.filterMap Token.parameter? = before ∧
      (back = .parameter parameter :: rest ∨
        marker = .slash ∧ back = .marker .star :: .parameter parameter :: rest) := by
  obtain ⟨front, back, heq, hfront, hback, hnone, hstar⟩ := exists_markersBefore_eq h
  have hearlier : .marker marker ∉ arrangedBehind [] before := by
    rw [marker_mem_arrangedBehind]
    rintro ⟨first, other, second, rfl, hdue⟩
    exact hdue.not_due h
  have hlater : .marker marker ∉ arrangedBehind (before ++ [parameter]) after := by
    rw [marker_mem_arrangedBehind]
    rintro ⟨first, other, second, -, hdue⟩
    rw [List.append_assoc] at hdue
    exact h.not_due hdue
  refine ⟨arrangedBehind [] before ++ front,
    back ++ .parameter parameter :: arrangedBehind (before ++ [parameter]) after,
    arrangedBehind (before ++ [parameter]) after, ?_, ?_, ?_, ?_, ?_⟩
  · rw [arranged, arrangedBehind_append, List.nil_append, arrangedBehind, heq]
    simp only [List.append_assoc, List.cons_append]
  · simp [hearlier, hfront]
  · simp [hback, hlater]
  · rw [List.filterMap_append, filterMap_arrangedBehind, hnone, List.append_nil]
  · rcases hstar with rfl | ⟨rfl, rfl⟩
    · exact .inl rfl
    · exact .inr ⟨rfl, rfl⟩

theorem placed_arranged (parameters : List Parameter) :
    Placed parameters (arranged parameters) where
  parameters_eq := filterMap_arrangedBehind [] parameters
  count_le := by
    intro marker
    by_cases hmem : .marker marker ∈ arranged parameters
    · obtain ⟨before, parameter, after, rfl, hdue⟩ := marker_mem_arrangedBehind.mp hmem
      obtain ⟨front, back, -, heq, hfront, hback, -⟩ := exists_arranged_eq hdue after
      rw [List.nil_append] at heq
      have hcount : (arranged (before ++ parameter :: after)).count (.marker marker) = 1 := by
        rw [heq, List.count_append, List.count_cons_self, List.count_eq_zero_of_not_mem hfront,
          List.count_eq_zero_of_not_mem hback]
      exact Nat.le_of_eq hcount
    · rw [List.count_eq_zero_of_not_mem hmem]
      exact Nat.zero_le 1
  mem_iff marker := marker_mem_arrangedBehind
  due := by
    intro marker front back heq
    have hmem : .marker marker ∈ arranged parameters := by simp [heq]
    obtain ⟨before, parameter, after, rfl, hdue⟩ := marker_mem_arrangedBehind.mp hmem
    rw [List.nil_append] at hdue
    obtain ⟨front', back', rest, heq', hfront, hback, hbefore, hrest⟩ :=
      exists_arranged_eq hdue after
    obtain ⟨rfl, -, rfl⟩ :=
      (List.append_cons_inj_of_notMem hfront hback).mp (heq'.symm.trans heq)
    exact ⟨parameter, rest, by rwa [hbefore], hrest⟩

/-- **The markers of a stub line stand where they are due.**

The line of a function joins the texts of its tokens: one for each parameter, in order, and both
markers once at most. The slash stands directly before the first parameter that is not passed by
position alone, or before its star, exactly if there is one and it is not the first of the list; the
star stands directly before the first parameter that is passed by keyword alone, exactly if there is
one and no variadic positional parameter stands before it. -/
theorem functionLine_placed (function : Function) :
    ∃ tokens : List Token, Placed function.parameters tokens ∧
      parameterTokens {} function.parameters = tokens.map Token.text ∧
      functionLine function = "def " ++ function.name ++ "(" ++
        ", ".intercalate (tokens.map Token.text) ++ "): ..." := by
  have htokens := parameterTokens_eq function.parameters
  refine ⟨arranged function.parameters, placed_arranged function.parameters, htokens, ?_⟩
  rw [functionLine, htokens]

-- In front of one parameter both markers may be due, and malformed lists have them once as well.
example : (arranged [⟨"a", .positionalOnly, false, none⟩, ⟨"b", .keywordOnly, false, none⟩,
    ⟨"c", .positionalOnly, false, none⟩, ⟨"d", .keywordOnly, false, none⟩]).map Token.text =
      ["a", "/", "*", "b", "c", "d"] := by decide

end Introspection.Stub
