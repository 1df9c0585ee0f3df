import Introspection.Proofs.Api.Signature
import Mathlib.Computability.RegularExpressions

/-!
# The language of signatures

The check of a signature looks at kinds alone, and the lists of kinds that it lets through are a
regular language: any number of parameters passed by position alone, any number passed either way,
at most one that takes the remaining positional arguments, any number passed by keyword alone, and
at most one that takes the remaining keyword arguments.

A list outside the language has a first prefix outside it, and the check blames the parameter that
this prefix ends with. There are two ways to leave the language, and what is in front tells which
one it is: either the parameter repeats the kind directly before it, or its kind had its turn
before. A variadic kind that comes again later, behind others, is a case of the second.

## Main definitions

* `Api.kindExpression` — the regular expression
* `Api.InOrder` — the kinds of some parameters match it
* `Api.Repeats` — a parameter repeats the kind directly before it

## Main results

* `Api.inOrder_iff` — the language is the order in which parameters may precede each other
* `Api.signatureFault?_append` — what is checked behind a list that is in order
* `Api.signatureFault?_exact`
-/

namespace Introspection.Api

open RegularExpression (char)

/-! ### The language -/

/-- The kinds of a signature, in calling order. -/
def kindExpression : RegularExpression Kind :=
  (char .positionalOnly).star * (char .positionalOrKeyword).star *
    (1 + char .variadicPositional) * (char .keywordOnly).star * (1 + char .variadicKeyword)

/-- The kinds of some parameters are those of a signature. -/
def InOrder (parameters : List Parameter) : Prop :=
  parameters.map (·.kind) ∈ kindExpression.matches'

/-- What a kind contributes to the expression. -/
def Kind.expression (kind : Kind) : RegularExpression Kind :=
  if kind.isVariadic then 1 + char kind else (char kind).star

/-- The languages of some kinds, one after another. -/
def language (order : List Kind) : Language Kind :=
  (order.map (·.expression.matches')).prod

theorem matches'_kindExpression : kindExpression.matches' = language Kind.all := by
  simp [kindExpression, language, Kind.all, Kind.expression, Kind.isVariadic, mul_assoc]

/-- A kind contributes itself: any number of times, or once at most if it is variadic. -/
theorem mem_expression_iff {kind : Kind} {kinds : List Kind} :
    kinds ∈ kind.expression.matches' ↔
      (∀ other ∈ kinds, other = kind) ∧ (kind.isVariadic = true → kinds.length ≤ 1) := by
  rw [Kind.expression]
  split_ifs with hvariadic
  · have hsplit : kinds ∈ (1 + char kind : RegularExpression Kind).matches' ↔
        kinds = [] ∨ kinds = [kind] := by
      rw [RegularExpression.matches'_add, Language.mem_add]
      rfl
    rw [hsplit]
    constructor
    · rintro (rfl | rfl) <;> simp
    · rintro ⟨hsame, hle⟩
      have hreplicate := List.eq_replicate_of_mem hsame
      have hlength : kinds.length = 0 ∨ kinds.length = 1 := by
        have := hle hvariadic
        omega
      rcases hlength with h | h
      · exact .inl (List.length_eq_zero_iff.mp h)
      · rw [h] at hreplicate
        exact .inr hreplicate
  · rw [RegularExpression.matches'_star, Language.mem_kstar]
    constructor
    · rintro ⟨words, rfl, hwords⟩
      refine ⟨fun other hother => ?_, fun h => absurd h hvariadic⟩
      obtain ⟨word, hword, hother⟩ := List.mem_flatten.mp hother
      have hword : word = [kind] := hwords word hword
      rw [hword] at hother
      exact List.mem_singleton.mp hother
    · rintro ⟨hsame, -⟩
      refine ⟨kinds.map fun other => [other], ?_, fun word hword => ?_⟩
      · rw [← List.flatMap_def, List.flatMap_singleton']
      · obtain ⟨other, hother, rfl⟩ := List.mem_map.mp hword
        rw [hsame other hother]
        rfl

/-- In the language of ascending kinds, parameters may precede each other. -/
theorem pairwise_of_mem_language {order : List Kind} (ascending : order.Pairwise (·.rank < ·.rank))
    {parameters : List Parameter} (h : parameters.map (·.kind) ∈ language order) :
    parameters.Pairwise MayPrecede ∧ ∀ parameter ∈ parameters, parameter.kind ∈ order := by
  induction order generalizing parameters with
  | nil =>
    have hnil : parameters.map (·.kind) = [] := h
    rw [List.map_eq_nil_iff.mp hnil]
    simp
  | cons kind order ih =>
    rw [language, List.map_cons, List.prod_cons, ← language] at h
    obtain ⟨front, hfront, back, hback, happend⟩ := Language.mem_mul.mp h
    obtain ⟨first, second, rfl, rfl, rfl⟩ := List.map_eq_append_iff.mp happend.symm
    obtain ⟨hsame, hsingle⟩ := mem_expression_iff.mp hfront
    obtain ⟨hbehind, ascending⟩ := List.pairwise_cons.mp ascending
    obtain ⟨hsecond, hkinds⟩ := ih ascending hback
    have hkind : ∀ parameter ∈ first, parameter.kind = kind := fun parameter hmem =>
      hsame _ (List.mem_map_of_mem hmem)
    refine ⟨List.pairwise_append.mpr ⟨?_, hsecond, ?_⟩, ?_⟩
    · -- in one stretch there is nothing to compare, or no variadic kind
      by_cases hvariadic : kind.isVariadic = true
      · have hle : first.length ≤ 1 := by simpa using hsingle hvariadic
        match first, hle with
        | [], _ => exact .nil
        | [parameter], _ => exact List.pairwise_singleton _ _
      · refine List.pairwise_of_forall_mem_list fun one hone other hother => ?_
        rw [MayPrecede, hkind one hone, hkind other hother]
        exact ⟨le_rfl, fun h => absurd h hvariadic⟩
    · intro one hone other hother
      refine mayPrecede_of_lt ?_
      rw [hkind one hone]
      exact hbehind _ (hkinds other hother)
    · intro parameter hmem
      rcases List.mem_append.mp hmem with hmem | hmem
      · rw [hkind parameter hmem]
        exact List.mem_cons_self
      · exact List.mem_cons_of_mem _ (hkinds parameter hmem)

/-- Of a signature, the stretch of a kind is what the kind contributes to the expression. -/
theorem stretch_mem_expression {parameters : List Parameter}
    (sorted : parameters.Pairwise MayPrecede) (kind : Kind) :
    (stretch parameters kind).map (·.kind) ∈ kind.expression.matches' := by
  rw [mem_expression_iff]
  constructor
  · intro other hother
    obtain ⟨parameter, hmem, rfl⟩ := List.mem_map.mp hother
    exact kind_of_mem_stretch hmem
  · intro hvariadic
    rw [List.length_map]
    have hstretch : (stretch parameters kind).Pairwise MayPrecede := sorted.filter _
    have hkind : ∀ parameter ∈ stretch parameters kind, parameter.kind = kind :=
      fun parameter hmem => kind_of_mem_stretch hmem
    match h : stretch parameters kind with
    | [] => exact Nat.zero_le _
    | [_] => exact le_rfl
    | first :: second :: rest =>
      rw [h] at hstretch hkind
      have hfirst := hkind first List.mem_cons_self
      have hsecond := hkind second (List.mem_cons_of_mem _ List.mem_cons_self)
      have hprecede := (List.pairwise_cons.mp hstretch).1 second List.mem_cons_self
      exact absurd (hsecond.trans hfirst.symm) (hprecede.2 (hsecond ▸ hvariadic))

theorem flatMap_stretch_mem_language {parameters : List Parameter}
    (sorted : parameters.Pairwise MayPrecede) (order : List Kind) :
    (order.flatMap (stretch parameters)).map (·.kind) ∈ language order := by
  induction order with
  | nil => rfl
  | cons kind order ih =>
    rw [List.flatMap_cons, List.map_append, language, List.map_cons, List.prod_cons, ← language]
    exact Language.append_mem_mul (stretch_mem_expression sorted kind) ih

/-- Parameters are in order exactly if they may precede each other. -/
theorem inOrder_iff {parameters : List Parameter} :
    InOrder parameters ↔ parameters.Pairwise MayPrecede := by
  rw [InOrder, matches'_kindExpression]
  constructor
  · exact fun h => (pairwise_of_mem_language (by decide) h).1
  · intro sorted
    rw [eq_flatMap_stretch sorted]
    exact flatMap_stretch_mem_language sorted Kind.all

/-- The front of what is in order is in order. -/
theorem InOrder.of_front {before parameters : List Parameter} (h : InOrder parameters)
    (front : before <+: parameters) : InOrder before := by
  rw [inOrder_iff] at h ⊢
  exact h.sublist front.sublist

/-! ### The parameter that is blamed -/

/-- A parameter repeats the kind directly before it, and only one of that kind can be had. -/
def Repeats (before : List Parameter) (parameter : Parameter) : Prop :=
  parameter.kind.isVariadic = true ∧ before.getLast?.map (·.kind) = some parameter.kind

/-- Behind some parameters the check goes on with the kind of the last one. -/
theorem faultAfter?_append (previous : Option Kind) (first second : List Parameter) :
    faultAfter? previous (first ++ second) = (faultAfter? previous first).or
      (faultAfter? ((first.getLast?.map (·.kind)).or previous) second) := by
  induction first generalizing previous with
  | nil => rfl
  | cons parameter rest ih =>
    rw [List.cons_append, faultAfter?, faultAfter?, ih]
    cases faultBehind? previous parameter with
    | some fault => rfl
    | none =>
      have hlast : ((parameter :: rest).getLast?.map (·.kind)).or previous =
          (rest.getLast?.map (·.kind)).or (some parameter.kind) := by
        rw [List.getLast?_cons]
        cases rest.getLast? <;> rfl
      rw [hlast]

theorem faultAfter?_singleton (previous : Option Kind) (parameter : Parameter) :
    faultAfter? previous [parameter] = faultBehind? previous parameter := by
  rw [faultAfter?]
  cases faultBehind? previous parameter <;> rfl

/-- Behind a signature, the check depends on the kind of its last parameter. -/
theorem signatureFault?_append {before : List Parameter} (h : signatureFault? before = none)
    (rest : List Parameter) :
    signatureFault? (before ++ rest) = faultAfter? (before.getLast?.map (·.kind)) rest := by
  rw [signatureFault?_eq_faultAfter?] at h ⊢
  rw [faultAfter?_append, h, Option.none_or, Option.or_none]

/-- The first fault is that of a parameter behind a signature. -/
theorem exists_of_faultAfter? {previous : Option Kind} {parameters : List Parameter}
    {fault : SignatureFault} (h : faultAfter? previous parameters = some fault) :
    ∃ before parameter after, parameters = before ++ parameter :: after ∧
      faultAfter? previous before = none ∧
      faultBehind? ((before.getLast?.map (·.kind)).or previous) parameter = some fault := by
  induction parameters generalizing previous with
  | nil => cases h
  | cons parameter rest ih =>
    rw [faultAfter?] at h
    cases hbehind : faultBehind? previous parameter with
    | some found =>
      rw [hbehind] at h
      exact ⟨[], parameter, rest, rfl, rfl, hbehind.trans h⟩
    | none =>
      rw [hbehind] at h
      obtain ⟨before, blamed, after, rfl, hbefore, hblamed⟩ := ih h
      refine ⟨parameter :: before, blamed, after, rfl, ?_, ?_⟩
      · rw [faultAfter?, hbehind]
        exact hbefore
      · rw [List.getLast?_cons]
        cases hlast : before.getLast? <;> simpa [hlast] using hblamed

/-- What is wrong with a parameter: it repeats the kind before it, or it comes too late. -/
theorem faultBehind?_eq_some {before : List Parameter} {parameter : Parameter}
    {fault : SignatureFault}
    (h : faultBehind? (before.getLast?.map (·.kind)) parameter = some fault) :
    Repeats before parameter ∧ fault = .duplicate parameter ∨
      ¬ Repeats before parameter ∧ fault = .outOfOrder parameter := by
  rw [Repeats]
  cases hlast : before.getLast?.map (·.kind) with
  | none =>
    rw [hlast] at h
    cases h
  | some previous =>
    rw [hlast, faultBehind?] at h
    split_ifs at h with hrank hsame
    · cases h
      refine .inr ⟨?_, rfl⟩
      rintro ⟨-, hkind⟩
      rw [Option.some.inj hkind] at hrank
      exact Nat.lt_irrefl _ hrank
    · cases h
      have hsame : parameter.kind.isVariadic = true ∧ parameter.kind = previous := by
        simpa using hsame
      exact .inl ⟨⟨hsame.1, by rw [hsame.2]⟩, rfl⟩

/-! ### Exactness -/

/-- **The check of a signature accepts one language and blames the right parameter.**

The check finds nothing exactly if the kinds match `kindExpression`. If it finds something, this is
about the first parameter whose prefix does not match, itself included: a duplicate if the parameter
repeats the variadic kind directly before it, and a parameter out of order otherwise. -/
theorem signatureFault?_exact (parameters : List Parameter) :
    (signatureFault? parameters = none ↔ InOrder parameters) ∧
    ∀ fault, signatureFault? parameters = some fault ↔
      ∃ before parameter after, parameters = before ++ parameter :: after ∧
        (∀ earlier, earlier <+: before → InOrder earlier) ∧
        ¬ InOrder (before ++ [parameter]) ∧
        (Repeats before parameter ∧ fault = .duplicate parameter ∨
          ¬ Repeats before parameter ∧ fault = .outOfOrder parameter) := by
  have accepts (parameters : List Parameter) :
      signatureFault? parameters = none ↔ InOrder parameters := by
    rw [signatureFault?_eq_none_iff, inOrder_iff]
  refine ⟨accepts parameters, fun fault => ⟨fun h => ?_, ?_⟩⟩
  · rw [signatureFault?_eq_faultAfter?] at h
    obtain ⟨before, parameter, after, rfl, hbefore, hblamed⟩ := exists_of_faultAfter? h
    rw [← signatureFault?_eq_faultAfter?] at hbefore
    rw [Option.or_none] at hblamed
    refine ⟨before, parameter, after, rfl,
      fun earlier front => ((accepts before).mp hbefore).of_front front, ?_,
      faultBehind?_eq_some hblamed⟩
    rw [← accepts, signatureFault?_append hbefore, faultAfter?_singleton, hblamed]
    exact Option.some_ne_none fault
  · rintro ⟨before, parameter, after, rfl, hfront, hout, hfault⟩
    have hbefore := (accepts before).mpr (hfront before (List.prefix_refl before))
    rw [← accepts, signatureFault?_append hbefore, faultAfter?_singleton] at hout
    obtain ⟨found, hfound⟩ := Option.ne_none_iff_exists'.mp hout
    have hsame : found = fault := by
      rcases faultBehind?_eq_some hfound with ⟨hrepeats, rfl⟩ | ⟨hrepeats, rfl⟩
      · rcases hfault with ⟨-, rfl⟩ | ⟨hnot, -⟩
        · rfl
        · exact absurd hrepeats hnot
      · rcases hfault with ⟨hrepeats', -⟩ | ⟨-, rfl⟩
        · exact absurd hrepeats' hrepeats
        · rfl
    rw [signatureFault?_append hbefore, faultAfter?, hfound, hsame]

-- The second variadic parameter is not directly behind the first one, so it is out of order.
example : signatureFault? [⟨"args", .variadicPositional, false, none⟩,
    ⟨"key", .keywordOnly, false, none⟩, ⟨"more", .variadicPositional, false, none⟩] =
      some (.outOfOrder ⟨"more", .variadicPositional, false, none⟩) := rfl

end Introspection.Api
