import Introspection.Api.Signature
import Mathlib.Data.List.Chain

/-!
# Signatures as ordered lists

The check of a signature remembers all kinds so far that take all remaining arguments, but it would
find the same faults if it looked at each parameter and the one in front of it. The invariant is
that no kind so far has a higher rank than the last one: a kind that was met, and that is not out of
order, is the last one.

As ranks never fall, what holds between neighbours holds between any two parameters: the one in
front has no higher rank, and the one behind, if it takes all remaining arguments, is of another
kind. So a list of parameters is a signature exactly if its parameters may precede each other, and
then it falls into five stretches, one for each kind.

The rule for `def` asks for more. It wants different names, and defaults for all positional
parameters behind one that has a default. The check knows of neither: a list that it lets through is
legal exactly if its names and defaults are.

## Main definitions

* `Api.faultAfter?` — the check by neighbours
* `Api.MayPrecede` — one parameter may stand somewhere before another one
* `Api.LegalParameters` — what the rule for `def` asks of a list of parameters

## Main results

* `Api.signatureFault?_eq_faultAfter?` — what the check would not need to remember
* `Api.signatureFault?_eq_none_iff` — signatures are the ordered lists
* `Api.signatureFault?_eq_none_iff_ordered` — the same with the number of variadic parameters
* `Api.legalParameters_iff` — what the check of a signature leaves out
* `Api.eq_flatMap_stretch` — a signature falls into one stretch for each kind
-/

namespace Introspection.Api

theorem Kind.eq_of_rank_eq {kind other : Kind} (h : kind.rank = other.rank) : kind = other := by
  cases kind <;> cases other <;> first | rfl | cases h

/-! ### Neighbours -/

/-- The fault of a parameter behind one of kind `previous`, if it has one. -/
def faultBehind? (previous : Option Kind) (parameter : Parameter) : Option SignatureFault :=
  match previous with
  | none => none
  | some previous =>
    if parameter.kind.rank < previous.rank then some (.outOfOrder parameter)
    else if parameter.kind.isVariadic && parameter.kind = previous then some (.duplicate parameter)
    else none

/-- The first fault among parameters that follow one of kind `previous`, told from neighbours. -/
def faultAfter? (previous : Option Kind) : List Parameter → Option SignatureFault
  | [] => none
  | parameter :: rest =>
    match faultBehind? previous parameter with
    | some fault => some fault
    | none => faultAfter? (some parameter.kind) rest

/-- No variadic kind so far has a higher rank than the last kind, which is among them if it is
variadic. -/
structure SeenUpTo (previous : Kind) (seen : List Kind) : Prop where
  bounded : ∀ kind ∈ seen, kind.rank ≤ previous.rank
  last : previous.isVariadic = true → previous ∈ seen

theorem SeenUpTo.behind {seen : List Kind} {kind : Kind}
    (bounded : ∀ other ∈ seen, other.rank ≤ kind.rank) :
    SeenUpTo kind (if kind.isVariadic then kind :: seen else seen) := by
  split_ifs with hvariadic
  · refine ⟨fun other hother => ?_, fun _ => List.mem_cons_self⟩
    rcases List.mem_cons.mp hother with rfl | hother
    · exact le_rfl
    · exact bounded other hother
  · exact ⟨bounded, fun h => absurd h hvariadic⟩

/-- A kind that is not out of order was seen exactly if it is the last one. -/
theorem SeenUpTo.mem_iff {previous kind : Kind} {seen : List Kind} (h : SeenUpTo previous seen)
    (hrank : ¬ kind.rank < previous.rank) :
    (kind.isVariadic && kind ∈ seen) = (kind.isVariadic && kind = previous) := by
  cases hvariadic : kind.isVariadic with
  | false => rfl
  | true =>
    rw [Bool.true_and, Bool.true_and, decide_eq_decide]
    constructor
    · intro hmem
      exact Kind.eq_of_rank_eq (Nat.le_antisymm (h.bounded kind hmem) (Nat.le_of_not_lt hrank))
    · rintro rfl
      exact h.last hvariadic

theorem faultAmong?_eq_faultAfter? {previous : Kind} {seen : List Kind}
    (h : SeenUpTo previous seen) (parameters : List Parameter) :
    faultAmong? previous.rank seen parameters = faultAfter? (some previous) parameters := by
  induction parameters generalizing previous seen with
  | nil => rfl
  | cons parameter rest ih =>
    rw [faultAmong?, faultAfter?, faultBehind?]
    by_cases hrank : parameter.kind.rank < previous.rank
    · rw [if_pos hrank, if_pos hrank]
    · rw [if_neg hrank, if_neg hrank, h.mem_iff hrank]
      by_cases hsame : (parameter.kind.isVariadic && parameter.kind = previous) = true
      · rw [if_pos hsame, if_pos hsame]
      · rw [if_neg hsame, if_neg hsame]
        refine ih (SeenUpTo.behind fun kind hkind => ?_)
        exact (h.bounded kind hkind).trans (Nat.le_of_not_lt hrank)

/-- Of all variadic kinds so far, only the last kind matters. -/
theorem signatureFault?_eq_faultAfter? (parameters : List Parameter) :
    signatureFault? parameters = faultAfter? none parameters := by
  rw [signatureFault?]
  cases parameters with
  | nil => rfl
  | cons parameter rest =>
    have hseen : SeenUpTo parameter.kind
        (if parameter.kind.isVariadic then [parameter.kind] else []) :=
      SeenUpTo.behind fun _ h => absurd h List.not_mem_nil
    rw [faultAmong?, if_neg (Nat.not_lt_zero _), if_neg (by simp)]
    exact faultAmong?_eq_faultAfter? hseen rest

/-! ### Order -/

/-- One parameter may stand somewhere before another one. -/
def MayPrecede (first second : Parameter) : Prop :=
  first.kind.rank ≤ second.kind.rank ∧
    (second.kind.isVariadic = true → second.kind ≠ first.kind)

theorem mayPrecede_of_lt {first second : Parameter} (h : first.kind.rank < second.kind.rank) :
    MayPrecede first second := by
  refine ⟨Nat.le_of_lt h, fun _ heq => ?_⟩
  rw [heq] at h
  exact Nat.lt_irrefl _ h

/-- Between two parameters of one kind stand only ones of this kind. -/
theorem MayPrecede.trans {first second third : Parameter} (h : MayPrecede first second)
    (h' : MayPrecede second third) : MayPrecede first third := by
  refine ⟨h.1.trans h'.1, fun hvariadic heq => ?_⟩
  have hrank : third.kind.rank = second.kind.rank := by
    refine Nat.le_antisymm ?_ h'.1
    rw [heq]
    exact h.1
  exact h'.2 hvariadic (Kind.eq_of_rank_eq hrank)

instance : Trans MayPrecede MayPrecede MayPrecede :=
  ⟨MayPrecede.trans⟩

theorem faultBehind?_eq_none_iff {previous parameter : Parameter} :
    faultBehind? (some previous.kind) parameter = none ↔ MayPrecede previous parameter := by
  rw [faultBehind?, MayPrecede]
  split_ifs with hrank hsame
  · exact iff_of_false (by simp) fun h => Nat.not_le.mpr hrank h.1
  · have hsame : parameter.kind.isVariadic = true ∧ parameter.kind = previous.kind := by
      simpa using hsame
    exact iff_of_false (by simp) fun h => h.2 hsame.1 hsame.2
  · have hsame : parameter.kind.isVariadic = true → parameter.kind ≠ previous.kind := by
      simpa using hsame
    exact iff_of_true rfl ⟨Nat.le_of_not_lt hrank, hsame⟩

/-- The check compares neighbours. -/
theorem faultAfter?_eq_none_iff {previous : Parameter} {parameters : List Parameter} :
    faultAfter? (some previous.kind) parameters = none ↔
      List.IsChain MayPrecede (previous :: parameters) := by
  induction parameters generalizing previous with
  | nil => exact iff_of_true rfl (List.isChain_singleton _)
  | cons parameter rest ih =>
    rw [List.isChain_cons_cons, ← ih, ← faultBehind?_eq_none_iff, faultAfter?]
    cases faultBehind? (some previous.kind) parameter <;> simp

/-- Signatures are the lists whose parameters may precede each other. -/
theorem signatureFault?_eq_none_iff {parameters : List Parameter} :
    signatureFault? parameters = none ↔ parameters.Pairwise MayPrecede := by
  rw [← List.isChain_iff_pairwise, signatureFault?_eq_faultAfter?]
  cases parameters with
  | nil => exact iff_of_true rfl List.isChain_nil
  | cons first rest => exact faultAfter?_eq_none_iff

/-- Kinds that take all remaining arguments are not repeated exactly if there is one parameter of
each at most. -/
theorem pairwise_variadic_iff {parameters : List Parameter} :
    (parameters.Pairwise fun first second =>
        second.kind.isVariadic = true → second.kind ≠ first.kind) ↔
      ∀ kind : Kind, kind.isVariadic = true → parameters.countP (·.kind = kind) ≤ 1 := by
  induction parameters with
  | nil => simp
  | cons parameter rest ih =>
    rw [List.pairwise_cons, ih]
    simp only [List.countP_cons]
    constructor
    · rintro ⟨behind, single⟩ kind variadic
      split_ifs with hkind
      · have hkind : parameter.kind = kind := of_decide_eq_true hkind
        have hnone : rest.countP (·.kind = kind) = 0 := by
          rw [List.countP_eq_zero]
          intro other hother heq
          have heq : other.kind = kind := of_decide_eq_true heq
          exact behind other hother (heq ▸ variadic) (heq.trans hkind.symm)
        rw [hnone]
      · exact single kind variadic
    · intro single
      refine ⟨fun other hother variadic heq => ?_, fun kind variadic => ?_⟩
      · have hle := single other.kind variadic
        rw [if_pos (decide_eq_true heq.symm)] at hle
        have hpos : 0 < rest.countP (·.kind = other.kind) :=
          List.countP_pos_iff.mpr ⟨other, hother, decide_eq_true rfl⟩
        omega
      · exact Nat.le_of_add_right_le (single kind variadic)

/-- Signatures are the lists with their kinds in order and with one variadic parameter of a kind at
most. -/
theorem signatureFault?_eq_none_iff_ordered {parameters : List Parameter} :
    signatureFault? parameters = none ↔
      parameters.Pairwise (·.kind.rank ≤ ·.kind.rank) ∧
        ∀ kind : Kind, kind.isVariadic = true → parameters.countP (·.kind = kind) ≤ 1 := by
  rw [signatureFault?_eq_none_iff, ← pairwise_variadic_iff, ← List.pairwise_and_iff]
  rfl

/-! ### What the rule for `def` asks -/

/-- Whether a parameter of this kind takes one argument that may be passed by position. -/
def Kind.isPositional : Kind → Bool
  | .positionalOnly | .positionalOrKeyword => true
  | _ => false

/-- The parameters of a list have different names. -/
def DistinctNames (parameters : List Parameter) : Prop :=
  (parameters.map (·.name)).Nodup

/-- No positional parameter without a default stands behind one with a default. -/
def DefaultsLast (parameters : List Parameter) : Prop :=
  (parameters.filter (·.kind.isPositional)).Pairwise fun first second =>
    first.hasDefault = true → second.hasDefault = true

instance (parameters : List Parameter) : Decidable (DistinctNames parameters) :=
  inferInstanceAs (Decidable (List.Nodup _))

instance (parameters : List Parameter) : Decidable (DefaultsLast parameters) :=
  inferInstanceAs (Decidable (List.Pairwise _ _))

/-- What the rule for `def` asks of a list of parameters. -/
structure LegalParameters (parameters : List Parameter) : Prop where
  ordered : parameters.Pairwise (·.kind.rank ≤ ·.kind.rank)
  single : ∀ kind : Kind, kind.isVariadic = true → parameters.countP (·.kind = kind) ≤ 1
  distinct : DistinctNames parameters
  defaults : DefaultsLast parameters

/-- The check of a signature is half of what the rule for `def` asks: it looks at kinds alone. -/
theorem legalParameters_iff {parameters : List Parameter} :
    LegalParameters parameters ↔
      signatureFault? parameters = none ∧ DistinctNames parameters ∧ DefaultsLast parameters := by
  rw [signatureFault?_eq_none_iff_ordered]
  constructor
  · rintro ⟨ordered, single, distinct, defaults⟩
    exact ⟨⟨ordered, single⟩, distinct, defaults⟩
  · rintro ⟨⟨ordered, single⟩, distinct, defaults⟩
    exact ⟨ordered, single, distinct, defaults⟩

/-! ### Stretches of one kind -/

/-- The parameters of a kind. -/
def stretch (parameters : List Parameter) (kind : Kind) : List Parameter :=
  parameters.filter (·.kind = kind)

theorem kind_of_mem_stretch {parameters : List Parameter} {kind : Kind} {parameter : Parameter}
    (h : parameter ∈ stretch parameters kind) : parameter.kind = kind :=
  of_decide_eq_true (List.mem_filter.mp h).2

/-- A signature falls into one stretch for each kind, in the order of kinds. -/
theorem eq_flatMap_stretch {parameters : List Parameter} (sorted : parameters.Pairwise MayPrecede) :
    parameters = Kind.all.flatMap (stretch parameters) := by
  induction sorted with
  | nil => rfl
  | @cons parameter rest behind sorted ih =>
    have hnone (kind : Kind) (h : kind.rank < parameter.kind.rank) : stretch rest kind = [] := by
      refine List.eq_nil_iff_forall_not_mem.mpr fun other hmem => ?_
      have hle := (behind other (List.mem_filter.mp hmem).1).1
      rw [kind_of_mem_stretch hmem] at hle
      exact Nat.not_lt.mpr hle h
    have hhead (kind : Kind) : stretch (parameter :: rest) kind =
        (if parameter.kind = kind then [parameter] else []) ++ stretch rest kind := by
      by_cases h : parameter.kind = kind <;> simp [stretch, h]
    simp only [Kind.all, List.flatMap_cons, List.flatMap_nil, List.append_nil, hhead] at ih ⊢
    -- the stretches of lower kinds are empty, so the parameter stands in front of the rest
    cases hkind : parameter.kind with
    | positionalOnly =>
      simpa using ih
    | positionalOrKeyword =>
      rw [hkind] at hnone
      rw [hnone .positionalOnly (by decide)] at ih ⊢
      simpa using ih
    | variadicPositional =>
      rw [hkind] at hnone
      rw [hnone .positionalOnly (by decide), hnone .positionalOrKeyword (by decide)] at ih ⊢
      simpa using ih
    | keywordOnly =>
      rw [hkind] at hnone
      rw [hnone .positionalOnly (by decide), hnone .positionalOrKeyword (by decide),
        hnone .variadicPositional (by decide)] at ih ⊢
      simpa using ih
    | variadicKeyword =>
      rw [hkind] at hnone
      rw [hnone .positionalOnly (by decide), hnone .positionalOrKeyword (by decide),
        hnone .variadicPositional (by decide), hnone .keywordOnly (by decide)] at ih ⊢
      simpa using ih

/-- Of one stretch, all parameters are positional or none is. -/
theorem filter_isPositional_stretch (parameters : List Parameter) (kind : Kind) :
    (stretch parameters kind).filter (·.kind.isPositional) =
      if kind.isPositional = true then stretch parameters kind else [] := by
  split_ifs with hkind
  · refine List.filter_eq_self.mpr fun parameter hmem => ?_
    rw [kind_of_mem_stretch hmem, hkind]
  · refine List.filter_eq_nil_iff.mpr fun parameter hmem => ?_
    rwa [kind_of_mem_stretch hmem]

/-- The positional parameters of a signature are its first two stretches. -/
theorem filter_isPositional_eq {parameters : List Parameter}
    (sorted : parameters.Pairwise MayPrecede) :
    parameters.filter (·.kind.isPositional) =
      stretch parameters .positionalOnly ++ stretch parameters .positionalOrKeyword := by
  conv_lhs => rw [eq_flatMap_stretch sorted, List.filter_flatMap]
  simp only [filter_isPositional_stretch]
  simp [Kind.all, Kind.isPositional]

end Introspection.Api
