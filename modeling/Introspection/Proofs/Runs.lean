import Mathlib.Tactic.Basic

/-!
# Runs over a state

A run goes over a state, and may fail on the way. It comes to its end exactly if all its steps do,
each in the state that the one before has reached. What may fail without a state is the same with
less to say.

## Main results

* `bind_eq_ok_iff` — a run of two steps, taken apart
* `bind_eq_of_ok`, `bind_eq_of_error` — the step after one that came to its end, or that failed
* `except_bind_eq_ok_iff` — two steps without a state
-/

namespace Introspection

variable {ε σ α β : Type} {run : EStateM ε σ α} {next : α → EStateM ε σ β} {state state' : σ}
  {fault : ε}

/-- A run that comes to its end is followed by the next one. -/
theorem bind_eq_of_ok {a : α} (h : run state = .ok a state') :
    (run >>= next) state = next a state' := by
  show EStateM.bind run next state = _
  rw [EStateM.bind, h]

/-- A run that fails is followed by nothing. -/
theorem bind_eq_of_error (h : run state = .error fault state') :
    (run >>= next) state = .error fault state' := by
  show EStateM.bind run next state = _
  rw [EStateM.bind, h]

/-- A run of two steps comes to its end if the first one does, and then the second. -/
theorem bind_eq_ok_iff {b : β} :
    (run >>= next) state = .ok b state' ↔
      ∃ a middle, run state = .ok a middle ∧ next a middle = .ok b state' := by
  constructor
  · intro h
    cases hrun : run state with
    | ok a middle => exact ⟨a, middle, rfl, (bind_eq_of_ok hrun).symm.trans h⟩
    | error fault middle =>
      change EStateM.bind run next state = _ at h
      rw [EStateM.bind, hrun] at h
      cases h
  · rintro ⟨a, middle, hrun, hnext⟩
    rw [bind_eq_of_ok hrun, hnext]

/-- Two steps without a state have a result if the first one has, and then the second. -/
theorem except_bind_eq_ok_iff {result : Except ε α} {after : α → Except ε β} {b : β} :
    (result >>= after) = .ok b ↔ ∃ a, result = .ok a ∧ after a = .ok b := by
  cases result with
  | error fault =>
    constructor
    · intro h
      cases h
    · rintro ⟨a, h, -⟩
      cases h
  | ok a =>
    constructor
    · exact fun h => ⟨a, rfl, h⟩
    · rintro ⟨a', h, h'⟩
      cases h
      exact h'

end Introspection
