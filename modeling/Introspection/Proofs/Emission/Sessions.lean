import Introspection.Emission.Session
import Introspection.Proofs.Emission.Allocation

/-!
# Counter values in a session

Steps of a session share one counter, and some of them fail. What a step takes from the counter is
decided before anything is taken: an id constant is to be allocated whatever happens, a fragment
if it has a content, and nothing else is. A step that gets that far takes one value, with an id or
without.

So the value that a step finds is the start of the session and the number of steps before it that
got to the allocator, whether or not the values were good for an id.

## Main definitions

* `Emission.Demand`, `Emission.Step.demand` — what a step wants of the allocator
* `Emission.taken` — the number of steps that get to the allocator
* `Emission.Step.Spends` — what a step makes of the counter value that it finds

## Main results

* `Emission.Session.step_spends` — what one step does with the counter
* `Emission.Session.run_spends` — what all steps of a run do with it
-/

namespace Introspection.Emission

open Introspection.Identity (CounterFault idAt)
open Introspection.Metadata (Concatenation)

/-! ### What steps want -/

/-- What a step wants of the allocator. -/
inductive Demand where
  /-- An id for a fragment with this content, unless there is none. -/
  | fragment (content : Except Fault Concatenation) (seed : Datum)
  /-- An id to expose. -/
  | constant (seed : Datum)
  | nothing

/-- The seed that gets to the allocator. -/
def Demand.seed? : Demand → Option Datum
  | .fragment (.ok _) seed => some seed
  | .fragment (.error _) _ => none
  | .constant seed => some seed
  | .nothing => none

/-- What a step wants of the allocator. -/
def Step.demand (emitter : Emitter) : Step → Demand
  | .module name members =>
    .fragment (emitter.serialized (moduleNode name members)) (seedOf "module" name)
  | .class ident name =>
    .fragment (emitter.serialized (classNode ident name)) (seedOf "class" ident)
  | .function ident name binding =>
    .fragment (emitter.functionContent ident name binding) (seedOf "function" ident)
  | .idConstant type ident => .constant (seedOf type ident)
  | .render _ | .element _ _ _ _ | .signature _ _ | .parameter _ _ _ | .hint _ => .nothing

/-- A step gets to the allocator. -/
def Step.reaches (emitter : Emitter) (step : Step) : Bool :=
  (step.demand emitter).seed?.isSome

/-- The number of steps that get to the allocator. -/
def taken (emitter : Emitter) (steps : List Step) : Nat :=
  steps.countP (·.reaches emitter)

/-- An answer has an id in it. -/
def Answer.Bears (id : UInt64) : Answer → Prop
  | .fragment made => made.id = id
  | .constant made => made.value = toString id.toNat
  | _ => False

/-- What a step makes of the counter value that it finds: its answer, and the value that it
leaves. -/
structure Step.Spends (emitter : Emitter) (step : Step) (value : Int)
    (answer : Except Fault Answer) (left : Int) : Prop where
  /-- A step that gets to the allocator takes the value. -/
  takes : step.reaches emitter = true → left = value + 1
  /-- Any other step leaves it to the next one. -/
  leaves : step.reaches emitter = false → left = value
  /-- The value that is taken is the one that the id comes from. -/
  numbered : ∀ seed, (step.demand emitter).seed? = some seed → InRange value →
    ∃ id reply, idAt seed value = .ok id ∧ answer = .ok reply ∧ reply.Bears id
  /-- There is no id for a value out of range. -/
  overflows : step.reaches emitter = true → ¬ InRange value →
    answer = .error (.counter (if value < 0 then .negative else .tooLarge))
  /-- A fragment without a content is answered with what forbids it. -/
  forbidden : ∀ fault seed, step.demand emitter = .fragment (.error fault) seed →
    answer = .error fault
  /-- Whatever else goes wrong, it is not about the counter. -/
  otherwise : step.reaches emitter = false → ∀ fault, answer ≠ .error (.counter fault)

namespace Step.Spends

variable {emitter : Emitter} {step : Step} {value left : Int} {answer : Except Fault Answer}

/-- A step that gets to the allocator. -/
theorem of_reached {seed : Datum} (h : (step.demand emitter).seed? = some seed)
    (hleft : left = value + 1)
    (hok : ∀ id, idAt seed value = .ok id → ∃ reply, answer = .ok reply ∧ reply.Bears id)
    (herror : ∀ counterFault, idAt seed value = .error counterFault →
      answer = .error (.counter counterFault)) :
    step.Spends emitter value answer left := by
  have hreaches : step.reaches emitter = true := by rw [Step.reaches, h]; rfl
  refine ⟨fun _ => hleft, by simp [hreaches], ?_, ?_, ?_, by simp [hreaches]⟩
  · intro seed' h' hrange
    obtain rfl : seed = seed' := Option.some.inj (h.symm.trans h')
    obtain ⟨id, hid⟩ := exists_idAt seed hrange
    obtain ⟨reply, hreply⟩ := hok id hid
    exact ⟨id, reply, hid, hreply⟩
  · exact fun _ hrange => herror _ (idAt_of_not_inRange seed hrange)
  · intro fault seed' hdemand
    rw [hdemand] at h
    cases h

/-- A step that does not get to the allocator. -/
theorem of_unreached (h : (step.demand emitter).seed? = none) (hleft : left = value)
    (hforbidden : ∀ fault seed, step.demand emitter = .fragment (.error fault) seed →
      answer = .error fault)
    (hother : ∀ counterFault, answer ≠ .error (.counter counterFault)) :
    step.Spends emitter value answer left := by
  have hreaches : step.reaches emitter = false := by rw [Step.reaches, h]; rfl
  exact ⟨by simp [hreaches], fun _ => hleft, by simp [h], by simp [hreaches], hforbidden,
    fun _ => hother⟩

end Step.Spends

/-! ### One step -/

theorem serialized_ne_counterFault (emitter : Emitter) (node : Metadata.Node)
    (counterFault : CounterFault) : emitter.serialized node ≠ .error (.counter counterFault) := by
  rw [Emitter.serialized]
  cases node.serialize emitter.names.idConstant <;> simp [Except.mapError]

theorem signatureNode_ne_counterFault (emitter : Emitter) (signature : Binding.Signature)
    (function : String) (counterFault : CounterFault) :
    emitter.signatureNode signature function ≠ .error (.counter counterFault) := by
  rw [Emitter.signatureNode]
  split <;> simp

theorem functionContent_ne_counterFault (emitter : Emitter) (ident name : String)
    (signature : Binding.Signature) (counterFault : CounterFault) :
    emitter.functionContent ident name signature ≠ .error (.counter counterFault) := by
  rw [Emitter.functionContent]
  split
  · exact serialized_ne_counterFault emitter _ counterFault
  · next fault hsignature =>
    intro heq
    cases heq
    exact signatureNode_ne_counterFault emitter _ _ _ hsignature

theorem demand_ne_counterFault (emitter : Emitter) (step : Step) {seed : Datum}
    {counterFault : CounterFault} :
    step.demand emitter ≠ .fragment (.error (.counter counterFault)) seed := by
  intro h
  cases step <;> simp only [Step.demand, Demand.fragment.injEq, reduceCtorEq] at h
  · exact serialized_ne_counterFault emitter _ counterFault h.1
  · exact serialized_ne_counterFault emitter _ counterFault h.1
  · exact functionContent_ne_counterFault emitter _ _ _ counterFault h.1

namespace Session

variable (emitter : Emitter) (session : Session)

/-- A step for a fragment stores the content that it wants an id for. -/
theorem step_of_fragment {step : Step} {content : Except Fault Concatenation} {seed : Datum}
    (h : step.demand emitter = .fragment content seed) :
    session.step emitter step = session.make (storing emitter content seed) := by
  cases step <;> simp only [Step.demand, Demand.fragment.injEq, reduceCtorEq] at h
  all_goals obtain ⟨rfl, rfl⟩ := h
  · exact congrArg session.make (emitNode_eq emitter _ _)
  · exact congrArg session.make (emitNode_eq emitter _ _)
  · exact congrArg session.make (functionFragment_eq emitter _ _ _)

theorem textAnswer_ne_counterFault (text : Except TemplateFault String)
    (counterFault : CounterFault) : textAnswer text ≠ .error (.counter counterFault) := by
  cases text <;> simp [textAnswer]

theorem contentAnswer_ne_counterFault {node : Except Fault Metadata.Node}
    {counterFault : CounterFault} (h : node ≠ .error (.counter counterFault)) :
    contentAnswer node ≠ .error (.counter counterFault) := by
  cases node with
  | error fault => exact fun heq => h (congrArg Except.error (Except.error.inj heq))
  | ok node =>
    rw [contentAnswer]
    split <;> simp

/-- A step that wants nothing leaves the session as it was. -/
theorem step_of_nothing {step : Step} (h : step.demand emitter = .nothing) :
    (session.step emitter step).2 = session ∧
      ∀ counterFault, (session.step emitter step).1 ≠ .error (.counter counterFault) := by
  cases step with
  | module | «class» | function | idConstant => cases h
  | render number =>
    rw [Session.step]
    split
    · exact ⟨rfl, textAnswer_ne_counterFault _⟩
    · exact ⟨rfl, by simp⟩
  | element type ident constant fragment =>
    rw [Session.step]
    split
    · exact ⟨rfl, textAnswer_ne_counterFault _⟩
    · exact ⟨rfl, by simp⟩
  | signature binding function =>
    refine ⟨rfl, fun counterFault => contentAnswer_ne_counterFault ?_⟩
    exact signatureNode_ne_counterFault emitter binding function counterFault
  | parameter name kind argument =>
    refine ⟨rfl, fun counterFault => ?_⟩
    have hne : (.ok (parameterNode emitter.names.cratePath name kind argument) :
        Except Fault Metadata.Node) ≠ .error (.counter counterFault) := by simp
    exact contentAnswer_ne_counterFault hne
  | hint argument => exact ⟨rfl, by simp [Session.step]⟩

/-- A fragment takes the counter value once its content stands. -/
theorem make_spends {step : Step} {content : Except Fault Concatenation} {seed : Datum}
    (h : step.demand emitter = .fragment content seed) :
    step.Spends emitter session.state.counter.next
      (session.make (storing emitter content seed)).1
      (session.make (storing emitter content seed)).2.state.counter.next := by
  cases content with
  | error fault =>
    have hmake : session.make (storing emitter (.error fault) seed) = (.error fault, session) := by
      rw [make, perform, storing_of_error]
    rw [hmake]
    refine .of_unreached (by rw [h]; rfl) rfl ?_ ?_
    · intro fault' seed' h'
      rw [h] at h'
      cases h'
      rfl
    · intro counterFault heq
      cases heq
      exact demand_ne_counterFault emitter step h
  | ok content =>
    have hseed : (step.demand emitter).seed? = some seed := by rw [h]; rfl
    refine .of_reached hseed ?_ ?_ ?_
    · cases hid : idAt seed session.state.counter.next with
      | ok id => rw [make, perform, storing_of_ok emitter content hid]; rfl
      | error counterFault => rw [make, perform, storing_of_counterFault emitter content hid]; rfl
    · intro id hid
      rw [make, perform, storing_of_ok emitter content hid]
      exact ⟨_, rfl, rfl⟩
    · intro counterFault hid
      rw [make, perform, storing_of_counterFault emitter content hid]

end Session

/-- An id constant takes the counter value in any case. -/
theorem Session.idConstant_spends (names : Names) (session : Session) (type ident : String) :
    (Step.idConstant type ident).Spends { names } session.state.counter.next
      (session.step { names } (.idConstant type ident)).1
      (session.step { names } (.idConstant type ident)).2.state.counter.next := by
  have hseed : ((Step.idConstant type ident).demand { names }).seed? = some (seedOf type ident) :=
    rfl
  refine .of_reached hseed ?_ ?_ ?_
  · cases hid : idAt (seedOf type ident) session.state.counter.next with
    | ok id => rw [Session.step, perform, idConstantFor_of_ok names hid]; rfl
    | error counterFault =>
      rw [Session.step, perform, idConstantFor_of_counterFault names hid]
      rfl
  · intro id hid
    rw [Session.step, perform, idConstantFor_of_ok names hid]
    exact ⟨_, rfl, rfl⟩
  · intro counterFault hid
    rw [Session.step, perform, idConstantFor_of_counterFault names hid]

/-- What one step does with the counter value that it finds. -/
theorem Session.step_spends (names : Names) (session : Session) (step : Step) :
    step.Spends { names } session.state.counter.next (session.step { names } step).1
      (session.step { names } step).2.state.counter.next := by
  cases hdemand : step.demand { names } with
  | fragment content seed =>
    rw [step_of_fragment _ session hdemand]
    exact make_spends _ session hdemand
  | constant seed =>
    cases step with
    | idConstant type ident => exact idConstant_spends names session type ident
    | _ => cases hdemand
  | nothing =>
    obtain ⟨hsession, hanswer⟩ := step_of_nothing _ session hdemand
    rw [hsession]
    exact .of_unreached (by rw [hdemand]; rfl) rfl (by simp [hdemand]) hanswer

/-! ### Runs -/

namespace Session

theorem run_cons (emitter : Emitter) (session : Session) (step : Step) (steps : List Step) :
    session.run emitter (step :: steps) =
      ((session.step emitter step).1 :: ((session.step emitter step).2.run emitter steps).1,
        ((session.step emitter step).2.run emitter steps).2) := rfl

/-- A run of more steps goes on where the run of the first ones has ended. -/
theorem run_append (emitter : Emitter) (session : Session) (before after : List Step) :
    session.run emitter (before ++ after) =
      ((session.run emitter before).1 ++ ((session.run emitter before).2.run emitter after).1,
        ((session.run emitter before).2.run emitter after).2) := by
  induction before generalizing session with
  | nil => rfl
  | cons step before ih => rw [List.cons_append, run_cons, run_cons, ih, List.cons_append]

theorem length_run (emitter : Emitter) (session : Session) (steps : List Step) :
    (session.run emitter steps).1.length = steps.length := by
  induction steps generalizing session with
  | nil => rfl
  | cons step steps ih => exact congrArg (· + 1) (ih _)

/-- A step is answered in the session that the steps before it leave. -/
theorem getElem?_run (emitter : Emitter) (session : Session) (before : List Step) (step : Step)
    (after : List Step) :
    (session.run emitter (before ++ step :: after)).1[before.length]? =
      some ((session.run emitter before).2.step emitter step).1 := by
  have hlength := length_run emitter session before
  rw [run_append]
  show (_ ++ _)[before.length]? = _
  rw [List.getElem?_append_right (Nat.le_of_eq hlength), hlength, Nat.sub_self]
  rfl

theorem run_concat_snd (emitter : Emitter) (session : Session) (before : List Step) (step : Step) :
    (session.run emitter (before ++ [step])).2 =
      ((session.run emitter before).2.step emitter step).2 := by
  rw [run_append]
  rfl

/-- Every step that gets to the allocator moves the counter on by one. -/
theorem next_step (names : Names) (session : Session) (step : Step) :
    (session.step { names } step).2.state.counter.next =
      session.state.counter.next + taken { names } [step] := by
  have hspends := session.step_spends names step
  cases hreaches : step.reaches { names } with
  | true => simp [hspends.takes hreaches, taken, hreaches]
  | false => simp [hspends.leaves hreaches, taken, hreaches]

theorem taken_append (emitter : Emitter) (before after : List Step) :
    taken emitter (before ++ after) = taken emitter before + taken emitter after :=
  List.countP_append

/-- More steps get to the allocator before a later step than before one that gets there. -/
theorem taken_lt {emitter : Emitter} {before before' after after' : List Step} {step step' : Step}
    (h : before ++ step :: after = before' ++ step' :: after')
    (hreaches : step.reaches emitter = true) (hlt : before.length < before'.length) :
    taken emitter before < taken emitter before' := by
  have hprefix : before ++ [step] <+: before' := by
    rw [List.append_cons before step] at h
    exact List.prefix_of_prefix_length_le ⟨after, h⟩ (List.prefix_append before' _)
      (by rw [List.length_append]; exact hlt)
  obtain ⟨between, rfl⟩ := hprefix
  have hstep : taken emitter [step] = 1 := by simp [taken, hreaches]
  rw [taken_append, taken_append]
  omega

/-- A run moves the counter on by the number of steps that got to the allocator. -/
theorem next_run (names : Names) (session : Session) (steps : List Step) :
    (session.run { names } steps).2.state.counter.next =
      session.state.counter.next + taken { names } steps := by
  induction steps generalizing session with
  | nil => simp [run, taken]
  | cons step steps ih =>
    rw [← List.singleton_append, taken_append]
    show ((session.step { names } step).2.run { names } steps).2.state.counter.next = _
    rw [ih, next_step]
    omega

/-- What a run does with the counter, wherever the counter starts and whatever fails on the way. The
whole run moves it on by the number of steps that get to the allocator. Each step finds the start
and the number of such steps before it, so what a step takes is never found by a later one. -/
theorem run_spends (names : Names) (session : Session) (steps : List Step) :
    let emitter : Emitter := { names }
    let start := session.state.counter.next
    let found (before : List Step) : Int := start + taken emitter before
    (session.run emitter steps).1.length = steps.length ∧
      (session.run emitter steps).2.state.counter.next = start + taken emitter steps ∧
      (∀ before step after, steps = before ++ step :: after →
        (session.run emitter before).2.state.counter.next = found before ∧
          ∃ answer, (session.run emitter steps).1[before.length]? = some answer ∧
            step.Spends emitter (found before) answer
              (session.run emitter (before ++ [step])).2.state.counter.next) ∧
      ∀ before step after before' step' after', steps = before ++ step :: after →
        steps = before' ++ step' :: after' → step.reaches emitter = true →
          before.length < before'.length → found before < found before' := by
  intro emitter start found
  refine ⟨length_run emitter session steps, next_run names session steps, ?_, ?_⟩
  · rintro before step after rfl
    have hfound : (session.run emitter before).2.state.counter.next = found before :=
      next_run names session before
    refine ⟨hfound, _, getElem?_run emitter session before step after, ?_⟩
    rw [run_concat_snd, ← hfound]
    exact step_spends names _ step
  · intro before step after before' step' after' h h' hreaches hlt
    have hcount := taken_lt (h.symm.trans h') hreaches hlt
    simp only [found]
    omega

/-- Below zero, an id constant is lost with its counter value, a function that lacks arguments takes
none, and the next step finds the first value that is good for an id. -/
theorem run_spends_negative :
    let session : Session := { state := { counter := ⟨-1⟩ } }
    let steps : List Step :=
      [.idConstant "class" "A", .function "f" "f" { positional := ["x"] }, .class "A" "A"]
    let answers := (session.run {} steps).1
    (session.run {} steps).2.state.counter.next = 1 ∧
      answers[0]? = some (.error (.counter .negative)) ∧
      answers[1]? = some (.error (.signatureMismatch "f")) ∧
      ∃ id reply, idAt (seedOf "class" "A") 0 = .ok id ∧ answers[2]? = some (.ok reply) ∧
        reply.Bears id := by
  intro session steps answers
  obtain ⟨-, hlast, hsteps, -⟩ := run_spends {} session steps
  obtain ⟨-, _, hconstant, hlost⟩ := hsteps [] _ _ rfl
  obtain ⟨-, _, hfunction, hmismatch⟩ := hsteps [steps[0]] _ _ rfl
  obtain ⟨-, _, hclass, hgood⟩ := hsteps [steps[0], steps[1]] _ _ rfl
  obtain ⟨id, reply, hid, rfl, hbears⟩ := hgood.numbered (seedOf "class" "A") rfl (by decide)
  refine ⟨hlast, ?_, ?_, id, reply, hid, hclass, hbears⟩
  · rw [hlost.overflows rfl (by decide)] at hconstant
    exact hconstant
  · rw [hmismatch.forbidden (.signatureMismatch "f") _ rfl] at hfunction
    exact hfunction

end Session

end Introspection.Emission
