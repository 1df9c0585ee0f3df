import Introspection.Emission.Element
import Introspection.Proofs.Runs
import Mathlib.Tactic.ByContra

/-!
# What emission takes from the counter

A fragment takes a counter value once its content stands, and an id constant takes one in any case.
The value is gone then, also if it is no number of sixty-four bits and there is no id for it.
Nothing else takes one.

So three things are to be told apart for a fragment: there is no content, and the state stays as it
was; there is a content and an id; there is a content and no id. This is said once, for `storing`,
which is all that fragments of modules, classes and functions have in common. Everything about the
counter goes through its three laws and the two of id constants.

## Main definitions

* `Emission.InRange` — the counter values that there are ids for
* `Emission.Emitter.serialized`, `Emission.declaredContent` — contents, or what forbids them
* `Emission.storing` — a content, stored in a fragment
* `Emission.rendered`, `Emission.Names.constantOf` — an id constant in source text

## Main results

* `Emission.storing_of_error`, `storing_of_ok`, `storing_of_counterFault`
* `Emission.idConstantFor_of_ok`, `idConstantFor_of_counterFault`
* `Emission.declaredFragment_eq` — the fragment of a declared element is a stored content
-/

namespace Introspection.Emission

open Introspection.Binding (Signature)
open Introspection.Identity (CounterFault idAt)
open Introspection.Metadata (Concatenation Node)

-- Powers are those of the numbers themselves, also where algebra is in scope.
attribute [local instance (high)] instPowNat

/-! ### Counter values -/

/-- A counter value that there are ids for. -/
def InRange (value : Int) : Prop :=
  0 ≤ value ∧ value < 2 ^ (64 : Nat)

instance (value : Int) : Decidable (InRange value) :=
  inferInstanceAs (Decidable (_ ∧ _))

theorem exists_idAt {value : Int} (seed : Datum) (h : InRange value) :
    ∃ id, idAt seed value = .ok id := by
  obtain ⟨hnonneg, hlt⟩ := h
  have hbytes : Identity.counterBytes value = .ok (Blake2b.bytesOf 8 value.toNat) := by
    rw [Identity.counterBytes, if_neg (by omega), if_neg (by omega)]
  exact ⟨_, by rw [idAt, Identity.hashInput, hbytes]⟩

/-- A value that there is no id for is too small or too large, whatever the seed. -/
theorem idAt_of_not_inRange {value : Int} (seed : Datum) (h : ¬ InRange value) :
    idAt seed value = .error (if value < 0 then .negative else .tooLarge) := by
  have hbytes : Identity.counterBytes value =
      .error (if value < 0 then .negative else .tooLarge) := by
    rw [Identity.counterBytes]
    split
    · rfl
    · next hnonneg =>
      rw [if_pos]
      by_contra hlt
      exact h ⟨by omega, by omega⟩
  rw [idAt, Identity.hashInput, hbytes]

/-- The state in which a counter value is gone. -/
def State.advanced (state : State) : State :=
  { state with counter := ⟨state.counter.next + 1⟩ }

@[simp] theorem State.next_advanced (state : State) :
    state.advanced.counter.next = state.counter.next + 1 := rfl

section Allocate

variable {seed : Datum} {state : State} {id : UInt64} {counterFault : CounterFault}

theorem allocate_of_ok (h : idAt seed state.counter.next = .ok id) :
    Run.allocate seed state = .ok id state.advanced := by
  rw [Run.allocate, Identity.allocate, h]
  rfl

theorem allocate_of_error (h : idAt seed state.counter.next = .error counterFault) :
    Run.allocate seed state = .error (.counter counterFault) state.advanced := by
  rw [Run.allocate, Identity.allocate, h]
  rfl

end Allocate

theorem Run.ofExcept_ok {ε α : Type} (wrap : ε → Fault) (value : α) :
    Run.ofExcept wrap (.ok value) = pure value := rfl

/-! ### Contents -/

/-- The text of a tree as a concatenation, or the fault that forbids it. -/
def Emitter.serialized (emitter : Emitter) (node : Node) : Except Fault Concatenation :=
  (node.serialize emitter.names.idConstant).mapError .metadata

/-- The content of the fragment of a function, or the fault that forbids it. -/
def Emitter.functionContent (emitter : Emitter) (ident name : String) (signature : Signature) :
    Except Fault Concatenation :=
  match emitter.signatureNode signature name with
  | .ok node => emitter.serialized (functionNode ident name node)
  | .error fault => .error fault

/-- The content of the fragment of a declared element, or the fault that forbids it. -/
def declaredContent (emitter : Emitter) (declaration : Declaration) :
    Except Fault Concatenation :=
  match declaration.body with
  | .ofModule members => emitter.serialized (moduleNode declaration.name members)
  | .ofClass => emitter.serialized (classNode declaration.ident declaration.name)
  | .ofFunction none => .error (.noSignature declaration.name)
  | .ofFunction (some signature) =>
    emitter.functionContent declaration.ident declaration.name signature
  | .unknown type => .error (.unknownType declaration.name type)

/-- The seed of the fragment of a declared element. A module is told by its name, as its fragment
says nothing of its identifier. -/
def fragmentSeed (declaration : Declaration) : Datum :=
  match declaration.body with
  | .ofModule _ => seedOf "module" declaration.name
  | _ => seedOf declaration.typeName declaration.ident

/-- The seed of the id constant of a declared element. -/
def constantSeed (declaration : Declaration) : Datum :=
  seedOf declaration.typeName declaration.ident

/-! ### Fragments -/

/-- Stores a content in the fragment of the next id, if there is a content. -/
def storing (emitter : Emitter) (content : Except Fault Concatenation) (seed : Datum) :
    Run Fragment := do
  let content ← Run.ofExcept id content
  let id ← Run.allocate seed
  let fragment := emitter.fragmentOf content id
  Run.report fragment.record
  return fragment

/-- The state behind a fragment: a counter value is gone, and the fragment is reported. -/
def State.stored (state : State) (fragment : Fragment) : State :=
  { state.advanced with log := state.log ++ [fragment.record] }

@[simp] theorem State.next_stored (state : State) (fragment : Fragment) :
    (state.stored fragment).counter.next = state.counter.next + 1 := rfl

section Storing

variable {seed : Datum} {state : State} {id : UInt64} {counterFault : CounterFault}
  (emitter : Emitter)

/-- Without a content nothing happens. -/
theorem storing_of_error (fault : Fault) (seed : Datum) (state : State) :
    storing emitter (.error fault) seed state = .error fault state := rfl

theorem storing_of_ok (content : Concatenation) (h : idAt seed state.counter.next = .ok id) :
    storing emitter (.ok content) seed state =
      .ok (emitter.fragmentOf content id) (state.stored (emitter.fragmentOf content id)) := by
  rw [storing, Run.ofExcept_ok, pure_bind, bind_eq_of_ok (allocate_of_ok h)]
  rfl

/-- A content without an id is lost, and so is the counter value. -/
theorem storing_of_counterFault (content : Concatenation)
    (h : idAt seed state.counter.next = .error counterFault) :
    storing emitter (.ok content) seed state = .error (.counter counterFault) state.advanced := by
  rw [storing, Run.ofExcept_ok, pure_bind, bind_eq_of_error (allocate_of_error h)]

theorem emitNode_eq (node : Node) (seed : Datum) :
    emitNode emitter node seed = storing emitter (emitter.serialized node) seed := by
  rw [emitNode, storing, Emitter.serialized]
  cases node.serialize emitter.names.idConstant <;> rfl

theorem functionFragment_eq (ident name : String) (signature : Signature) :
    functionFragment emitter ident name signature =
      storing emitter (emitter.functionContent ident name signature) (seedOf "function" ident) := by
  rw [functionFragment, Emitter.functionContent]
  cases emitter.signatureNode signature name with
  | ok node =>
    rw [Run.ofExcept_ok, pure_bind]
    exact emitNode_eq emitter _ _
  | error fault => rfl

/-- The fragment of a declared element is its content, stored. -/
theorem declaredFragment_eq (declaration : Declaration) :
    declaredFragment emitter declaration =
      storing emitter (declaredContent emitter declaration) (fragmentSeed declaration) := by
  obtain ⟨name, ident, body⟩ := declaration
  cases body with
  | ofModule members => exact emitNode_eq emitter _ _
  | ofClass => exact emitNode_eq emitter _ _
  | ofFunction signature =>
    cases signature with
    | none => rfl
    | some signature => exact functionFragment_eq emitter ident name signature
  | unknown type => rfl

end Storing

/-! ### Id constants -/

/-- What the templates that no user has changed make of a request. -/
def rendered (request : Request) : String :=
  Text.trimmedRight (rust request) ++ "\n"

/-- The templates that no user has changed render everything. -/
theorem render_eq (request : Request) : Templates.render {} request = .ok (rendered request) := by
  have hraw : Templates.raw {} request = .ok (rust request) := rfl
  rw [Templates.render, hraw]
  rfl

/-- The id constant of an id. -/
def Names.constantOf (names : Names) (type ident : String) (id : UInt64) : IdConstant where
  value := toString id.toNat
  source := rendered (.idConstant type ident names.idConstant (toString id.toNat))

variable {state : State} {id : UInt64} {counterFault : CounterFault} {type ident : String}
  (names : Names)

theorem idConstantFor_of_ok (h : idAt (seedOf type ident) state.counter.next = .ok id) :
    idConstantFor { names } type ident state =
      .ok (names.constantOf type ident id) state.advanced := by
  rw [idConstantFor, bind_eq_of_ok (allocate_of_ok h)]
  show (Run.ofExcept .template (Templates.render {} _) >>= _) state.advanced = _
  rw [render_eq]
  rfl

theorem idConstantFor_of_counterFault
    (h : idAt (seedOf type ident) state.counter.next = .error counterFault) :
    idConstantFor { names } type ident state =
      .error (.counter counterFault) state.advanced := by
  rw [idConstantFor, bind_eq_of_error (allocate_of_error h)]

end Introspection.Emission
