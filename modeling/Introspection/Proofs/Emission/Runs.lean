import Introspection.Emission.Build
import Introspection.Proofs.Emission.Allocation
import Introspection.Proofs.Metadata.Meaning

/-!
# Emissions that come to their end

An emission touches two things: the counter of ids, by one step for each fragment and for each id
constant, and the log. So it comes to its end as long as the counter has room, and what it makes
does not depend on the state at all, apart from the ids.

## Main definitions

* `Emission.Room` — the counter has room for some more ids
* `Emission.declaredNode` — the tree of a declared element
* `Emission.Built` — the text that a build makes of a declared element

## Main results

* `Emission.declaredIds_ok` — the id constants of declared elements
* `Emission.textsOf_ok` — the texts of their fragments
-/

namespace Introspection.Emission

open Introspection.Metadata (Node Concatenation Plain)

-- Powers are those of the numbers themselves, also where algebra is in scope.
attribute [local instance (high)] instPowNat

/-! ### Runs -/

/-- The counter has room for some more ids. -/
def Room (state : State) (count : Nat) : Prop :=
  0 ≤ state.counter.next ∧ state.counter.next + count ≤ 2 ^ (64 : Nat)

/-- A run takes some ids off the counter. -/
def Takes (state state' : State) (count : Nat) : Prop :=
  state'.counter.next = state.counter.next + count

theorem Room.rest {state state' : State} {count more : Nat} (h : Room state (count + more))
    (takes : Takes state state' count) : Room state' more := by
  obtain ⟨hnonneg, hle⟩ := h
  unfold Takes at takes
  constructor <;> omega

theorem Room.first {state : State} {count more : Nat} (h : Room state (count + more)) :
    Room state count := by
  obtain ⟨hnonneg, hle⟩ := h
  constructor <;> omega

/-- There is an id for the next counter value. -/
theorem Room.inRange {state : State} {count : Nat} (h : Room state (count + 1)) :
    InRange state.counter.next := by
  obtain ⟨hnonneg, hle⟩ := h
  constructor <;> omega

/-- A tree that can be serialized becomes a fragment. -/
theorem emitNode_ok {node : Node} {content : Concatenation} {state : State} (seed : Datum)
    (h : node.serialize Metadata.defaultIdConstant = .ok content) (room : Room state 1) :
    ∃ fragment state', emitNode {} node seed state = .ok fragment state' ∧
      fragment.content = content ∧ Takes state state' 1 := by
  obtain ⟨id, hid⟩ := exists_idAt seed room.inRange
  let fragment := Emitter.fragmentOf {} content id
  refine ⟨fragment, state.stored fragment, ?_, rfl, State.next_stored state fragment⟩
  rw [emitNode_eq, Emitter.serialized, h]
  exact storing_of_ok {} content hid

/-! ### Id constants -/

/-- A number is written in digits. -/
theorem toNat_of_mem_toString {n : Nat} {c : Char} (hc : c ∈ (toString n).toList) :
    0x30 ≤ c.toNat ∧ c.toNat ≤ 0x39 := by
  rw [Nat.toString_eq_repr, Nat.toList_repr] at hc
  have hdigit : c.isDigit = true := Nat.isDigit_of_mem_toDigits (by decide) (by decide) hc
  simpa [Char.isDigit, UInt32.le_iff_toNat_le] using hdigit

theorem plain_toString (n : Nat) : Plain (toString n) := by
  intro c hc
  obtain ⟨hle, hge⟩ := toNat_of_mem_toString hc
  refine ⟨?_, ?_, by omega⟩
  · rintro rfl
    exact absurd hle (by decide)
  · rintro rfl
    exact absurd hge (by decide)

/-- An id is a number, so it is plain text. -/
theorem idConstantFor_ok {state : State} (type ident : String) (room : Room state 1) :
    ∃ constant state', idConstantFor {} type ident state = .ok constant state' ∧
      Plain constant.value ∧ Takes state state' 1 := by
  obtain ⟨id, hid⟩ := exists_idAt (seedOf type ident) room.inRange
  exact ⟨_, _, idConstantFor_of_ok {} hid, plain_toString id.toNat, State.next_advanced state⟩

/-- The id constants of declared elements are allocated while there is room: one for each element,
the last one first, in front of those that were there. -/
theorem declaredIds_ok (declarations : List Declaration) {state : State}
    (ids : List (String × String)) (room : Room state declarations.length) :
    ∃ more state', declaredIds {} ids declarations state = .ok (more ++ ids) state' ∧
      more.map Prod.fst = (declarations.map (·.ident)).reverse ∧
      (∀ entry ∈ more, Plain entry.2) ∧ Takes state state' declarations.length := by
  induction declarations generalizing state ids with
  | nil => exact ⟨[], state, rfl, rfl, by simp, by simp [Takes]⟩
  | cons declaration rest ih =>
    rw [List.length_cons, Nat.add_comm] at room
    obtain ⟨constant, state₁, hconstant, hplain, takes⟩ :=
      idConstantFor_ok declaration.typeName declaration.ident room.first
    obtain ⟨more, state₂, hmore, hkeys, hplains, takes'⟩ :=
      ih ((declaration.ident, constant.value) :: ids) (room.rest takes)
    refine ⟨more ++ [(declaration.ident, constant.value)], state₂, ?_, ?_, ?_, ?_⟩
    · rw [declaredIds, bind_eq_of_ok hconstant, hmore, List.append_assoc]
      rfl
    · simp [hkeys]
    · intro entry hentry
      rcases List.mem_append.mp hentry with hentry | hentry
      · exact hplains entry hentry
      · rw [List.mem_singleton.mp hentry]
        exact hplain
    · unfold Takes at takes takes' ⊢
      rw [List.length_cons]
      omega

/-! ### Fragments -/

/-- The tree of a declared element, if it has one. -/
def declaredNode (declaration : Declaration) : Option Node :=
  match declaration.body with
  | .ofModule members => some (moduleNode declaration.name members)
  | .ofClass => some (classNode declaration.ident declaration.name)
  | .ofFunction (some signature) =>
    (signatureNode? ({} : Names).cratePath signature).map
      (functionNode declaration.ident declaration.name)
  | .ofFunction none | .unknown _ => none

/-- A declared element has a tree that can be serialized. -/
def Emittable (declaration : Declaration) : Prop :=
  ∃ node, declaredNode declaration = some node ∧ node.Clean

/-- A text is what a build makes of a declared element. -/
def Built (build : Build) (declaration : Declaration) (text : String) : Prop :=
  ∃ node content, declaredNode declaration = some node ∧
    node.serialize Metadata.defaultIdConstant = .ok content ∧
    text = content.evaluate (build.value declaration.ident)

/-- The content of an element is its tree, serialized. -/
theorem declaredContent_of_declaredNode {declaration : Declaration} {node : Node}
    (h : declaredNode declaration = some node) :
    declaredContent {} declaration = Emitter.serialized {} node := by
  rw [declaredNode] at h
  rw [declaredContent]
  split at h
  · next members hbody =>
    cases h
    rw [hbody]
  · next hbody =>
    cases h
    rw [hbody]
  · next signature hbody =>
    obtain ⟨signatureNode, hsignature, rfl⟩ := Option.map_eq_some_iff.mp h
    rw [hbody]
    dsimp only
    rw [Emitter.functionContent, Emitter.signatureNode, hsignature]
  · cases h
  · cases h

theorem declaredFragment_ok {declaration : Declaration} {state : State}
    (emittable : Emittable declaration) (room : Room state 1) (build : Build) :
    ∃ fragment state', declaredFragment {} declaration state = .ok fragment state' ∧
      Built build declaration (fragment.content.evaluate (build.value declaration.ident)) ∧
      Takes state state' 1 := by
  obtain ⟨node, hnode, hclean⟩ := emittable
  obtain ⟨content, hcontent⟩ := hclean.exists_serialize Metadata.defaultIdConstant
  obtain ⟨id, hid⟩ := exists_idAt (fragmentSeed declaration) room.inRange
  let fragment := Emitter.fragmentOf {} content id
  refine ⟨fragment, state.stored fragment, ?_, ⟨node, content, hnode, hcontent, rfl⟩,
    State.next_stored state fragment⟩
  rw [declaredFragment_eq, declaredContent_of_declaredNode hnode, Emitter.serialized, hcontent]
  exact storing_of_ok {} content hid

/-- The texts of declared elements are made while there is room. -/
theorem textsOf_ok {declarations : List Declaration} {state : State} (build : Build)
    (emittable : ∀ declaration ∈ declarations, Emittable declaration)
    (room : Room state declarations.length) :
    ∃ texts state', textsOf {} build declarations state = .ok texts state' ∧
      List.Forall₂ (fun text declaration => Built build declaration text) texts declarations := by
  induction declarations generalizing state with
  | nil => exact ⟨[], state, rfl, .nil⟩
  | cons declaration rest ih =>
    rw [List.length_cons, Nat.add_comm] at room
    obtain ⟨fragment, state₁, hfragment, hbuilt, takes⟩ :=
      declaredFragment_ok (emittable declaration List.mem_cons_self) room.first build
    obtain ⟨texts, state₂, htexts, hbuilts⟩ :=
      ih (fun other hother => emittable other (List.mem_cons_of_mem _ hother)) (room.rest takes)
    refine ⟨_ :: texts, state₂, ?_, .cons hbuilt hbuilts⟩
    rw [textsOf, bind_eq_of_ok hfragment, bind_eq_of_ok htexts]
    rfl

end Introspection.Emission
