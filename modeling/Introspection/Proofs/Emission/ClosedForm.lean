import Introspection.Emission.Element
import Introspection.Proofs.Emission.Frames

/-!
# Emission in closed form

While there is room, the ids of an emission are known beforehand: the element at an index takes two
counter values for itself and leaves two for each element in front of it. So an element is a
function of its declaration and of two ids, and the only trace of the other declarations is in these
two ids.

The only thing that stops an emission then is a declaration that nothing can be emitted for. It is
the first such one, and its values are not taken.

## Main definitions

* `Emission.Names.element` — the element of a declaration and two ids
* `Emission.Numbered` — the element of a declaration, its ids being those of two counter values
* `Emission.ElementFrame` — the texts of an element, with gaps for the digits of two ids

## Main results

* `Emission.emitAll_of_contents`, `Emission.emitAll_of_first` — runs that come to their end, and
  runs that stop
* `Emission.emit_numbered` — emission in closed form
-/

namespace Introspection.Emission

open Introspection.Identity (idAt)
open Introspection.Metadata (Concatenation)

-- Powers are those of the numbers themselves, also where algebra is in scope.
attribute [local instance (high)] instPowNat

/-! ### One element -/

/-- The element of a declaration with a content, and of two ids. -/
def Names.element (names : Names) (declaration : Declaration) (content : Concatenation)
    (fragmentId constantId : UInt64) : Element :=
  let staticName := names.fragmentStart ++ toString fragmentId.toNat
  let constant := names.constantOf declaration.typeName declaration.ident constantId
  let fragment := rendered (.fragment staticName (content.expression names.cratePath))
  let body := constant.source ++ "\n" ++ fragment
  { idConstant := constant.source, fragment, staticName
    source := if declaration.typeName = "module" then
        rendered (.moduleScope declaration.ident body) else body }

/-- An element is that of a declaration. Its ids are those of a counter value and of the next
one. -/
def Numbered (names : Names) (value : Int) (declaration : Declaration) (element : Element) : Prop :=
  ∃ content fragmentId constantId, declaredContent { names } declaration = .ok content ∧
    idAt (fragmentSeed declaration) value = .ok fragmentId ∧
    idAt (constantSeed declaration) (value + 1) = .ok constantId ∧
    element = names.element declaration content fragmentId constantId

section Element

variable (names : Names) {declaration : Declaration} {state : State}

theorem renderFragment_rendered (fragment : Fragment) :
    renderFragment { names } fragment = .ok (rendered
      (.fragment fragment.staticName (fragment.content.expression names.cratePath))) :=
  render_eq _

theorem renderElement_rendered (type ident : String) (constant : IdConstant) (fragment : Fragment) :
    renderElement { names } type ident constant fragment =
      .ok (let body := constant.source ++ "\n" ++ rendered
            (.fragment fragment.staticName (fragment.content.expression names.cratePath))
        if type = "module" then rendered (.moduleScope ident body) else body) := by
  rw [renderElement, renderFragment_rendered]
  dsimp only
  split
  · exact render_eq _
  · rfl

theorem emitElement_of_content {content : Concatenation} (room : Room state 2)
    (h : declaredContent { names } declaration = .ok content) :
    ∃ element last, emitElement { names } declaration state = .ok element last ∧
      Numbered names state.counter.next declaration element ∧ Takes state last 2 := by
  have room : Room state (1 + 1) := room
  obtain ⟨fragmentId, hfragmentId⟩ := exists_idAt (fragmentSeed declaration) room.inRange
  let fragment := Emitter.fragmentOf { names } content fragmentId
  have room' : Room (state.stored fragment) 1 := room.rest (State.next_stored state fragment)
  obtain ⟨constantId, hconstantId⟩ := exists_idAt (constantSeed declaration) room'.inRange
  have hfragment : declaredFragment { names } declaration state =
      .ok fragment (state.stored fragment) := by
    rw [declaredFragment_eq, h]
    exact storing_of_ok { names } content hfragmentId
  have hconstant := idConstantFor_of_ok names hconstantId
  refine ⟨names.element declaration content fragmentId constantId,
    (state.stored fragment).advanced, ?_,
    ⟨content, fragmentId, constantId, h, hfragmentId, hconstantId, rfl⟩, ?_⟩
  · rw [emitElement, bind_eq_of_ok hfragment, bind_eq_of_ok hconstant,
      renderFragment_rendered, renderElement_rendered]
    rfl
  · rw [Takes, State.next_advanced, State.next_stored]
    omega

/-- A declaration that nothing can be emitted for leaves the state as it was. -/
theorem emitElement_of_error {fault : Fault}
    (h : declaredContent { names } declaration = .error fault) :
    emitElement { names } declaration state = .error fault state := by
  have hfragment : declaredFragment { names } declaration state = .error fault state := by
    rw [declaredFragment_eq, h]
    rfl
  rw [emitElement, bind_eq_of_error hfragment]

end Element

/-! ### All elements -/

section Elements

variable (names : Names) {declarations : List Declaration} {state : State}

/-- An element is emitted for every declaration if all of them have contents. -/
theorem emitAll_of_contents (room : Room state (2 * declarations.length))
    (h : ∀ declaration ∈ declarations, ∃ content,
      declaredContent { names } declaration = .ok content) :
    ∃ elements last, emitAll { names } declarations state = .ok elements last ∧
      elements.length = declarations.length ∧ Takes state last (2 * declarations.length) ∧
      ∀ (i : Nat) declaration element, declarations[i]? = some declaration →
        elements[i]? = some element →
          Numbered names (state.counter.next + 2 * i) declaration element := by
  induction declarations generalizing state with
  | nil => exact ⟨[], state, rfl, rfl, by simp [Takes], by simp⟩
  | cons declaration declarations ih =>
    obtain ⟨⟨content, hcontent⟩, hrest⟩ := List.forall_mem_cons.mp h
    rw [List.length_cons, Nat.mul_add, Nat.add_comm] at room
    obtain ⟨element, middle, helement, hnumbered, takes⟩ :=
      emitElement_of_content names room.first hcontent
    obtain ⟨elements, last, helements, hlength, takes', hall⟩ := ih (room.rest takes) hrest
    refine ⟨element :: elements, last, ?_, congrArg (· + 1) hlength, ?_, ?_⟩
    · rw [emitAll, bind_eq_of_ok helement, bind_eq_of_ok helements]
      rfl
    · unfold Takes at takes takes' ⊢
      rw [List.length_cons]
      omega
    · intro i declaration' element' hdeclaration' helement'
      cases i with
      | zero =>
        obtain rfl := Option.some.inj hdeclaration'
        obtain rfl := Option.some.inj helement'
        simpa using hnumbered
      | succ i =>
        have hi := hall i declaration' element' hdeclaration' helement'
        have hvalue : state.counter.next + 2 * (i + 1 : Nat) = middle.counter.next + 2 * i := by
          unfold Takes at takes
          omega
        rwa [hvalue]

/-- The first declaration that nothing can be emitted for stops the run, and takes nothing. -/
theorem emitAll_of_first {before : List Declaration} (after : List Declaration)
    {declaration : Declaration} {fault : Fault} (room : Room state (2 * before.length))
    (hbefore : ∀ earlier ∈ before, ∃ content, declaredContent { names } earlier = .ok content)
    (h : declaredContent { names } declaration = .error fault) :
    ∃ last, emitAll { names } (before ++ declaration :: after) state = .error fault last ∧
      Takes state last (2 * before.length) := by
  induction before generalizing state with
  | nil =>
    refine ⟨state, ?_, by simp [Takes]⟩
    rw [List.nil_append, emitAll, bind_eq_of_error (emitElement_of_error names h)]
  | cons earlier before ih =>
    obtain ⟨⟨content, hcontent⟩, hrest⟩ := List.forall_mem_cons.mp hbefore
    rw [List.length_cons, Nat.mul_add, Nat.add_comm] at room
    obtain ⟨element, middle, helement, -, takes⟩ :=
      emitElement_of_content names room.first hcontent
    obtain ⟨last, hlast, takes'⟩ := ih (room.rest takes) hrest
    refine ⟨last, ?_, ?_⟩
    · rw [List.cons_append, emitAll, bind_eq_of_ok helement, bind_eq_of_error hlast]
    · unfold Takes at takes takes' ⊢
      rw [List.length_cons]
      omega

/-- Either all declarations have contents, or there is a first one without. -/
theorem contents_or_first (emitter : Emitter) (declarations : List Declaration) :
    (∀ declaration ∈ declarations, ∃ content,
      declaredContent emitter declaration = .ok content) ∨
      ∃ before declaration after fault, declarations = before ++ declaration :: after ∧
        (∀ earlier ∈ before, ∃ content, declaredContent emitter earlier = .ok content) ∧
        declaredContent emitter declaration = .error fault := by
  induction declarations with
  | nil => exact .inl (by simp)
  | cons first declarations ih =>
    cases hfirst : declaredContent emitter first with
    | error fault => exact .inr ⟨[], first, declarations, fault, rfl, by simp, hfirst⟩
    | ok content =>
      rcases ih with hall | ⟨before, declaration, after, fault, rfl, hbefore, hfault⟩
      · exact .inl (List.forall_mem_cons.mpr ⟨⟨content, hfirst⟩, hall⟩)
      · exact .inr ⟨first :: before, declaration, after, fault, rfl,
          List.forall_mem_cons.mpr ⟨⟨content, hfirst⟩, hbefore⟩, hfault⟩

/-- The closing report touches neither the elements nor the counter. -/
theorem emit_of_ok {emitter : Emitter} {elements : List Element} {last : State}
    (h : emitAll emitter declarations state = .ok elements last) :
    emit emitter declarations state =
      .ok elements { last with log := last.log ++ [emittedRecord elements.length] } := by
  rw [emit, bind_eq_of_ok h]
  rfl

theorem emit_of_error {emitter : Emitter} {fault : Fault} {last : State}
    (h : emitAll emitter declarations state = .error fault last) :
    emit emitter declarations state = .error fault last := by
  rw [emit, bind_eq_of_error h]

end Elements

/-! ### Frames of elements -/

/-- The texts of an element with gaps for the digits of two ids. -/
structure ElementFrame where
  idConstant : Frame
  fragment : Frame
  staticName : Frame
  source : Frame

/-- An element with the digits of two ids in its gaps. -/
def ElementFrame.fill (frame : ElementFrame) (fragmentId constantId : UInt64) : Element where
  idConstant := String.ofList (frame.idConstant.fill fragmentId constantId)
  fragment := String.ofList (frame.fragment.fill fragmentId constantId)
  staticName := String.ofList (frame.staticName.fill fragmentId constantId)
  source := String.ofList (frame.source.fill fragmentId constantId)

section Frames

variable (names : Names)

theorem framed_staticName :
    Framed fun fragmentId _ => names.fragmentStart ++ toString fragmentId.toNat :=
  (Framed.const _).append .fragmentId

theorem framed_constant (type ident : String) :
    Framed fun _ constantId => (names.constantOf type ident constantId).source := by
  simp only [Names.constantOf, rendered_idConstant, rust_idConstant]
  exact (Framed.const _ |>.append (((Framed.const _).append .literal).append (.const _))).append
    (.const _)

/-- The fragment without the line feed at its end. -/
theorem framed_fragment (expression : String) : Framed fun fragmentId _ =>
    rust (.fragment (names.fragmentStart ++ toString fragmentId.toNat) expression) := by
  simp only [rust_fragment]
  exact (((Framed.const _ |>.append (framed_staticName names)).append (.const _)).append
    (.const _)).append (.const _)

/-- The id constant and the fragment of an element, without the line feed at the end. -/
theorem framed_body (type ident expression : String) : Framed fun fragmentId constantId =>
    (names.constantOf type ident constantId).source ++ "\n" ++
      rust (.fragment (names.fragmentStart ++ toString fragmentId.toNat) expression) :=
  ((framed_constant names type ident).append (.const _)).append (framed_fragment names expression)

theorem framed_source (type ident expression : String) : Framed fun fragmentId constantId =>
    let body := (names.constantOf type ident constantId).source ++ "\n" ++
      rendered (.fragment (names.fragmentStart ++ toString fragmentId.toNat) expression)
    if type = "module" then rendered (.moduleScope ident body) else body := by
  have hbody := framed_body names type ident expression
  simp only [rendered_fragment, ← String.append_assoc]
  split
  · refine hbody.moduleScope (c := ';') (by decide) (fun fragmentId constantId => ?_) ident
    rw [rust_fragment, ← String.append_assoc]
    exact exists_toList_append _ [';', '\n', '\x7d'] rfl
  · exact hbody.append (.const _)

/-- The texts of an element depend on the two ids only by their digits. -/
theorem exists_elementFrame (declaration : Declaration) (content : Concatenation) :
    ∃ frame : ElementFrame, ∀ fragmentId constantId,
      names.element declaration content fragmentId constantId =
        frame.fill fragmentId constantId := by
  let expression := content.expression names.cratePath
  obtain ⟨idConstant, hidConstant⟩ :=
    framed_constant names declaration.typeName declaration.ident
  obtain ⟨fragment, hfragment⟩ := (framed_fragment names expression).append (.const "\n")
  obtain ⟨staticName, hstaticName⟩ := framed_staticName names
  obtain ⟨source, hsource⟩ :=
    framed_source names declaration.typeName declaration.ident expression
  refine ⟨⟨idConstant, fragment, staticName, source⟩, fun fragmentId constantId => ?_⟩
  rw [ElementFrame.fill, ← hidConstant, ← hfragment, ← hstaticName, ← hsource]
  simp only [String.ofList_toList, ← rendered_fragment]
  rfl

end Frames

/-! ### Emission -/

/-- Emission in closed form. While there is room, an element is that of its declaration at two
counter values that depend only on its place, so it is a frame filled in, and the frame does not
depend on the other declarations. The only thing that stops an emission is the first declaration
without a content; the counter is then left where that declaration has found it. -/
theorem emit_numbered (names : Names) :
    ∃ frame : Declaration → ElementFrame,
      ∀ (declarations : List Declaration) (state : State),
        Room state (2 * declarations.length) →
          match emit { names } declarations state with
          | .ok elements last =>
            elements.length = declarations.length ∧
              last.counter.next = state.counter.next + 2 * declarations.length ∧
              ∀ (i : Nat) declaration element, declarations[i]? = some declaration →
                elements[i]? = some element →
                  ∃ content fragmentId constantId,
                    declaredContent { names } declaration = .ok content ∧
                    idAt (fragmentSeed declaration) (state.counter.next + 2 * i) =
                      .ok fragmentId ∧
                    idAt (constantSeed declaration) (state.counter.next + 2 * i + 1) =
                      .ok constantId ∧
                    element = names.element declaration content fragmentId constantId ∧
                    element = (frame declaration).fill fragmentId constantId
          | .error fault last =>
            ∃ before declaration after, declarations = before ++ declaration :: after ∧
              (∀ earlier ∈ before, ∃ content,
                declaredContent { names } earlier = .ok content) ∧
              declaredContent { names } declaration = .error fault ∧
              last.counter.next = state.counter.next + 2 * before.length := by
  have hframe (declaration : Declaration) : ∃ frame : ElementFrame,
      ∀ content fragmentId constantId, declaredContent { names } declaration = .ok content →
        names.element declaration content fragmentId constantId =
          frame.fill fragmentId constantId := by
    cases hcontent : declaredContent { names } declaration with
    | error fault => exact ⟨⟨[], [], [], []⟩, fun _ _ _ h => nomatch h⟩
    | ok content =>
      obtain ⟨frame, hframe⟩ := exists_elementFrame names declaration content
      refine ⟨frame, fun content' fragmentId constantId h => ?_⟩
      obtain rfl := Except.ok.inj h
      exact hframe fragmentId constantId
  choose frame hframe using hframe
  refine ⟨frame, fun declarations state room => ?_⟩
  rcases contents_or_first { names } declarations with
    hall | ⟨before, declaration, after, fault, rfl, hbefore, hfault⟩
  · obtain ⟨elements, last, helements, hlength, takes, hnumbered⟩ :=
      emitAll_of_contents names room hall
    rw [emit_of_ok helements]
    refine ⟨hlength, by simpa [Takes] using takes, fun i declaration element hi hi' => ?_⟩
    obtain ⟨content, fragmentId, constantId, hcontent, hfragmentId, hconstantId, rfl⟩ :=
      hnumbered i declaration element hi hi'
    exact ⟨content, fragmentId, constantId, hcontent, hfragmentId, hconstantId, rfl,
      hframe declaration content fragmentId constantId hcontent⟩
  · rw [List.length_append, Nat.mul_add] at room
    obtain ⟨last, hlast, takes⟩ := emitAll_of_first names after room.first hbefore hfault
    rw [emit_of_error hlast]
    exact ⟨before, declaration, after, rfl, hbefore, hfault, by simpa [Takes] using takes⟩

/-- Two classes of one name and identifier, from five on: their elements differ by their ids. -/
theorem emit_numbered_twice :
    let gadget : Declaration := ⟨"Gadget", "gadget", .ofClass⟩
    let state : State := { counter := ⟨5⟩ }
    ∃ elements last, emit {} [gadget, gadget] state = .ok elements last ∧
      last.counter.next = 9 ∧
      ∃ content fragmentId constantId, idAt (seedOf "class" "gadget") 7 = .ok fragmentId ∧
        idAt (seedOf "class" "gadget") 8 = .ok constantId ∧
        elements[1]? = some (({} : Names).element gadget content fragmentId constantId) := by
  have hcontent : (declaredContent {} ⟨"Gadget", "gadget", .ofClass⟩).toOption.isSome = true := rfl
  intro gadget state
  obtain ⟨frame, hemit⟩ := emit_numbered {}
  have hroom : Room state (2 * [gadget, gadget].length) := ⟨by decide, by decide⟩
  have hresult := hemit [gadget, gadget] state hroom
  cases hrun : emit {} [gadget, gadget] state with
  | error fault last =>
    rw [hrun] at hresult
    obtain ⟨before, declaration, after, hlist, -, hfault, -⟩ := hresult
    have hmem : declaration ∈ [gadget, gadget] := by simp [hlist]
    obtain rfl : declaration = gadget := by simpa using hmem
    rw [hfault] at hcontent
    cases hcontent
  | ok elements last =>
    rw [hrun] at hresult
    obtain ⟨hlength, hlast, hall⟩ := hresult
    obtain ⟨element, helement⟩ : ∃ element, elements[1]? = some element :=
      ⟨_, List.getElem?_eq_getElem (by rw [hlength]; decide)⟩
    obtain ⟨content, fragmentId, constantId, -, hfragmentId, hconstantId, rfl, -⟩ :=
      hall 1 gadget element rfl helement
    exact ⟨elements, last, rfl, hlast, content, fragmentId, constantId, hfragmentId, hconstantId,
      helement⟩

end Introspection.Emission
