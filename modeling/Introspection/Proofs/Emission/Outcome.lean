import Introspection.Proofs.Declaration.Reading
import Introspection.Proofs.Declaration.Tree
import Introspection.Proofs.Emission.ClosedForm
import Introspection.Proofs.Emission.Description
import Introspection.Proofs.Emission.Parameters
import Introspection.Proofs.Metadata.Faults

/-!
# What may still go wrong with read declarations

Reading declarations settles everything about their shape. Two things are left for emission to find
out: a function may have fewer arguments than parameters, and a text may have a control character.
Both can be told from the declaration alone. Missing arguments come first, as there is no tree to
look for texts in then; the texts come in the order in which the fragment holds them.

## Main definitions

* `Emission.declaredTexts` — the texts of an element that may have control characters
* `Emission.FailsWith` — why nothing can be emitted for an element

## Main results

* `Emission.declaredContent_eq_error_iff` — the fault of an element by its declaration
* `Emission.emit_of_allOfDocument` — reading a document, and emitting what it declares
-/

namespace Introspection.Emission

open Introspection.Binding (Argument Signature)
open Introspection.Metadata (Clean Concatenation Node textFault? textFault?_eq_none_iff
  findSome?_cons_eq_or findSome?_textFault?_eq_some_iff)
open Introspection.Declaration (Declares HasElements Sound SoundBody allOfDocument
  sound_of_ofDocument)

/-! ### The faults of trees -/

/-- The keys and the types that trees of elements have can be written. -/
theorem textFault?_fixed : ∀ text ∈ ["type", "id", "name", "members", "signature", "parameters",
    "kind", "has_default", "annotation", "module", "class", "function"],
    textFault? text = none := by
  decide

theorem textFault?_tag (kind : Api.Kind) : textFault? kind.tag = none := by
  cases kind <;> decide

section Trees

variable (cratePath : String)

theorem fault?_parameterNode (name : String) (kind : Api.Kind) (argument : Argument) :
    (parameterNode cratePath name kind.tag argument).fault? = textFault? name := by
  have hfixed := textFault?_fixed
  simp only [List.forall_mem_cons] at hfixed
  rw [parameterNode]
  split <;> simp [Node.fault?, Node.membersFault?, hfixed, textFault?_tag]

theorem fault?_variadicNode (name : String) (kind : Api.Kind) :
    (variadicNode name kind).fault? = textFault? name := by
  have hfixed := textFault?_fixed
  simp only [List.forall_mem_cons] at hfixed
  simp [variadicNode, Node.fault?, Node.membersFault?, hfixed, textFault?_tag]

theorem fault?_node (entry : Entry) : (entry.node cratePath).fault? = textFault? entry.name := by
  cases entry with
  | matched kind name argument => exact fault?_parameterNode cratePath name kind argument
  | variadic kind name => exact fault?_variadicNode name kind

/-- A signature has a tree if no arguments are missing, and its first fault is the first one of the
names of its parameters. -/
theorem fault?_signatureNode {signature : Signature} (enough : ¬ LacksArguments signature) :
    ∃ node, signatureNode? cratePath signature = some node ∧
      node.fault? = (parameterNames signature).findSome? textFault? := by
  have hfixed := textFault?_fixed
  simp only [List.forall_mem_cons] at hfixed
  have hfaults : Node.fault? ∘ Entry.node cratePath = textFault? ∘ Entry.name :=
    funext (fault?_node cratePath)
  refine ⟨_, signatureNode?_eq_some cratePath enough, ?_⟩
  rw [← map_name_signatureEntries enough, List.findSome?_map, ← hfaults, ← List.findSome?_map]
  simp only [Node.fault?, Node.membersFault?, Node.itemsFault?_eq_findSome?, hfixed,
    Option.none_or, Option.or_none]

theorem fault?_moduleNode (name : String) (members : List String) :
    (moduleNode name members).fault? = textFault? name := by
  have hfixed := textFault?_fixed
  simp only [List.forall_mem_cons] at hfixed
  have hmembers : (members.map fun member => Node.ref (some member)).findSome? Node.fault? =
      none := by
    simp [List.findSome?_eq_none_iff, Node.fault?]
  simp [moduleNode, Node.fault?, Node.membersFault?, Node.itemsFault?_eq_findSome?, hfixed,
    hmembers]

theorem fault?_classNode (ident name : String) :
    (classNode ident name).fault? = textFault? name := by
  have hfixed := textFault?_fixed
  simp only [List.forall_mem_cons] at hfixed
  simp [classNode, Node.fault?, Node.membersFault?, hfixed]

theorem fault?_functionNode (ident name : String) (signature : Node) :
    (functionNode ident name signature).fault? = (textFault? name).or signature.fault? := by
  have hfixed := textFault?_fixed
  simp only [List.forall_mem_cons] at hfixed
  simp [functionNode, Node.fault?, Node.membersFault?, hfixed]

end Trees

/-! ### The fault of an element -/

/-- The texts of an element that may have control characters, in the order of its fragment: its
name, and then those of the parameters of a function. -/
def declaredTexts (declaration : Declaration) : List String :=
  match declaration.body with
  | .ofFunction (some signature) => declaration.name :: parameterNames signature
  | _ => [declaration.name]

/-- Why nothing can be emitted for an element. -/
def declaredFault? (declaration : Declaration) : Option Fault :=
  match declaration.body with
  | .ofFunction none => some (.noSignature declaration.name)
  | .unknown type => some (.unknownType declaration.name type)
  | .ofFunction (some signature) =>
    if LacksArguments signature then some (.signatureMismatch declaration.name)
    else ((declaredTexts declaration).findSome? textFault?).map .metadata
  | .ofModule _ | .ofClass => ((declaredTexts declaration).findSome? textFault?).map .metadata

theorem serialized_eq_error_iff {emitter : Emitter} {node : Node} {fault : Fault} :
    emitter.serialized node = .error fault ↔ node.fault?.map .metadata = some fault := by
  rw [Emitter.serialized]
  cases hfault : node.fault? with
  | some found =>
    rw [Node.serialize_eq_error_iff.mpr hfault]
    simp [Except.mapError]
  | none =>
    cases hserialize : node.serialize emitter.names.idConstant with
    | ok content => simp [Except.mapError]
    | error other =>
      rw [Node.serialize_eq_error_iff.mp hserialize] at hfault
      cases hfault

/-- The fault of an element is found in its declaration, whatever the names of the emission. -/
theorem declaredContent_eq_error_iff {emitter : Emitter} {declaration : Declaration}
    {fault : Fault} :
    declaredContent emitter declaration = .error fault ↔
      declaredFault? declaration = some fault := by
  obtain ⟨name, ident, body⟩ := declaration
  cases body with
  | ofModule members =>
    rw [declaredContent, serialized_eq_error_iff, fault?_moduleNode, declaredFault?, declaredTexts]
    simp
  | ofClass =>
    rw [declaredContent, serialized_eq_error_iff, fault?_classNode, declaredFault?, declaredTexts]
    simp
  | unknown type => simp [declaredContent, declaredFault?]
  | ofFunction signature =>
    cases signature with
    | none => simp [declaredContent, declaredFault?]
    | some signature =>
      show emitter.functionContent ident name signature = .error fault ↔ _
      rw [Emitter.functionContent, Emitter.signatureNode, declaredFault?]
      dsimp only
      split_ifs with hlacks
      · rw [signatureNode?_eq_none _ hlacks]
        simp
      · obtain ⟨node, hnode, hfault⟩ := fault?_signatureNode emitter.names.cratePath hlacks
        rw [hnode]
        dsimp only
        rw [serialized_eq_error_iff, fault?_functionNode, hfault, declaredTexts,
          findSome?_cons_eq_or]

/-- Why nothing can be emitted for an element that was read: arguments are missing, or else there is
a first text with a control character. -/
inductive FailsWith (declaration : Declaration) : Fault → Prop
  | mismatch {signature : Signature} (function : declaration.body = .ofFunction (some signature))
      (lacks : LacksArguments signature) :
      FailsWith declaration (.signatureMismatch declaration.name)
  | character {before after : List String} {text : String} {c : Char}
      (enough : ∀ signature, declaration.body = .ofFunction (some signature) →
        ¬ LacksArguments signature)
      (texts : declaredTexts declaration = before ++ text :: after)
      (clean : ∀ earlier ∈ before, Clean earlier)
      (first : text.toList.find? (·.toNat < 0x20) = some c) :
      FailsWith declaration (.metadata (.controlCharacter c text))

theorem failsWith_of_declaredFault? {declaration : Declaration} {fault : Fault}
    (sound : declaration.Sound) (h : declaredFault? declaration = some fault) :
    FailsWith declaration fault := by
  have htexts (enough : ∀ signature, declaration.body = .ofFunction (some signature) →
      ¬ LacksArguments signature)
      (h : ((declaredTexts declaration).findSome? textFault?).map .metadata = some fault) :
      FailsWith declaration fault := by
    obtain ⟨found, hfound, rfl⟩ := Option.map_eq_some_iff.mp h
    obtain ⟨before, text, after, c, htexts, hclean, hc, rfl⟩ :=
      findSome?_textFault?_eq_some_iff.mp hfound
    exact .character enough htexts hclean hc
  have hbody := sound.body
  rw [declaredFault?] at h
  split at h
  · next hfunction => rw [hfunction] at hbody; exact hbody.elim
  · next type hunknown => rw [hunknown] at hbody; exact hbody.elim
  · next signature hfunction =>
    split_ifs at h with hlacks
    · obtain rfl := Option.some.inj h
      exact .mismatch hfunction hlacks
    · refine htexts (fun other hother => ?_) h
      cases hfunction.symm.trans hother
      exact hlacks
  · next members hmodule => exact htexts (by simp [hmodule]) h
  · next hclass => exact htexts (by simp [hclass]) h

/-- A sound element has no fault if and only if it is proper. -/
theorem declaredFault?_eq_none_iff {declaration : Declaration} (sound : declaration.Sound) :
    declaredFault? declaration = none ↔ declaration.Proper := by
  have hbody := sound.body
  have htexts : ((declaredTexts declaration).findSome? textFault?).map Fault.metadata = none ↔
      ∀ text ∈ declaredTexts declaration, Clean text := by
    simp only [Option.map_eq_none_iff, List.findSome?_eq_none_iff, textFault?_eq_none_iff]
  rw [declaredFault?]
  split
  · next hfunction => rw [hfunction] at hbody; exact hbody.elim
  · next type hunknown => rw [hunknown] at hbody; exact hbody.elim
  · next signature hfunction =>
    split_ifs with hlacks
    · refine iff_of_false (by simp) fun hproper => ?_
      have hsignature := hproper.body
      rw [hfunction] at hsignature
      exact Nat.not_lt.mpr hsignature.enough hlacks
    · rw [htexts, declaredTexts, hfunction]
      simp only [List.forall_mem_cons]
      constructor
      · rintro ⟨hname, hparameters⟩
        exact ⟨hname, by rw [hfunction]; exact ⟨Nat.le_of_not_lt hlacks, hparameters⟩⟩
      · intro hproper
        have hsignature := hproper.body
        rw [hfunction] at hsignature
        exact ⟨hproper.clean, hsignature.clean⟩
  · next members hmodule =>
    rw [htexts, declaredTexts, hmodule]
    simp only [List.forall_mem_singleton]
    exact ⟨fun hname => ⟨hname, by rw [hmodule]; trivial⟩, fun hproper => hproper.clean⟩
  · next hclass =>
    rw [htexts, declaredTexts, hclass]
    simp only [List.forall_mem_singleton]
    exact ⟨fun hname => ⟨hname, by rw [hclass]; trivial⟩, fun hproper => hproper.clean⟩

theorem exists_content_iff (emitter : Emitter) {declaration : Declaration}
    (sound : declaration.Sound) :
    (∃ content, declaredContent emitter declaration = .ok content) ↔ declaration.Proper := by
  rw [← declaredFault?_eq_none_iff sound]
  cases hcontent : declaredContent emitter declaration with
  | error fault => simp [declaredContent_eq_error_iff.mp hcontent]
  | ok content =>
    refine iff_of_true ⟨content, rfl⟩ ?_
    cases hfault : declaredFault? declaration with
    | none => rfl
    | some fault =>
      rw [declaredContent_eq_error_iff.mpr hfault] at hcontent
      cases hcontent

/-! ### Emission of what was read -/

/-- Sound declarations are emitted while there is room if and only if all of them are proper. If
not, emission ends with the fault of the first one that is not. -/
theorem emit_of_sound (names : Names) {declarations : List Declaration}
    (sound : ∀ declaration ∈ declarations, declaration.Sound) {state : State}
    (room : Room state (2 * declarations.length)) :
    ((∃ elements last, emit { names } declarations state = .ok elements last) ↔
      ∀ declaration ∈ declarations, declaration.Proper) ∧
      ∀ fault last, emit { names } declarations state = .error fault last →
        ∃ before first after, declarations = before ++ first :: after ∧
          (∀ earlier ∈ before, earlier.Proper) ∧ ¬ first.Proper ∧ FailsWith first fault := by
  rcases contents_or_first { names } declarations with
    hall | ⟨before, first, after, fault, rfl, hbefore, hfault⟩
  · obtain ⟨elements, last, helements, -⟩ := emitAll_of_contents names room hall
    rw [emit_of_ok helements]
    refine ⟨iff_of_true ⟨_, _, rfl⟩ fun declaration hmem => ?_, fun _ _ h => nomatch h⟩
    exact (exists_content_iff { names } (sound declaration hmem)).mp (hall declaration hmem)
  · rw [List.length_append, Nat.mul_add] at room
    obtain ⟨last, hlast, -⟩ := emitAll_of_first names after room.first hbefore hfault
    have hfirst : first.Sound := sound first (by simp)
    have hproper : ¬ first.Proper := by
      rw [← exists_content_iff { names } hfirst, hfault]
      simp
    rw [emit_of_error hlast]
    constructor
    · exact iff_of_false (by simp) fun hall => hproper (hall first (by simp))
    · intro fault' last' h
      cases h
      refine ⟨before, first, after, rfl, fun earlier hmem => ?_, hproper, ?_⟩
      · have hsound : earlier.Sound := sound earlier (by simp [hmem])
        exact (exists_content_iff { names } hsound).mp (hbefore earlier hmem)
      · exact failsWith_of_declaredFault? hfirst (declaredContent_eq_error_iff.mp hfault)

/-- Declarations are refused, or they are read and sound. What was read is emitted, while there is
room, if and only if it is proper, and if not, emission ends with the fault of the first element
that is not. A fault of emission is never about the shape of declarations. -/
theorem emit_of_allOfDocument (document : Yaml.Document) :
    (∃ fault, allOfDocument document = .error fault) ∨
      ∃ declarations, allOfDocument document = .ok declarations ∧
        (∃ elements, HasElements document elements ∧
          List.Forall₂ (Declares document.places) elements declarations) ∧
        (∀ declaration ∈ declarations, declaration.Sound) ∧
        ∀ (names : Names) (state : State), Room state (2 * declarations.length) →
          ((∃ elements last, emit { names } declarations state = .ok elements last) ↔
            ∀ declaration ∈ declarations, declaration.Proper) ∧
          ∀ fault last, emit { names } declarations state = .error fault last →
            ∃ before first after, declarations = before ++ first :: after ∧
              (∀ earlier ∈ before, earlier.Proper) ∧ ¬ first.Proper ∧ FailsWith first fault := by
  cases hread : allOfDocument document with
  | error fault => exact .inl ⟨fault, rfl⟩
  | ok declarations =>
    obtain ⟨elements, helements, hdeclares, hsound⟩ := sound_of_ofDocument hread
    exact .inr ⟨declarations, rfl, ⟨elements, helements, hdeclares⟩, hsound,
      fun names state room => emit_of_sound names hsound room⟩

/-- A function with a parameter and no argument is read, and its emission ends there. The control
character in its name is not found any more. -/
theorem emit_of_allOfDocument_lacking :
    let json : Json := .object [("elements", .array [
      .object [("type", .str "class"), ("name", .str "A")],
      .object [("type", .str "function"), ("name", .str "f\n"),
        ("signature", .object [("positional", .array [.str "x"])])]])]
    ∃ declarations, allOfDocument (.ofJson json) = .ok declarations ∧ declarations.length = 2 ∧
      ∃ last, emit {} declarations {} = .error (.signatureMismatch "f\n") last := by
  intro json
  let lacking : Declaration := ⟨"f\n", "f\n", .ofFunction (some { positional := ["x"] })⟩
  have hread : allOfDocument (.ofJson json) = .ok [⟨"A", "A", .ofClass⟩, lacking] := rfl
  have hclass : Declaration.Proper ⟨"A", "A", .ofClass⟩ := ⟨by decide, trivial⟩
  have hlacking : ¬ lacking.Proper := fun hproper => absurd hproper.body.enough (by decide)
  obtain ⟨fault, hrefused⟩ | ⟨declarations, hdeclarations, -, -, hemit⟩ :=
    emit_of_allOfDocument (.ofJson json)
  · rw [hread] at hrefused
    cases hrefused
  · obtain rfl := Except.ok.inj (hread.symm.trans hdeclarations)
    obtain ⟨hok, herror⟩ := hemit {} {} ⟨by decide, by decide⟩
    refine ⟨_, hread, rfl, ?_⟩
    cases hrun : emit {} [⟨"A", "A", .ofClass⟩, lacking] {} with
    | ok elements last =>
      exact absurd (hok.mp ⟨elements, last, hrun⟩ lacking (by simp)) hlacking
    | error fault last =>
      obtain ⟨before, first, after, hlist, -, hfirst, hfails⟩ := herror fault last hrun
      have hmem : first ∈ [⟨"A", "A", .ofClass⟩, lacking] := by simp [hlist]
      obtain rfl | rfl : first = ⟨"A", "A", .ofClass⟩ ∨ first = lacking := by simpa using hmem
      · exact absurd hclass hfirst
      · cases hfails with
        | mismatch function lacks => exact ⟨last, rfl⟩
        | character enough => exact absurd (by decide) (enough _ rfl)

end Introspection.Emission
