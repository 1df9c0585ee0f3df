import Introspection.Declaration.Basic
import Introspection.Emission.Emitter

/-!
# Emitting declared elements

Each declared element takes two counter values, one for its fragment and then one for its id
constant. Emission stops at the first element that fails; what came before stays in the state.

## Main definitions

* `Emission.Element`
* `Emission.declaredFragment` — the fragment of a declared element
* `Emission.emitElement`, `Emission.emitAll`
* `Emission.emit` — all elements, with a closing report
-/

namespace Introspection.Emission

/-- The source texts of an emitted element. -/
structure Element where
  idConstant : String
  fragment : String
  staticName : String
  source : String
deriving DecidableEq, Inhabited, Repr

/-- The fragment of a declared element. -/
def declaredFragment (emitter : Emitter) (declaration : Declaration) : Run Fragment :=
  match declaration.body with
  | .ofModule members => moduleFragment emitter declaration.name members
  | .ofClass => classFragment emitter declaration.ident declaration.name
  | .ofFunction none => throw (.noSignature declaration.name)
  | .ofFunction (some signature) =>
    functionFragment emitter declaration.ident declaration.name signature
  | .unknown type => throw (.unknownType declaration.name type)

/-- Emits a declared element. -/
def emitElement (emitter : Emitter) (declaration : Declaration) : Run Element := do
  let fragment ← declaredFragment emitter declaration
  let constant ← idConstantFor emitter declaration.typeName declaration.ident
  let text ← Run.ofExcept .template (renderFragment emitter fragment)
  let source ← Run.ofExcept .template
    (renderElement emitter declaration.typeName declaration.ident constant fragment)
  return ⟨constant.source, text, fragment.staticName, source⟩

/-- Emits declared elements in order. -/
def emitAll (emitter : Emitter) : List Declaration → Run (List Element)
  | [] => return []
  | declaration :: rest => do
    let element ← emitElement emitter declaration
    let elements ← emitAll emitter rest
    return element :: elements

/-- The record that closes an emission. -/
def emittedRecord (count : Nat) : Log.Record :=
  ⟨.info, Log.loggerName (some "declarations"), "Emitted " ++ toString count ++ " fragments"⟩

/-- Emits declared elements in order and reports how many. -/
def emit (emitter : Emitter) (declarations : List Declaration) : Run (List Element) := do
  let elements ← emitAll emitter declarations
  Run.report (emittedRecord elements.length)
  return elements

end Introspection.Emission
