import Introspection.Emission.Fragment
import Introspection.Emission.Template
import Introspection.Identity.Counter
import Introspection.Log.Record

/-!
# Emitting fragments and id constants

An emitter has names and templates that stay the same, and runs over a state: the counter of ids
and what was reported so far. A run that fails keeps the state it had reached.

A fragment is serialized before its id is allocated, so a fragment that cannot be serialized takes
no counter value; an id constant is allocated before its text is rendered. Nothing else touches
the counter.

## Main definitions

* `Emission.Emitter`, `Emission.State`, `Emission.Fault`
* `Emission.Run` — a computation over the state that may fail
* `Emission.moduleFragment`, `Emission.classFragment`, `Emission.functionFragment`
* `Emission.idConstantFor`
* `Emission.renderFragment`, `Emission.renderElement`
-/

namespace Introspection.Emission

open Introspection.Metadata (Node Concatenation)
open Introspection.Binding (Argument Signature)

/-- What stays the same throughout an emission. -/
structure Emitter where
  names : Names := {}
  templates : Templates := {}

/-- The counter of ids, and the records so far. -/
structure State where
  counter : Identity.Counter := {}
  log : List Log.Record := []
deriving Inhabited

/-- Why something cannot be emitted. -/
inductive Fault where
  | signatureMismatch (function : String)
  | metadata (fault : Metadata.Fault)
  | counter (fault : Identity.CounterFault)
  | template (fault : TemplateFault)
  | noSignature (function : String)
  | unknownType (element type : String)
deriving Inhabited

/-- The wording of a fault. -/
def Fault.message : Fault → String
  | .signatureMismatch function =>
    function ++ ": fewer argument descriptors than parameters in the Python signature"
  | .metadata fault => fault.message
  | .counter fault => fault.message
  | .template fault => fault.message
  | .noSignature function => "Function " ++ Text.quoted function ++ " has no signature"
  | .unknownType element type =>
    "Element " ++ Text.quoted element ++ " has unknown type " ++ Text.quoted type

/-- A computation over the state. A failure keeps the state that was reached. -/
abbrev Run := EStateM Fault State

/-- A result that does not touch the state. -/
def Run.ofExcept {ε α : Type} (wrap : ε → Fault) : Except ε α → Run α
  | .ok value => pure value
  | .error fault => throw (wrap fault)

/-- Allocates an id. -/
def Run.allocate (seed : Datum) : Run UInt64 := fun state =>
  let (id, counter) := Identity.allocate state.counter seed
  match id with
  | .ok id => .ok id { state with counter }
  | .error fault => .error (.counter fault) { state with counter }

/-- Adds a record. -/
def Run.report (record : Log.Record) : Run Unit := fun state =>
  .ok () { state with log := state.log ++ [record] }

/-- A serialized fragment and the name of the constant that stores it. -/
structure Fragment where
  id : UInt64
  staticName : String
  content : Concatenation

/-- The record of an emitted fragment. -/
def Fragment.record (fragment : Fragment) : Log.Record :=
  ⟨.debug, Log.loggerName (some "fragments"),
    "Emitted fragment " ++ fragment.staticName ++ " (" ++
      toString fragment.content.pieces.length ++ " pieces)"⟩

/-- An id and the source text of the constant that exposes it. -/
structure IdConstant where
  value : String
  source : String
deriving DecidableEq, Inhabited, Repr

/-- The seed of something that has a type and a name or identifier. -/
def seedOf (type name : String) : Datum :=
  .tuple [.str type, .str name]

/-- The fragment of an id and a content. -/
def Emitter.fragmentOf (emitter : Emitter) (content : Concatenation) (id : UInt64) : Fragment where
  id := id
  staticName := emitter.names.fragmentStart ++ toString id.toNat
  content := content

/-- Serializes a node and allocates the id of its fragment. -/
def emitNode (emitter : Emitter) (node : Node) (seed : Datum) : Run Fragment := do
  let content ← Run.ofExcept .metadata (node.serialize emitter.names.idConstant)
  let id ← Run.allocate seed
  let fragment := emitter.fragmentOf content id
  Run.report fragment.record
  return fragment

/-- The fragment of a module. -/
def moduleFragment (emitter : Emitter) (name : String) (members : List String) : Run Fragment :=
  emitNode emitter (moduleNode name members) (seedOf "module" name)

/-- The fragment of a class. -/
def classFragment (emitter : Emitter) (ident name : String) : Run Fragment :=
  emitNode emitter (classNode ident name) (seedOf "class" ident)

/-- The tree of a signature of a function. -/
def Emitter.signatureNode (emitter : Emitter) (signature : Signature) (function : String) :
    Except Fault Node :=
  match signatureNode? emitter.names.cratePath signature with
  | some node => .ok node
  | none => .error (.signatureMismatch function)

/-- The fragment of a function. -/
def functionFragment (emitter : Emitter) (ident name : String) (signature : Signature) :
    Run Fragment := do
  let signature ← Run.ofExcept id (emitter.signatureNode signature name)
  emitNode emitter (functionNode ident name signature) (seedOf "function" ident)

/-- Allocates an id and renders the constant that exposes it. -/
def idConstantFor (emitter : Emitter) (type ident : String) : Run IdConstant := do
  let id ← Run.allocate (seedOf type ident)
  let value := toString id.toNat
  let source ← Run.ofExcept .template
    (emitter.templates.render (.idConstant type ident emitter.names.idConstant value))
  return ⟨value, source⟩

/-- The source text of a fragment. -/
def renderFragment (emitter : Emitter) (fragment : Fragment) : Except TemplateFault String :=
  emitter.templates.render
    (.fragment fragment.staticName (fragment.content.expression emitter.names.cratePath))

/-- The source text of an element: its id constant and its fragment, for a module in a scope of
its own. -/
def renderElement (emitter : Emitter) (type ident : String) (constant : IdConstant)
    (fragment : Fragment) : Except TemplateFault String :=
  match renderFragment emitter fragment with
  | .error fault => .error fault
  | .ok text =>
    let body := constant.source ++ "\n" ++ text
    if type = "module" then emitter.templates.render (.moduleScope ident body) else .ok body

end Introspection.Emission
