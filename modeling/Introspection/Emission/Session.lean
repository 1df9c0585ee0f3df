import Introspection.Emission.Emitter

/-!
# Sessions with an emitter

A session is a sequence of steps with one emitter. Fragments and id constants that were made are
remembered by number, in the order in which they were made, for later steps to render. A step that
fails leaves the session as the failure left it, and the next step goes on from there.

## Main definitions

* `Emission.Step`, `Emission.Answer`
* `Emission.Session`, `Emission.Session.step`, `Emission.Session.run`
-/

namespace Introspection.Emission

open Introspection.Metadata (Concatenation)
open Introspection.Binding (Argument Signature)

/-- A step of a session. -/
inductive Step where
  | module (name : String) (members : List String)
  | class (ident name : String)
  | function (ident name : String) (signature : Signature)
  | idConstant (type ident : String)
  | render (fragment : Nat)
  | element (type ident : String) (constant fragment : Nat)
  | signature (signature : Signature) (function : String)
  | parameter (name kind : String) (argument : Argument)
  | hint (argument : Argument)

/-- The answer to a step. -/
inductive Answer where
  | fragment (value : Fragment)
  | constant (value : IdConstant)
  | text (value : String)
  | content (value : Concatenation)
  /-- A step named a fragment or a constant that was not made. -/
  | unknownNumber

/-- The state of a session, and what it remembers. -/
structure Session where
  state : State := {}
  fragments : List Fragment := []
  constants : List IdConstant := []

namespace Session

/-- Runs a computation in the state of a session. -/
def perform {α : Type} (session : Session) (run : Run α) : Except Fault α × Session :=
  match run session.state with
  | .ok value state => (.ok value, { session with state })
  | .error fault state => (.error fault, { session with state })

/-- Makes a fragment and remembers it. -/
def make (session : Session) (run : Run Fragment) : Except Fault Answer × Session :=
  match session.perform run with
  | (.ok fragment, session) =>
    (.ok (.fragment fragment), { session with fragments := session.fragments ++ [fragment] })
  | (.error fault, session) => (.error fault, session)

/-- The serialization of a node, or the fault that forbids it. -/
def contentAnswer (node : Except Fault Metadata.Node) : Except Fault Answer :=
  match node with
  | .error fault => .error fault
  | .ok node =>
    match node.serialize Metadata.defaultIdConstant with
    | .ok content => .ok (.content content)
    | .error fault => .error (.metadata fault)

/-- A rendered text, or the fault that forbids it. -/
def textAnswer : Except TemplateFault String → Except Fault Answer
  | .ok text => .ok (.text text)
  | .error fault => .error (.template fault)

/-- Answers a step. -/
def step (emitter : Emitter) (session : Session) : Step → Except Fault Answer × Session
  | .module name members => session.make (moduleFragment emitter name members)
  | .class ident name => session.make (classFragment emitter ident name)
  | .function ident name signature => session.make (functionFragment emitter ident name signature)
  | .idConstant type ident =>
    match session.perform (idConstantFor emitter type ident) with
    | (.ok constant, session) =>
      (.ok (.constant constant), { session with constants := session.constants ++ [constant] })
    | (.error fault, session) => (.error fault, session)
  | .render number =>
    match session.fragments[number]? with
    | some fragment => (textAnswer (renderFragment emitter fragment), session)
    | none => (.ok .unknownNumber, session)
  | .element type ident constant fragment =>
    match session.constants[constant]?, session.fragments[fragment]? with
    | some constant, some fragment =>
      (textAnswer (renderElement emitter type ident constant fragment), session)
    | _, _ => (.ok .unknownNumber, session)
  | .signature signature function =>
    (contentAnswer (emitter.signatureNode signature function), session)
  | .parameter name kind argument =>
    (contentAnswer (.ok (parameterNode emitter.names.cratePath name kind argument)), session)
  | .hint argument =>
    (.ok (.text (hintExpression emitter.names.cratePath argument)), session)

/-- Answers steps in order. -/
def run (emitter : Emitter) (session : Session) : List Step → List (Except Fault Answer) × Session
  | [] => ([], session)
  | step :: steps =>
    let (answer, session) := session.step emitter step
    let (answers, session) := run emitter session steps
    (answer :: answers, session)

end Session

end Introspection.Emission
