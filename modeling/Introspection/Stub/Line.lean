import Introspection.Api.Module

/-!
# Stub lines

A stub line declares a class or a function without its body. In the parameter list of a function
a bare slash ends the parameters that are passed by position alone, and a bare star opens those
that are passed by keyword alone, unless a variadic positional parameter has opened them already.
Each marker stands directly before the first parameter that it is needed for, the slash before the
star.

## Main definitions

* `Stub.parameterText` — the text of one parameter
* `Stub.Marks` — which markers are still open
* `Stub.parameterTokens` — parameters and markers in order
* `Stub.functionLine`, `Stub.classLine`
* `Stub.moduleText` — the text of a stub file
-/

namespace Introspection.Stub

open Introspection.Api

/-- The text of a parameter: its stars or its annotation and default. -/
def parameterText (parameter : Parameter) : String :=
  match parameter.kind with
  | .variadicPositional => "*" ++ parameter.name
  | .variadicKeyword => "**" ++ parameter.name
  | _ =>
    parameter.name ++
      (match parameter.hint with
        | some hint => ": " ++ hint
        | none => "") ++
      (if parameter.hasDefault then " = ..." else "")

/-- What the parameters so far were: none at all, only ones passed by position alone, and whether
those passed by keyword alone were opened. -/
structure Marks where
  atStart : Bool := true
  positionalOnly : Bool := true
  keywordOnly : Bool := false
deriving DecidableEq, Repr

/-- Whether a slash is due before a parameter. -/
def Marks.slashBefore (marks : Marks) (parameter : Parameter) : Bool :=
  marks.positionalOnly && parameter.kind != .positionalOnly && !marks.atStart

/-- Whether a star is due before a parameter. -/
def Marks.starBefore (marks : Marks) (parameter : Parameter) : Bool :=
  !marks.keywordOnly && parameter.kind == .keywordOnly

/-- The marks behind a parameter. -/
def Marks.behind (marks : Marks) (parameter : Parameter) : Marks where
  atStart := false
  positionalOnly := marks.positionalOnly && parameter.kind == .positionalOnly
  keywordOnly :=
    marks.keywordOnly || parameter.kind == .keywordOnly || parameter.kind == .variadicPositional

/-- Parameters and the markers between them, in order. -/
def parameterTokens (marks : Marks) : List Parameter → List String
  | [] => []
  | parameter :: rest =>
    (if marks.slashBefore parameter then ["/"] else []) ++
      (if marks.starBefore parameter then ["*"] else []) ++
      parameterText parameter :: parameterTokens (marks.behind parameter) rest

/-- The stub line of a function. -/
def functionLine (function : Function) : String :=
  "def " ++ function.name ++ "(" ++ ", ".intercalate (parameterTokens {} function.parameters) ++
    "): ..."

/-- The stub line of a class. -/
def classLine (value : Api.Class) : String :=
  "class " ++ value.name ++ ": ..."

/-- The text of a stub file: a line for each class and then for each function of the module
itself, each ended by a line feed. -/
def moduleText (module : Module) : String :=
  String.join ((module.classes.map classLine ++ module.functions.map functionLine).map (· ++ "\n"))

end Introspection.Stub
