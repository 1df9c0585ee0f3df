import Introspection.Api.Signature
import Introspection.Binding.Signature
import Introspection.Metadata.Node
import Introspection.Rust.Lifetime

/-!
# The metadata tree of an element

Every element is described by one object: its type, its id, its name, and what belongs to its
type. Elements refer to each other by id, so no description contains another. A module knows its
own id without a path, as it is emitted in the scope that holds its constant; a class or a
function knows its id by its identifier.

The annotation of a parameter is computed by the build from the type of its argument, lifetimes
erased; an argument inside an option gets the text of the inner type and a mark that it may be
missing; an argument with a converter of its own has no annotation.

## Main definitions

* `Emission.Names` — names used throughout an emission
* `Emission.moduleNode`, `Emission.classNode`, `Emission.functionNode`
* `Emission.signatureNode` — a signature, unless arguments are missing
* `Emission.hintExpression` — the annotation of a parameter
-/

namespace Introspection.Emission

open Introspection.Metadata (Node Concatenation)
open Introspection.Binding (Argument Signature)

/-- Names that an emission uses throughout: the path of the binding crate, what the names of
fragments start with, and the constant that holds an id. -/
structure Names where
  cratePath : String := "pyo3"
  fragmentStart : String := "PYO3_INTROSPECTION_0_"
  idConstant : String := Metadata.defaultIdConstant
deriving DecidableEq, Inhabited, Repr

/-- The expression for the text of a type. -/
def inputType (cratePath type : String) : String :=
  "<" ++ Rust.eraseLifetimes type ++ " as " ++ cratePath ++
    "::impl_::extract_argument::PyFunctionArgument>::INPUT_TYPE"

/-- The expression for the annotation of an argument. -/
def hintExpression (cratePath : String) (argument : Argument) : String :=
  match argument.optionWrapped with
  | some inner =>
    (Concatenation.mk [.computed (inputType cratePath inner), .literal " | None"]).expression
      cratePath
  | none => inputType cratePath argument.type

/-- A parameter with its argument. -/
def parameterNode (cratePath name kind : String) (argument : Argument) : Node :=
  .object ([("name", .str name), ("kind", .str kind), ("has_default", .bool argument.default.isSome)] ++
    match argument.converter with
    | none => [("annotation", .computed (hintExpression cratePath argument))]
    | some _ => [])

/-- A parameter that takes all remaining arguments. -/
def variadicNode (name : String) (kind : Api.Kind) : Node :=
  .object [("name", .str name), ("kind", .str kind.tag)]

/-- The kind of the positional parameter at an index. -/
def positionalKind (positionalOnly : Int) (index : Nat) : Api.Kind :=
  if (index : Int) < positionalOnly then .positionalOnly else .positionalOrKeyword

/-- Positional parameters, the first of them at an index. -/
def positionalNodes (cratePath : String) (positionalOnly : Int) (index : Nat) :
    List (String × Argument) → List Node
  | [] => []
  | (name, argument) :: rest =>
    parameterNode cratePath name (positionalKind positionalOnly index).tag argument ::
      positionalNodes cratePath positionalOnly (index + 1) rest

/-- The parameters of a signature, or `none` if arguments are missing. -/
def parameterNodes? (cratePath : String) (signature : Signature) : Option (List Node) :=
  signature.match?.map fun (positional, keywordOnly) =>
    positionalNodes cratePath signature.positionalOnly 0 positional ++
      (signature.varargs.map fun name => variadicNode name .variadicPositional).toList ++
      (keywordOnly.map fun (name, argument) =>
        parameterNode cratePath name Api.Kind.keywordOnly.tag argument) ++
      (signature.kwargs.map fun name => variadicNode name .variadicKeyword).toList

/-- A signature, or `none` if arguments are missing. -/
def signatureNode? (cratePath : String) (signature : Signature) : Option Node :=
  (parameterNodes? cratePath signature).map fun parameters =>
    .object [("parameters", .array parameters)]

/-- A module with references to its members. -/
def moduleNode (name : String) (members : List String) : Node :=
  .object [("type", .str "module"), ("id", .ref none), ("name", .str name),
    ("members", .array (members.map fun member => .ref (some member)))]

/-- A class. -/
def classNode (ident name : String) : Node :=
  .object [("type", .str "class"), ("id", .ref (some ident)), ("name", .str name)]

/-- A function with its signature. -/
def functionNode (ident name : String) (signature : Node) : Node :=
  .object [("type", .str "function"), ("id", .ref (some ident)), ("name", .str name),
    ("signature", signature)]

end Introspection.Emission
