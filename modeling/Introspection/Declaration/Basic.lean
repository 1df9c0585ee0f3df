import Introspection.Binding.Signature

/-!
# Declarations of elements

A declaration names an element of an extension, as its users see it and as its implementation
calls it, and says what it is. What a declarations file yields is always a module, a class or a
function with a signature; declarations built in other ways may lack the signature or be of a
type that nothing can be emitted for.

## Main definitions

* `Declaration`, `Declaration.Body`
* `Declaration.typeName`
-/

namespace Introspection

/-- What a declared element is. -/
inductive Declaration.Body where
  /-- A module and the identifiers of its members. -/
  | ofModule (members : List String)
  | ofClass
  | ofFunction (signature : Option Binding.Signature)
  /-- An element of a type that nothing can be emitted for. -/
  | unknown (type : String)
deriving Inhabited, Repr

/-- A declared element: its name, its identifier in the implementation, and what it is. -/
structure Declaration where
  name : String
  ident : String
  body : Declaration.Body
deriving Inhabited, Repr

/-- The name of the type of a declared element. -/
def Declaration.typeName (declaration : Declaration) : String :=
  match declaration.body with
  | .ofModule _ => "module"
  | .ofClass => "class"
  | .ofFunction _ => "function"
  | .unknown type => type

end Introspection
