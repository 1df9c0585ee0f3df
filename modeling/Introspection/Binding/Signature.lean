/-!
# Signatures as the binding layer knows them

The binding layer knows a function twice: by the arguments that it extracts, each with a type of
the implementing language and a few attributes, and by the parameters that callers see. The two
lists are matched in order; arguments that belong to no parameter of their own are marked as not
regular and are passed over.

## Main definitions

* `Binding.Argument`, `Binding.Signature`
* `Binding.Signature.regularArguments`
* `Binding.pair` — names matched with arguments
* `Binding.Signature.match?` — the arguments of the positional and of the keyword-only parameters
-/

namespace Introspection.Binding

/-- What the binding layer knows of an extracted argument. -/
structure Argument where
  type : String
  default : Option String := none
  /-- The type inside an option, if the argument is one. -/
  optionWrapped : Option String := none
  /-- The function that converts the argument, if not its type. -/
  converter : Option String := none
  /-- Whether the argument belongs to a parameter of its own. -/
  regular : Bool := true
deriving DecidableEq, Inhabited, Repr

/-- The arguments of a function and the parameters that callers see. -/
structure Signature where
  arguments : List Argument := []
  positional : List String := []
  /-- How many positional parameters are passed by position alone; any number is tolerated. -/
  positionalOnly : Int := 0
  varargs : Option String := none
  keywordOnly : List String := []
  kwargs : Option String := none
deriving DecidableEq, Inhabited, Repr

/-- The arguments that belong to parameters of their own. -/
def Signature.regularArguments (signature : Signature) : List Argument :=
  signature.arguments.filter (·.regular)

/-- Names matched with the first arguments, and the arguments left over. -/
def pair : List String → List Argument → Option (List (String × Argument) × List Argument)
  | [], arguments => some ([], arguments)
  | _ :: _, [] => none
  | name :: names, argument :: arguments =>
    (pair names arguments).map fun (matched, rest) => ((name, argument) :: matched, rest)

/-- The positional and the keyword-only parameters with their arguments, if there are enough
arguments. -/
def Signature.match? (signature : Signature) :
    Option (List (String × Argument) × List (String × Argument)) :=
  match pair signature.positional signature.regularArguments with
  | none => none
  | some (positional, rest) =>
    (pair signature.keywordOnly rest).map fun (keywordOnly, _) => (positional, keywordOnly)

end Introspection.Binding
