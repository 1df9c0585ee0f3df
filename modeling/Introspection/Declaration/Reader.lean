import Introspection.Declaration.Basic
import Introspection.Text.Lines
import Introspection.Text.Utf8
import Introspection.Yaml.Fault

/-!
# Reading declarations

A declarations file holds a mapping with a list of elements, in YAML, of which JSON is the most
common special case. Each element is a mapping that says what is declared; what else it has to say
depends on its type. Reading stops at the first thing that is wrong, in the order in which an
element is written down: its type, its name, its identifier, and then its parts.

Missing fields are empty, and so are fields that are null. The fields that have to be texts are
never converted, with one exception: the default value of an argument, which authors write as they
would write it in the implementation, is whatever text the value has.

A long integer may have no text. Then it is not the declarations that are wrong, and reading ends
with a fault of another kind. So reading is told how integers are worded, and what its own faults
come to. Where all integers have texts, there are no others.

## Main definitions

* `Declaration.Fault` — what can be wrong with declarations
* `Declaration.Wording` — the texts of integers, and the faults of those that have none
* `Declaration.ofValue`, `Declaration.ofDocument` — declarations from values
* `Declaration.allOfDocument` — the same where all integers have texts
* `Declaration.LoadFault`, `Declaration.load` — declarations from the bytes of a file
-/

namespace Introspection.Declaration

open Introspection.Yaml (Value Places Document)

/-- What can be wrong with declarations. -/
inductive Fault where
  | noElements
  | notAMapping (index : Nat)
  /-- The text is that of the value in the place of a type. -/
  | unknownType (index : Nat) (type : String)
  | noName (index : Nat)
  | identNotText (name : String)
  /-- The text is that of the value in the place of a list. -/
  | notAList (value : String)
  | notTexts (place : String)
  | notText (place : String)
  | signatureNotAMapping (function : String)
  | argumentNotAMapping (function : String)
  | argumentWithoutType (function : String)
  | positionalOnly (function : String) (count : Nat)
deriving Inhabited, Repr

/-- The wording of a fault. -/
def Fault.message : Fault → String
  | .noElements => "Declarations must be a mapping with an 'elements' list"
  | .notAMapping index => "Element #" ++ toString index ++ " must be a mapping"
  | .unknownType index type =>
    "Element #" ++ toString index ++ " has unknown type " ++ type
  | .noName index => "Element #" ++ toString index ++ " needs a name"
  | .identNotText name => "Element " ++ Text.quoted name ++ " has a non-string ident"
  | .notAList value => "Expected a list, got " ++ value
  | .notTexts place => place ++ " must be a list of strings"
  | .notText place => place ++ " must be a string"
  | .signatureNotAMapping function =>
    "Signature of " ++ Text.quoted function ++ " must be a mapping"
  | .argumentNotAMapping function =>
    "Arguments of " ++ Text.quoted function ++ " must be mappings"
  | .argumentWithoutType function => "Argument of " ++ Text.quoted function ++ " needs a 'ty'"
  | .positionalOnly function count =>
    function ++ ".positional_only must be between 0 and " ++ toString count

/-- How integers are worded while declarations are read, and what a fault of declarations comes to
among those of integers. -/
structure Wording (ε : Type) where
  fault : Fault → ε
  numeral : Int → Except ε String

/-- Every integer has a text, whatever its length. -/
def Wording.plain : Wording Fault where
  fault := id
  numeral value := return toString value

/-- The entries of a mapping. -/
abbrev Fields := List (Value × Value)

/-- The field of a mapping; one that is not there is null. -/
def field (fields : Fields) (name : String) : Value :=
  (Value.get? fields name).getD .null

section Reading

variable {ε : Type} (wording : Wording ε) (places : Places)

/-- The items of a list; null is an empty one. -/
def listOf (value : Value) : Except ε (List Value) :=
  match value.content places with
  | .null => return []
  | .list items => return items
  | _ => do throw (wording.fault (.notAList (← value.display wording.numeral places)))

/-- The texts of a list of texts, if all its items are. -/
def allTexts : List Value → Option (List String)
  | [] => some []
  | .str text :: rest => (allTexts rest).map (text :: ·)
  | _ :: _ => none

/-- A list of texts; null is an empty one. -/
def textsOf (place : String) (value : Value) : Except ε (List String) := do
  match allTexts (← listOf wording places value) with
  | some texts => return texts
  | none => throw (wording.fault (.notTexts place))

/-- A text or null. -/
def optionalText (place : String) : Value → Except ε (Option String)
  | .null => return none
  | .str text => return some text
  | _ => throw (wording.fault (.notText place))

/-- The type of an argument. Only an argument that has no parameter of its own may lack one. -/
def argumentType (function : String) (regular : Bool) : Value → Except ε String
  | .str text => return text
  | _ => if regular then throw (wording.fault (.argumentWithoutType function)) else return ""

/-- The default of an argument as text. -/
def defaultText : Value → Except ε (Option String)
  | .null => return none
  | value => some <$> value.plainText wording.numeral places

/-- An argument of a function. -/
def argumentOf (function : String) (value : Value) : Except ε Binding.Argument :=
  match value.content places with
  | .map fields => do
    let regular := ((Value.get? fields "regular").getD (.bool true)).isTruthy places
    let type ← argumentType wording function regular (field fields "ty")
    let default ← defaultText wording places (field fields "default")
    let optionWrapped ← optionalText wording (function ++ ".option_wrapped_type")
      (field fields "option_wrapped_type")
    let converter ←
      optionalText wording (function ++ ".from_py_with") (field fields "from_py_with")
    return { type, default, optionWrapped, converter, regular }
  | _ => throw (wording.fault (.argumentNotAMapping function))

/-- The arguments of a function. -/
def argumentsOf (function : String) : List Value → Except ε (List Binding.Argument)
  | [] => return []
  | value :: rest => do
    let argument ← argumentOf wording places function value
    let arguments ← argumentsOf function rest
    return argument :: arguments

/-- How many of `count` positional parameters are passed by position alone. Truth values count as
one and zero. -/
def positionalOnlyOf (function : String) (count : Nat) (value : Value) : Except ε Int :=
  let within (number : Int) : Except ε Int :=
    if 0 ≤ number ∧ number ≤ count then return number
    else throw (wording.fault (.positionalOnly function count))
  match value with
  | .int number => within number
  | .bool flag => within (if flag then 1 else 0)
  | _ => throw (wording.fault (.positionalOnly function count))

/-- The signature that callers see, with the arguments of a function. -/
def signatureOf (function : String) (arguments : List Binding.Argument) (value : Value) :
    Except ε Binding.Signature :=
  match value.content places with
  | .null => return { arguments }
  | .map fields => do
    let positional ←
      textsOf wording places (function ++ ".positional") (field fields "positional")
    let positionalOnly ← positionalOnlyOf wording function positional.length
      ((Value.get? fields "positional_only").getD (.int 0))
    let varargs ← optionalText wording (function ++ ".varargs") (field fields "varargs")
    let keywordOnly ←
      textsOf wording places (function ++ ".keyword_only") (field fields "keyword_only")
    let kwargs ← optionalText wording (function ++ ".kwargs") (field fields "kwargs")
    return { arguments, positional, positionalOnly, varargs, keywordOnly, kwargs }
  | _ => throw (wording.fault (.signatureNotAMapping function))

/-- The types that elements are declared with. -/
inductive Kind where
  | moduleKind
  | classKind
  | functionKind
deriving DecidableEq, Inhabited, Repr

/-- The type that a value names. -/
def Kind.ofValue? : Value → Option Kind
  | .str "module" => some .moduleKind
  | .str "class" => some .classKind
  | .str "function" => some .functionKind
  | _ => none

/-- What an element of a type and a name is. -/
def bodyOf (kind : Kind) (name : String) (fields : Fields) : Except ε Body := do
  match kind with
  | .moduleKind =>
    return .ofModule (← textsOf wording places (name ++ ".members") (field fields "members"))
  | .classKind => return .ofClass
  | .functionKind =>
    let values ← listOf wording places (field fields "arguments")
    let arguments ← argumentsOf wording places name values
    return .ofFunction
      (some (← signatureOf wording places name arguments (field fields "signature")))

/-- The name of the element at an index. -/
def nameOf (index : Nat) : Value → Except ε String
  | .str name => if name.isEmpty then throw (wording.fault (.noName index)) else return name
  | _ => throw (wording.fault (.noName index))

/-- The identifier of an element. Where there is none, or an empty one, it is the name. -/
def identOf (name : String) (value : Value) : Except ε String :=
  if value.isTruthy places then
    match value with
    | .str ident => return ident
    | _ => throw (wording.fault (.identNotText name))
  else return name

/-- The declaration of the element at an index. -/
def ofValue (index : Nat) (value : Value) : Except ε Declaration :=
  match value.content places with
  | .map fields => do
    let type := field fields "type"
    match Kind.ofValue? type with
    | none =>
      throw (wording.fault (.unknownType index (← type.display wording.numeral places)))
    | some kind =>
      let name ← nameOf wording index (field fields "name")
      let ident ← identOf wording places name (field fields "ident")
      return { name, ident, body := ← bodyOf wording places kind name fields }
  | _ => throw (wording.fault (.notAMapping index))

/-- The declarations of elements, the first of which has an index. -/
def elementsOf (index : Nat) : List Value → Except ε (List Declaration)
  | [] => return []
  | value :: rest => do
    let declaration ← ofValue wording places index value
    let declarations ← elementsOf (index + 1) rest
    return declaration :: declarations

/-- The declarations of a document. -/
def ofDocument (document : Document) : Except ε (List Declaration) :=
  match document.root.content document.places with
  | .map fields =>
    match ((Value.get? fields "elements").getD (.list [])).content document.places with
    | .list elements => elementsOf wording document.places 0 elements
    | _ => throw (wording.fault .noElements)
  | _ => throw (wording.fault .noElements)

end Reading

/-- The declarations of a document whose integers all have texts. -/
def allOfDocument (document : Document) : Except Fault (List Declaration) :=
  ofDocument .plain document

/-! ### Files -/

/-- Why a declarations file cannot be loaded. -/
inductive LoadFault where
  | undecodable (fault : Utf8.Fault)
  /-- The file of a name is not one YAML document. -/
  | unparsable (file : String)
  /-- A scalar of the document has no value, or no text where one is wanted. -/
  | scalar (fault : Yaml.ScalarFault)
  | invalid (fault : Fault)
deriving Inhabited, Repr

/-- The wording of a fault. What is wrong with a document that is not YAML is left to tools for
YAML. -/
def LoadFault.message : LoadFault → String
  | .undecodable fault => fault.message
  | .unparsable file => "Failed to parse " ++ file
  | .scalar fault => fault.message
  | .invalid fault => fault.message

/-- Integers have texts up to some length. -/
def Wording.limited : Wording LoadFault where
  fault := .invalid
  numeral value := (Yaml.numeral value).mapError .scalar

/-- The declarations of a text, by the name of its file. An empty document declares nothing. -/
def ofText (yaml : Yaml.Loader) (file : String) (text : List Char) :
    Except LoadFault (List Declaration) :=
  match yaml text with
  | .error .malformed => .error (.unparsable file)
  | .error (.scalar fault) => .error (.scalar fault)
  | .ok document => ofDocument .limited document.orEmpty

/-- The declarations of a file, by its name and its bytes. -/
def load (yaml : Yaml.Loader) (file : String) (bytes : ByteArray) :
    Except LoadFault (List Declaration) :=
  match Utf8.decode bytes with
  | .error fault => .error (.undecodable fault)
  | .ok text => ofText yaml file (Text.unifyNewlines text)

end Introspection.Declaration
