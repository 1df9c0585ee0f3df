import Introspection.Api.Signature
import Introspection.Json.Reader

/-!
# What can be wrong with recovered metadata

Every way in which a recovered document fails to describe a module tree, with what its message
tells about it. Messages show values of the document as they are displayed, and identifiers of
elements as they are.

## Main definitions

* `Recovery.Fragment` — the description of one element
* `Recovery.Fault`, `Recovery.Fault.message`
-/

namespace Introspection.Recovery

/-- The description of one element: the entries of a JSON object. -/
abbrev Fragment := Json.Entries

/-- Why a document does not describe a module tree. -/
inductive Fault where
  | invalidDocument (fault : Json.Fault) (text : List Char)
  | invalidFragment (offset : Nat) (fault : Json.Fault) (text : List Char)
  | notAList
  | notAnObject (value : Json)
  | fieldNotText (key : String) (fragment : Fragment)
  | duplicateId (id : String) (kept dropped : Json)
  | rootNotUnique (name : String) (count : Nat)
  | noSingleRoot (names : List String)
  | malformedMembers (module : Json)
  | containsItself (id : String)
  | unknownMember (module : Json) (id : String)
  | unknownType (type : Json) (id : String)
  | noSignature (function : String)
  | noParameterList (function : String)
  | malformedParameter (function : String) (value : Json)
  | unknownKind (tag function : String)
  | invalidSignature (function : String) (fault : Api.SignatureFault)
deriving Inhabited, Repr

/-- The part of the wording that a dropped fragment and a refused one share. -/
def duplicateText (id : String) (kept dropped : Json) : String :=
  "Duplicate element id " ++ id ++ ": " ++ kept.display ++ " and " ++ dropped.display

/-- The wording of a fault. -/
def Fault.message : Fault → String
  | .invalidDocument fault text => "Invalid metadata document: " ++ fault.message text
  | .invalidFragment offset fault text =>
    "Invalid metadata fragment at offset " ++ toString offset ++ ": " ++ fault.message text
  | .notAList => "Metadata document must be a list of fragments"
  | .notAnObject value => "Metadata fragment must be an object, got " ++ value.display
  | .fieldNotText key fragment =>
    "Fragment field " ++ Text.quoted key ++ " must be a string: " ++ (Json.object fragment).display
  | .duplicateId id kept dropped => duplicateText id kept dropped
  | .rootNotUnique name count =>
    "Expected exactly one module named " ++ Text.quoted name ++ ", found " ++ toString count
  | .noSingleRoot names =>
    let shown := ", ".intercalate names
    "Cannot pick a root module among " ++ toString names.length ++ " candidates: " ++
      (if shown.isEmpty then "none" else shown)
  | .malformedMembers module => "Module " ++ module.display ++ " has malformed members"
  | .containsItself id => "Module " ++ id ++ " contains itself"
  | .unknownMember module id =>
    "Module " ++ module.display ++ " references unknown element " ++ id
  | .unknownType type id => "Unknown element type " ++ type.display ++ " for id " ++ id
  | .noSignature function => "Function " ++ Text.quoted function ++ " has no signature"
  | .noParameterList function => "Function " ++ Text.quoted function ++ " has no parameter list"
  | .malformedParameter function value =>
    "Function " ++ Text.quoted function ++ " has a malformed parameter: " ++ value.display
  | .unknownKind tag function =>
    "Unknown parameter kind " ++ Text.quoted tag ++ " in " ++ Text.quoted function
  | .invalidSignature function fault =>
    "Function " ++ Text.quoted function ++ " has an invalid signature: " ++ fault.message

end Introspection.Recovery
