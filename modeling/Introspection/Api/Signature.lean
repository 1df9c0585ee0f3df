import Introspection.Text.Quoted

/-!
# Signatures of recovered functions

A signature is the list of a function's parameters in calling order. Each parameter has one of
five kinds, and a list is a possible signature only if the kinds come in a fixed order: those
passed by position alone, those passed either way, one that takes the remaining positional
arguments, those passed by keyword alone, one that takes the remaining keyword arguments.

The check walks the list once. It remembers the place of the last kind, and the kinds so far that
take all remaining arguments, since each of them can be had only once.

## Main definitions

* `Api.Kind`, `Api.Parameter`
* `Api.SignatureFault`, `Api.signatureFault?` — the first parameter out of place
-/

namespace Introspection.Api

/-- How an argument reaches a parameter. -/
inductive Kind where
  | positionalOnly
  | positionalOrKeyword
  | variadicPositional
  | keywordOnly
  | variadicKeyword
deriving DecidableEq, Inhabited, Repr

namespace Kind

/-- The tag of a kind in metadata. -/
def tag : Kind → String
  | .positionalOnly => "POSITIONAL_ONLY"
  | .positionalOrKeyword => "POSITIONAL_OR_KEYWORD"
  | .variadicPositional => "VAR_POSITIONAL"
  | .keywordOnly => "KEYWORD_ONLY"
  | .variadicKeyword => "VAR_KEYWORD"

/-- The kinds in calling order. -/
def all : List Kind :=
  [.positionalOnly, .positionalOrKeyword, .variadicPositional, .keywordOnly, .variadicKeyword]

/-- The kind of a tag. -/
def ofTag? (tag : String) : Option Kind :=
  all.find? fun kind => kind.tag = tag

/-- The place of a kind in calling order. -/
def rank : Kind → Nat
  | .positionalOnly => 0
  | .positionalOrKeyword => 1
  | .variadicPositional => 2
  | .keywordOnly => 3
  | .variadicKeyword => 4

/-- Whether a parameter of this kind takes all remaining arguments. -/
def isVariadic : Kind → Bool
  | .variadicPositional | .variadicKeyword => true
  | _ => false

theorem ofTag?_tag (kind : Kind) : ofTag? kind.tag = some kind := by
  cases kind <;> decide

end Kind

/-- A parameter of a recovered function. -/
structure Parameter where
  name : String
  kind : Kind
  hasDefault : Bool := false
  hint : Option String := none
deriving DecidableEq, Inhabited, Repr

/-- The parameter that spoils a signature, and how. -/
inductive SignatureFault where
  | outOfOrder (parameter : Parameter)
  | duplicate (parameter : Parameter)
deriving DecidableEq, Inhabited, Repr

/-- The wording of a fault. -/
def SignatureFault.message : SignatureFault → String
  | .outOfOrder parameter =>
    "Parameter " ++ Text.quoted parameter.name ++ " (" ++ parameter.kind.tag ++ ") is out of order"
  | .duplicate parameter =>
    "Duplicate " ++ parameter.kind.tag ++ " parameter " ++ Text.quoted parameter.name

/-- The first fault of some parameters, given the rank of the kind before them and the variadic
kinds so far. -/
def faultAmong? (rank : Nat) (seen : List Kind) : List Parameter → Option SignatureFault
  | [] => none
  | parameter :: rest =>
    if parameter.kind.rank < rank then some (.outOfOrder parameter)
    else if parameter.kind.isVariadic && parameter.kind ∈ seen then some (.duplicate parameter)
    else
      faultAmong? parameter.kind.rank
        (if parameter.kind.isVariadic then parameter.kind :: seen else seen) rest

/-- The first fault of a list of parameters, or none if it is a signature. -/
def signatureFault? (parameters : List Parameter) : Option SignatureFault :=
  faultAmong? 0 [] parameters

end Introspection.Api
