import Introspection.Emission.Element

/-!
# What a build makes of fragments

When the extension is built, the computed pieces of its fragments get their values, and each
fragment becomes a text. The bare name of the id constant stands for the id of the element that the
fragment describes; the name at the end of a path stands for the id of the element in front of it;
whatever else is computed has a value of its own.

Ids are those of the id constants. Where an identifier was declared more than once, the last
constant counts; one that was never declared shows as missing in the text.

## Main definitions

* `Emission.Build`, `Emission.Build.value` — the values of computed pieces
* `Emission.referent?` — the element that a path to an id constant refers to
* `Emission.declaredIds` — the id constants of declared elements
* `Emission.builtTexts` — the texts of the fragments of declared elements
-/

namespace Introspection.Emission

/-- The ids of elements by identifier, the ones that count first, and the values of all other
expressions. -/
structure Build where
  idConstant : String
  ids : List (String × String)
  others : String → String

/-- The identifier in front of the id constant at the end of a path. -/
def referent? (idConstant expression : String) : Option String :=
  let path := expression.toList
  let ending := ':' :: ':' :: idConstant.toList
  if ending.isSuffixOf path then some (String.ofList (path.take (path.length - ending.length)))
  else none

/-- The id of an element. -/
def Build.idOf (build : Build) (ident : String) : String :=
  (build.ids.lookup ident).getD ("missing:" ++ ident)

/-- The value of an expression in the fragment of an element. -/
def Build.value (build : Build) (own expression : String) : String :=
  if expression = build.idConstant then build.idOf own
  else
    match referent? build.idConstant expression with
    | some ident => build.idOf ident
    | none => build.others expression

/-- Allocates the id constants of declared elements in order, and gives the ids by identifier, the
last first. -/
def declaredIds (emitter : Emitter) (ids : List (String × String)) :
    List Declaration → Run (List (String × String))
  | [] => return ids
  | declaration :: rest => do
    let constant ← idConstantFor emitter declaration.typeName declaration.ident
    declaredIds emitter ((declaration.ident, constant.value) :: ids) rest

/-- The texts that a build makes of the fragments of declared elements, in order. -/
def textsOf (emitter : Emitter) (build : Build) : List Declaration → Run (List String)
  | [] => return []
  | declaration :: rest => do
    let fragment ← declaredFragment emitter declaration
    let texts ← textsOf emitter build rest
    return fragment.content.evaluate (build.value declaration.ident) :: texts

/-- Allocates the id constants of declared elements, and gives the texts that a build makes of
their fragments. -/
def builtTexts (emitter : Emitter) (others : String → String) (declarations : List Declaration) :
    Run (List String) := do
  let ids ← declaredIds emitter [] declarations
  textsOf emitter { idConstant := emitter.names.idConstant, ids, others } declarations

end Introspection.Emission
