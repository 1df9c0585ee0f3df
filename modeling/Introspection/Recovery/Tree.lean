import Introspection.Api.Module
import Introspection.Recovery.Arena
import Introspection.Recovery.Document

/-!
# The module tree of an arena

Following members from the root unfolds the graph of fragments into a tree. A fragment may be a
member of several modules and is then unfolded for each; a module that would be unfolded inside
itself is an error. The modules being unfolded are the path from the root, no two of them the
same, so the ids of the arena that are not on the path get fewer with every step down, whatever
the graph.

## Main definitions

* `Recovery.functionOf` — the function that a fragment describes
* `Recovery.unfoldModule` — the tree below a module
* `Recovery.resolve` — the tree of some fragments, and what is reported on the way
* `Recovery.recover` — the tree of a document
-/

namespace Introspection.Recovery

open Introspection.Api (Kind Parameter Function Class Member Module)

/-- The parameter that a value describes. -/
def parameterOf (function : String) (value : Json) : Except Fault Parameter :=
  match value with
  | .object fields =>
    match requireText fields "kind" with
    | .error fault => .error fault
    | .ok tag =>
      match Kind.ofTag? tag with
      | none => .error (.unknownKind tag function)
      | some kind =>
        match requireText fields "name" with
        | .error fault => .error fault
        | .ok name => .ok {
            name := name
            kind := kind
            hasDefault := ((Json.get? fields "has_default").getD (.bool false)).isTruthy
            hint := (Json.get? fields "annotation").bind Json.asString? }
  | value => .error (.malformedParameter function value)

/-- The parameters that some values describe. -/
def parametersOf (function : String) : List Json → Except Fault (List Parameter)
  | [] => .ok []
  | value :: rest =>
    match parameterOf function value with
    | .error fault => .error fault
    | .ok parameter =>
      match parametersOf function rest with
      | .error fault => .error fault
      | .ok parameters => .ok (parameter :: parameters)

/-- The values that describe the parameters of a function. -/
def parameterValues (function : String) (fragment : Fragment) : Except Fault (List Json) :=
  match Json.get? fragment "signature" with
  | some (.object signature) =>
    match Json.get? signature "parameters" with
    | some (.array values) => .ok values
    | _ => .error (.noParameterList function)
  | _ => .error (.noSignature function)

/-- The function that a fragment describes. -/
def functionOf (fragment : Fragment) : Except Fault Function :=
  match requireText fragment "name" with
  | .error fault => .error fault
  | .ok name =>
    match parameterValues name fragment with
    | .error fault => .error fault
    | .ok values =>
      match parametersOf name values with
      | .error fault => .error fault
      | .ok parameters =>
        match Api.signatureFault? parameters with
        | some fault => .error (.invalidSignature name fault)
        | none => .ok ⟨name, parameters⟩

/-- The class that a fragment describes. -/
def classOf (fragment : Fragment) : Except Fault Api.Class :=
  match requireText fragment "name" with
  | .error fault => .error fault
  | .ok name => .ok ⟨name⟩

/-- How many fragments of an arena are not on a path. -/
def remaining (arena : Arena) (path : List String) : Nat :=
  arena.countP fun entry => !path.contains entry.1

/-- Going down to a fragment that is not on the path leaves fewer that are not. -/
theorem remaining_cons_lt {arena : Arena} {path : List String} {id : String} {fragment : Fragment}
    (found : arena.get? id = some fragment) (fresh : path.contains id = false) :
    remaining arena (id :: path) < remaining arena path := by
  obtain ⟨entry, hentry, -⟩ := Option.map_eq_some_iff.1 found
  have hid : entry.1 = id := by simpa using List.find?_some hentry
  have hmem := List.mem_of_find?_eq_some hentry
  clear hentry found
  have hle : ∀ rest : Arena, remaining rest (id :: path) ≤ remaining rest path := fun rest =>
    List.countP_mono_left fun other _ => by
      simp only [List.contains_cons, Bool.not_or, Bool.and_eq_true]
      exact fun h => h.2
  induction arena with
  | nil => cases hmem
  | cons first rest ih =>
    have hrest := hle rest
    simp only [remaining, List.countP_cons] at hrest ih ⊢
    rcases List.mem_cons.1 hmem with rfl | h
    · subst hid
      simp only [List.contains_cons, beq_self_eq_true, Bool.true_or, Bool.not_true, fresh,
        Bool.not_false]
      simp only [Bool.false_eq_true, if_false, if_true]
      simp only [List.contains_cons] at hrest
      omega
    · have := ih h
      by_cases hfirst : path.contains first.1 = true
      · simp only [List.contains_cons, hfirst, Bool.or_true, Bool.not_true] at this ⊢
        exact this
      · simp only [hfirst, Bool.not_false, if_true]
        split <;> omega

mutual

/-- The tree below the module of a fragment, the last id of `path` being its own. -/
def unfoldModule (arena : Arena) (path : List String) (fragment : Fragment) : Except Fault Module :=
  match memberIds fragment with
  | .error fault => .error fault
  | .ok ids =>
    match unfoldMembers arena path fragment ids with
    | .error fault => .error fault
    | .ok members =>
      match requireText fragment "name" with
      | .error fault => .error fault
      | .ok name => .ok (Module.ofMembers name members)
termination_by (remaining arena path, 1, 0)

/-- The members of some ids of a module. -/
def unfoldMembers (arena : Arena) (path : List String) (fragment : Fragment) :
    List String → Except Fault (List Member)
  | [] => .ok []
  | id :: rest =>
    match unfoldMember arena path fragment id with
    | .error fault => .error fault
    | .ok member =>
      match unfoldMembers arena path fragment rest with
      | .error fault => .error fault
      | .ok members => .ok (member :: members)
termination_by ids => (remaining arena path, 0, ids.length + 1)

/-- The member of an id of a module. -/
def unfoldMember (arena : Arena) (path : List String) (fragment : Fragment) (id : String) :
    Except Fault Member :=
  match _found : arena.get? id with
  | none => .error (.unknownMember (fieldOrNull fragment "name") id)
  | some member =>
    if hasType "module" member then
      match _fresh : path.contains id with
      | true => .error (.containsItself id)
      | false =>
        match unfoldModule arena (id :: path) member with
        | .error fault => .error fault
        | .ok module => .ok (.module module)
    else if hasType "class" member then
      match classOf member with
      | .error fault => .error fault
      | .ok value => .ok (.class value)
    else if hasType "function" member then
      match functionOf member with
      | .error fault => .error fault
      | .ok value => .ok (.function value)
    else .error (.unknownType (fieldOrNull member "type") id)
termination_by (remaining arena path, 0, 0)
decreasing_by exact Prod.Lex.left _ _ (remaining_cons_lt _found _fresh)

end

/-- The report that precedes the unfolding. -/
def resolvingRecord (arena : Arena) (root : String) : Log.Record :=
  ⟨.debug, logger, "Resolving " ++ toString arena.length ++ " fragments from root " ++ root⟩

/-- The tree of an arena, and what is reported on the way. -/
def resolveArena (arena : Arena) (root : Option String) :
    Except Fault Module × List Log.Record :=
  match findRoot arena root with
  | .error fault => (.error fault, [])
  | .ok (id, fragment) => (unfoldModule arena [id] fragment, [resolvingRecord arena id])

/-- The tree of some fragments, and what is reported on the way. -/
def resolve (fragments : List Fragment) (root : Option String) (policy : DuplicatePolicy) :
    Except Fault Module × List Log.Record :=
  match index policy fragments with
  | (.error fault, records) => (.error fault, records)
  | (.ok arena, records) =>
    let (result, more) := resolveArena arena root
    (result, records ++ more)

/-- The tree of a document, and what is reported on the way. -/
def recover (document : String) (root : Option String) (policy : DuplicatePolicy) :
    Except Fault Module × List Log.Record :=
  match load document with
  | .error fault => (.error fault, [])
  | .ok fragments => resolve fragments root policy

end Introspection.Recovery
