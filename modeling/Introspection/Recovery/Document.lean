import Introspection.Recovery.Fault
import Introspection.Text.Blank

/-!
# Recovered documents

The fragments of an extension are recovered as one text in either of two forms: a JSON array of
objects, or JSON objects one behind the other with any white space between them. White space
around the document does not count, and a blank document has no fragments. The first character
decides the form, and both forms of the same objects load to the same fragments.

## Main definitions

* `Recovery.readRun` — the values of a text, one behind the other
* `Recovery.load` — the fragments of a document
-/

namespace Introspection.Recovery

open Json (Taken readValue)

/-- The fragments among which every value has to be. -/
def asFragments : List Json → Except Fault (List Fragment)
  | [] => .ok []
  | .object entries :: rest =>
    match asFragments rest with
    | .ok fragments => .ok (entries :: fragments)
    | .error fault => .error fault
  | value :: _ => .error (.notAnObject value)

/-- The values of `rest`, which is an end of `text`, one behind the other. -/
def readRun (text rest : List Char) : Except Fault (List Json) :=
  match rest with
  | [] => .ok []
  | c :: cs =>
    match readValue (c :: cs) with
    | .error fault => .error (.invalidFragment (text.length - (c :: cs).length) fault text)
    | .ok ⟨value, after, shorter⟩ =>
      have : (Introspection.Text.trimLeft after).length < (c :: cs).length :=
        Nat.lt_of_le_of_lt (List.dropWhile_sublist _).length_le shorter
      match readRun text (Introspection.Text.trimLeft after) with
      | .ok values => .ok (value :: values)
      | .error fault => .error fault
termination_by rest.length
decreasing_by exact this

/-- The fragments of a document without white space around it. -/
def loadTrimmed (text : List Char) : Except Fault (List Fragment) :=
  match text with
  | '[' :: _ =>
    match Json.parse text with
    | .error fault => .error (.invalidDocument fault text)
    | .ok (.array items) => asFragments items
    | .ok _ => .error .notAList
  | text =>
    match readRun text text with
    | .error fault => .error fault
    | .ok values => asFragments values

/-- The fragments of a document. -/
def load (document : String) : Except Fault (List Fragment) :=
  loadTrimmed (Introspection.Text.trim document.toList)

end Introspection.Recovery
