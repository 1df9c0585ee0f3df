import Introspection.Text.Quoted

/-!
# Plain data

A plain datum is nothing, a truth value, an integer, a text, or a tuple of data. Seeds of element
ids are plain data, and so is whatever stands in a metadata tree without being one of its nodes.
The text of a datum is what is hashed and what messages show, so it has to tell different data
apart: texts are quoted, and a tuple of one ends in a comma.

## Main definitions

* `Datum`
* `Datum.display` — the text of a datum
-/

namespace Introspection

/-- Nothing, a truth value, an integer, a text, or a tuple of data. -/
inductive Datum where
  | null
  | bool (value : Bool)
  | int (value : Int)
  | str (value : String)
  | tuple (items : List Datum)
deriving Inhabited, Repr

namespace Datum

/-- The text of a truth value in messages. -/
def boolText (value : Bool) : String :=
  if value then "True" else "False"

/-- A list of texts between round brackets; a single one is followed by a comma, so that it is
not taken for a bracketed text. -/
def tupleText : List String → String
  | [item] => "(" ++ item ++ ",)"
  | items => "(" ++ ", ".intercalate items ++ ")"

mutual

/-- The text of a datum. -/
def display : Datum → String
  | .null => "None"
  | .bool value => boolText value
  | .int value => toString value
  | .str value => Text.quoted value
  | .tuple items => tupleText (displayAll items)

/-- The texts of some data. -/
def displayAll : List Datum → List String
  | [] => []
  | item :: items => display item :: displayAll items

end

end Datum

end Introspection
