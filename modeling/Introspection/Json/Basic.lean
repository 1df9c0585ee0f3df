import Introspection.Datum
import Introspection.Decimal.Shortest

/-!
# JSON values

Values of JSON documents. An object keeps its entries in the order in which their keys first
appeared, and each key once, with its last value; `Json.put` is how entries are added, so every
object that is read has this form.

## Main definitions

* `Json`
* `Json.put`, `Json.get?` — writing and reading an entry
* `Json.display` — the text of a value in messages
* `Json.isTruthy` — whether a value counts as true where a truth value is expected

## Main results

* `Json.get?_put_self`, `Json.get?_put_of_ne` — reading what was put
-/

namespace Introspection

/-- A JSON value. -/
inductive Json where
  | null
  | bool (value : Bool)
  | int (value : Int)
  | float (value : Binary64)
  | str (value : String)
  | array (items : List Json)
  | object (entries : List (String × Json))
deriving Inhabited, Repr

namespace Json

/-- Entries of an object. -/
abbrev Entries := List (String × Json)

/-- Sets the value of a key, in its place if it has one and behind the others if not. -/
def put (entries : Entries) (key : String) (value : Json) : Entries :=
  match entries with
  | [] => [(key, value)]
  | (other, old) :: rest =>
    if other = key then (other, value) :: rest else (other, old) :: put rest key value

/-- The value of a key. -/
def get? (entries : Entries) (key : String) : Option Json :=
  (entries.find? fun entry => entry.1 = key).map Prod.snd

@[simp] theorem get?_nil (key : String) : get? [] key = none := rfl

theorem get?_cons (entry : String × Json) (rest : Entries) (key : String) :
    get? (entry :: rest) key = if entry.1 = key then some entry.2 else get? rest key := by
  by_cases h : entry.1 = key <;> simp [get?, h]

/-- Reading the key that was put. -/
@[simp] theorem get?_put_self (entries : Entries) (key : String) (value : Json) :
    get? (put entries key value) key = some value := by
  induction entries with
  | nil => simp [put, get?_cons]
  | cons entry rest ih =>
    obtain ⟨other, old⟩ := entry
    by_cases h : other = key <;> simp [put, get?_cons, h, ih]

/-- Reading another key than the one that was put. -/
theorem get?_put_of_ne (entries : Entries) {key other : String} (h : key ≠ other) (value : Json) :
    get? (put entries key value) other = get? entries other := by
  induction entries with
  | nil => simp [put, get?_cons, h]
  | cons entry rest ih =>
    obtain ⟨first, old⟩ := entry
    by_cases hf : first = key
    · subst hf
      simp [put, get?_cons, h]
    · simp [put, get?_cons, hf, ih]

/-- Texts between brackets, separated by commas. -/
def bracketed (left right : String) (items : List String) : String :=
  left ++ ", ".intercalate items ++ right

mutual

/-- The text of a value in messages. -/
def display : Json → String
  | .null => "None"
  | .bool value => Datum.boolText value
  | .int value => toString value
  | .float value => Decimal.render value
  | .str value => Text.quoted value
  | .array items => bracketed "[" "]" (displayItems items)
  | .object entries => bracketed "\x7b" "\x7d" (displayEntries entries)

/-- The texts of the items of an array. -/
def displayItems : List Json → List String
  | [] => []
  | item :: items => display item :: displayItems items

/-- The texts of the entries of an object. -/
def displayEntries : Entries → List String
  | [] => []
  | (key, value) :: entries => (Text.quoted key ++ ": " ++ display value) :: displayEntries entries

end

/-- A value as plain text: a string as it is, anything else as it is displayed. -/
def plainText : Json → String
  | .str value => value
  | value => display value

/-- Everything is true but null, the truth value false, zero, and what is empty. -/
def isTruthy : Json → Bool
  | .null => false
  | .bool value => value
  | .int value => value != 0
  | .float value => !value.isZero
  | .str value => !value.isEmpty
  | .array items => !items.isEmpty
  | .object entries => !entries.isEmpty

/-- The text of a string value. -/
def asString? : Json → Option String
  | .str value => some value
  | _ => none

end Json

end Introspection
