import Introspection.Calendar
import Introspection.Json.Basic

/-!
# YAML values

What a YAML document describes: the values of JSON, of which a mapping may have keys of any
immutable kind, and besides them bytes, sets, dates, moments and pairs. Keys that are equal numbers
are the same key, whichever kind they are of, and so are moments that are the same point in time;
a repeated key keeps its place and its first spelling and takes the last value.

A document is a graph rather than a tree: a container may occur in several places, also inside
itself. So the containers of a document stand in a list of their own, and values name them by
their places. Values that come from elsewhere, from JSON for one, hold their containers directly.

Displaying a value follows the graph. A container that is met inside itself is shown as an
ellipsis, so the containers being displayed are all different, and displaying ends. An integer may
have no text; whether it has one is decided by whoever asks.

## Main definitions

* `Yaml.Moment`
* `Yaml.Value`, `Yaml.Value.ofJson`
* `Yaml.Places`, `Yaml.Value.content` — containers by their places
* `Yaml.Document`, `Yaml.Document.ofJson`
* `Yaml.Value.sameKey`, `Yaml.Value.put`, `Yaml.Value.get?`
* `Yaml.Value.display` — the text of a value in messages
* `Yaml.Value.plainText` — the text of a value where a text is wanted
* `Yaml.Value.isTruthy`
-/

namespace Introspection.Yaml

open Calendar (Date padded)

/-- A moment of a day, with its distance from universal time in seconds if that is known. -/
structure Moment where
  date : Date
  hour : Nat
  minute : Nat
  second : Nat
  microsecond : Nat
  offset : Option Int
deriving DecidableEq, Inhabited, Repr

/-- What a YAML document describes. -/
inductive Value where
  | null
  | bool (value : Bool)
  | int (value : Int)
  | float (value : Binary64)
  /-- A float that is no number. It is told by its place from all others that are none. -/
  | notANumber (place : Nat)
  | str (value : String)
  | bytes (value : List UInt8)
  | date (value : Date)
  | moment (value : Moment)
  | pair (first second : Value)
  | list (items : List Value)
  | map (entries : List (Value × Value))
  | set (items : List Value)
  /-- The container at a place of the document. -/
  | place (number : Nat)
deriving Inhabited, Repr

/-- The containers of a document, by their places. -/
abbrev Places := Array Value

/-- A document: its outermost value, and its containers. -/
structure Document where
  places : Places := #[]
  root : Value
deriving Inhabited, Repr

/-- The numbers of a date, in messages. -/
def numbersOf (date : Date) : List String :=
  [toString date.year, toString date.month, toString date.day]

namespace Moment

/-- The distance from universal time as hours and minutes, and seconds if there are any. -/
def offsetText (offset : Int) : String :=
  let size := offset.natAbs
  (if offset < 0 then "-" else "+") ++ padded 2 (size / 3600) ++ ":" ++
    padded 2 (size / 60 % 60) ++ (if size % 60 == 0 then "" else ":" ++ padded 2 (size % 60))

/-- A moment as a date and a time of day. -/
def text (moment : Moment) : String :=
  moment.date.text ++ " " ++ padded 2 moment.hour ++ ":" ++ padded 2 moment.minute ++ ":" ++
    padded 2 moment.second ++
    (if moment.microsecond == 0 then "" else "." ++ padded 6 moment.microsecond) ++
    (match moment.offset with
      | some offset => offsetText offset
      | none => "")

/-- A duration in seconds, in messages: whole days and the rest of a day. -/
def durationText (seconds : Int) : String :=
  let days := Int.fdiv seconds 86400
  let rest := Int.fmod seconds 86400
  let parts :=
    (if days == 0 then [] else ["days=" ++ toString days]) ++
      (if rest == 0 then [] else ["seconds=" ++ toString rest])
  "datetime.timedelta(" ++ (if parts.isEmpty then "0" else ", ".intercalate parts) ++ ")"

/-- The distance from universal time, in messages. -/
def zoneText (offset : Int) : String :=
  if offset == 0 then "tzinfo=datetime.timezone.utc"
  else "tzinfo=datetime.timezone(" ++ durationText offset ++ ")"

/-- A moment in messages. Seconds and microseconds are left out where they are zero. -/
def display (moment : Moment) : String :=
  let numbers := numbersOf moment.date ++ [toString moment.hour, toString moment.minute] ++
    (if moment.second == 0 && moment.microsecond == 0 then [] else [toString moment.second]) ++
    (if moment.microsecond == 0 then [] else [toString moment.microsecond]) ++
    (moment.offset.map zoneText).toList
  "datetime.datetime(" ++ ", ".intercalate numbers ++ ")"

/-- The seconds up to a moment, if its distance from universal time is `offset`. -/
def instant (moment : Moment) (offset : Int) : Int :=
  (moment.date.number * 86400 + moment.hour * 3600 + moment.minute * 60 + moment.second : Nat) -
    offset

/-- Whether two moments are the same point in time. One whose distance from universal time is not
known is never the same as one whose distance is. -/
def isSame (first second : Moment) : Bool :=
  match first.offset, second.offset with
  | none, none => first = second
  | some a, some b =>
    first.instant a = second.instant b && first.microsecond = second.microsecond
  | _, _ => false

end Moment

namespace Value

mutual

/-- A JSON value as a YAML value. -/
def ofJson : Json → Value
  | .null => .null
  | .bool value => .bool value
  | .int value => .int value
  | .float value => .float value
  | .str value => .str value
  | .array items => .list (ofItems items)
  | .object entries => .map (ofEntries entries)

/-- The items of a JSON array. -/
def ofItems : List Json → List Value
  | [] => []
  | item :: items => ofJson item :: ofItems items

/-- The entries of a JSON object. -/
def ofEntries : Json.Entries → List (Value × Value)
  | [] => []
  | (key, value) :: entries => (.str key, ofJson value) :: ofEntries entries

end

/-- A value, with the container itself where it names one by its place. -/
def content (places : Places) : Value → Value
  | .place number => places.getD number .null
  | value => value

/-! ### Keys -/

/-- The integer that a number is equal to. Truth values count as one and zero. -/
def asInteger? : Value → Option Int
  | .bool value => some (if value then 1 else 0)
  | .int value => some value
  | .float value => value.toInt?
  | _ => none

/-- Whether two values are the same key. -/
def sameKey (first second : Value) : Bool :=
  match first, second with
  | .null, .null => true
  | .str a, .str b => a = b
  | .bytes a, .bytes b => a = b
  | .date a, .date b => a = b
  | .moment a, .moment b => a.isSame b
  | .notANumber a, .notANumber b => a = b
  | a, b =>
    match asInteger? a, asInteger? b with
    | some a, some b => a = b
    | none, none =>
      match a, b with
      | .float a, .float b => a = b
      | _, _ => false
    | _, _ => false

/-- Whether a value can be a key. -/
def isKey : Value → Bool
  | .pair .. | .list _ | .map _ | .set _ | .place _ => false
  | _ => true

/-- Sets the value of a key, in its place if it has one and behind the others if not. -/
def put (entries : List (Value × Value)) (key value : Value) : List (Value × Value) :=
  match entries with
  | [] => [(key, value)]
  | (other, old) :: rest =>
    if sameKey other key then (other, value) :: rest else (other, old) :: put rest key value

/-- The value of a key that is a text. -/
def get? (entries : List (Value × Value)) (key : String) : Option Value :=
  (entries.find? fun entry => match entry.1 with
    | .str text => text = key
    | _ => false).map Prod.snd

/-! ### Texts -/

section Texts

variable {m : Type → Type} [Monad m] (numeral : Int → m String)

mutual

/-- The text of a value in messages, given the texts of integers and those of the containers at
places. -/
def displayWith (shown : Nat → m String) : Value → m String
  | .null => return "None"
  | .bool value => return Datum.boolText value
  | .int value => numeral value
  | .float value => return Decimal.render value
  | .notANumber _ => return Decimal.render .nan
  | .str value => return Text.quoted value
  | .bytes value => return Text.quotedBytes value
  | .date value => return "datetime.date(" ++ ", ".intercalate (numbersOf value) ++ ")"
  | .moment value => return value.display
  | .pair first second => do
    return "(" ++ (← displayWith shown first) ++ ", " ++ (← displayWith shown second) ++ ")"
  | .list items => return Json.bracketed "[" "]" (← displayItems shown items)
  | .map entries => return Json.bracketed "\x7b" "\x7d" (← displayEntries shown entries)
  | .set [] => return "set()"
  | .set (item :: items) => do
    return Json.bracketed "\x7b" "\x7d" (← displayItems shown (item :: items))
  | .place number => shown number

/-- The texts of some values in messages. -/
def displayItems (shown : Nat → m String) : List Value → m (List String)
  | [] => return []
  | item :: items => return (← displayWith shown item) :: (← displayItems shown items)

/-- The texts of some entries in messages. -/
def displayEntries (shown : Nat → m String) : List (Value × Value) → m (List String)
  | [] => return []
  | (key, value) :: entries => do
    let text := (← displayWith shown key) ++ ": " ++ (← displayWith shown value)
    return text :: (← displayEntries shown entries)

end

/-- What a container is shown as inside itself. -/
def ellipsis : Value → String
  | .list _ => "[...]"
  | _ => "\x7b...\x7d"

/-- The text of the container at a place, inside those at the places of a path. -/
def displayPlace (places : Places) (path : List Nat) (number : Nat) : (fuel : Nat) → m String
  | 0 => return ellipsis (places.getD number .null)
  | fuel + 1 =>
    let container := places.getD number .null
    if path.contains number then return ellipsis container
    else
      displayWith numeral (fun inner => displayPlace places (number :: path) inner fuel) container

/-- The text of a value in messages. No path has more places than there are, so the bound is never
reached. -/
def display (places : Places) (value : Value) : m String :=
  displayWith numeral
    (fun number => displayPlace numeral places [] number (places.size + 1)) value

/-- The text of a value where a text is wanted: strings, dates and moments as they are written,
anything else as it is displayed. -/
def plainText (places : Places) : Value → m String
  | .str value => return value
  | .date value => return value.text
  | .moment value => return value.text
  | value => display numeral places value

end Texts

/-- Everything is true but null, the truth value false, zero, and what is empty. -/
def isTruthy (places : Places) (value : Value) : Bool :=
  match value.content places with
  | .null => false
  | .bool value => value
  | .int value => value != 0
  | .float value => !value.isZero
  | .str value => !value.isEmpty
  | .bytes value => !value.isEmpty
  | .list items => !items.isEmpty
  | .map entries => !entries.isEmpty
  | .set items => !items.isEmpty
  | .notANumber _ | .date _ | .moment _ | .pair .. | .place _ => true

end Value

/-- A JSON value as a document. -/
def Document.ofJson (json : Json) : Document :=
  { root := .ofJson json }

/-- A document, or that of an empty mapping in the place of one that counts as false. -/
def Document.orEmpty (document : Document) : Document :=
  if document.root.isTruthy document.places then document else { root := .map [] }

end Introspection.Yaml
