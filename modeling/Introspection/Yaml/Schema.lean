import Introspection.Yaml.Number

/-!
# What YAML scalars mean

A plain scalar is a truth value, a number, a date, null, a merge mark or else a text, by its
spelling alone; a tag decides the type of a scalar whatever its spelling. Integers are binary,
octal, decimal, hexadecimal or in base sixty, with underscores anywhere among the digits. A float
needs a point, and its exponent needs a sign. A line feed at the end of a scalar, which only a
scalar in quotes or a block can have, does not matter for its type.

Some spellings have a type and no value, such as the thirteenth month, a binary number without
digits, or a word tagged as a number. These are faults of their own, as the text is YAML.

## Main definitions

* `Yaml.Tag`, `Yaml.Tag.ofText`
* `Yaml.plainTag` — the type of a plain scalar
* `Yaml.timeValue`, `Yaml.boolValue` — the values of scalars
-/

namespace Introspection.Yaml

/-- The types that a node can have. -/
inductive Tag where
  | null
  | bool
  | int
  | float
  | str
  | timestamp
  | merge
  | default
  | seq
  | map
  | set
  | orderedMap
  | pairs
  | binary
  | other (text : String)
deriving DecidableEq, Inhabited, Repr

/-- What the texts of the usual tags start with. -/
def tagStart : String := "tag:yaml.org,2002:"

/-- The usual tags by the ends of their texts. -/
def usualTags : List (String × Tag) :=
  [("null", .null), ("bool", .bool), ("int", .int), ("float", .float), ("str", .str),
    ("timestamp", .timestamp), ("merge", .merge), ("value", .default), ("seq", .seq),
    ("map", .map), ("set", .set), ("omap", .orderedMap), ("pairs", .pairs), ("binary", .binary)]

/-- The type that a tag names. -/
def Tag.ofText (text : String) : Tag :=
  match usualTags.find? fun entry => tagStart ++ entry.1 == text with
  | some entry => entry.2
  | none => .other text

/-! ### Spellings -/

/-- The spellings of truth values, in lower case. -/
def boolWords : List (String × Bool) :=
  [("yes", true), ("no", false), ("true", true), ("false", false), ("on", true), ("off", false)]

/-- The three spellings of a word: in lower case, capitalized, and in upper case. -/
def spellings (word : String) : List String :=
  [word, word.capitalize, word.toUpper]

/-- Whether a text spells a truth value. -/
def isBool (text : String) : Bool :=
  boolWords.any fun entry => (spellings entry.1).contains text

/-- Whether a text spells null. -/
def isNull (text : String) : Bool :=
  ["", "~", "null", "Null", "NULL"].contains text

/-- Digits and underscores. -/
def isNumeral (holds : Char → Bool) (text : List Char) : Bool :=
  text.all fun c => holds c || c == '_'

/-- The parts of a number in base sixty behind the first: each a colon and one or two digits, the
first of two below six. -/
def isSexagesimalTail : List Char → Bool
  | [] => true
  | ':' :: a :: b :: rest =>
    if b.isDigit then '0' ≤ a && a ≤ '5' && isSexagesimalTail rest
    else a.isDigit && isSexagesimalTail (b :: rest)
  | [':', a] => a.isDigit
  | _ => false

/-- Whether a text is an integer behind its sign. -/
def isUnsignedInt (text : List Char) : Bool :=
  match text with
  | '0' :: 'b' :: rest => !rest.isEmpty && isNumeral (fun c => c == '0' || c == '1') rest
  | '0' :: 'x' :: rest =>
    !rest.isEmpty &&
      isNumeral (fun c => c.isDigit || ('a' ≤ c && c ≤ 'f') || ('A' ≤ c && c ≤ 'F')) rest
  | '0' :: rest => isNumeral (fun c => '0' ≤ c && c ≤ '7') rest
  | c :: rest =>
    c.isDigit && isNumeral Char.isDigit (rest.takeWhile (· != ':')) &&
      isSexagesimalTail (rest.dropWhile (· != ':'))
  | [] => false

/-- Whether a text is an exponent with a sign, or empty. -/
def isExponent : List Char → Bool
  | [] => true
  | e :: sign :: digits =>
    (e == 'e' || e == 'E') && (sign == '+' || sign == '-') && !digits.isEmpty &&
      digits.all Char.isDigit
  | _ => false

/-- Whether a text is the part of a float behind its point. -/
def isFraction (text : List Char) : Bool :=
  isExponent (text.dropWhile fun c => c.isDigit || c == '_')

/-- Whether a text is a float behind its sign. -/
def isUnsignedFloat (text : List Char) : Bool :=
  match text with
  | '.' :: rest => [".inf", ".Inf", ".INF"].contains (String.ofList ('.' :: rest))
  | c :: rest =>
    let whole := rest.takeWhile (· != '.')
    match rest.dropWhile (· != '.') with
    | '.' :: fraction =>
      c.isDigit &&
        (if whole.contains ':' then
          isNumeral Char.isDigit (whole.takeWhile (· != ':')) &&
            isSexagesimalTail (whole.dropWhile (· != ':')) && isNumeral Char.isDigit fraction
        else isNumeral Char.isDigit whole && isFraction fraction)
    | _ => false
  | [] => false

/-- Whether a text is a float. One that starts with its point has no sign and a digit behind the
point. -/
def isFloat (text : List Char) : Bool :=
  match text with
  | '.' :: c :: rest =>
    (c.isDigit && isFraction rest) || isUnsignedFloat text ||
      [".nan", ".NaN", ".NAN"].contains (String.ofList text)
  | _ => isUnsignedFloat (unsigned text)

/-! ### Times -/

/-- Up to `most` digits in front of a text, but at least `least`. -/
def digits? (least most : Nat) (text : List Char) : Option (List Char × List Char) :=
  let digits := (text.take most).takeWhile Char.isDigit
  if digits.length < least then none else some (digits, text.drop digits.length)

/-- The parts of a time before they are looked at. -/
structure TimeText where
  year : Nat
  month : Nat
  day : Nat
  /-- Hour, minute, second, the digits of a fraction, and the distance from universal time. -/
  clock : Option (Nat × Nat × Nat × List Char × Option Int)
  /-- Whether month and day have two digits. -/
  full : Bool

/-- A character in front of a text, dropped. -/
def mark? (c : Char) : List Char → Option (List Char)
  | [] => none
  | first :: rest => if first == c then some rest else none

/-- The zone behind a time of day: nothing, universal time, or a distance from it. -/
def zone? (text : List Char) : Option (Option Int) :=
  match text.dropWhile fun c => c == ' ' || c == '\t' with
  | [] => if text.isEmpty then some none else none
  | ['Z'] => some (some 0)
  | sign :: rest =>
    if sign != '+' && sign != '-' then none
    else do
      let (hours, rest) ← digits? 1 2 rest
      let minutes ←
        match rest with
        | [] => some 0
        | ':' :: rest => do
          let (minutes, rest) ← digits? 2 2 rest
          if rest.isEmpty then some (decimal minutes) else none
        | _ => none
      let seconds : Int := decimal hours * 3600 + minutes * 60
      return some (if sign == '-' then -seconds else seconds)

/-- A time of day behind a date, with the mark or the blanks before it. -/
def clock? (text : List Char) : Option (Nat × Nat × Nat × List Char × Option Int) := do
  let isBlank (c : Char) : Bool := c == ' ' || c == '\t'
  let start ←
    match text with
    | 'T' :: rest => some rest
    | 't' :: rest => some rest
    | c :: rest => if isBlank c then some (rest.dropWhile isBlank) else none
    | [] => none
  let (hour, rest) ← digits? 1 2 start
  let rest ← mark? ':' rest
  let (minute, rest) ← digits? 2 2 rest
  let rest ← mark? ':' rest
  let (second, rest) ← digits? 2 2 rest
  let (fraction, rest) :=
    match rest with
    | '.' :: rest => (rest.takeWhile Char.isDigit, rest.dropWhile Char.isDigit)
    | rest => ([], rest)
  let zone ← zone? rest
  return (decimal hour, decimal minute, decimal second, fraction, zone)

/-- The parts of a date or a moment. -/
def timeText? (text : List Char) : Option TimeText := do
  let (year, rest) ← digits? 4 4 text
  let rest ← mark? '-' rest
  let (month, rest) ← digits? 1 2 rest
  let rest ← mark? '-' rest
  let (day, rest) ← digits? 1 2 rest
  let clock ← if rest.isEmpty then some none else (clock? rest).map some
  return ⟨decimal year, decimal month, decimal day, clock, month.length == 2 && day.length == 2⟩

/-- Whether a plain scalar is a time: a date alone needs both digits of month and day. -/
def isTime (text : List Char) : Bool :=
  match timeText? text with
  | some time => time.clock.isSome || time.full
  | none => false

/-- The type of a spelling. -/
def spellingTag (text : String) : Tag :=
  let chars := text.toList
  if isNull text then .null
  else if isBool text then .bool
  else if isFloat chars then .float
  else if isUnsignedInt (unsigned chars) then .int
  else if text == "<<" then .merge
  else if isTime chars then .timestamp
  else if text == "=" then .default
  else if ["!", "&", "*"].contains text then .other (tagStart ++ "yaml")
  else .str

/-- The type of a plain scalar. -/
def plainTag (text : String) : Tag :=
  if text == "\n" then .str
  else if text.endsWith "\n" then spellingTag (String.ofList text.toList.dropLast)
  else spellingTag text

/-! ### Values -/

/-- A date, if there is such a day. -/
def checkedDate (time : TimeText) : Except ScalarFault Calendar.Date :=
  if time.year == 0 then .error (.yearRange time.year)
  else if time.month == 0 || 12 < time.month then .error .monthRange
  else if time.day == 0 || Calendar.daysIn time.year time.month < time.day then .error .dayRange
  else .ok ⟨time.year, time.month, time.day⟩

/-- The value of a scalar that is a time. -/
def timeValue (text : String) : Except ScalarFault Value := do
  let chars := text.toList
  let some time := timeText? (if chars.getLast? == some '\n' then chars.dropLast else chars)
    | .error .notTime
  match time.clock with
  | none => return .date (← checkedDate time)
  | some (hour, minute, second, fraction, zone) =>
    if let some seconds := zone then
      if 86400 ≤ seconds.natAbs then .error (.zoneRange seconds)
    let date ← checkedDate time
    if 23 < hour then .error .hourRange
    if 59 < minute then .error .minuteRange
    if 59 < second then .error .secondRange
    let microsecond := decimal ((fraction ++ List.replicate 6 '0').take 6)
    return .moment ⟨date, hour, minute, second, microsecond, zone⟩

/-- The truth value of a scalar. -/
def boolValue (text : String) : Except ScalarFault Bool :=
  let word := Text.lowerCase text
  match boolWords.lookup word with
  | some value => .ok value
  | none => .error (.notBool word)

end Introspection.Yaml
