import Introspection.Yaml.Value

/-!
# What can be wrong with a YAML text

A text may fail to be YAML, or it may be YAML that names something that does not exist: a scalar
without a value of its type, such as the thirteenth month, or a character beyond the last one. The
first is one fault, however the text is malformed; the others are told apart.

Once it is loaded, a scalar may still have no text. Integers of any length can be written in
hexadecimal digits, but their decimal digits are limited in number, where they are read as well as
where they are written.

A loader is any function from texts to documents. Whoever reads a file in YAML is given one, and
what is said about such files is said for all of them.

## Main definitions

* `Yaml.ScalarFault`, `Yaml.ScalarFault.message`
* `Yaml.numeral` — the text of an integer
* `Yaml.Fault`, `Yaml.Loader`
* `Yaml.orMalformed` — nothing as a fault
-/

namespace Introspection.Yaml

-- Powers are those of the numbers themselves, also where algebra is in scope.
attribute [local instance (high)] instPowNat

/-- Why a scalar has no value. -/
inductive ScalarFault where
  | notBool (text : String)
  | notInteger (base : Nat) (text : String)
  /-- A decimal number has too many digits to be read. -/
  | longNumber (count : Nat)
  | notFloat (text : String)
  /-- A number without any text. -/
  | noDigits
  /-- A place of a number in base sixty is worth more than any double. -/
  | hugePlace
  | notTime
  /-- A time that is written as a mapping. -/
  | timeInMapping
  | yearRange (year : Nat)
  | monthRange
  | dayRange
  | hourRange
  | minuteRange
  | secondRange
  | zoneRange (seconds : Int)
  /-- A character is named by a number beyond the last code point. -/
  | noSuchCharacter
  /-- A character is named by a number that takes all bits of a word. -/
  | hugeCharacter
  /-- The text of a scalar is that of a mapping which refers back to itself. -/
  | endless
  /-- A text is wanted of an integer that is too long for one. -/
  | tooManyDigits
deriving DecidableEq, Inhabited, Repr

/-- How many decimal digits the text of an integer may have, written or read. -/
def maxDigits : Nat := 4300

/-- The wording of a fault. The text of a number is quoted up to two hundred characters. -/
def ScalarFault.message : ScalarFault → String
  | .notBool text => Text.quoted text
  | .notInteger base text =>
    "invalid literal for int() with base " ++ toString base ++ ": " ++
      String.ofList ((Text.quotedChars text.toList).take 200)
  | .longNumber count =>
    "Exceeds the limit (" ++ toString maxDigits ++ " digits) for integer string conversion: " ++
      "value has " ++ toString count ++
      " digits; use sys.set_int_max_str_digits() to increase the limit"
  | .notFloat text => "could not convert string to float: " ++ Text.quoted text
  | .noDigits => "string index out of range"
  | .hugePlace => "int too large to convert to float"
  | .notTime => "'NoneType' object has no attribute 'groupdict'"
  | .timeInMapping => "expected string or bytes-like object, got 'list'"
  | .yearRange year => "year " ++ toString year ++ " is out of range"
  | .monthRange => "month must be in 1..12"
  | .dayRange => "day is out of range for month"
  | .hourRange => "hour must be in 0..23"
  | .minuteRange => "minute must be in 0..59"
  | .secondRange => "second must be in 0..59"
  | .zoneRange seconds =>
    "offset must be a timedelta strictly between -timedelta(hours=24) and timedelta(hours=24), " ++
      "not " ++ Moment.durationText seconds ++ "."
  | .noSuchCharacter => "chr() arg not in range(0x110000)"
  | .hugeCharacter => "Python int too large to convert to C int"
  | .endless => "maximum recursion depth exceeded"
  | .tooManyDigits =>
    "Exceeds the limit (" ++ toString maxDigits ++ " digits) for integer string conversion; " ++
      "use sys.set_int_max_str_digits() to increase the limit"

/-- The text of an integer, unless it is too long. -/
def numeral (value : Int) : Except ScalarFault String :=
  if 10 ^ maxDigits ≤ value.natAbs then .error .tooManyDigits else .ok (toString value)

/-- Why a text cannot be loaded. -/
inductive Fault where
  /-- The text is not one YAML document. -/
  | malformed
  /-- A scalar has no value. -/
  | scalar (fault : ScalarFault)
deriving DecidableEq, Inhabited, Repr

/-- What loads a document from a text. Which one it is is left to the outer program. -/
abbrev Loader := List Char → Except Fault Document

/-- What there is; nothing makes a text malformed. -/
def orMalformed {α : Type} : Option α → Except Fault α
  | some value => .ok value
  | none => .error .malformed

end Introspection.Yaml
