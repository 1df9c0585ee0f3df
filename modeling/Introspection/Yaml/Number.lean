import Introspection.Text.Blank
import Introspection.Text.Digit
import Introspection.Text.LowerCase
import Introspection.Yaml.Fault

/-!
# The numbers that YAML scalars write

Integers are binary, octal, decimal, hexadecimal or in base sixty, and floats are decimal or in
base sixty, with a sign in front and underscores anywhere. Which spellings count as numbers by
themselves is decided elsewhere; here every text that is tagged as a number is read, and reading is
more lenient: there may be white space around a number, digits may come from any script, and a base
may be announced once more.

In base sixty the places are separated by colons. Floats are summed up from the last place, every
place being worth sixty times the one behind it, with one rounding for each product and sum.

## Main definitions

* `Yaml.integerValue` — the integer that a text writes
* `Yaml.floatValue` — the double that a text writes
* `Yaml.spellsNotANumber` — the spelling that all documents share for no number
-/

namespace Introspection.Yaml

/-- Drops a sign in front. -/
def unsigned : List Char → List Char
  | '+' :: rest => rest
  | '-' :: rest => rest
  | text => text

/-- The number written by decimal digits. -/
def decimal (digits : List Char) : Nat :=
  digits.foldl (fun value c => value * 10 + (c.toNat - '0'.toNat)) 0

/-- A character of a number in ASCII: digits of any script as digits, other white space as a
space. -/
def asciiOf (c : Char) : Char :=
  if c.val < 0x80 then c
  else if Text.isBlank c then ' '
  else
    match Text.digitValue? c with
    | some value => Char.ofNat ('0'.toNat + value)
    | none => c

/-- White space around a number. -/
def isNumberGap (c : Char) : Bool :=
  c == ' ' || (0x09 ≤ c.toNat && c.toNat ≤ 0x0D)

/-- The characters of a number in ASCII, without the white space around them. -/
def numberChars (text : List Char) : List Char :=
  (((text.map asciiOf).dropWhile isNumberGap).reverse.dropWhile isNumberGap).reverse

/-- The texts between colons. -/
def colonParts : List Char → List (List Char)
  | [] => [[]]
  | ':' :: rest => [] :: colonParts rest
  | c :: rest =>
    match colonParts rest with
    | [] => [[c]]
    | part :: parts => (c :: part) :: parts

/-! ### Integers -/

/-- The value of a digit in bases up to sixteen. -/
def digitIn? (base : Nat) (c : Char) : Option Nat :=
  let value? :=
    if c.isDigit then some (c.toNat - '0'.toNat)
    else if 'a' ≤ c ∧ c ≤ 'z' then some (c.toNat - 'a'.toNat + 10)
    else if 'A' ≤ c ∧ c ≤ 'Z' then some (c.toNat - 'A'.toNat + 10)
    else none
  value?.filter (· < base)

/-- The letter that announces a base behind a zero. -/
def baseLetter? : (base : Nat) → Option Char
  | 2 => some 'b'
  | 8 => some 'o'
  | 16 => some 'x'
  | _ => none

/-- Digits without the announcement of their base, if there is one. -/
def unannounced (base : Nat) : List Char → List Char
  | '0' :: letter :: digits =>
    if some letter.toLower = baseLetter? base then digits else '0' :: letter :: digits
  | digits => digits

/-- The integer that a text writes in a base. Only decimal digits are limited in number, and they
are counted before anything behind them is looked at. -/
def readInteger (base : Nat) (text : List Char) : Except ScalarFault Int :=
  let body := numberChars text
  let digits := unannounced base (unsigned body)
  let count := (digits.takeWhile Char.isDigit).length
  if base = 10 ∧ maxDigits < count then .error (.longNumber count)
  else
    match digits.foldlM (fun value c => (digitIn? base c).map (value * base + ·)) 0 with
    | some value =>
      if digits.isEmpty then .error (.notInteger base (String.ofList text))
      else .ok (if body.head? == some '-' then -(value : Int) else value)
    | none => .error (.notInteger base (String.ofList text))

/-- The integer of places in base sixty, the first of them the greatest. -/
def readSexagesimal (places : List (List Char)) : Except ScalarFault Int :=
  places.foldlM (fun value place => do return value * 60 + (← readInteger 10 place)) 0

/-- The integer that a text writes. -/
def integerValue (text : String) : Except ScalarFault Int :=
  let chars := text.toList.filter (· != '_')
  let signed (value : Int) : Int := if chars.head? == some '-' then -value else value
  match unsigned chars with
  | [] => .error .noDigits
  | ['0'] => .ok 0
  | '0' :: 'b' :: rest => (readInteger 2 rest).map signed
  | '0' :: 'x' :: rest => (readInteger 16 rest).map signed
  | '0' :: rest => (readInteger 8 ('0' :: rest)).map signed
  | digits =>
    if digits.contains ':' then (readSexagesimal (colonParts digits)).map signed
    else (readInteger 10 digits).map signed

/-! ### Floats -/

/-- Digits with at most one point among them: the digits, and how many stand behind the point. -/
def pointed? (text : List Char) : Option (List Char × Nat) :=
  let whole := text.takeWhile Char.isDigit
  match text.dropWhile Char.isDigit with
  | [] => if whole.isEmpty then none else some (whole, 0)
  | '.' :: fraction =>
    if fraction.all Char.isDigit && !(whole.isEmpty && fraction.isEmpty) then
      some (whole ++ fraction, fraction.length)
    else none
  | _ => none

/-- The exponent behind its letter, or zero if there is none. -/
def exponentValue? : List Char → Option Int
  | [] => some 0
  | _ :: rest =>
    let digits := unsigned rest
    if digits.isEmpty || !digits.all Char.isDigit then none
    else some (if rest.head? == some '-' then -(decimal digits : Int) else decimal digits)

/-- The double that a text in lower case writes. -/
def readFloat (text : List Char) : Except ScalarFault Binary64 :=
  let chars := numberChars text
  let negative := chars.head? == some '-'
  let body := unsigned chars
  let word := String.ofList body
  if word == "inf" || word == "infinity" then .ok (.infinite negative)
  else if word == "nan" then .ok .nan
  else
    match pointed? (body.takeWhile (· != 'e')), exponentValue? (body.dropWhile (· != 'e')) with
    | some (digits, places), some exponent =>
      .ok (.ofDecimal negative (decimal digits) (exponent - places))
    | _, _ => .error (.notFloat (String.ofList text))

/-- A double with the values of places in base sixty added, the least of them first and worth
`worth`. -/
def sumOfPlaces (value : Binary64) (worth : Nat) : List Binary64 → Except ScalarFault Binary64
  | [] => .ok value
  | place :: places =>
    match Binary64.ofNat? worth with
    | some factor => sumOfPlaces (value.sum (place.product factor)) (worth * 60) places
    | none => .error .hugePlace

/-- A text in lower case without underscores. -/
def floatChars (text : String) : List Char :=
  (Text.lowerCase (String.ofList (text.toList.filter (· != '_')))).toList

/-- The double that a text writes. -/
def floatValue (text : String) : Except ScalarFault Binary64 :=
  let chars := floatChars text
  let signed (value : Binary64) : Binary64 :=
    if chars.head? == some '-' then value.negate else value
  let body := unsigned chars
  if chars.isEmpty then .error .noDigits
  else if body == ".inf".toList then .ok (signed (.infinite false))
  else if body == ".nan".toList then .ok .nan
  else if body.contains ':' then do
    let places ← (colonParts body).mapM readFloat
    (sumOfPlaces (.finite false 0 (-1074)) 1 places.reverse).map signed
  else (readFloat body).map signed

/-- Whether a text is the spelling of no number that all documents share. -/
def spellsNotANumber (text : String) : Bool :=
  unsigned (floatChars text) == ".nan".toList

end Introspection.Yaml
