/-!
# Double-precision numbers, exactly

A double is kept as what it denotes: a sign, a mantissa and a power of two, or an infinity, or
the value that is no number. Every rounding is a rounding of a quotient of natural numbers to the
nearest double, ties to the even mantissa, so no arithmetic of the machine is involved and every
result can be evaluated.

## Main definitions

* `Binary64`
* `Binary64.ofRatio` — the double nearest to a quotient
* `Binary64.ofDecimal` — the double nearest to a decimal number
* `Binary64.ofNat?` — the double nearest to a natural number, if there is one
* `Binary64.sum`, `Binary64.product` — addition and multiplication of doubles
-/

namespace Introspection

-- Powers are those of the numbers themselves, also where algebra is in scope.
attribute [local instance (high)] instPowNat

/-- A double: `± mantissa · 2 ^ exponent`, an infinity, or no number. -/
inductive Binary64 where
  | finite (negative : Bool) (mantissa : Nat) (exponent : Int)
  | infinite (negative : Bool)
  | nan
deriving DecidableEq, Repr

namespace Binary64

/-- A quotient rounded to the nearest natural number, a half to the even one. -/
def roundHalfEven (num den : Nat) : Nat :=
  let quotient := num / den
  let rest := 2 * (num % den)
  if rest < den || (rest == den && quotient % 2 == 0) then quotient else quotient + 1

/-- `num / den` scaled by `2 ^ (-exponent)`, as a quotient of natural numbers. -/
def scaled (num den : Nat) (exponent : Int) : Nat × Nat :=
  match exponent with
  | .ofNat e => (num, den * 2 ^ e)
  | .negSucc e => (num * 2 ^ (e + 1), den)

/-- The exponent at which the quotient has a mantissa of fifty-three bits. -/
def leadingExponent (num den : Nat) : Int :=
  let guess : Int := (Nat.log2 num : Int) - (Nat.log2 den : Int) - 52
  let (n, d) := scaled num den guess
  if n < d * 2 ^ (52 : Nat) then guess - 1 else guess

/-- The double nearest to `± num / den`, for a positive `den`. -/
def ofRatio (negative : Bool) (num den : Nat) : Binary64 :=
  if num == 0 then .finite negative 0 (-1074)
  else
    let exponent := max (leadingExponent num den) (-1074)
    let (n, d) := scaled num den exponent
    let mantissa := roundHalfEven n d
    let (mantissa, exponent) :=
      if mantissa == 2 ^ (53 : Nat) then (2 ^ (52 : Nat), exponent + 1) else (mantissa, exponent)
    if exponent > 971 then .infinite negative else .finite negative mantissa exponent

/-- The double nearest to `± digits · 10 ^ exponent`. Exponents far outside the range of doubles
are decided by the count of digits alone. -/
def ofDecimal (negative : Bool) (digits : Nat) (exponent : Int) : Binary64 :=
  let magnitude : Int := (Nat.log2 digits : Int) / 3 + 1 + exponent
  if digits == 0 then .finite negative 0 (-1074)
  else if exponent > 400 then .infinite negative
  else if magnitude < -400 then .finite negative 0 (-1074)
  else
    match exponent with
    | .ofNat e => ofRatio negative (digits * 10 ^ e) 1
    | .negSucc e => ofRatio negative digits (10 ^ (e + 1))

/-- Whether a double is a zero of either sign. -/
def isZero : Binary64 → Bool
  | .finite _ mantissa _ => mantissa == 0
  | _ => false

/-- The double of the other sign. -/
def negate : Binary64 → Binary64
  | .finite negative mantissa exponent => .finite (!negative) mantissa exponent
  | .infinite negative => .infinite (!negative)
  | .nan => .nan

/-- The double nearest to `value / 2 ^ 1074`. -/
def ofNumerator (value : Int) : Binary64 :=
  ofRatio (value < 0) value.natAbs (2 ^ (1074 : Nat))

/-- A finite double as a numerator over `2 ^ 1074`, the smallest distance of two doubles. -/
def numerator (negative : Bool) (mantissa : Nat) (exponent : Int) : Int :=
  let magnitude : Int := mantissa * 2 ^ (exponent + 1074).toNat
  if negative then -magnitude else magnitude

/-- The double nearest to a natural number, unless that is beyond all finite ones. -/
def ofNat? (n : Nat) : Option Binary64 :=
  match ofRatio false n 1 with
  | .infinite _ => none
  | value => some value

/-- Addition, rounded once. A sum of zeros is negative only if both of them are. -/
def sum : Binary64 → Binary64 → Binary64
  | .finite n m e, .finite n' m' e' =>
    if m == 0 && m' == 0 then .finite (n && n') 0 (-1074)
    else ofNumerator (numerator n m e + numerator n' m' e')
  | .infinite n, .infinite n' => if n == n' then .infinite n else .nan
  | .infinite n, .finite .. => .infinite n
  | .finite .., .infinite n => .infinite n
  | .nan, _ => .nan
  | _, .nan => .nan

/-- Multiplication, rounded once. -/
def product : Binary64 → Binary64 → Binary64
  | .finite n m e, .finite n' m' e' =>
    let (num, den) := scaled (m * m') 1 (-(e + e'))
    ofRatio (n != n') num den
  | .infinite n, .finite n' m _ => if m == 0 then .nan else .infinite (n != n')
  | .finite n m _, .infinite n' => if m == 0 then .nan else .infinite (n != n')
  | .infinite n, .infinite n' => .infinite (n != n')
  | .nan, _ => .nan
  | _, .nan => .nan

/-- The integer that a double is equal to, if there is one. -/
def toInt? : Binary64 → Option Int
  | .finite negative mantissa exponent =>
    let whole :=
      match exponent with
      | .ofNat e => some (mantissa * 2 ^ e)
      | .negSucc e => if mantissa % 2 ^ (e + 1) == 0 then some (mantissa / 2 ^ (e + 1)) else none
    whole.map fun (n : Nat) => if negative then -(n : Int) else n
  | _ => none

end Binary64

end Introspection
