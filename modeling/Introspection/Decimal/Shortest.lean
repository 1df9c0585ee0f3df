import Introspection.Decimal.Binary64

/-!
# The shortest decimal text of a double

A double is written with the fewest significant digits that read back as the same double, and of
those with the digits nearest to it. The digits are searched for: for one digit, two digits and so
on the two neighbours of the value on that decimal grid are tried, in exact arithmetic; seventeen
digits always suffice.

The layout is positional for values from 10⁻⁴ up to below 10¹⁶, with a digit on either side of
the point, and scientific outside, with a signed exponent of at least two digits.

## Main definitions

* `Decimal.shortestDigits` — digits and the place of the point
* `Decimal.render` — the text of a double
-/

namespace Introspection.Decimal

-- Powers are those of the numbers themselves, also where algebra is in scope.
attribute [local instance (high)] instPowNat

/-- A positive double with the quotient it denotes, and what rounds to it: everything up to
`above` over it and down to `below` under it (in units of the common denominator), both ends
included if `closed`. -/
structure Target where
  num : Nat
  den : Nat
  below : Nat
  above : Nat
  closed : Bool

/-- The target of a mantissa and an exponent. The gap below a power of two is half as wide. -/
def Target.of (mantissa : Nat) (exponent : Int) : Target :=
  let narrow := mantissa == 2 ^ (52 : Nat) && exponent > -1074
  let (num, den) := Binary64.scaled mantissa 1 (-exponent)
  let unit := if exponent ≥ 0 then 2 ^ exponent.toNat else 1
  ⟨4 * num, 4 * den, if narrow then unit else 2 * unit, 2 * unit, mantissa % 2 == 0⟩

/-- Whether the quotient `n / d` rounds to the target. -/
def Target.accepts (target : Target) (n d : Nat) : Bool :=
  -- The distance of `n / d` from the value, times `d · den`.
  let here := n * target.den
  let value := target.num * d
  if here ≤ value then
    let gap := value - here
    if target.closed then gap ≤ target.below * d else gap < target.below * d
  else
    let gap := here - value
    if target.closed then gap ≤ target.above * d else gap < target.above * d

/-- The exponent `p` with `10 ^ (p - 1) ≤ num / den < 10 ^ p`, from a guess and a few steps. -/
def decimalExponent (num den : Nat) : Int :=
  let guess : Int := ((Nat.log2 num : Int) - (Nat.log2 den : Int)) * 30103 / 100000
  -- One candidate in this window satisfies both bounds.
  let fits (p : Int) : Bool :=
    match p with
    | .ofNat e => num < den * 10 ^ e
    | .negSucc e => num * 10 ^ (e + 1) < den
  ([guess - 1, guess, guess + 1, guess + 2].find? fits).getD (guess + 3)

/-- A quotient in units of `10 ^ power`. -/
def inUnits (num den : Nat) (power : Int) : Nat × Nat :=
  match power with
  | .ofNat e => (num, den * 10 ^ e)
  | .negSucc e => (num * 10 ^ (e + 1), den)

/-- The value `count · 10 ^ power` as a quotient. -/
def ofUnits (count : Nat) (power : Int) : Nat × Nat :=
  match power with
  | .ofNat e => (count * 10 ^ e, 1)
  | .negSucc e => (count, 10 ^ (e + 1))

/-- The digits of a target on the grid of `10 ^ power`, if a point of that grid rounds to it. -/
def Target.onGrid (target : Target) (power : Int) : Option Nat :=
  let (n, d) := inUnits target.num target.den power
  let lower := n / d
  let accepts (count : Nat) : Bool :=
    let (a, b) := ofUnits count power
    target.accepts a b
  match accepts lower, accepts (lower + 1) with
  | false, false => none
  | true, false => some lower
  | false, true => some (lower + 1)
  | true, true =>
    let rest := 2 * (n % d)
    if rest < d || (rest == d && lower % 2 == 0) then some lower else some (lower + 1)

/-- The shortest digits of a target, trying `tries` more digit counts from `count` on. -/
def Target.search (target : Target) (top : Int) (count : Nat) : (tries : Nat) → Nat × Int
  | 0 => (0, 0)
  | tries + 1 =>
    let power := top - count
    match target.onGrid power with
    | some digits => (digits, power)
    | none => target.search top (count + 1) tries

/-- Digits and a power of ten: the shortest decimal that reads back as the double. -/
def shortestDigits (mantissa : Nat) (exponent : Int) : Nat × Int :=
  let target := Target.of mantissa exponent
  target.search (decimalExponent target.num target.den) 1 17

/-- Drops the zeros at the end of some digits. -/
def dropTrailingZeros (digits : List Char) : List Char :=
  (digits.reverse.dropWhile (· == '0')).reverse

/-- The digits as they are laid out, the point standing after the first `point` of them. -/
def layout (digits : List Char) (point : Int) : List Char :=
  if -4 < point ∧ point ≤ 16 then
    if point ≤ 0 then
      '0' :: '.' :: (List.replicate (-point).toNat '0' ++ digits)
    else
      let whole := digits.take point.toNat
      let zeros := List.replicate (point.toNat - whole.length) '0'
      let fraction := digits.drop point.toNat
      whole ++ zeros ++ '.' :: (if fraction.isEmpty then ['0'] else fraction)
  else
    let power := point - 1
    let mark := if power < 0 then '-' else '+'
    let size := Nat.toDigits 10 power.natAbs
    let fraction := digits.drop 1
    digits.take 1 ++ (if fraction.isEmpty then [] else '.' :: fraction) ++
      'e' :: mark :: (List.replicate (2 - size.length) '0' ++ size)

/-- The text of a double. -/
def render : Binary64 → String
  | .nan => "nan"
  | .infinite negative => if negative then "-inf" else "inf"
  | .finite negative mantissa exponent =>
    let body :=
      if mantissa == 0 then ['0', '.', '0']
      else
        let (count, power) := shortestDigits mantissa exponent
        let all := Nat.toDigits 10 count
        layout (dropTrailingZeros all) (all.length + power)
    String.ofList (if negative then '-' :: body else body)

end Introspection.Decimal
