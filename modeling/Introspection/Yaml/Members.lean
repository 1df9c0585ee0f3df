import Introspection.Yaml.Value

/-!
# The order of the members of a set

A set has no order that its author gave it, but it is shown in one. Numbers stand in a table: each
at the place that its residue names, or at the next free one on a fixed walk through the table.
Equal numbers have the same residue whatever their type, as residues are taken by a prime modulus
by which fractions have residues as well. The table is a power of two and more than twice as large
as the set. A set with other members keeps the order in which they were added.

## Main definitions

* `Yaml.residue?` — the residue of a number
* `Yaml.freePlace` — the walk through a table
* `Yaml.inOrder` — the members of a set in the order in which they are shown
-/

namespace Introspection.Yaml

-- Powers are those of the numbers themselves, also where algebra is in scope.
attribute [local instance (high)] instPowNat

/-- The modulus of residues. It is a prime, and two to the power of sixty-one is one by it. -/
def residueModulus : Nat := 2 ^ (61 : Nat) - 1

/-- The residue of a number by its sign and what it is congruent to without. No residue is
minus one. -/
def residueOf (negative : Bool) (size : Nat) : Int :=
  let residue : Int := (size % residueModulus : Nat)
  if !negative then residue else if residue = 1 then -2 else -residue

/-- The residue of a number. Infinity has one of its own. -/
def residue? : Value → Option Int
  | .bool value => some (if value then 1 else 0)
  | .int value => some (residueOf (value < 0) value.natAbs)
  | .float (.finite negative mantissa exponent) =>
    some (residueOf negative (mantissa * 2 ^ (exponent.emod 61).toNat))
  | .float (.infinite negative) => some (if negative then -314159 else 314159)
  | _ => none

/-- How large the table of so many members is. -/
def tableSize (count : Nat) : Nat :=
  if count < 5 then 8 else 2 ^ ((2 * count).log2 + 1)

/-- A table of members, with free places. -/
abbrev Table := Array (Option Value)

/-- The places that are looked at from one on: ten in a row, if there are so many. -/
def neighbours (size start : Nat) : List Nat :=
  if start + 9 < size then List.range' start 10 else [start]

/-- The first free place on the walk from a start. From one row of places the walk jumps to the
next, at first by what is left of the residue; without it, it reaches every place within as many
jumps as there are places, so the bound is never reached. -/
def freePlace (table : Table) (start left : Nat) : (fuel : Nat) → Nat
  | 0 => start
  | fuel + 1 =>
    match (neighbours table.size start).find? fun place => (table.getD place none).isNone with
    | some place => place
    | none =>
      let left := left / 32
      freePlace table ((5 * start + 1 + left) % table.size) left fuel

/-- Adds a member by its residue, of which negative ones count from the end of the words. -/
def addMember (table : Table) (member : Value × Int) : Table :=
  let word := (member.2.emod (2 ^ (64 : Nat))).toNat
  table.setIfInBounds (freePlace table (word % table.size) word (table.size + 13)) (some member.1)

/-- The members of a set in the order in which they are shown. -/
def inOrder (members : List Value) : List Value :=
  match members.mapM residue? with
  | none => members
  | some residues =>
    let table := Array.replicate (tableSize members.length) none
    ((members.zip residues).foldl addMember table).toList.filterMap id

end Introspection.Yaml
