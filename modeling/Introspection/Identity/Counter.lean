import Introspection.Datum
import Introspection.Identity.Blake2b

/-!
# Element ids

The id of an element is a hash of a seed and of a counter. The counter goes into the hash as eight
bytes, so ids can be allocated only while it is a number of sixty-four bits; it moves on also when
it is not. The counter keeps equal seeds apart. Different seeds are kept apart only by the width
of the hash: two ids may coincide, and whoever reads them has to look.

## Main definitions

* `Identity.Counter`, `Identity.CounterFault`
* `Identity.hashInput` — the bytes that an id is the hash of
* `Identity.allocate` — the next id, and the counter behind it
-/

namespace Introspection.Identity

-- Powers are those of the numbers themselves, also where algebra is in scope.
attribute [local instance (high)] instPowNat

/-- The counter of an allocator: the value that the next allocation uses. -/
structure Counter where
  next : Int := 0
deriving DecidableEq, Inhabited, Repr

/-- Why a counter value cannot be hashed. -/
inductive CounterFault where
  | negative
  | tooLarge
deriving DecidableEq, Inhabited, Repr

/-- The wording of a fault. -/
def CounterFault.message : CounterFault → String
  | .negative => "can't convert negative int to unsigned"
  | .tooLarge => "int too big to convert"

/-- The eight bytes of a counter value, the least significant first. -/
def counterBytes (value : Int) : Except CounterFault (List UInt8) :=
  if value < 0 then .error .negative
  else if 2 ^ (64 : Nat) ≤ value then .error .tooLarge
  else .ok (Blake2b.bytesOf 8 value.toNat)

/-- The bytes that the id of a seed is the hash of: the text of the seed, then the counter. -/
def hashInput (seed : Datum) (value : Int) : Except CounterFault (List UInt8) :=
  match counterBytes value with
  | .error fault => .error fault
  | .ok bytes => .ok (seed.display.toUTF8.data.toList ++ bytes)

/-- The hash of some bytes as a number. -/
def hashId (bytes : List UInt8) : UInt64 :=
  Blake2b.wordOf (Blake2b.digest 8 bytes)

/-- The id of a seed at a counter value. -/
def idAt (seed : Datum) (value : Int) : Except CounterFault UInt64 :=
  match hashInput seed value with
  | .error fault => .error fault
  | .ok bytes => .ok (hashId bytes)

/-- The next id, and the counter behind it. -/
def allocate (counter : Counter) (seed : Datum) : Except CounterFault UInt64 × Counter :=
  (idAt seed counter.next, ⟨counter.next + 1⟩)

/-- The ids of some seeds in order, and the counter behind them. -/
def allocateAll (counter : Counter) : List Datum → List (Except CounterFault UInt64) × Counter
  | [] => ([], counter)
  | seed :: seeds =>
    let (id, counter) := allocate counter seed
    let (ids, counter) := allocateAll counter seeds
    (id :: ids, counter)

end Introspection.Identity
