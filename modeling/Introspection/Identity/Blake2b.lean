/-!
# BLAKE2b

The hash function BLAKE2b without a key, for any digest size up to sixty-four bytes. A state of
eight words absorbs the message block by block; each block is mixed in over twelve rounds of
rotations, additions and exclusive ors on sixteen words. Words are read and written with their
least significant byte first.

Nothing in this library rests on the hash being hard to invert or free of collisions; it is only a
function of its input.

## Main definitions

* `Blake2b.wordOf`, `Blake2b.bytesOf` — words and bytes
* `Blake2b.compress` — one block
* `Blake2b.digest` — the hash of a message
-/

namespace Introspection.Blake2b

-- Powers are those of the numbers themselves, also where algebra is in scope.
attribute [local instance (high)] instPowNat

/-- The word of some bytes, the first of them least significant. -/
def wordOf (bytes : List UInt8) : UInt64 :=
  bytes.foldr (fun byte word => (word <<< 8) ||| byte.toUInt64) 0

/-- The low `count` bytes of a number, the least significant first. -/
def bytesOf : (count : Nat) → Nat → List UInt8
  | 0, _ => []
  | count + 1, n => UInt8.ofNat (n % 256) :: bytesOf count (n / 256)

/-- The initial state, which also enters every compression. -/
def initial : Vector UInt64 8 := #v[
  0x6A09E667F3BCC908, 0xBB67AE8584CAA73B, 0x3C6EF372FE94F82B, 0xA54FF53A5F1D36F1,
  0x510E527FADE682D1, 0x9B05688C2B3E6C1F, 0x1F83D9ABFB41BD6B, 0x5BE0CD19137E2179]

/-- The order in which each round takes the words of the block. -/
def schedule : List (Vector (Fin 16) 16) := [
  #v[0, 1, 2, 3, 4, 5, 6, 7, 8, 9, 10, 11, 12, 13, 14, 15],
  #v[14, 10, 4, 8, 9, 15, 13, 6, 1, 12, 0, 2, 11, 7, 5, 3],
  #v[11, 8, 12, 0, 5, 2, 15, 13, 10, 14, 3, 6, 7, 1, 9, 4],
  #v[7, 9, 3, 1, 13, 12, 11, 14, 2, 6, 5, 10, 4, 0, 15, 8],
  #v[9, 0, 5, 7, 2, 4, 10, 15, 14, 1, 11, 12, 6, 8, 3, 13],
  #v[2, 12, 6, 10, 0, 11, 8, 3, 4, 13, 7, 5, 15, 14, 1, 9],
  #v[12, 5, 1, 15, 14, 13, 4, 10, 0, 7, 6, 3, 9, 2, 8, 11],
  #v[13, 11, 7, 14, 12, 1, 3, 9, 5, 0, 15, 4, 8, 6, 2, 10],
  #v[6, 15, 14, 9, 11, 3, 0, 8, 12, 2, 13, 7, 1, 4, 10, 5],
  #v[10, 2, 8, 4, 7, 6, 1, 5, 15, 11, 9, 14, 3, 12, 13, 0],
  #v[0, 1, 2, 3, 4, 5, 6, 7, 8, 9, 10, 11, 12, 13, 14, 15],
  #v[14, 10, 4, 8, 9, 15, 13, 6, 1, 12, 0, 2, 11, 7, 5, 3]]

/-- A word rotated to the right. -/
def rotateRight (word : UInt64) (count : UInt64) : UInt64 :=
  (word >>> count) ||| (word <<< (64 - count))

/-- Mixes two words of the block into four words of the working state. -/
def mix (state : Vector UInt64 16) (a b c d : Fin 16) (x y : UInt64) : Vector UInt64 16 :=
  let va := state[a] + state[b] + x
  let vd := rotateRight (state[d] ^^^ va) 32
  let vc := state[c] + vd
  let vb := rotateRight (state[b] ^^^ vc) 24
  let va := va + vb + y
  let vd := rotateRight (vd ^^^ va) 16
  let vc := vc + vd
  let vb := rotateRight (vb ^^^ vc) 63
  (((state.set a va).set b vb).set c vc).set d vd

/-- One round: the columns of the working state, then its diagonals. -/
def round (block : Vector UInt64 16) (state : Vector UInt64 16) (order : Vector (Fin 16) 16) :
    Vector UInt64 16 :=
  let word (i : Fin 16) : UInt64 := block[order[i]]
  let state := mix state 0 4 8 12 (word 0) (word 1)
  let state := mix state 1 5 9 13 (word 2) (word 3)
  let state := mix state 2 6 10 14 (word 4) (word 5)
  let state := mix state 3 7 11 15 (word 6) (word 7)
  let state := mix state 0 5 10 15 (word 8) (word 9)
  let state := mix state 1 6 11 12 (word 10) (word 11)
  let state := mix state 2 7 8 13 (word 12) (word 13)
  mix state 3 4 9 14 (word 14) (word 15)

/-- The state after a block. `total` is the count of message bytes up to the end of the block, and
the last block is marked. -/
def compress (state : Vector UInt64 8) (block : Vector UInt64 16) (total : Nat) (last : Bool) :
    Vector UInt64 8 :=
  let working : Vector UInt64 16 := state ++ initial
  let working := working.set 12 (working[12] ^^^ UInt64.ofNat total)
  let working := working.set 13 (working[13] ^^^ UInt64.ofNat (total / 2 ^ (64 : Nat)))
  let working := if last then working.set 14 (working[14] ^^^ 0xFFFFFFFFFFFFFFFF) else working
  let mixed := schedule.foldl (round block) working
  Vector.ofFn fun i : Fin 8 => state[i] ^^^ mixed[i.val] ^^^ mixed[i.val + 8]

/-- The count of bytes in a block. -/
def blockSize : Nat := 128

/-- The words of at most a block of bytes, filled up with zeros. -/
def blockOf (bytes : List UInt8) : Vector UInt64 16 :=
  Vector.ofFn fun i => wordOf ((bytes.drop (8 * i.val)).take 8)

/-- Absorbs a message, `total` bytes having been absorbed before. -/
def absorb (state : Vector UInt64 8) (total : Nat) (message : List UInt8) : Vector UInt64 8 :=
  if message.length ≤ blockSize then
    compress state (blockOf message) (total + message.length) true
  else
    absorb (compress state (blockOf (message.take blockSize)) (total + blockSize) false)
      (total + blockSize) (message.drop blockSize)
termination_by message.length
decreasing_by
  simp only [List.length_drop, blockSize] at *
  omega

/-- The hash of a message, `size` bytes long. -/
def digest (size : Nat) (message : List UInt8) : List UInt8 :=
  let state := initial.set 0 (initial[0] ^^^ UInt64.ofNat (0x01010000 + size))
  ((absorb state 0 message).toList.flatMap fun word => bytesOf 8 word.toNat).take size

end Introspection.Blake2b
