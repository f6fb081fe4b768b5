import DeviceCopy.WideWord

/-!
# Data in reports

Short data is reported in full, as hexadecimal digits in memory order. Of longer data a report gives
the length, both ends and a 64-bit checksum over all bytes.
-/

set_option autoImplicit false

namespace DeviceCopy

def hexByte (byte : UInt8) : List Char :=
  [Nat.digitChar (byte.toNat / 16), Nat.digitChar (byte.toNat % 16)]

def hexText (bytes : Bytes) : String := String.ofList (bytes.flatMap hexByte)

def hexValue? (c : Char) : Option Nat :=
  if '0' ≤ c ∧ c ≤ '9' then some (c.toNat - '0'.toNat)
  else if 'a' ≤ c ∧ c ≤ 'f' then some (c.toNat - 'a'.toNat + 10)
  else if 'A' ≤ c ∧ c ≤ 'F' then some (c.toNat - 'A'.toNat + 10)
  else none

/-- The bytes that pairs of hexadecimal digits stand for. -/
def bytesOfHex? : List Char → Option Bytes
  | [] => some []
  | [_] => none
  | high :: low :: rest => do
      let h ← hexValue? high
      let l ← hexValue? low
      let bytes ← bytesOfHex? rest
      return UInt8.ofNat (16 * h + l) :: bytes

/-- The FNV-1a checksum of bytes, 64 bits wide: for each byte, exclusive or and then a product
that keeps its low bits. -/
def checksum (bytes : Bytes) : UInt64 :=
  bytes.foldl (fun hash byte => (hash ^^^ byte.toUInt64) * 0x100000001b3) 0xcbf29ce484222325

inductive Excerpt
  | full (bytes : Bytes)
  | summary (length : Nat) (checksum : UInt64) (head tail : Bytes)
  deriving DecidableEq, Repr

namespace Excerpt

def fullLimit : Nat := 512

def endLength : Nat := 64

/-- What a report says of data. -/
def of (bytes : Bytes) : Excerpt :=
  if bytes.length ≤ fullLimit then full bytes
  else summary bytes.length (checksum bytes) (bytes.take endLength)
    (bytes.drop (bytes.length - endLength))

end Excerpt

def hexWord (word : UInt64) : String :=
  let digits := Nat.toDigits 16 word.toNat
  String.ofList (List.replicate (16 - digits.length) '0' ++ digits)

end DeviceCopy
