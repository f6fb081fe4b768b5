import DeviceCopy.DType

/-!
# Wide words and little-endian bytes

A wide word is four 32-bit lanes, stored lane after lane with the low byte of each lane first. The
byte order is the one every element of a device buffer uses.
-/

set_option autoImplicit false

namespace DeviceCopy

/-- A run of bytes in memory order. -/
abbrev Bytes := List UInt8

/-- The low `width` bytes of a number, low byte first. -/
def littleEndian : (width value : Nat) → Bytes
  | 0, _ => []
  | width + 1, value => UInt8.ofNat value :: littleEndian width (value / 256)

@[simp] theorem length_littleEndian (width value : Nat) :
    (littleEndian width value).length = width := by
  induction width generalizing value with
  | zero => rfl
  | succ width ih => simp [littleEndian, ih]

/-- Four 32-bit lanes that move as one unit. -/
structure WideWord where
  lane0 : UInt32
  lane1 : UInt32
  lane2 : UInt32
  lane3 : UInt32
  deriving DecidableEq, Repr

namespace WideWord

def zero : WideWord := ⟨0, 0, 0, 0⟩

def lanes (w : WideWord) : List UInt32 := [w.lane0, w.lane1, w.lane2, w.lane3]

def bytes (w : WideWord) : Bytes := w.lanes.flatMap (fun lane => littleEndian 4 lane.toNat)

/-- Alignment of a wide word in bytes: a word starts at a multiple of its own size. -/
def alignment : Nat := wideWordBytes

def text (w : WideWord) : String :=
  "WideWord([" ++ ", ".intercalate (w.lanes.map (fun lane => toString lane.toNat)) ++ "])"

@[simp] theorem length_bytes (w : WideWord) : w.bytes.length = wideWordBytes := by
  simp [bytes, lanes, wideWordBytes]

end WideWord

/-- An address a wide word may start at. -/
def isWideAligned (address : Nat) : Bool := address % wideWordBytes == 0

end DeviceCopy
