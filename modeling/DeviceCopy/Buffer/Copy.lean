import DeviceCopy.Buffer.Basic
import DeviceCopy.Copy

/-!
# Checked copies

Copies between buffers, with every request checked before anything is enqueued: element types,
devices, lengths, distinctness, alignment, in this order. A copy that passes is enqueued, and the
call returns when the stream has nothing left to do.
-/

set_option autoImplicit false

namespace DeviceCopy

namespace Buffer

variable {World Device Client : Type}

/-- The first thing wrong with a request to copy `count` elements, if anything is. -/
def copyProblem (b : Backend World Device Client) (client : Client) (strategy : Strategy)
    (src dst : Buffer Device) (count : Nat) : Option Error :=
  let home := b.deviceId (b.clientDevice client)
  let wide := strategy != .scalar
  -- Two distinct buffers never share a byte, so comparing pointers finds every overlap.
  if src.dtype ≠ dst.dtype then some (.dtypeMismatch src.dtype dst.dtype)
  else if home ≠ b.deviceId src.device ∨ home ≠ b.deviceId dst.device then some .deviceMismatch
  else if src.length < count then some (.bufferTooSmall count src.length)
  else if dst.length < count then some (.bufferTooSmall count dst.length)
  else if 0 < count ∧ src.pointer = dst.pointer then some (.invalidArgument "dst" .overlap)
  else if wide && !b.wideAligned src.pointer then some (.misaligned src.pointer wideWordBytes)
  else if wide && !b.wideAligned dst.pointer then some (.misaligned dst.pointer wideWordBytes)
  else none

/-- Copy the first `count` elements of one buffer to another with a chosen strategy, and wait. -/
def copyWith (b : Backend World Device Client) (client : Client) (strategy : Strategy)
    (src dst : Buffer Device) (count : Nat) : Effect World Unit :=
  match copyProblem b client strategy src dst count with
  | some e => .fail e
  | none => do
      Copy.withStrategy b client strategy src.dtype count src.pointer dst.pointer
      -- A failure above ends the call here, without waiting.
      b.synchronize client

/-- The strategy for a copy between two buffers when none is requested. -/
def autoStrategy (b : Backend World Device Client) (src dst : Buffer Device) (count : Nat) :
    Strategy :=
  .auto src.dtype count (b.wideAligned src.pointer && b.wideAligned dst.pointer)

/-- Copy the first `count` elements of one buffer to another, and wait. The answer is the strategy
used. -/
def copy (b : Backend World Device Client) (client : Client) (src dst : Buffer Device)
    (count : Nat) : Effect World Strategy := do
  let strategy := autoStrategy b src dst count
  copyWith b client strategy src dst count
  return strategy

end Buffer

end DeviceCopy
