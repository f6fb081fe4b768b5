import DeviceCopy.Checked
import DeviceCopy.DType

/-!
# Copy strategies

How the elements of a copy are shared out among threads: one at a time, one wide word at a time, or
several wide words staged per step. A strategy fixes the *granularity*, the number of elements one
thread-step covers, and with it the size of the grid.
-/

set_option autoImplicit false

namespace DeviceCopy

/-- Wide words a thread stages per step unless a caller chooses otherwise. -/
def defaultBlockingFactor : Nat := 2

/-- Most groups a looping staged launch asks for. -/
def loopedGroupCap : Nat := 64

/-- `f32` elements in one wide word. -/
def floatLanes : Nat := DType.f32.lanes

/-- How a copy is shared out among threads. -/
inductive Strategy
  /-- One element per thread-step, any alignment. -/
  | scalar
  /-- One wide word per thread-step, then the elements past the last whole word. -/
  | vector
  /-- Several wide words staged per thread-step, for `f32` only. -/
  | blocked
  deriving DecidableEq, Repr

namespace Strategy

/-- Elements one thread-step covers. -/
def granularity (s : Strategy) (dtype : DType) (factor : Nat) : Checked Nat :=
  match s with
  | scalar => .ok 1
  | vector => .ok dtype.lanes
  | blocked => Checked.mul floatLanes factor

/-- The strategy for `n` elements when none is requested. Buffers off a wide-word boundary and
copies shorter than one wide word gain nothing from the wide strategies. -/
def auto (dtype : DType) (n : Nat) (wideAligned : Bool) : Strategy :=
  if !wideAligned || n < dtype.lanes then scalar
  else if dtype = .f32 then blocked
  else vector

def name : Strategy → String
  | scalar => "scalar"
  | vector => "vector"
  | blocked => "blocked"

def label : Strategy → String
  | scalar => "Scalar"
  | vector => "Vector"
  | blocked => "RegisterBlocked"

def ofName? (name : String) : Option Strategy :=
  [scalar, vector, blocked].find? (fun s => s.name == name)

end Strategy

/-- How the threads of a staged launch walk over the words. -/
inductive Sweep
  /-- Each thread covers its slots once; the grid has to cover the whole copy. -/
  | singlePass
  /-- Threads come back for more, one grid-width further on each time. -/
  | gridStride
  deriving DecidableEq, Repr

namespace Sweep

def name : Sweep → String
  | singlePass => "blocked"
  | gridStride => "blocked_loop"

def ofName? (name : String) : Option Sweep :=
  [singlePass, gridStride].find? (fun s => s.name == name)

end Sweep

end DeviceCopy
