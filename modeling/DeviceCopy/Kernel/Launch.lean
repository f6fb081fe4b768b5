import DeviceCopy.Kernel.Copy

/-!
# Launches over memory

A launch is one kernel on one grid with its arguments. Carried out thread by thread in rank order it
turns the memory it finds into another one; the first thread that gives up ends the launch. Rank
order is one order among many, and the threads of a copy touch separate bytes.
-/

set_option autoImplicit false

namespace DeviceCopy

/-- A kernel on a grid, with the element count and the two buffer addresses. -/
structure Launch where
  kernel : Kernel
  geometry : Geometry
  count : Nat
  src : Nat
  dst : Nat
  deriving DecidableEq, Repr

namespace Launch

/-- What the thread of a given rank does. -/
def programAt (l : Launch) (rank : Nat) : Program :=
  l.kernel.program l.count (l.geometry.thread rank)

/-- Carry out `remaining` threads, beginning with the one of the given rank. -/
def runFrom (l : Launch) : (remaining rank : Nat) → Memory → Memory × Option Fault
  | 0, _, m => (m, none)
  | remaining + 1, rank, m =>
      let p := l.programAt rank
      match p.fault with
      -- What the thread did before it gave up stays done.
      | some f => (p.run l.src l.dst m, some f)
      | none => runFrom l remaining (rank + 1) (p.run l.src l.dst m)

def run (l : Launch) (m : Memory) : Memory × Option Fault :=
  l.runFrom l.geometry.threadCount 0 m

end Launch

end DeviceCopy
