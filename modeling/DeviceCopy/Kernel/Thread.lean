import DeviceCopy.Launch.Geometry

/-!
# Threads of a grid

A grid of `groups` groups of equal width holds one thread for every rank below the product. A thread
knows its place: the group it is in and its index there. The coordinates feed checked arithmetic, so
a grid whose ranks do not fit in a word faults instead of wrapping around.
-/

set_option autoImplicit false

namespace DeviceCopy

/-- Place of one thread in its grid. -/
structure Thread where
  index : Nat
  group : Nat
  groupWidth : Nat
  groups : Nat
  deriving DecidableEq, Repr

namespace Thread

def rank (t : Thread) : Checked Nat := do
  Checked.add (← Checked.mul t.group t.groupWidth) t.index

/-- Threads in the whole grid, the step of a grid-stride loop. -/
def total (t : Thread) : Checked Nat := Checked.mul t.groups t.groupWidth

/-- First word of the thread when each group owns `factor` consecutive runs of its own width. -/
def blockBase (t : Thread) (factor : Nat) : Checked Nat := do
  let runs ← Checked.mul factor t.group
  let start ← Checked.mul runs t.groupWidth
  Checked.add t.index start

end Thread

namespace Geometry

/-- The thread of a given rank. -/
def thread (g : Geometry) (rank : Nat) : Thread :=
  { index := rank % g.threadsPerGroup
    group := rank / g.threadsPerGroup
    groupWidth := g.threadsPerGroup
    groups := g.groups }

/-- Number of threads in the grid, as an exact product. -/
def threadCount (g : Geometry) : Nat := g.groups * g.threadsPerGroup

/-- All threads of the grid, in rank order. The order names the threads; it does not say which of
them acts first. -/
def threads (g : Geometry) : List Thread := (List.range g.threadCount).map g.thread

end Geometry

end DeviceCopy
