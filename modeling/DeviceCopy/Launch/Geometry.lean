import DeviceCopy.Checked

/-!
# Launch geometry

A launch runs a one-dimensional grid of equally wide thread groups. The group count is derived from
the element count by rounding up, and it is never zero: a copy of nothing still launches one group,
whose threads find nothing to do.
-/

set_option autoImplicit false

namespace DeviceCopy

/-- Threads in each group of a copy launch. -/
def threadsPerGroup : Nat := 64

/-- Shape of the grid of one launch. -/
structure Geometry where
  groups : Nat
  threadsPerGroup : Nat
  sharedMemBytes : Nat
  deriving DecidableEq, Repr

/-- The least positive number of groups whose threads, `granularity` elements each, cover `n`. -/
def groupCount (n granularity threads : Nat) : Checked Nat := do
  Checked.require (0 < granularity) .zeroGranularity
  let perGroup ← Checked.mul threads granularity
  let groups ← Checked.ceilDiv n perGroup
  return max groups 1

namespace Geometry

/-- A grid of groups of the standard width. -/
def ofGroups (groups : Nat) : Geometry :=
  { groups, threadsPerGroup := DeviceCopy.threadsPerGroup, sharedMemBytes := 0 }

/-- The grid that covers `n` elements at `granularity` elements per thread-step. -/
def forCount (n granularity : Nat) : Checked Geometry := do
  return ofGroups (← groupCount n granularity DeviceCopy.threadsPerGroup)

/-- A grid of the requested number of groups, at least one. -/
def withGroups (groups : Nat) : Geometry := ofGroups (max groups 1)

/-- At most `limit` groups, yet at least one. Only kernels that loop over what a small grid leaves
uncovered may be launched on a capped grid. -/
def capped (g : Geometry) (limit : Nat) : Geometry :=
  { g with groups := min g.groups (max limit 1) }

/-- Threads in the whole grid. -/
def totalThreads (g : Geometry) : Checked Nat := Checked.mul g.groups g.threadsPerGroup

@[simp] theorem groups_capped (g : Geometry) (limit : Nat) :
    (g.capped limit).groups = min g.groups (max limit 1) := rfl

end Geometry

end DeviceCopy
