import DeviceCopy.Error
import DeviceCopy.Launch.Geometry

/-!
# Launch limits

What a device accepts as a grid. A launch inside the limits runs; a launch outside them is rejected
with the grid and the limits in the report.
-/

set_option autoImplicit false

namespace DeviceCopy

/-- The largest grid a device runs. -/
structure Limits where
  maxThreadsPerGroup : Nat
  maxGroups : Nat
  deriving DecidableEq, Repr

namespace Limits

/-- Limits of a device that states none of its own. -/
def standard : Limits := { maxThreadsPerGroup := 1024, maxGroups := Nat.pow 2 31 - 1 }

/-- Whether a grid is within the limits. Neither side of an admissible grid is zero. -/
def Admits (l : Limits) (g : Geometry) : Prop :=
  (0 < g.threadsPerGroup ∧ g.threadsPerGroup ≤ l.maxThreadsPerGroup) ∧
    0 < g.groups ∧ g.groups ≤ l.maxGroups

instance (l : Limits) (g : Geometry) : Decidable (l.Admits g) :=
  inferInstanceAs (Decidable (_ ∧ _))

/-- The report on a grid outside the limits. -/
def violation (l : Limits) (g : Geometry) : Error :=
  .invalidGeometry g.groups g.threadsPerGroup l.maxGroups l.maxThreadsPerGroup

def check (l : Limits) (g : Geometry) : Except Error Unit :=
  if l.Admits g then .ok () else .error (l.violation g)

theorem check_eq_ok_iff {l : Limits} {g : Geometry} : l.check g = .ok () ↔ l.Admits g := by
  unfold check
  split <;> simp_all

def text (l : Limits) : String :=
  s!"DeviceLimits \x7b max_threads_per_group: {l.maxThreadsPerGroup}, max_groups: {l.maxGroups} \x7d"

end Limits

end DeviceCopy
