import Mathlib.Algebra.Order.Floor.Div
import DeviceCopy.ErrorFlag
import DeviceCopy.Proofs.Launch.Covering

/-!
# Grids and limits

Which grids the limits of a device reject. A kernel that loops asks for no more groups than there
are, so its grid is rejected only where no group at all would be accepted; a single pass asks for
all the groups it takes, however many there are.
-/

set_option autoImplicit false

namespace DeviceCopy

namespace Kernel

variable {kernel : Kernel} {maxGroups n limit : Nat}

/-! ## How many groups a kernel asks for -/

/-- A cap is never above what the device runs. -/
theorem groupCap_le (h : kernel.groupCap maxGroups = some limit) : limit ≤ maxGroups := by
  cases kernel with
  | scalar dtype => exact (Option.some.inj h).ge
  | vector dtype => exact (Option.some.inj h).ge
  | blocked sweep factor =>
    cases sweep with
    | singlePass => cases h
    | gridStride =>
      calc
        limit = min loopedGroupCap maxGroups := (Option.some.inj h).symm
        _ ≤ maxGroups := Nat.min_le_right _ _

theorem gridGroups_of_capped (h : kernel.groupCap maxGroups = some limit) :
    kernel.gridGroups maxGroups n = min (coveringGroups n kernel.groupElements) (max limit 1) := by
  unfold gridGroups
  rw [h]

/-- A capped grid has too many groups only for a device that runs none. -/
theorem gridGroups_le_iff_of_capped (h : kernel.groupCap maxGroups = some limit) :
    kernel.gridGroups maxGroups n ≤ maxGroups ↔ maxGroups ≠ 0 := by
  have hpos : 0 < kernel.gridGroups maxGroups n := gridGroups_pos maxGroups n kernel
  have hcap : limit ≤ maxGroups := groupCap_le h
  constructor
  · intro hle
    exact Nat.ne_of_gt (hpos.trans_le hle)
  · intro hsome
    -- The cap is at least one group even where the device runs none; here it runs some.
    have hone : 1 ≤ maxGroups := Nat.one_le_iff_ne_zero.mpr hsome
    calc
      kernel.gridGroups maxGroups n
          = min (coveringGroups n kernel.groupElements) (max limit 1) := gridGroups_of_capped h
      _ ≤ max limit 1 := Nat.min_le_right _ _
      _ ≤ maxGroups := Nat.max_le.mpr ⟨hcap, hone⟩

/-- Where a device runs any groups, a capped grid keeps to its cap. -/
theorem gridGroups_le_cap (h : kernel.groupCap maxGroups = some limit) (hlimit : 0 < limit) :
    kernel.gridGroups maxGroups n ≤ limit := by
  calc
    kernel.gridGroups maxGroups n
        = min (coveringGroups n kernel.groupElements) (max limit 1) := gridGroups_of_capped h
    _ ≤ max limit 1 := Nat.min_le_right _ _
    _ = limit := Nat.max_eq_left hlimit

/-- Elements one step of a whole group of a staged kernel covers. -/
theorem groupElements_blocked (sweep : Sweep) (factor : Nat) :
    (blocked sweep factor).groupElements = 256 * factor :=
  (Nat.mul_assoc 64 4 factor).symm

/-- A single pass asks for the groups it takes to cover the copy, at least one. -/
theorem gridGroups_singlePass (maxGroups n factor : Nat) :
    (blocked .singlePass factor).gridGroups maxGroups n = max 1 (n ⌈/⌉ (256 * factor)) := by
  calc
    (blocked .singlePass factor).gridGroups maxGroups n
        = coveringGroups n (blocked .singlePass factor).groupElements := rfl
    _ = coveringGroups n (256 * factor) := by rw [groupElements_blocked]
    _ = max 1 (n ⌈/⌉ (256 * factor)) := Nat.max_comm _ _

/-! ## Which grids are rejected -/

/-- The limits reject every grid of the kernel for `n` elements: they do not have the threads for
one group, or not a single group, or, where the grid may not be cut down, not as many groups as it
takes. -/
def Exceeds (l : Limits) (n : Nat) : Kernel → Prop
  | scalar _ | vector _ | blocked .gridStride _ => l.maxThreadsPerGroup < 64 ∨ l.maxGroups = 0
  | blocked .singlePass factor =>
      l.maxThreadsPerGroup < 64 ∨ l.maxGroups < max 1 (n ⌈/⌉ (256 * factor))

theorem exceeds_of_capped {l : Limits} (h : kernel.groupCap l.maxGroups = some limit) :
    kernel.Exceeds l n ↔ l.maxThreadsPerGroup < 64 ∨ l.maxGroups = 0 := by
  cases kernel with
  | scalar dtype => exact Iff.rfl
  | vector dtype => exact Iff.rfl
  | blocked sweep factor =>
    cases sweep with
    | singlePass => cases h
    | gridStride => exact Iff.rfl

/-- A grid is rejected for its groups, or for their width. -/
theorem admits_grid_iff_gridGroups_le (l : Limits) (n : Nat) (kernel : Kernel) :
    l.Admits (kernel.grid l.maxGroups n) ↔
      64 ≤ l.maxThreadsPerGroup ∧ kernel.gridGroups l.maxGroups n ≤ l.maxGroups := by
  have hpos : 0 < kernel.gridGroups l.maxGroups n := gridGroups_pos l.maxGroups n kernel
  have hwidth : 0 < threadsPerGroup := by decide
  exact ⟨fun h => ⟨h.1.2, h.2.2⟩, fun h => ⟨⟨hwidth, h.1⟩, hpos, h.2⟩⟩

/-- The limits of a device admit the grid of a kernel on it, unless they reject every grid. -/
theorem admits_grid_iff_not_exceeds (l : Limits) (n : Nat) (kernel : Kernel) :
    l.Admits (kernel.grid l.maxGroups n) ↔ ¬ kernel.Exceeds l n := by
  refine (admits_grid_iff_gridGroups_le l n kernel).trans ?_
  cases hcap : kernel.groupCap l.maxGroups with
  | some limit =>
    rw [exceeds_of_capped hcap, gridGroups_le_iff_of_capped hcap, not_or, not_lt]
  | none =>
    -- Only a single pass has no cap.
    obtain ⟨factor, rfl⟩ : ∃ factor, kernel = blocked .singlePass factor := by
      cases kernel with
      | scalar dtype => cases hcap
      | vector dtype => cases hcap
      | blocked sweep factor =>
        cases sweep with
        | singlePass => exact ⟨factor, rfl⟩
        | gridStride => cases hcap
    rw [gridGroups_singlePass, Exceeds, not_or, not_lt, not_lt]

end Kernel

/-- The report on a rejected launch names the backend, the kernel, the grid and the limits. -/
theorem launchRejection_eq (backend kernel : String) (limits : Limits) (g : Geometry) :
    launchRejection backend kernel limits g =
      if limits.Admits g then none
      else some (.launchFailed backend kernel (limits.violation g).message) := by
  unfold launchRejection Limits.check
  by_cases h : limits.Admits g
  · simp only [if_pos h]
  · simp only [if_neg h]

end DeviceCopy
