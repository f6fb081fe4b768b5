import Mathlib.Algebra.Order.Floor.Div
import DeviceCopy.Proofs.Kernel.Races

/-!
# Grids that cover their copy

The grid of a launch is derived from the element count, and everything the kernels need of it follows
from how it is derived. It is no larger than needed by more than one group, so no index computed on
it leaves the word range; and where it is not capped it reaches every word. Capped grids belong to
the kernels that loop. A launch on its own grid therefore runs without a fault and copies every byte
(`Launch.run_grid`).

What a copy does to a memory is the relation `Memory.Copied`.
-/

set_option autoImplicit false

namespace DeviceCopy

/-- One memory is another with a range of bytes copied from `src` to `dst`. -/
def Memory.Copied (before after : Memory) (src dst size : Nat) : Prop :=
  ∀ a, after.get a = if dst ≤ a ∧ a < dst + size then before.get (src + (a - dst)) else before.get a

/-- Copying a range leaves it as it was where it came from. -/
theorem Memory.Copied.get_src {before after : Memory} {src dst size : Nat}
    (h : before.Copied after src dst size) (hapart : Block.Apart ⟨src, size⟩ ⟨dst, size⟩) {i : Nat}
    (hi : i < size) : after.get (src + i) = before.get (src + i) := by
  have hout : ¬ (dst ≤ src + i ∧ src + i < dst + size) := by
    rcases hapart with hbefore | hafter
    · simp only at hbefore
      omega
    · simp only at hafter
      omega
  exact (h (src + i)).trans (if_neg hout)

/-! ## The number of groups -/

/-- The least positive number of groups of `perGroup` elements that cover `n`. -/
def coveringGroups (n perGroup : Nat) : Nat := max ((n + perGroup - 1) / perGroup) 1

theorem coveringGroups_pos (n perGroup : Nat) : 0 < coveringGroups n perGroup :=
  Nat.le_max_right _ 1

/-- There are at most so many groups iff so many cover the copy. -/
theorem coveringGroups_le_iff {n perGroup groups : Nat} (hper : 0 < perGroup)
    (hgroups : 0 < groups) : coveringGroups n perGroup ≤ groups ↔ n ≤ groups * perGroup := by
  calc
    coveringGroups n perGroup ≤ groups
        ↔ n ⌈/⌉ perGroup ≤ groups ∧ 1 ≤ groups := Nat.max_le
    _ ↔ n ⌈/⌉ perGroup ≤ groups := and_iff_left hgroups
    _ ↔ n ≤ perGroup * groups := ceilDiv_le_iff_le_mul hper
    _ ↔ n ≤ groups * perGroup := by rw [Nat.mul_comm]

theorem le_coveringGroups_mul {perGroup : Nat} (h : 0 < perGroup) (n : Nat) :
    n ≤ coveringGroups n perGroup * perGroup :=
  (coveringGroups_le_iff h (coveringGroups_pos n perGroup)).mp (Nat.le_refl _)

theorem coveringGroups_mul_le (n perGroup : Nat) :
    coveringGroups n perGroup * perGroup ≤ n + perGroup := by
  unfold coveringGroups
  rcases Nat.le_total ((n + perGroup - 1) / perGroup) 1 with hle | hle
  · rw [Nat.max_eq_right hle]
    omega
  · rw [Nat.max_eq_left hle]
    have hdiv := Nat.div_mul_le_self (n + perGroup - 1) perGroup
    omega

theorem groupCount_eq_ok {n granularity threads : Nat} (hg : 0 < granularity)
    (ht : 0 < threads) (h : threads * granularity < wordLimit) :
    groupCount n granularity threads = .ok (coveringGroups n (threads * granularity)) := by
  have hper : threads * granularity ≠ 0 := by
    have := Nat.mul_pos ht hg
    omega
  simp [groupCount, Checked.require, hg, Checked.mul_of_lt h, Checked.ceilDiv, hper,
    Checked.ok_bind, coveringGroups]

/-- There is a count iff a group has elements and their number is a word. -/
theorem groupCount_eq_ok_iff {n granularity threads groups : Nat} :
    groupCount n granularity threads = .ok groups ↔
      (0 < granularity ∧ 0 < threads ∧ threads * granularity < wordLimit) ∧
        groups = coveringGroups n (threads * granularity) := by
  constructor
  · intro h
    obtain ⟨_, hrequire, hper⟩ := Checked.bind_eq_ok_iff.mp h
    obtain ⟨perGroup, hproduct, hceil⟩ := Checked.bind_eq_ok_iff.mp hper
    obtain ⟨hlt, rfl⟩ := Checked.mul_eq_ok_iff.mp hproduct
    obtain ⟨_, hdivided, -⟩ := Checked.bind_eq_ok_iff.mp hceil
    have hgranularity : 0 < granularity := by
      by_contra hzero
      simp [Checked.require, hzero] at hrequire
    have hthreads : 0 < threads := by
      refine Nat.pos_of_ne_zero ?_
      rintro rfl
      simp [Checked.ceilDiv] at hdivided
    have hcount := groupCount_eq_ok (n := n) hgranularity hthreads hlt
    exact ⟨⟨hgranularity, hthreads, hlt⟩, Except.ok.inj (h.symm.trans hcount)⟩
  · rintro ⟨⟨hgranularity, hthreads, hlt⟩, rfl⟩
    exact groupCount_eq_ok hgranularity hthreads hlt

theorem Geometry.forCount_eq_ok_iff {n granularity : Nat} {g : Geometry} :
    forCount n granularity = .ok g ↔
      ∃ groups, groupCount n granularity DeviceCopy.threadsPerGroup = .ok groups ∧
        g = ofGroups groups := by
  refine Checked.bind_eq_ok_iff.trans (exists_congr fun groups => and_congr_right fun _ => ?_)
  exact ⟨fun h => (Except.ok.inj h).symm, fun h => congrArg Except.ok h.symm⟩

namespace Kernel

/-- Elements one thread-step of a kernel covers, in exact arithmetic. -/
def stepElements : Kernel → Nat
  | scalar _ => 1
  | vector dtype => dtype.lanes
  | blocked _ factor => floatLanes * factor

/-- Elements one step of a whole group covers, in exact arithmetic. -/
def groupElements (kernel : Kernel) : Nat := threadsPerGroup * kernel.stepElements

/-- A staged kernel has a slot, and one group of it covers a number of elements below the word
limit. -/
def Launchable : Kernel → Prop
  | blocked _ factor => 0 < factor ∧ 256 * factor < wordLimit
  | _ => True

instance : (kernel : Kernel) → Decidable kernel.Launchable
  | scalar _ | vector _ => isTrue trivial
  | blocked _ _ => inferInstanceAs (Decidable (_ ∧ _))

/-- Groups of the grid of a launch over `n` elements. -/
def gridGroups (maxGroups n : Nat) (kernel : Kernel) : Nat :=
  match kernel.groupCap maxGroups with
  | some limit => min (coveringGroups n kernel.groupElements) (max limit 1)
  | none => coveringGroups n kernel.groupElements

/-- The grid of a launch over `n` elements. -/
def grid (maxGroups n : Nat) (kernel : Kernel) : Geometry := .ofGroups (kernel.gridGroups maxGroups n)

variable {kernel : Kernel} {maxGroups n : Nat}

theorem Launchable.hasSlots (h : kernel.Launchable) : kernel.HasSlots := by
  cases kernel with
  | scalar dtype => trivial
  | vector dtype => trivial
  | blocked sweep factor => exact h.1

theorem Launchable.stepElements_pos (h : kernel.Launchable) : 0 < kernel.stepElements := by
  cases kernel with
  | scalar dtype => exact Nat.one_pos
  | vector dtype => exact dtype.lanes_pos
  | blocked sweep factor => exact Nat.mul_pos (by decide) h.1

theorem Launchable.groupElements_lt (h : kernel.Launchable) : kernel.groupElements < wordLimit := by
  cases kernel with
  | scalar dtype => exact (by decide : threadsPerGroup * 1 < wordLimit)
  | vector dtype =>
    have hlanes : dtype.lanes ≤ 4 := by cases dtype <;> decide
    exact Nat.lt_of_le_of_lt (Nat.mul_le_mul_left threadsPerGroup hlanes) (by decide)
  | blocked sweep factor =>
    rcases h with ⟨-, hlt⟩
    calc
      threadsPerGroup * (floatLanes * factor) = 256 * factor := by
        rw [← Nat.mul_assoc]
        rfl
      _ < wordLimit := hlt

theorem Launchable.granularity_eq_ok (h : kernel.Launchable) :
    kernel.granularity = .ok kernel.stepElements := by
  cases kernel with
  | scalar dtype => rfl
  | vector dtype => rfl
  | blocked sweep factor =>
    rcases h with ⟨-, hlt⟩
    have hpart : 4 * factor < wordLimit := by omega
    exact Checked.mul_of_lt hpart

/-- The grid that covers a copy, before it is cut down. -/
theorem forCount_eq_ok (h : kernel.Launchable) :
    Geometry.forCount n kernel.stepElements =
      .ok (.ofGroups (coveringGroups n kernel.groupElements)) := by
  rw [Geometry.forCount, groupCount_eq_ok h.stepElements_pos (by decide) h.groupElements_lt]
  rfl

/-- Deriving the grid of a kernel that can be launched does not fault. -/
theorem geometry_eq_ok (h : kernel.Launchable) :
    kernel.geometry maxGroups n = .ok (kernel.grid maxGroups n) := by
  rw [geometry, h.granularity_eq_ok, Checked.ok_bind, forCount_eq_ok h, Checked.ok_bind, grid,
    gridGroups]
  cases kernel.groupCap maxGroups with
  | none => rfl
  | some limit => rfl

/-- Only kernels that can be launched have a grid. -/
theorem launchable_of_geometry {g : Geometry} (h : kernel.geometry maxGroups n = .ok g) :
    kernel.Launchable := by
  cases kernel with
  | scalar dtype => trivial
  | vector dtype => trivial
  | blocked sweep factor =>
    obtain ⟨elements, helements, hrest⟩ := Checked.bind_eq_ok_iff.mp h
    obtain ⟨covering, hcovering, -⟩ := Checked.bind_eq_ok_iff.mp hrest
    obtain ⟨groups, hgroups, -⟩ := Geometry.forCount_eq_ok_iff.mp hcovering
    -- The number of groups is derived from a positive number of elements to each.
    obtain ⟨⟨hfactor, -, hlt⟩, -⟩ := groupCount_eq_ok_iff.mp hgroups
    obtain ⟨-, rfl⟩ := Checked.mul_eq_ok_iff.mp helements
    refine ⟨Nat.pos_of_mul_pos_left hfactor, ?_⟩
    rw [← Nat.mul_assoc] at hlt
    exact hlt

/-! ## What the kernels need of the grid -/

theorem gridGroups_pos (maxGroups n : Nat) (kernel : Kernel) : 0 < kernel.gridGroups maxGroups n := by
  have hcover := coveringGroups_pos n kernel.groupElements
  unfold gridGroups
  cases kernel.groupCap maxGroups with
  | none => exact hcover
  | some limit => exact Nat.lt_min.mpr ⟨hcover, Nat.le_max_right limit 1⟩

theorem gridGroups_le (maxGroups n : Nat) (kernel : Kernel) :
    kernel.gridGroups maxGroups n ≤ coveringGroups n kernel.groupElements := by
  unfold gridGroups
  cases kernel.groupCap maxGroups with
  | none => exact Nat.le_refl _
  | some limit => exact Nat.min_le_left _ _

theorem threadCount_grid_pos (maxGroups n : Nat) (kernel : Kernel) :
    0 < (kernel.grid maxGroups n).threadCount :=
  Nat.mul_pos (gridGroups_pos maxGroups n kernel) (by decide : 0 < DeviceCopy.threadsPerGroup)

/-- A grid covers at most one group more than the copy. -/
theorem threadCount_grid_mul_le (maxGroups n : Nat) (kernel : Kernel) :
    (kernel.grid maxGroups n).threadCount * kernel.stepElements ≤ n + kernel.groupElements := by
  calc
    (kernel.grid maxGroups n).threadCount * kernel.stepElements
        = kernel.gridGroups maxGroups n * kernel.groupElements := Nat.mul_assoc _ _ _
    _ ≤ coveringGroups n kernel.groupElements * kernel.groupElements :=
          Nat.mul_le_mul_right _ (gridGroups_le maxGroups n kernel)
    _ ≤ n + kernel.groupElements := coveringGroups_mul_le _ _

/-- On its own grid a kernel never computes an index outside the word range. -/
theorem fits_grid (h : kernel.Launchable) (hsize : n * kernel.dtype.size ≤ 2 ^ 63 - 1) :
    kernel.Fits n (kernel.grid maxGroups n) := by
  have hle := threadCount_grid_mul_le maxGroups n kernel
  have hgroup := h.groupElements_lt
  -- Elements have at least four bytes, so their number is far below the word limit.
  have hfour : 4 ≤ kernel.dtype.size := by cases kernel.dtype <;> decide
  have hcount : n * 4 ≤ 2 ^ 63 - 1 := (Nat.mul_le_mul_left n hfour).trans hsize
  have hword : wordLimit = 2 ^ 64 := rfl
  generalize hthreads : (kernel.grid maxGroups n).threadCount = threads at hle
  cases kernel with
  | scalar dtype =>
    have helements : (Kernel.scalar dtype).groupElements = 64 := rfl
    have hstep : (Kernel.scalar dtype).stepElements = 1 := rfl
    rw [helements, hstep] at hle
    refine ⟨?_, ?_⟩
    · rw [hthreads]
      omega
    · rw [hthreads]
      omega
  | vector dtype =>
    have hlanes : dtype.lanes ≤ 4 := by cases dtype <;> decide
    have helements : (Kernel.vector dtype).groupElements ≤ 64 * 4 := Nat.mul_le_mul_left 64 hlanes
    have hmul : threads * 1 ≤ threads * dtype.lanes := Nat.mul_le_mul_left _ dtype.lanes_pos
    have hstep : (Kernel.vector dtype).stepElements = dtype.lanes := rfl
    rw [hstep] at hle
    refine ⟨?_, ?_⟩
    · rw [hthreads]
      omega
    · rw [hthreads]
      omega
  | blocked sweep factor =>
    -- In units of four elements: a quarter of the copy, and one group of slots.
    have hslots : threads * (Kernel.blocked sweep factor).stepElements = 4 * (factor * threads) := by
      change threads * (4 * factor) = 4 * (factor * threads)
      ring
    have hquarter : n / floatLanes ≤ n := Nat.div_le_self _ _
    rw [hslots] at hle
    cases sweep with
    | singlePass =>
      change factor * _ ≤ wordLimit
      rw [hthreads]
      omega
    | gridStride =>
      refine ⟨?_, ?_⟩
      · rw [hthreads]
        omega
      · rw [hthreads]
        omega

/-- On its own grid a kernel reaches every word of the copy. -/
theorem wordReach_grid (h : kernel.Launchable) :
    kernel.wordReach n (kernel.grid maxGroups n) = kernel.wordCount n := by
  cases kernel with
  | scalar dtype => rfl
  | vector dtype => rfl
  | blocked sweep factor =>
    cases sweep with
    | gridStride => rfl
    | singlePass =>
      -- The one kernel that does not loop is also the one whose grid has no cap.
      have hcover : n ≤ coveringGroups n (Kernel.blocked .singlePass factor).groupElements *
          (Kernel.blocked .singlePass factor).groupElements :=
        le_coveringGroups_mul (Nat.mul_pos (by decide) h.stepElements_pos) n
      have hslots : coveringGroups n (Kernel.blocked .singlePass factor).groupElements *
          (Kernel.blocked .singlePass factor).groupElements =
            floatLanes * (factor * ((Kernel.blocked .singlePass factor).grid maxGroups n).threadCount) := by
        change _ * (threadsPerGroup * (floatLanes * factor)) = floatLanes * (factor *
          (coveringGroups n (Kernel.blocked .singlePass factor).groupElements * threadsPerGroup))
        ring
      rw [hslots] at hcover
      exact Nat.min_eq_left (Nat.div_le_of_le_mul hcover)

end Kernel

/-! ## A launch on its own grid -/

/-- The launch of a kernel on its own grid. -/
def Kernel.launch (kernel : Kernel) (maxGroups count src dst : Nat) : Launch :=
  { kernel, geometry := kernel.grid maxGroups count, count, src, dst }

namespace Launch

variable {kernel : Kernel} {maxGroups count src dst : Nat}

theorem sound_grid (h : kernel.Launchable) (hsize : count * kernel.dtype.size ≤ 2 ^ 63 - 1) :
    (kernel.launch maxGroups count src dst).Sound := by
  intro rank hrank
  exact Kernel.fault_program h.hasSlots hrank (Kernel.fits_grid h hsize)

/-- Run on its own grid, a kernel copies the whole range and touches nothing else. -/
theorem run_grid (h : kernel.Launchable) (hsize : count * kernel.dtype.size ≤ 2 ^ 63 - 1)
    (hapart : (kernel.launch maxGroups count src dst).Disjoint) (m : Memory) :
    ((kernel.launch maxGroups count src dst).run m).2 = none ∧
      m.Copied ((kernel.launch maxGroups count src dst).run m).1 src dst
        (count * kernel.dtype.size) := by
  have hsound : (kernel.launch maxGroups count src dst).Sound := sound_grid h hsize
  have hcopies : ∀ rank, rank < (kernel.launch maxGroups count src dst).geometry.threadCount →
      ((kernel.launch maxGroups count src dst).programAt rank).Copies
        (kernel.launch maxGroups count src dst).extent :=
    fun rank hrank => copies_programAt h.hasSlots hrank
  refine ⟨?_, ?_⟩
  · rw [run_eq_exec m hsound]
  · intro a
    have hwrites : a - dst ∈ (kernel.launch maxGroups count src dst).writes ↔
        a - dst < count * kernel.dtype.size :=
      mem_writes_iff_lt h.hasSlots (Kernel.threadCount_grid_pos _ _ _) hsound
        (Kernel.wordReach_grid h)
    have hiff : dst ≤ a ∧ a - dst ∈ (kernel.launch maxGroups count src dst).writes ↔
        dst ≤ a ∧ a < dst + count * kernel.dtype.size := by
      rw [hwrites]
      omega
    rw [get_run hcopies hsound hapart]
    simp only [Kernel.launch] at hiff ⊢
    simp only [hiff]

end Launch

end DeviceCopy
