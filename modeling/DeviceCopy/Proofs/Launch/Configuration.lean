import Mathlib.Order.Bounds.Basic
import DeviceCopy.Proofs.Launch.Covering

/-!
# Launch configuration

How many groups a launch asks for, over the whole word range: `group_counts_least`.

Rounding up is one half of a Galois connection: the count is at most a number iff that number of
groups covers the copy (`coveringGroups_le_iff`). So it is the least that does (`isLeast_groupCount`),
and what covers a copy says the rest: how the count changes with the copy and with the size of a
group, and when the threads of the grid can be counted in a word. Caps come after the count. A chain
of them leaves the minimum of the count and the caps, whatever their order
(`Geometry.min?_foldl_capped`).
-/

set_option autoImplicit false

namespace DeviceCopy

/-! ## The least number of groups -/

/-- The positive numbers of groups that cover `n` elements, in exact arithmetic. -/
def coveringCounts (n granularity threads : Nat) : Set Nat :=
  {groups | 1 ≤ groups ∧ n ≤ groups * threads * granularity}

section Counts

variable {n granularity threads groups : Nat}

theorem isLeast_groupCount (h : groupCount n granularity threads = .ok groups) :
    IsLeast (coveringCounts n granularity threads) groups := by
  obtain ⟨⟨hgranularity, hthreads, -⟩, rfl⟩ := groupCount_eq_ok_iff.mp h
  have hper : 0 < threads * granularity := Nat.mul_pos hthreads hgranularity
  have hcovers : ∀ count, 1 ≤ count →
      (coveringGroups n (threads * granularity) ≤ count ↔ n ≤ count * threads * granularity) := by
    intro count hcount
    rw [coveringGroups_le_iff hper hcount, Nat.mul_assoc]
  constructor
  · have hpos : 1 ≤ coveringGroups n (threads * granularity) := coveringGroups_pos _ _
    exact ⟨hpos, (hcovers _ hpos).mp (Nat.le_refl _)⟩
  · rintro count ⟨hcount, hn⟩
    exact (hcovers count hcount).mpr hn

/-- What covers more elements with smaller groups covers fewer elements with larger ones. -/
theorem coveringCounts_subset {n' granularity' threads' : Nat} (hn : n ≤ n')
    (hgranularity : granularity' ≤ granularity) (hthreads : threads' ≤ threads) :
    coveringCounts n' granularity' threads' ⊆ coveringCounts n granularity threads := by
  rintro groups ⟨hpos, hcovers⟩
  refine ⟨hpos, ?_⟩
  calc
    n ≤ n' := hn
    _ ≤ groups * threads' * granularity' := hcovers
    _ ≤ groups * threads * granularity :=
        Nat.mul_le_mul (Nat.mul_le_mul_left groups hthreads) hgranularity

/-- The count of whole thread-steps, shared out among groups. -/
theorem isLeast_of_dvd (hn : 0 < n) (hdvd : granularity ∣ n) (hthreads : 0 < threads) :
    IsLeast (coveringCounts n granularity threads) ((n / granularity - 1) / threads + 1) := by
  obtain ⟨steps, rfl⟩ := hdvd
  have hgranularity : 0 < granularity := Nat.pos_of_mul_pos_right hn
  have hsteps : 0 < steps := Nat.pos_of_mul_pos_left hn
  have hcovers : ∀ count, granularity * steps ≤ count * threads * granularity ↔
      steps ≤ count * threads := by
    intro count
    rw [Nat.mul_comm granularity steps]
    exact Nat.mul_le_mul_right_iff hgranularity
  rw [Nat.mul_div_cancel_left steps hgranularity]
  constructor
  · refine ⟨Nat.le_add_left 1 _, (hcovers _).mpr ?_⟩
    have hlast : steps - 1 < (steps - 1) / threads * threads + threads :=
      Nat.lt_div_mul_add hthreads
    rw [Nat.succ_mul]
    omega
  · rintro count ⟨-, hcount⟩
    have hlast : steps - 1 < count * threads := by
      have := (hcovers count).mp hcount
      omega
    exact (Nat.div_lt_iff_lt_mul hthreads).mpr hlast

/-- A count is a word, as the number of elements is. -/
theorem groupCount_lt (h : groupCount n granularity threads = .ok groups) (hn : n < wordLimit) :
    groups < wordLimit := by
  obtain ⟨⟨hgranularity, hthreads, -⟩, -⟩ := groupCount_eq_ok_iff.mp h
  have hone : max n 1 ∈ coveringCounts n granularity threads := by
    refine ⟨Nat.le_max_right n 1, ?_⟩
    calc
      n ≤ max n 1 := Nat.le_max_left n 1
      _ ≤ max n 1 * threads := Nat.le_mul_of_pos_right _ hthreads
      _ ≤ max n 1 * threads * granularity := Nat.le_mul_of_pos_right _ hgranularity
  calc
    groups ≤ max n 1 := (isLeast_groupCount h).2 hone
    _ < wordLimit := Nat.max_lt.mpr ⟨hn, by decide⟩

end Counts

namespace Geometry

variable {n granularity : Nat} {g : Geometry}

/-! ## Counting the threads of a grid -/

/-- The threads of a grid can be counted iff the copy takes no more groups than the most whose threads
can be. -/
theorem threadCount_lt_iff (h : forCount n granularity = .ok g) :
    g.threadCount < wordLimit ↔ n ≤ (2 ^ 64 - 64) * granularity := by
  obtain ⟨groups, hgroups, rfl⟩ := forCount_eq_ok_iff.mp h
  have hleast := isLeast_groupCount hgroups
  have hmost : groups * 64 < wordLimit ↔ groups ≤ 2 ^ 58 - 1 := by
    have hword : wordLimit = 2 ^ 58 * 64 := rfl
    omega
  calc
    (ofGroups groups).threadCount < wordLimit ↔ groups ≤ 2 ^ 58 - 1 := hmost
    _ ↔ 2 ^ 58 - 1 ∈ coveringCounts n granularity DeviceCopy.threadsPerGroup := by
        constructor
        · rintro hle
          refine ⟨by decide, hleast.1.2.trans ?_⟩
          exact Nat.mul_le_mul_right _ (Nat.mul_le_mul_right _ hle)
        · exact fun hcovers => hleast.2 hcovers
    _ ↔ n ≤ (2 ^ 58 - 1) * 64 * granularity := and_iff_right (by decide : 1 ≤ 2 ^ 58 - 1)

/-- One element to a thread-step is the only granularity that leaves too many threads, and only for
the very longest copies. -/
theorem totalThreads_eq (h : forCount n granularity = .ok g) (hn : n < wordLimit) :
    g.totalThreads =
      if granularity = 1 ∧ 2 ^ 64 - 64 < n then .error .multiplyOverflow
      else .ok g.threadCount := by
  have hfits : g.threadCount < wordLimit ↔ ¬ (granularity = 1 ∧ 2 ^ 64 - 64 < n) := by
    obtain ⟨groups, hgroups, -⟩ := forCount_eq_ok_iff.mp h
    have hpos : 0 < granularity := (groupCount_eq_ok_iff.mp hgroups).1.1
    have hword : wordLimit = 2 ^ 64 := rfl
    rw [threadCount_lt_iff h]
    omega
  unfold totalThreads Checked.mul
  by_cases hlast : granularity = 1 ∧ 2 ^ 64 - 64 < n
  · have hover : ¬ g.groups * g.threadsPerGroup < wordLimit := fun hlt => hfits.mp hlt hlast
    rw [if_neg hover, if_pos hlast]
  · have hcounted : g.groups * g.threadsPerGroup < wordLimit := hfits.mpr hlast
    rw [if_pos hcounted, if_neg hlast]
    rfl

theorem groups_pos_of_forCount (h : forCount n granularity = .ok g) : 0 < g.groups := by
  obtain ⟨groups, hgroups, rfl⟩ := forCount_eq_ok_iff.mp h
  exact (isLeast_groupCount hgroups).1.1

/-! ## Chains of caps -/

/-- A chain of caps leaves the least of the groups and the caps, a cap of no group being one. -/
theorem min?_foldl_capped (g : Geometry) (limits : List Nat) :
    (g.groups :: limits.map (max 1)).min? = some (limits.foldl capped g).groups := by
  have hgroups : (limits.foldl capped g).groups =
      limits.foldl (fun groups limit => min groups (max 1 limit)) g.groups := by
    refine (List.foldl_hom groups fun g limit => ?_).symm
    rw [groups_capped, Nat.max_comm]
  rw [List.min?_cons', List.foldl_map, hgroups]

theorem le_foldl_capped_iff {limits : List Nat} {groups : Nat} :
    groups ≤ (limits.foldl capped g).groups ↔
      groups ≤ g.groups ∧ ∀ limit ∈ limits, groups ≤ max 1 limit := by
  rw [List.le_min?_iff (min?_foldl_capped g limits)]
  simp only [List.mem_cons, List.mem_map, forall_eq_or_imp, forall_exists_index, and_imp,
    forall_apply_eq_imp_iff₂]

/-- Caps change the number of groups and nothing else. -/
theorem foldl_capped_eq (g : Geometry) (limits : List Nat) :
    limits.foldl capped g = { g with groups := (limits.foldl capped g).groups } := by
  induction limits generalizing g with
  | nil => rfl
  | cons limit rest ih => exact ih (g.capped limit)

/-- In which order caps come, and how often, makes no difference. -/
theorem foldl_capped_congr (g : Geometry) {limits limits' : List Nat}
    (h : ∀ limit, limit ∈ limits ↔ limit ∈ limits') :
    limits.foldl capped g = limits'.foldl capped g := by
  have hgroups : (limits.foldl capped g).groups = (limits'.foldl capped g).groups := by
    refine eq_of_forall_le_iff fun groups => ?_
    simp only [le_foldl_capped_iff, h]
  rw [foldl_capped_eq g limits, foldl_capped_eq g limits', hgroups]

theorem groups_foldl_capped_pos (limits : List Nat) (h : 0 < g.groups) :
    0 < (limits.foldl capped g).groups :=
  le_foldl_capped_iff.mpr ⟨h, fun limit _ => Nat.le_max_left 1 limit⟩

end Geometry

/-! ## The configuration of a launch -/

/-- A count of groups comes back iff a group has elements and their number is a word. It is then the
least positive one that covers the copy in exact arithmetic, and itself a word; for whole
thread-steps it is the closed form. It does not fall when the copy grows, and does not rise when a
thread-step or a group does. On the grid it makes, the threads are counted exactly but for the
longest copies of single elements, and a chain of caps leaves the least of them, never nothing. -/
theorem group_counts_least {n granularity threads : Nat} (hn : n < 2 ^ 64) :
    ((∃ groups, groupCount n granularity threads = .ok groups) ↔
      0 < granularity ∧ 0 < threads ∧ threads * granularity < 2 ^ 64) ∧
    (∀ groups, groupCount n granularity threads = .ok groups →
      IsLeast {count | 1 ≤ count ∧ n ≤ count * threads * granularity} groups ∧ groups < 2 ^ 64 ∧
      (granularity ∣ n → 0 < n → groups = (n / granularity - 1) / threads + 1) ∧
      ∀ n' granularity' threads' groups',
        n ≤ n' → granularity' ≤ granularity → threads' ≤ threads →
          groupCount n' granularity' threads' = .ok groups' → groups ≤ groups') ∧
    ((∃ g, Geometry.forCount n granularity = .ok g) ↔ 0 < granularity ∧ 64 * granularity < 2 ^ 64) ∧
    ∀ g, Geometry.forCount n granularity = .ok g →
      groupCount n granularity 64 = .ok g.groups ∧
      g.totalThreads =
        (if granularity = 1 ∧ 2 ^ 64 - 64 < n then .error .multiplyOverflow
          else .ok (g.groups * 64)) ∧
      ∀ limits : List Nat,
        (g.groups :: limits.map (max 1)).min? = some (limits.foldl Geometry.capped g).groups ∧
        0 < (limits.foldl Geometry.capped g).groups ∧
        ∀ limits' : List Nat, (∀ limit, limit ∈ limits ↔ limit ∈ limits') →
          limits.foldl Geometry.capped g = limits'.foldl Geometry.capped g := by
  refine ⟨?_, fun groups hgroups => ⟨?_, ?_, ?_, ?_⟩, ?_, fun g hg => ⟨?_, ?_, fun limits => ?_⟩⟩
  · simp only [groupCount_eq_ok_iff, exists_and_left, exists_eq, and_true]
    exact Iff.rfl
  · exact isLeast_groupCount hgroups
  · exact groupCount_lt hgroups hn
  · intro hdvd hpos
    have hthreads : 0 < threads := (groupCount_eq_ok_iff.mp hgroups).1.2.1
    exact (isLeast_groupCount hgroups).unique (isLeast_of_dvd hpos hdvd hthreads)
  · intro n' granularity' threads' groups' hle hgranularity hthreads hgroups'
    exact (isLeast_groupCount hgroups').mono (isLeast_groupCount hgroups)
      (coveringCounts_subset hle hgranularity hthreads)
  · simp only [Geometry.forCount_eq_ok_iff, groupCount_eq_ok_iff]
    constructor
    · rintro ⟨_, _, ⟨⟨hpos, -, hlt⟩, -⟩, -⟩
      exact ⟨hpos, hlt⟩
    · rintro ⟨hpos, hlt⟩
      exact ⟨_, _, ⟨⟨hpos, by decide, hlt⟩, rfl⟩, rfl⟩
  · obtain ⟨groups, hgroups, rfl⟩ := Geometry.forCount_eq_ok_iff.mp hg
    exact hgroups
  · obtain ⟨groups, -, rfl⟩ := Geometry.forCount_eq_ok_iff.mp hg
    exact Geometry.totalThreads_eq hg hn
  · exact ⟨g.min?_foldl_capped limits,
      Geometry.groups_foldl_capped_pos limits (Geometry.groups_pos_of_forCount hg),
      fun limits' => g.foldl_capped_congr⟩

/-- The longest copy there is, one element to a thread-step. Its grid has a group too many for its
threads to be counted; caps cut it down to the least of them. -/
theorem group_counts_least_longest :
    2 ^ 64 - 1 < 2 ^ 64 ∧ groupCount (2 ^ 64 - 1) 1 64 = .ok (2 ^ 58) ∧
    IsLeast {count | 1 ≤ count ∧ 2 ^ 64 - 1 ≤ count * 64 * 1} (2 ^ 58) ∧
    ∃ g, Geometry.forCount (2 ^ 64 - 1) 1 = .ok g ∧ g.totalThreads = .error .multiplyOverflow ∧
      ([7, 5, 64, 5].foldl Geometry.capped g).groups = 5 ∧
      [7, 5, 64, 5].foldl Geometry.capped g = [64, 7, 5].foldl Geometry.capped g := by
  have hn : 2 ^ 64 - 1 < 2 ^ 64 := by decide
  have hcount : groupCount (2 ^ 64 - 1) 1 64 = .ok (2 ^ 58) := rfl
  have hgrid : Geometry.forCount (2 ^ 64 - 1) 1 = .ok (.ofGroups (2 ^ 58)) := rfl
  obtain ⟨-, hcounted, -, hlaunched⟩ := @group_counts_least (2 ^ 64 - 1) 1 64 hn
  obtain ⟨-, htotal, hcaps⟩ := hlaunched _ hgrid
  obtain ⟨hleast, -, hsame⟩ := hcaps [7, 5, 64, 5]
  refine ⟨hn, hcount, (hcounted _ hcount).1, _, hgrid, htotal, ?_, hsame _ (by simp; tauto)⟩
  exact (Option.some.inj hleast).symm

end DeviceCopy
