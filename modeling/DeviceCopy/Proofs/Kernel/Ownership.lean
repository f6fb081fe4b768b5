import DeviceCopy.Kernel.Copy
import Mathlib.Data.List.Nodup
import Mathlib.Tactic.Ring

/-!
# Who owns which index

A launch shares out two ranges of indices: the whole wide words of the copy, and the elements past
the last whole word. Which thread moves an index follows from the index alone. For the strided
kernels it is a remainder; for the staged ones the index is read as a number in mixed radix, with
the place in the group as its lowest digit, then the slot, then the group.

For every kernel the lists `wordIndices` and `elementIndices` say what a thread moves, and
`mem_wordIndices` and `mem_elementIndices` say that these are the indices it owns. Owners are unique,
so no index is moved by two threads; the lists have no duplicates, so none is moved twice by one.
-/

set_option autoImplicit false

namespace DeviceCopy

/-! ## Arithmetic of places -/

/-- Quotient and remainder are the only way to write a number in these digits. -/
theorem mul_add_eq_iff {width high low value : Nat} (h : low < width) :
    high * width + low = value ↔ high = value / width ∧ low = value % width := by
  constructor
  · rintro rfl
    constructor
    · rw [Nat.mul_comm, Nat.mul_add_div (by omega), Nat.div_eq_of_lt h, Nat.add_zero]
    · rw [Nat.mul_comm, Nat.mul_add_mod, Nat.mod_eq_of_lt h]
  · rintro ⟨rfl, rfl⟩
    rw [Nat.mul_comm]
    exact Nat.div_add_mod value width

/-- The words a thread covers with its slots, one group width apart, are those with its place in
the group and its group as digits. -/
theorem exists_slot_iff {width factor place group i : Nat} (hplace : place < width)
    (hfactor : 0 < factor) :
    (∃ slot, slot < factor ∧ place + factor * group * width + slot * width = i) ↔
      i % width = place ∧ i / (factor * width) = group := by
  have hwidth : 0 < width := by omega
  -- The place is the lowest digit. What is left of the index has the slot as its lowest.
  have hdigits : ∀ slot, place + factor * group * width + slot * width = i ↔
      group * factor + slot = i / width ∧ place = i % width := by
    intro slot
    rw [← mul_add_eq_iff hplace, Nat.add_mul, Nat.mul_comm group factor]
    constructor <;> intro h <;> omega
  have hdiv : i / (factor * width) = i / width / factor := by
    rw [Nat.mul_comm, Nat.div_div_eq_div_mul]
  rw [hdiv]
  constructor
  · rintro ⟨slot, hslot, hi⟩
    have hsplit := (hdigits slot).mp hi
    have hgroup := ((mul_add_eq_iff hslot).mp hsplit.1).1
    exact ⟨hsplit.2.symm, hgroup.symm⟩
  · rintro ⟨hmod, hgroup⟩
    have hslot : i / width % factor < factor := Nat.mod_lt _ hfactor
    refine ⟨i / width % factor, hslot, (hdigits _).mpr ⟨?_, hmod.symm⟩⟩
    exact (mul_add_eq_iff hslot).mpr ⟨hgroup.symm, rfl⟩

/-! ## Strided indices -/

theorem nodup_strided {start stride bound : Nat} (hs : 0 < stride) :
    (strided start stride bound).Nodup :=
  List.nodup_range' _ hs

theorem mem_strided_iff {start stride bound i : Nat} (hs : 0 < stride) :
    i ∈ strided start stride bound ↔ i < bound ∧ ∃ round, i = start + round * stride := by
  constructor
  · intro h
    rcases mem_strided h with ⟨round, -, hround⟩
    exact ⟨lt_of_mem_strided hs h, round, hround⟩
  · rintro ⟨hlt, round, rfl⟩
    refine List.mem_range'.mpr ⟨round, ?_, by rw [Nat.mul_comm]⟩
    -- The number of rounds is rounded up, so it counts every round that begins below the bound.
    have hle : (round + 1) * stride ≤ bound - start + stride - 1 := by
      rw [Nat.succ_mul]
      omega
    exact (Nat.le_div_iff_mul_le hs).mpr hle

/-- The strided indices of one thread among as many as the stride, from a common first index on. -/
theorem mem_strided_of_rank {first rank stride bound i : Nat} (hrank : rank < stride) :
    i ∈ strided (first + rank) stride bound ↔
      (first ≤ i ∧ i < bound) ∧ (i - first) % stride = rank := by
  rw [mem_strided_iff (by omega)]
  constructor
  · rintro ⟨hlt, round, rfl⟩
    have hdigits : round * stride + rank = first + rank + round * stride - first := by omega
    exact ⟨⟨by omega, hlt⟩, (((mul_add_eq_iff hrank).mp hdigits).2).symm⟩
  · rintro ⟨⟨hle, hlt⟩, hmod⟩
    have hdigits := (mul_add_eq_iff hrank).mpr ⟨rfl, hmod.symm⟩
    exact ⟨hlt, (i - first) / stride, by omega⟩

/-! ## Words of a staged step -/

/-- The words a staged step moves. -/
def stagedWords (factor base laneStride words : Nat) : List Nat :=
  (Kernel.stagedSlots factor base laneStride words).map (fun slot => base + slot * laneStride)

theorem mem_stagedWords {factor base laneStride words i : Nat} (hs : 0 < laneStride) :
    i ∈ stagedWords factor base laneStride words ↔
      i < words ∧ ∃ slot, slot < factor ∧ base + slot * laneStride = i := by
  unfold stagedWords
  rw [Kernel.stagedSlots_eq_filter _ _ _ hs]
  simp only [List.mem_map, List.mem_filter, List.mem_range, decide_eq_true_eq]
  constructor
  · rintro ⟨slot, ⟨hslot, hlt⟩, rfl⟩
    exact ⟨hlt, slot, hslot, rfl⟩
  · rintro ⟨hlt, slot, hslot, rfl⟩
    exact ⟨slot, ⟨hslot, hlt⟩, rfl⟩

theorem nodup_stagedWords {factor base laneStride words : Nat} (hs : 0 < laneStride) :
    (stagedWords factor base laneStride words).Nodup := by
  refine List.Nodup.map ?_ (List.Nodup.filter _ List.nodup_range)
  intro a b hab
  have hmul : a * laneStride = b * laneStride := by
    simp only at hab
    omega
  exact Nat.eq_of_mul_eq_mul_right hs hmul

/-! ## The indices of a thread -/

namespace Kernel

/-- Whole wide words a kernel moves. -/
def wordCount (n : Nat) : Kernel → Nat
  | scalar _ => 0
  | vector dtype => n / dtype.lanes
  | blocked .. => n / floatLanes

/-- The first element a kernel moves on its own: those before it travel in wide words. -/
def restStart (n : Nat) (kernel : Kernel) : Nat := kernel.wordCount n * kernel.dtype.lanes

/-- Words with an owner. A single pass only reaches as far as its grid. -/
def wordReach (n : Nat) (g : Geometry) : Kernel → Nat
  | blocked .singlePass factor => min (n / floatLanes) (factor * g.threadCount)
  | kernel => kernel.wordCount n

/-- First word of the thread of a given rank in a staged launch, in exact arithmetic. -/
def firstWord (factor : Nat) (g : Geometry) (rank : Nat) : Nat :=
  rank % g.threadsPerGroup + factor * (rank / g.threadsPerGroup) * g.threadsPerGroup

/-- The words that the thread of a given rank moves. -/
def wordIndices (n : Nat) (g : Geometry) (rank : Nat) : Kernel → List Nat
  | scalar _ => []
  | vector dtype => strided rank g.threadCount (n / dtype.lanes)
  | blocked .singlePass factor =>
      stagedWords factor (firstWord factor g rank) g.threadsPerGroup (n / floatLanes)
  | blocked .gridStride factor =>
      (strided (firstWord factor g rank) (factor * g.threadCount) (n / floatLanes)).flatMap
        (fun base => stagedWords factor base g.threadsPerGroup (n / floatLanes))

/-- The elements that the thread of a given rank moves one at a time. -/
def elementIndices (n : Nat) (g : Geometry) (rank : Nat) (kernel : Kernel) : List Nat :=
  match kernel with
  | blocked .. =>
      if rank = 0 then List.range' (kernel.restStart n) (n - kernel.restStart n) else []
  | _ => strided (kernel.restStart n + rank) g.threadCount n

/-- The thread that owns a word. -/
def wordOwner (g : Geometry) (i : Nat) : Kernel → Nat
  | blocked .singlePass factor =>
      i / (factor * g.threadsPerGroup) * g.threadsPerGroup + i % g.threadsPerGroup
  | blocked .gridStride factor =>
      i / (factor * g.threadsPerGroup) % g.groups * g.threadsPerGroup + i % g.threadsPerGroup
  | _ => i % g.threadCount

/-- The thread that owns an element past the last whole word. -/
def elementOwner (n : Nat) (g : Geometry) (i : Nat) (kernel : Kernel) : Nat :=
  match kernel with
  | blocked .. => 0
  | _ => (i - kernel.restStart n) % g.threadCount

/-- The blocking factor of a staged kernel is positive. -/
def HasSlots : Kernel → Prop
  | blocked _ factor => 0 < factor
  | _ => True

instance : (kernel : Kernel) → Decidable kernel.HasSlots
  | scalar _ | vector _ => isTrue trivial
  | blocked _ factor => inferInstanceAs (Decidable (0 < factor))

variable {kernel : Kernel} {g : Geometry} {n rank i : Nat}

theorem threadsPerGroup_pos (h : rank < g.threadCount) : 0 < g.threadsPerGroup := by
  rcases Nat.eq_zero_or_pos g.threadsPerGroup with hzero | hpos
  · simp [Geometry.threadCount, hzero] at h
  · exact hpos

theorem group_lt (h : rank < g.threadCount) : rank / g.threadsPerGroup < g.groups :=
  Nat.div_lt_of_lt_mul (by rwa [Nat.mul_comm])

/-- One round of a grid-stride staged launch moves on by a whole number of groups. -/
theorem firstWord_add_round (factor : Nat) (g : Geometry) (rank round : Nat) :
    firstWord factor g rank + round * (factor * g.threadCount) =
      rank % g.threadsPerGroup +
        factor * (round * g.groups + rank / g.threadsPerGroup) * g.threadsPerGroup := by
  unfold firstWord Geometry.threadCount
  ring

/-- A thread moves the words it owns. -/
theorem mem_wordIndices (hk : kernel.HasSlots) (h : rank < g.threadCount) :
    i ∈ kernel.wordIndices n g rank ↔ i < kernel.wordReach n g ∧ kernel.wordOwner g i = rank := by
  have hwidth := threadsPerGroup_pos h
  have hplace : rank % g.threadsPerGroup < g.threadsPerGroup := Nat.mod_lt _ hwidth
  have hmod : i % g.threadsPerGroup < g.threadsPerGroup := Nat.mod_lt _ hwidth
  cases kernel with
  | scalar dtype => simp [wordIndices, wordReach, wordCount]
  | vector dtype =>
    have hmem : i ∈ strided (0 + rank) g.threadCount (n / dtype.lanes) ↔
        (0 ≤ i ∧ i < n / dtype.lanes) ∧ (i - 0) % g.threadCount = rank := mem_strided_of_rank h
    simpa [wordIndices, wordReach, wordCount, wordOwner] using hmem
  | blocked sweep factor =>
    have hslots : 0 < factor := hk
    cases sweep with
    | singlePass =>
      simp only [wordIndices, wordReach, wordOwner]
      -- There is one round, so the group of the word is the group of the thread.
      rw [mem_stagedWords hwidth, firstWord, exists_slot_iff hplace hslots, mul_add_eq_iff hmod]
      constructor
      · rintro ⟨hlt, hidx, hgroup⟩
        have hreach : i < factor * g.threadCount := by
          have hbelow := group_lt h
          rw [← hgroup, Nat.div_lt_iff_lt_mul (Nat.mul_pos hslots hwidth)] at hbelow
          calc
            i < g.groups * (factor * g.threadsPerGroup) := hbelow
            _ = factor * g.threadCount := by rw [Geometry.threadCount]; ring
        exact ⟨by omega, hgroup, hidx⟩
      · rintro ⟨hlt, hgroup, hidx⟩
        exact ⟨by omega, hidx, hgroup⟩
    | gridStride =>
      have hstep : 0 < factor * g.threadCount := Nat.mul_pos hslots (by omega)
      have hgroup := group_lt h
      -- A round moves on by the whole grid, so it shows only in the quotient.
      have hdigits : i / (factor * g.threadsPerGroup) % g.groups * g.threadsPerGroup +
          i % g.threadsPerGroup = rank ↔
            i / (factor * g.threadsPerGroup) % g.groups = rank / g.threadsPerGroup ∧
              i % g.threadsPerGroup = rank % g.threadsPerGroup := mul_add_eq_iff hmod
      simp only [wordIndices, wordReach, wordCount, wordOwner, hdigits, List.mem_flatMap]
      constructor
      · rintro ⟨base, hbase, hi⟩
        rcases (mem_strided_iff hstep).mp hbase with ⟨-, round, rfl⟩
        rw [mem_stagedWords hwidth, firstWord_add_round, exists_slot_iff hplace hslots] at hi
        rcases hi with ⟨hlt, hidx, hquot⟩
        refine ⟨hlt, ?_, hidx⟩
        exact ((mul_add_eq_iff hgroup).mp hquot.symm).2.symm
      · rintro ⟨hlt, hquot, hidx⟩
        have hround := (mul_add_eq_iff hgroup).mpr ⟨rfl, hquot.symm⟩
        let round := i / (factor * g.threadsPerGroup) / g.groups
        have hstage : i ∈ stagedWords factor
            (firstWord factor g rank + round * (factor * g.threadCount)) g.threadsPerGroup
            (n / floatLanes) := by
          rw [mem_stagedWords hwidth, firstWord_add_round, exists_slot_iff hplace hslots]
          exact ⟨hlt, hidx, hround.symm⟩
        have hbelow : firstWord factor g rank + round * (factor * g.threadCount) < n / floatLanes := by
          rcases (mem_stagedWords hwidth).mp hstage with ⟨-, slot, -, hslot⟩
          omega
        exact ⟨_, (mem_strided_iff hstep).mpr ⟨hbelow, round, rfl⟩, hstage⟩

/-- A thread moves the elements it owns. -/
theorem mem_elementIndices (h : rank < g.threadCount) :
    i ∈ kernel.elementIndices n g rank ↔
      (kernel.restStart n ≤ i ∧ i < n) ∧ kernel.elementOwner n g i = rank := by
  cases kernel with
  | scalar dtype => exact mem_strided_of_rank h
  | vector dtype => exact mem_strided_of_rank h
  | blocked sweep factor =>
    simp only [elementIndices, elementOwner]
    -- The first thread moves the whole rest, one element after another.
    by_cases hrank : rank = 0
    · subst hrank
      rw [if_pos rfl, List.mem_range'_1]
      constructor
      · rintro ⟨hle, hlt⟩
        exact ⟨⟨hle, by omega⟩, rfl⟩
      · rintro ⟨⟨hle, hlt⟩, -⟩
        exact ⟨hle, by omega⟩
    · rw [if_neg hrank]
      constructor
      · intro hmem
        cases hmem
      · rintro ⟨-, hzero⟩
        exact absurd hzero.symm hrank

/-- No thread moves a word twice. -/
theorem nodup_wordIndices (hk : kernel.HasSlots) (h : rank < g.threadCount) :
    (kernel.wordIndices n g rank).Nodup := by
  have hwidth := threadsPerGroup_pos h
  have hpos : 0 < g.threadCount := by omega
  cases kernel with
  | scalar dtype => exact List.nodup_nil
  | vector dtype => exact nodup_strided hpos
  | blocked sweep factor =>
    have hslots : 0 < factor := hk
    cases sweep with
    | singlePass => exact nodup_stagedWords hwidth
    | gridStride =>
      have hstep : 0 < factor * g.threadCount := Nat.mul_pos hslots hpos
      have hplace : rank % g.threadsPerGroup < g.threadsPerGroup := Nat.mod_lt _ hwidth
      have hgroup := group_lt h
      refine List.nodup_flatMap.mpr ⟨fun base _ => nodup_stagedWords hwidth, ?_⟩
      refine List.Nodup.pairwise_of_forall_ne (nodup_strided hstep) ?_
      -- Two rounds of one thread lie in different groups of words.
      intro base hbase other hother hne
      rcases (mem_strided_iff hstep).mp hbase with ⟨-, round, rfl⟩
      rcases (mem_strided_iff hstep).mp hother with ⟨-, later, rfl⟩
      intro i hfirst hsecond
      rw [mem_stagedWords hwidth, firstWord_add_round, exists_slot_iff hplace hslots] at hfirst
      rw [mem_stagedWords hwidth, firstWord_add_round, exists_slot_iff hplace hslots] at hsecond
      have hround := ((mul_add_eq_iff hgroup).mp hfirst.2.2.symm).1
      have hlater := ((mul_add_eq_iff hgroup).mp hsecond.2.2.symm).1
      exact hne (by rw [hround, hlater])

/-- No thread moves an element twice. -/
theorem nodup_elementIndices (h : rank < g.threadCount) :
    (kernel.elementIndices n g rank).Nodup := by
  have hpos : 0 < g.threadCount := by omega
  cases kernel with
  | scalar dtype => exact nodup_strided hpos
  | vector dtype => exact nodup_strided hpos
  | blocked sweep factor =>
    simp only [elementIndices]
    split
    · exact List.nodup_range'
    · exact List.nodup_nil

/-- Every word in reach has its owner in the grid. -/
theorem wordOwner_lt (hk : kernel.HasSlots) (hg : 0 < g.threadCount)
    (h : i < kernel.wordReach n g) : kernel.wordOwner g i < g.threadCount := by
  have hwidth := threadsPerGroup_pos hg
  have hmod : i % g.threadsPerGroup < g.threadsPerGroup := Nat.mod_lt _ hwidth
  -- A group of the grid and a place in the group make a thread of the grid.
  have hinside : ∀ group, group < g.groups →
      group * g.threadsPerGroup + i % g.threadsPerGroup < g.threadCount := by
    intro group hgroup
    have hle : (group + 1) * g.threadsPerGroup ≤ g.groups * g.threadsPerGroup :=
      Nat.mul_le_mul_right _ hgroup
    rw [Nat.succ_mul] at hle
    unfold Geometry.threadCount
    omega
  cases kernel with
  | scalar dtype => exact Nat.mod_lt _ hg
  | vector dtype => exact Nat.mod_lt _ hg
  | blocked sweep factor =>
    have hslots : 0 < factor := hk
    cases sweep with
    | singlePass =>
      refine hinside _ ?_
      have hreach : i < factor * g.threadCount := Nat.lt_of_lt_of_le h (Nat.min_le_right _ _)
      rw [Nat.div_lt_iff_lt_mul (Nat.mul_pos hslots hwidth)]
      calc
        i < factor * g.threadCount := hreach
        _ = g.groups * (factor * g.threadsPerGroup) := by rw [Geometry.threadCount]; ring
    | gridStride =>
      exact hinside _ (Nat.mod_lt _ (Nat.lt_of_le_of_lt (Nat.zero_le _) (group_lt hg)))

/-- Every element past the last whole word has its owner in the grid. -/
theorem elementOwner_lt (hg : 0 < g.threadCount) :
    kernel.elementOwner n g i < g.threadCount := by
  cases kernel with
  | scalar dtype => exact Nat.mod_lt _ hg
  | vector dtype => exact Nat.mod_lt _ hg
  | blocked sweep factor => exact hg

end Kernel

end DeviceCopy
