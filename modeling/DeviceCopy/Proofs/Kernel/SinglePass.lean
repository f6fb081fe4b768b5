import DeviceCopy.Proofs.Kernel.GridStride
import Mathlib.Data.List.Perm.Basic

/-!
# Single-pass launches of any shape

In a single pass every thread of the grid makes one step, so a grid has a fixed number of slots and
reaches as many words, whether the copy has fewer or more. This module says what such a launch does
on any grid: `Launch.singlePass_copies_reach`.

What the threads of a launch store together is a list of places (`Launch.stores`). For every kernel
it is a rearrangement of the words in reach and of the elements past the last whole word, so none of
them is stored twice and nothing else is stored (`Launch.stores_perm`).
-/

set_option autoImplicit false

namespace DeviceCopy

/-! ## Indices shared out among threads -/

/-- Lists that share out the members of another one, each to its owner, make it up together. -/
theorem flatMap_perm_of_owner (owner : Nat → Nat) {count : Nat} {share : Nat → List Nat}
    {whole : List Nat} (hwhole : whole.Nodup) (hshare : ∀ rank, rank < count → (share rank).Nodup)
    (hmem : ∀ rank, rank < count → ∀ i, i ∈ share rank ↔ i ∈ whole ∧ owner i = rank)
    (howner : ∀ i ∈ whole, owner i < count) :
    ((List.range count).flatMap share).Perm whole := by
  have hnodup : ((List.range count).flatMap share).Nodup := by
    refine List.nodup_flatMap.mpr ⟨fun rank hrank => hshare rank (List.mem_range.mp hrank), ?_⟩
    refine List.nodup_range.pairwise_of_forall_ne ?_
    -- A member of two shares would have two owners.
    intro rank hrank other hother hne i hi hi'
    have hfirst := ((hmem rank (List.mem_range.mp hrank) i).mp hi).2
    have hsecond := ((hmem other (List.mem_range.mp hother) i).mp hi').2
    exact hne (hfirst.symm.trans hsecond)
  refine (List.perm_ext_iff_of_nodup hnodup hwhole).mpr fun i => ?_
  constructor
  · intro hi
    rcases List.mem_flatMap.mp hi with ⟨rank, hrank, hi⟩
    exact ((hmem rank (List.mem_range.mp hrank) i).mp hi).1
  · intro hi
    have hrank := howner i hi
    exact List.mem_flatMap.mpr
      ⟨owner i, List.mem_range.mpr hrank, (hmem (owner i) hrank i).mpr ⟨hi, rfl⟩⟩

namespace Kernel

variable {kernel : Kernel} {g : Geometry} {n : Nat}

/-- The threads of a grid share out the words in its reach. -/
theorem wordIndices_perm (hk : kernel.HasSlots) (hgrid : 0 < g.threadCount) :
    ((List.range g.threadCount).flatMap (fun rank => kernel.wordIndices n g rank)).Perm
      (List.range (kernel.wordReach n g)) := by
  refine flatMap_perm_of_owner (fun i => kernel.wordOwner g i) List.nodup_range
    (fun rank hrank => nodup_wordIndices hk hrank) ?_ ?_
  · intro rank hrank i
    exact (mem_wordIndices hk hrank).trans (and_congr_left fun _ => List.mem_range.symm)
  · intro i hi
    exact wordOwner_lt hk hgrid (List.mem_range.mp hi)

/-- The threads of a grid share out the elements past the last whole word. -/
theorem elementIndices_perm (hgrid : 0 < g.threadCount) :
    ((List.range g.threadCount).flatMap (fun rank => kernel.elementIndices n g rank)).Perm
      (List.range' (kernel.restStart n) (n - kernel.restStart n)) := by
  have hrest : kernel.restStart n ≤ n := restStart_le n kernel
  have hmem : ∀ i, i ∈ List.range' (kernel.restStart n) (n - kernel.restStart n) ↔
      kernel.restStart n ≤ i ∧ i < n := by
    simp [Nat.add_sub_cancel' hrest]
  refine flatMap_perm_of_owner (fun i => kernel.elementOwner n g i) List.nodup_range'
    (fun rank hrank => nodup_elementIndices hrank) ?_ ?_
  · intro rank hrank i
    exact (mem_elementIndices hrank).trans (and_congr_left fun _ => (hmem i).symm)
  · intro i _
    exact elementOwner_lt hgrid

end Kernel

namespace Launch

variable {l : Launch}

/-- The places the threads of a launch store to, thread by thread. -/
def stores (l : Launch) : List Span :=
  (List.range l.geometry.threadCount).flatMap (fun rank => (l.programAt rank).stores)

/-- A launch without a fault stores each word in reach and each element past the last whole word
once. -/
theorem stores_perm (hk : l.kernel.HasSlots) (hgrid : 0 < l.geometry.threadCount)
    (hsound : l.Sound) :
    l.stores.Perm
      ((List.range (l.kernel.wordReach l.count l.geometry)).map (Span.mk wideWordBytes) ++
        (List.range' (l.kernel.restStart l.count) (l.count - l.kernel.restStart l.count)).map
          (Span.mk l.kernel.dtype.size)) := by
  let words (rank : Nat) : List Span :=
    (l.kernel.wordIndices l.count l.geometry rank).map (Span.mk wideWordBytes)
  let elements (rank : Nat) : List Span :=
    (l.kernel.elementIndices l.count l.geometry rank).map (Span.mk l.kernel.dtype.size)
  have hstores : l.stores =
      (List.range l.geometry.threadCount).flatMap (fun rank => words rank ++ elements rank) :=
    List.flatMap_congr fun rank hrank =>
      Kernel.stores_program (hsound rank (List.mem_range.mp hrank))
  have hwords : ((List.range l.geometry.threadCount).flatMap words).Perm
      ((List.range (l.kernel.wordReach l.count l.geometry)).map (Span.mk wideWordBytes)) := by
    simpa only [words, ← List.map_flatMap] using
      (Kernel.wordIndices_perm hk hgrid).map (Span.mk wideWordBytes)
  have helements : ((List.range l.geometry.threadCount).flatMap elements).Perm
      ((List.range' (l.kernel.restStart l.count) (l.count - l.kernel.restStart l.count)).map
        (Span.mk l.kernel.dtype.size)) := by
    simpa only [elements, ← List.map_flatMap] using
      (Kernel.elementIndices_perm hgrid).map (Span.mk l.kernel.dtype.size)
  -- Each thread stores its words before its elements; all words may as well come first.
  rw [hstores]
  exact (List.flatMap_append_perm _ words elements).symm.trans (hwords.append helements)

/-- A launch without a fault moves the words in reach and the elements past the last whole word. -/
theorem moved_run (hk : l.kernel.HasSlots) (hgrid : 0 < l.geometry.threadCount) (hsound : l.Sound)
    (hapart : l.Disjoint) (m : Memory) :
    m.Moved l.src l.dst
      (fun b => b / wideWordBytes < l.kernel.wordReach l.count l.geometry ∨
        l.kernel.restStart l.count ≤ b / l.kernel.dtype.size ∧ b / l.kernel.dtype.size < l.count)
      (l.run m).1 := by
  have hcopies : ∀ rank, rank < l.geometry.threadCount → (l.programAt rank).Copies l.extent :=
    fun rank hrank => copies_programAt hk hrank
  exact (Memory.moved_of_get fun a => get_run hcopies hsound hapart m a).congr
    fun _ => mem_writes_iff hk hgrid hsound

/-! ## Copies that reach too few words -/

/-- A word in reach, or a float past the last whole word. -/
def Reached (count reach b : Nat) : Prop :=
  b / 16 < reach ∨ count / 4 * 4 ≤ b / 4 ∧ b / 4 < count

/-- A copy that moves the words in reach and the rest is complete if every word is in reach, or if
those that are not are the same on both sides already. -/
theorem complete_iff_of_reached {m m' : Memory} {src dst count slots : Nat}
    (h : m.Moved src dst (Reached count (min (count / 4) slots)) m') :
    m'.read dst (count * 4) = m.read src (count * 4) ↔
      count / 4 ≤ slots ∨
        ∀ i, slots ≤ i → i < count / 4 → m.read (dst + i * 16) 16 = m.read (src + i * 16) 16 := by
  have hwhole : m'.read dst (count * 4) = m.read src (count * 4) ↔
      ∀ b, b < count * 4 → m'.get (dst + b) = m.get (src + b) := by
    simp [Memory.read]
  have hword : ∀ i, m.read (dst + i * 16) 16 = m.read (src + i * 16) 16 ↔
      ∀ j, j < 16 → m.get (dst + i * 16 + j) = m.get (src + i * 16 + j) := by
    intro i
    simp [Memory.read]
  -- A byte that is not reached belongs to a word past the slots, and it is as it was.
  have hmissed : ∀ b, ¬ Reached count (min (count / 4) slots) b → m'.get (dst + b) = m.get (dst + b) := by
    intro b hb
    refine h.kept _ fun other hother hsame => hb ?_
    have hbyte : b = other := Nat.add_left_cancel hsame
    exact hbyte ▸ hother
  rw [hwhole]
  simp only [hword]
  constructor
  · intro hcomplete
    rcases Nat.lt_or_ge slots (count / 4) with hfew | henough
    · refine Or.inr fun i hi hlt j hj => ?_
      have hout : ¬ Reached count (min (count / 4) slots) (i * 16 + j) := by
        unfold Reached
        omega
      calc
        m.get (dst + i * 16 + j)
            = m'.get (dst + (i * 16 + j)) := by rw [Nat.add_assoc, hmissed _ hout]
        _ = m.get (src + (i * 16 + j)) := hcomplete _ (by omega)
        _ = m.get (src + i * 16 + j) := by rw [Nat.add_assoc]
    · exact Or.inl henough
  · rintro hagree b hb
    by_cases hreached : Reached count (min (count / 4) slots) b
    · exact h.moved b hreached
    · have hpast : slots ≤ b / 16 ∧ b / 16 < count / 4 := by
        unfold Reached at hreached
        omega
      have hsame := (hagree.resolve_left (by omega)) (b / 16) hpast.1 hpast.2 (b % 16) (by omega)
      have hsplit : b / 16 * 16 + b % 16 = b := by omega
      calc
        m'.get (dst + b) = m.get (dst + b) := hmissed b hreached
        _ = m.get (dst + b / 16 * 16 + b % 16) := by rw [Nat.add_assoc, hsplit]
        _ = m.get (src + b / 16 * 16 + b % 16) := hsame
        _ = m.get (src + b) := by rw [Nat.add_assoc, hsplit]

/-! ## The launch -/

/-- A staged launch in which every thread makes one step, on any grid whose slots can be counted in
a word. No thread faults. Together the threads store each word below the number of slots and each
float past the last whole word once, and nothing else. That is what ends up in memory, in whatever
order the accesses come. So the copy is complete if there are slots for all words, and otherwise
only if the words it misses were the same on both sides before. -/
theorem singlePass_copies_reach {factor count src dst : Nat} {g : Geometry} (hslots : 0 < factor)
    (hgroups : 0 < g.groups) (hwidth : 0 < g.threadsPerGroup)
    (hfits : factor * g.groups * g.threadsPerGroup ≤ 2 ^ 64)
    (hapart : Block.Apart ⟨src, count * 4⟩ ⟨dst, count * 4⟩) :
    let l : Launch := { kernel := .blocked .singlePass factor, geometry := g, count, src, dst }
    let slots := factor * g.groups * g.threadsPerGroup
    let reach := min (count / 4) slots
    l.Sound ∧
    l.stores.Perm ((List.range reach).map (Span.mk 16) ++
      (List.range' (count / 4 * 4) (count % 4)).map (Span.mk 4)) ∧
    ∀ m : Memory,
      (l.run m).2 = none ∧ m.Moved src dst (Reached count reach) (l.run m).1 ∧
      (∀ order, l.Interleaving order → ∀ a,
        ((Machine.start m).exec src dst order).memory.get a = (l.run m).1.get a) ∧
      ((l.run m).1.read dst (count * 4) = m.read src (count * 4) ↔
        count / 4 ≤ slots ∨
          ∀ i, slots ≤ i → i < count / 4 →
            m.read (dst + i * 16) 16 = m.read (src + i * 16) 16) := by
  intro l slots reach
  have hk : l.kernel.HasSlots := hslots
  have hgrid : 0 < l.geometry.threadCount := Nat.mul_pos hgroups hwidth
  have hcount : factor * g.threadCount = slots := (Nat.mul_assoc _ _ _).symm
  have hsound : l.Sound := by
    intro rank hrank
    have hrange : (Kernel.blocked .singlePass factor).Fits count g := hcount.le.trans hfits
    exact Kernel.fault_program hk hrank hrange
  have hreach : l.kernel.wordReach l.count l.geometry = reach := by
    change min (count / 4) (factor * g.threadCount) = reach
    rw [hcount]
  have hstart : l.kernel.restStart l.count = count / 4 * 4 := by
    change count / 4 * DType.f32.lanes = count / 4 * 4
    rfl
  have hrest : count - count / 4 * 4 = count % 4 := by omega
  refine ⟨hsound, ?_, fun m => ?_⟩
  · have hperm := stores_perm hk hgrid hsound
    rw [hreach, hstart] at hperm
    rw [← hrest]
    exact hperm
  · have hmoved : m.Moved src dst (Reached count reach) (l.run m).1 := by
      have hran := moved_run hk hgrid hsound hapart m
      rw [hreach, hstart] at hran
      exact hran
    refine ⟨?_, hmoved, ?_, complete_iff_of_reached hmoved⟩
    · rw [run_eq_exec m hsound]
    · intro order horder a
      exact (schedule_independent hk hsound hapart).2 order horder m a

/-- Thirty-nine floats on a grid of three threads with two slots each. Three of the nine words are
out of reach, the three floats past them are not. -/
theorem singlePass_copies_reach_undersized :
    let l : Launch :=
      { kernel := .blocked .singlePass 2, geometry := ⟨1, 3, 0⟩, count := 39, src := 64, dst := 256 }
    (0 < 2 ∧ 0 < l.geometry.groups ∧ 0 < l.geometry.threadsPerGroup ∧ 2 * 1 * 3 ≤ 2 ^ 64 ∧
      Block.Apart ⟨64, 39 * 4⟩ ⟨256, 39 * 4⟩) ∧
    l.stores.Perm ((List.range 6).map (Span.mk 16) ++ [⟨4, 36⟩, ⟨4, 37⟩, ⟨4, 38⟩]) ∧
    ∀ m : Memory, (l.run m).1.read 256 156 = m.read 64 156 ↔
      ∀ i, 6 ≤ i → i < 9 → m.read (256 + i * 16) 16 = m.read (64 + i * 16) 16 := by
  intro l
  have hapart : Block.Apart ⟨64, 39 * 4⟩ ⟨256, 39 * 4⟩ := by decide
  have hlaunch := @singlePass_copies_reach 2 39 64 256 ⟨1, 3, 0⟩ (by decide) (by decide) (by decide)
    (by decide) hapart
  refine ⟨⟨by decide, by decide, by decide, by decide, hapart⟩, hlaunch.2.1, fun m => ?_⟩
  have hcomplete := (hlaunch.2.2 m).2.2.2
  exact hcomplete.trans (or_iff_right (by decide))

end Launch

end DeviceCopy
