import DeviceCopy.Proofs.Kernel.Accesses
import DeviceCopy.Proofs.Kernel.Ownership

/-!
# The four kernels, thread by thread

Three facts about the program of one thread, for every kernel. It copies within the extent of the
copy, also when it faults (`copies_program`). When it does not fault it stores the words and then
the elements the thread owns, in the order of `wordIndices` and `elementIndices`
(`stores_program`). And it does not fault when the grid `Fits` (`fault_program`): the bound of its
loop and one step together stay in the word range.
-/

set_option autoImplicit false

namespace DeviceCopy

namespace Checked

theorem ok_bind {α β : Type} (a : α) (next : α → Checked β) :
    (Except.ok a : Checked α) >>= next = next a := rfl

theorem bind_eq_ok_iff {α β : Type} {result : Checked α} {next : α → Checked β} {b : β} :
    result >>= next = .ok b ↔ ∃ a, result = .ok a ∧ next a = .ok b := by
  cases result with
  | ok a => simp [bind, Except.bind]
  | error f => simp [bind, Except.bind]

end Checked

namespace Program

theorem fault_ofChecked_eq_none_iff {result : Checked Program} :
    (ofChecked result).fault = none ↔ ∃ p, result = .ok p ∧ p.fault = none := by
  cases result with
  | ok p => simp [ofChecked]
  | error f => simp [ofChecked, giveUp]

end Program

/-! ## Coordinates -/

namespace Geometry

variable {g : Geometry} {rank r : Nat}

theorem rank_thread_eq_ok_iff :
    (g.thread rank).rank = .ok r ↔ rank < wordLimit ∧ r = rank := by
  have hsplit : rank / g.threadsPerGroup * g.threadsPerGroup + rank % g.threadsPerGroup = rank := by
    rw [Nat.mul_comm]
    exact Nat.div_add_mod rank g.threadsPerGroup
  simp only [Thread.rank, thread, Checked.bind_eq_ok_iff, Checked.mul_eq_ok_iff,
    Checked.add_eq_ok_iff]
  constructor
  · rintro ⟨start, ⟨-, rfl⟩, hsum, rfl⟩
    rw [hsplit] at hsum ⊢
    exact ⟨hsum, rfl⟩
  · rintro ⟨hlt, rfl⟩
    exact ⟨_, ⟨by omega, rfl⟩, by rw [hsplit]; exact hlt, hsplit.symm⟩

theorem total_thread_eq_ok_iff :
    (g.thread rank).total = .ok r ↔ g.threadCount < wordLimit ∧ r = g.threadCount :=
  Checked.mul_eq_ok_iff

theorem blockBase_thread_eq_ok {factor : Nat} (h : (g.thread rank).blockBase factor = .ok r) :
    r = Kernel.firstWord factor g rank := by
  simp only [Thread.blockBase, thread, Checked.bind_eq_ok_iff, Checked.mul_eq_ok_iff,
    Checked.add_eq_ok_iff] at h
  rcases h with ⟨runs, ⟨-, rfl⟩, start, ⟨-, rfl⟩, -, rfl⟩
  rfl

theorem blockBase_thread_of_lt {factor : Nat} (hwidth : 0 < g.threadsPerGroup)
    (h : Kernel.firstWord factor g rank < wordLimit) :
    (g.thread rank).blockBase factor = .ok (Kernel.firstWord factor g rank) := by
  unfold Kernel.firstWord at h ⊢
  have hstart : factor * (rank / g.threadsPerGroup) * g.threadsPerGroup < wordLimit := by omega
  have hruns : factor * (rank / g.threadsPerGroup) < wordLimit :=
    Nat.lt_of_le_of_lt (Nat.le_mul_of_pos_right _ hwidth) hstart
  simp only [Thread.blockBase, thread, Checked.bind_eq_ok_iff, Checked.mul_eq_ok_iff,
    Checked.add_eq_ok_iff]
  exact ⟨_, ⟨hruns, rfl⟩, _, ⟨hstart, rfl⟩, h, rfl⟩

end Geometry

namespace Kernel

/-! ## Extents -/

/-- A whole word lies inside the copy. -/
theorem word_inside (dtype : DType) {n i : Nat} (h : i < n / dtype.lanes) :
    i * wideWordBytes + wideWordBytes ≤ n * dtype.size := by
  have hlanes : (i + 1) * dtype.lanes ≤ n :=
    (Nat.le_div_iff_mul_le dtype.lanes_pos).mp h
  calc
    i * wideWordBytes + wideWordBytes
        = (i + 1) * (dtype.lanes * dtype.size) := by rw [dtype.lanes_mul_size, Nat.succ_mul]
    _ = (i + 1) * dtype.lanes * dtype.size := by rw [Nat.mul_assoc]
    _ ≤ n * dtype.size := Nat.mul_le_mul_right _ hlanes

theorem element_inside (dtype : DType) {n i : Nat} (h : i < n) :
    i * dtype.size + dtype.size ≤ n * dtype.size := by
  rw [← Nat.succ_mul]
  exact Nat.mul_le_mul_right _ h

/-- The elements before the rest fill the whole words. -/
theorem restStart_le (n : Nat) (kernel : Kernel) : kernel.restStart n ≤ n := by
  cases kernel with
  | scalar dtype => simp [restStart, wordCount]
  | vector dtype => exact Nat.div_mul_le_self n dtype.lanes
  | blocked sweep factor => exact Nat.div_mul_le_self n floatLanes

/-! ## Staged steps -/

theorem stageFault_eq_none {factor base laneStride : Nat}
    (h : base + (factor - 1) * laneStride < wordLimit) :
    stageFault factor base laneStride = none := by
  unfold stageFault
  rw [if_pos (Or.inr h)]

theorem copies_stage {factor base laneStride words extent : Nat}
    (h : ∀ i, i < words → i * wideWordBytes + wideWordBytes ≤ extent) :
    (stage factor base laneStride words).Copies extent := by
  have hword : ∀ slot ∈ stagedSlots factor base laneStride words,
      (base + slot * laneStride) * wideWordBytes + wideWordBytes ≤ extent := by
    intro slot hslot
    have hlt := (List.mem_filter.mp hslot).2
    exact h _ (of_decide_eq_true hlt)
  have hfaithful := Faithful.loads_stores
    (fun slot => Span.mk wideWordBytes (base + slot * laneStride))
    (stagedSlots factor base laneStride words)
  unfold stage
  -- A fault comes between the loads and the stores.
  cases stageFault factor base laneStride with
  | some f =>
    refine ⟨?_, ?_⟩
    · intro action haction
      rcases List.mem_map.mp haction with ⟨slot, hslot, rfl⟩
      exact hword slot hslot
    · simpa using hfaithful [] Origins.none (by simp)
  | none =>
    refine ⟨?_, ?_⟩
    · intro action haction
      rcases List.mem_append.mp haction with hload | hstore
      · rcases List.mem_map.mp hload with ⟨slot, hslot, rfl⟩
        exact hword slot hslot
      · rcases List.mem_map.mp hstore with ⟨slot, hslot, rfl⟩
        exact hword slot hslot
    · exact hfaithful _ Origins.none (fun slot hslot => Or.inl hslot)

theorem fault_stage (factor base laneStride words : Nat) :
    (stage factor base laneStride words).fault = stageFault factor base laneStride := by
  unfold stage
  cases stageFault factor base laneStride <;> rfl

theorem stores_stage {factor base laneStride words : Nat}
    (h : (stage factor base laneStride words).fault = none) :
    (stage factor base laneStride words).stores =
      (stagedWords factor base laneStride words).map (Span.mk wideWordBytes) := by
  rw [fault_stage] at h
  simp only [stage, h, Program.stores, stagedWords, List.filterMap_append, List.filterMap_map,
    List.map_map]
  -- Of the two phases only the second stores.
  have hloads : (stagedSlots factor base laneStride words).filterMap
      (Action.target ∘ fun slot => Action.load slot ⟨wideWordBytes, base + slot * laneStride⟩) =
        [] := by
    rw [List.filterMap_eq_nil_iff]
    intro slot _
    rfl
  rw [hloads, List.nil_append, ← List.filterMap_eq_map]
  rfl

/-! ## The tail of a staged copy -/

variable {kernel : Kernel} {g : Geometry} {n rank : Nat}

theorem copies_floatTail (n : Nat) (t : Thread) :
    (floatTail n t).Copies (n * DType.f32.size) := by
  refine Program.Copies.ofChecked ?_
  intro p hp
  rcases Checked.bind_eq_ok_iff.mp hp with ⟨rank, -, hrest⟩
  split at hrest
  · cases hrest
    refine Program.Copies.sequence ?_
    intro q hq
    rcases List.mem_map.mp hq with ⟨i, hi, rfl⟩
    have hlt : i < n := by
      have hrange := List.mem_range'_1.mp hi
      omega
    exact Program.Copies.moveSpan (element_inside .f32 hlt)
  · cases hrest
    exact Program.Copies.done

theorem floatTail_thread (h : rank < wordLimit) :
    floatTail n (g.thread rank) =
      if rank = 0 then
        .sequence ((List.range' (n / floatLanes * floatLanes)
          (n - n / floatLanes * floatLanes)).map (.moveSpan DType.f32.size))
      else .done := by
  have hrank : (g.thread rank).rank = .ok rank := Geometry.rank_thread_eq_ok_iff.mpr ⟨h, rfl⟩
  simp only [floatTail, hrank, bind, Except.bind]
  split <;> rfl

theorem fault_floatTail (h : rank < wordLimit) : (floatTail n (g.thread rank)).fault = none := by
  rw [floatTail_thread h]
  split
  · rw [Program.fault_sequence_eq_none_iff]
    intro p hp
    rcases List.mem_map.mp hp with ⟨i, -, rfl⟩
    rfl
  · rfl

theorem stores_floatTail (sweep : Sweep) (factor : Nat)
    (h : (floatTail n (g.thread rank)).fault = none) :
    (floatTail n (g.thread rank)).stores =
      ((blocked sweep factor).elementIndices n g rank).map (Span.mk DType.f32.size) := by
  -- No fault means that the rank could be computed.
  have hlt : rank < wordLimit := by
    rcases Program.fault_ofChecked_eq_none_iff.mp h with ⟨p, hp, -⟩
    rcases Checked.bind_eq_ok_iff.mp hp with ⟨r, hr, -⟩
    exact (Geometry.rank_thread_eq_ok_iff.mp hr).1
  rw [floatTail_thread hlt]
  simp only [elementIndices]
  split
  · rw [Program.stores_sequence]
    · rw [List.flatMap_map, List.map_eq_flatMap]
      rfl
    · intro p hp
      rcases List.mem_map.mp hp with ⟨i, -, rfl⟩
      rfl
  · rfl

/-! ## Every access is a faithful one inside the copy -/

theorem copies_program (hk : kernel.HasSlots) (h : rank < g.threadCount) :
    (kernel.program n (g.thread rank)).Copies (n * kernel.dtype.size) := by
  have hpos : 0 < g.threadCount := by omega
  -- The program that came back is its loop, with the exact stride and first index.
  cases kernel with
  | scalar dtype =>
    refine Program.Copies.ofChecked ?_
    intro p hp
    simp only [Checked.bind_eq_ok_iff, Geometry.total_thread_eq_ok_iff,
      Geometry.rank_thread_eq_ok_iff] at hp
    rcases hp with ⟨stride, ⟨-, rfl⟩, start, ⟨-, rfl⟩, hloop⟩
    cases hloop
    exact Program.Copies.loop hpos
      (fun i hi => Program.Copies.moveSpan (element_inside dtype hi))
  | vector dtype =>
    refine Program.Copies.ofChecked ?_
    intro p hp
    simp only [Checked.bind_eq_ok_iff, Geometry.total_thread_eq_ok_iff,
      Geometry.rank_thread_eq_ok_iff] at hp
    rcases hp with ⟨start, ⟨-, rfl⟩, stride, ⟨-, rfl⟩, hphases⟩
    cases hphases
    refine Program.Copies.andThen ?_ ?_
    · exact Program.Copies.loop hpos
        (fun i hi => Program.Copies.moveSpan (word_inside dtype hi))
    · refine Program.Copies.ofChecked ?_
      intro q hq
      rcases Checked.bind_eq_ok_iff.mp hq with ⟨first, -, hfirst⟩
      rcases Checked.bind_eq_ok_iff.mp hfirst with ⟨start, -, hloop⟩
      cases hloop
      exact Program.Copies.loop hpos
        (fun i hi => Program.Copies.moveSpan (element_inside dtype hi))
  | blocked sweep factor =>
    have hslots : 0 < factor := hk
    have hwords : ∀ i, i < n / floatLanes →
        i * wideWordBytes + wideWordBytes ≤ n * DType.f32.size :=
      fun i hi => word_inside .f32 hi
    cases sweep with
    | singlePass =>
      refine Program.Copies.andThen (Program.Copies.ofChecked ?_) (copies_floatTail n _)
      intro p hp
      rcases Checked.bind_eq_ok_iff.mp hp with ⟨base, -, hstage⟩
      cases hstage
      exact copies_stage hwords
    | gridStride =>
      refine Program.Copies.andThen (Program.Copies.ofChecked ?_) (copies_floatTail n _)
      intro p hp
      simp only [Checked.bind_eq_ok_iff, Geometry.total_thread_eq_ok_iff,
        Checked.mul_eq_ok_iff] at hp
      rcases hp with ⟨total, ⟨-, rfl⟩, step, ⟨-, rfl⟩, base, -, hloop⟩
      cases hloop
      exact Program.Copies.loop (Nat.mul_pos hslots hpos) (fun start _ => copies_stage hwords)

/-! ## What a thread without a fault stores -/

theorem stores_program (hfault : (kernel.program n (g.thread rank)).fault = none) :
    (kernel.program n (g.thread rank)).stores =
      (kernel.wordIndices n g rank).map (Span.mk wideWordBytes) ++
        (kernel.elementIndices n g rank).map (Span.mk kernel.dtype.size) := by
  cases kernel with
  | scalar dtype =>
    rcases Program.fault_ofChecked_eq_none_iff.mp hfault with ⟨p, hp, hnone⟩
    rw [program, scalarProgram, hp]
    simp only [Checked.bind_eq_ok_iff, Geometry.total_thread_eq_ok_iff,
      Geometry.rank_thread_eq_ok_iff] at hp
    rcases hp with ⟨stride, ⟨-, rfl⟩, start, ⟨-, rfl⟩, hloop⟩
    cases hloop
    rw [Program.ofChecked, Program.stores_loop_moveSpan hnone]
    simp [wordIndices, elementIndices, restStart, wordCount, Kernel.dtype]
  | vector dtype =>
    rcases Program.fault_ofChecked_eq_none_iff.mp hfault with ⟨p, hp, hnone⟩
    rw [program, vectorProgram, hp]
    simp only [Checked.bind_eq_ok_iff, Geometry.total_thread_eq_ok_iff,
      Geometry.rank_thread_eq_ok_iff] at hp
    rcases hp with ⟨start, ⟨-, rfl⟩, stride, ⟨-, rfl⟩, hphases⟩
    cases hphases
    rcases Program.fault_andThen_eq_none_iff.mp hnone with ⟨hwords, hrest⟩
    rcases Program.fault_ofChecked_eq_none_iff.mp hrest with ⟨q, hq, hloop⟩
    rw [Program.ofChecked, Program.stores_andThen hwords, Program.stores_loop_moveSpan hwords, hq]
    simp only [Checked.bind_eq_ok_iff, Checked.mul_eq_ok_iff, Checked.add_eq_ok_iff] at hq
    rcases hq with ⟨first, ⟨-, rfl⟩, begin, ⟨-, rfl⟩, hlast⟩
    cases hlast
    rw [Program.ofChecked, Program.stores_loop_moveSpan hloop]
    rfl
  | blocked sweep factor =>
    cases sweep with
    | singlePass =>
      rcases Program.fault_andThen_eq_none_iff.mp hfault with ⟨hwords, htail⟩
      rw [program, singlePassProgram, Program.stores_andThen hwords,
        stores_floatTail .singlePass factor htail]
      rcases Program.fault_ofChecked_eq_none_iff.mp hwords with ⟨p, hp, hnone⟩
      rw [hp]
      rcases Checked.bind_eq_ok_iff.mp hp with ⟨base, hbase, hstage⟩
      cases hstage
      rw [Program.ofChecked, stores_stage hnone, Geometry.blockBase_thread_eq_ok hbase]
      rfl
    | gridStride =>
      rcases Program.fault_andThen_eq_none_iff.mp hfault with ⟨hwords, htail⟩
      rw [program, gridStrideProgram, Program.stores_andThen hwords,
        stores_floatTail .gridStride factor htail]
      rcases Program.fault_ofChecked_eq_none_iff.mp hwords with ⟨p, hp, hnone⟩
      rw [hp]
      simp only [Checked.bind_eq_ok_iff, Geometry.total_thread_eq_ok_iff,
        Checked.mul_eq_ok_iff] at hp
      rcases hp with ⟨total, ⟨-, rfl⟩, step, ⟨-, rfl⟩, base, hbase, hloop⟩
      cases hloop
      -- No fault in the loop means none in any round.
      have hrounds : ∀ start ∈ strided base (factor * g.threadCount) (n / floatLanes),
          (stage factor start (g.thread rank).groupWidth (n / floatLanes)).stores =
            (stagedWords factor start g.threadsPerGroup (n / floatLanes)).map
              (Span.mk wideWordBytes) := by
        intro start hstart
        refine stores_stage ?_
        have hsequence := (Program.fault_andThen_eq_none_iff.mp hnone).1
        exact Program.fault_sequence_eq_none_iff.mp hsequence _ (List.mem_map_of_mem hstart)
      rw [Program.ofChecked, Program.stores_loop hnone, Geometry.blockBase_thread_eq_ok hbase] at *
      rw [List.flatMap_congr hrounds, ← List.map_flatMap]
      rfl

/-! ## Grids that keep the indices in range -/

/-- The bound of a thread's loop and one step of it together stay in the word range. -/
def Fits (n : Nat) (g : Geometry) : Kernel → Prop
  | blocked .singlePass factor => factor * g.threadCount ≤ wordLimit
  | blocked .gridStride factor =>
      factor * g.threadCount < wordLimit ∧ n / floatLanes + factor * g.threadCount ≤ wordLimit
  | _ => g.threadCount < wordLimit ∧ n + g.threadCount ≤ wordLimit

instance (n : Nat) (g : Geometry) : (kernel : Kernel) → Decidable (kernel.Fits n g)
  | scalar _ | vector _ => inferInstanceAs (Decidable (_ ∧ _))
  | blocked .singlePass factor => inferInstanceAs (Decidable (factor * g.threadCount ≤ wordLimit))
  | blocked .gridStride _ => inferInstanceAs (Decidable (_ ∧ _))

/-- The last slot of a thread stays below the number of slots in the whole grid. -/
theorem lastSlot_lt {factor : Nat} (hk : 0 < factor) (h : rank < g.threadCount) :
    firstWord factor g rank + (factor - 1) * g.threadsPerGroup < factor * g.threadCount := by
  have hplace := Nat.mod_lt rank (threadsPerGroup_pos h)
  have hgroup : factor * (rank / g.threadsPerGroup + 1) ≤ factor * g.groups :=
    Nat.mul_le_mul_left _ (group_lt h)
  calc
    firstWord factor g rank + (factor - 1) * g.threadsPerGroup
        < g.threadsPerGroup + factor * (rank / g.threadsPerGroup) * g.threadsPerGroup +
            (factor - 1) * g.threadsPerGroup := by
          unfold firstWord
          omega
    _ = factor * (rank / g.threadsPerGroup + 1) * g.threadsPerGroup := by
          obtain ⟨slots, rfl⟩ : ∃ slots, factor = slots + 1 := ⟨factor - 1, by omega⟩
          rw [Nat.add_sub_cancel]
          ring
    _ ≤ factor * g.groups * g.threadsPerGroup := Nat.mul_le_mul_right _ hgroup
    _ = factor * g.threadCount := by rw [Geometry.threadCount, Nat.mul_assoc]

theorem fault_program (hk : kernel.HasSlots) (h : rank < g.threadCount)
    (hfits : kernel.Fits n g) : (kernel.program n (g.thread rank)).fault = none := by
  have hpos : 0 < g.threadCount := by omega
  have hwidth := threadsPerGroup_pos h
  cases kernel with
  | scalar dtype =>
    rcases hfits with ⟨hcount, hstep⟩
    have htotal : (g.thread rank).total = .ok g.threadCount :=
      Geometry.total_thread_eq_ok_iff.mpr ⟨hcount, rfl⟩
    have hrank : (g.thread rank).rank = .ok rank :=
      Geometry.rank_thread_eq_ok_iff.mpr ⟨by omega, rfl⟩
    rw [program, scalarProgram, htotal, hrank]
    exact Program.fault_loop hpos hstep (fun i _ => Program.fault_moveSpan dtype.size i)
  | vector dtype =>
    rcases hfits with ⟨hcount, hstep⟩
    have htotal : (g.thread rank).total = .ok g.threadCount :=
      Geometry.total_thread_eq_ok_iff.mpr ⟨hcount, rfl⟩
    have hrank : (g.thread rank).rank = .ok rank :=
      Geometry.rank_thread_eq_ok_iff.mpr ⟨by omega, rfl⟩
    have hwords : n / dtype.lanes ≤ n := Nat.div_le_self n dtype.lanes
    have hcovered : n / dtype.lanes * dtype.lanes ≤ n := Nat.div_mul_le_self n dtype.lanes
    have hfirst : Checked.mul (n / dtype.lanes) dtype.lanes =
        .ok (n / dtype.lanes * dtype.lanes) := Checked.mul_of_lt (by omega)
    have hstart : Checked.add (n / dtype.lanes * dtype.lanes) rank =
        .ok (n / dtype.lanes * dtype.lanes + rank) := Checked.add_of_lt (by omega)
    rw [program, vectorProgram, hrank, htotal]
    refine Program.fault_andThen_eq_none_iff.mpr ⟨?_, ?_⟩
    · exact Program.fault_loop hpos (by omega) (fun i _ => Program.fault_moveSpan wideWordBytes i)
    · rw [hfirst, Checked.ok_bind, hstart]
      exact Program.fault_loop hpos hstep (fun i _ => Program.fault_moveSpan dtype.size i)
  | blocked sweep factor =>
    have hslots : 0 < factor := hk
    -- The indices of the first step lie below the number of slots in the grid.
    have hlast := lastSlot_lt hslots h
    have hsize : g.threadCount ≤ factor * g.threadCount := Nat.le_mul_of_pos_left _ hslots
    cases sweep with
    | singlePass =>
      have hgrid : factor * g.threadCount ≤ wordLimit := hfits
      have hbase : (g.thread rank).blockBase factor = .ok (firstWord factor g rank) :=
        Geometry.blockBase_thread_of_lt hwidth (by omega)
      rw [program, singlePassProgram]
      refine Program.fault_andThen_eq_none_iff.mpr ⟨?_, fault_floatTail (by omega)⟩
      rw [hbase]
      exact (fault_stage _ _ _ _).trans (stageFault_eq_none (by
        change firstWord factor g rank + (factor - 1) * g.threadsPerGroup < wordLimit
        omega))
    | gridStride =>
      rcases hfits with ⟨hgrid, hstep⟩
      have htotal : (g.thread rank).total = .ok g.threadCount :=
        Geometry.total_thread_eq_ok_iff.mpr ⟨by omega, rfl⟩
      have hmul : Checked.mul factor g.threadCount = .ok (factor * g.threadCount) :=
        Checked.mul_of_lt hgrid
      have hbase : (g.thread rank).blockBase factor = .ok (firstWord factor g rank) :=
        Geometry.blockBase_thread_of_lt hwidth (by omega)
      have hspread : (factor - 1) * g.threadsPerGroup ≤ factor * g.threadCount := by omega
      rw [program, gridStrideProgram]
      refine Program.fault_andThen_eq_none_iff.mpr ⟨?_, fault_floatTail (by omega)⟩
      rw [htotal, Checked.ok_bind, hmul, Checked.ok_bind, hbase]
      refine Program.fault_loop (Nat.mul_pos hslots hpos) hstep ?_
      intro start hstart
      refine (fault_stage _ _ _ _).trans (stageFault_eq_none ?_)
      change start + (factor - 1) * g.threadsPerGroup < wordLimit
      omega

end Kernel

end DeviceCopy
