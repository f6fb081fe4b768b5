import DeviceCopy.Launch.Limits
import DeviceCopy.Proofs.Kernel.Loops
import DeviceCopy.Proofs.Kernel.Races

/-!
# Grid-stride launches of any shape

Kernels that loop over the grid copy everything on a grid of any size, or a thread faults; there is no
launch that copies part of the buffer and says nothing. Also where threads fault, or have only got
so far (`Launch.Underway`), what they have stored is what the source has in the same place.

Threads do not fault if the bound of the copy and one round of the whole grid together are at most the
word range, and a round of the grid is inside it. The second follows from the first unless there is
nothing to copy: a thread works out the size of the grid before it looks whether there is anything to
do (`Launch.gridStride_copies_all_unchecked`).
-/

set_option autoImplicit false

namespace DeviceCopy

/-! ## Memory after part of a copy -/

/-- Bytes at some places are copied from one address to another, and nothing else has changed. -/
structure Memory.Moved (m : Memory) (src dst : Nat) (places : Nat → Prop) (m' : Memory) : Prop where
  moved : ∀ b, places b → m'.get (dst + b) = m.get (src + b)
  kept : ∀ a, (∀ b, places b → a ≠ dst + b) → m'.get a = m.get a

theorem Memory.moved_of_get {m m' : Memory} {src dst : Nat} {bytes : List Nat}
    (h : ∀ a, m'.get a =
      if dst ≤ a ∧ a - dst ∈ bytes then m.get (src + (a - dst)) else m.get a) :
    m.Moved src dst (· ∈ bytes) m' := by
  constructor
  · intro b hb
    rw [h, Nat.add_sub_cancel_left, if_pos ⟨Nat.le_add_right dst b, hb⟩]
  · intro a ha
    rw [h, if_neg]
    rintro ⟨hle, hmem⟩
    exact ha _ hmem (Nat.add_sub_cancel' hle).symm

theorem Memory.Moved.congr {m m' : Memory} {src dst : Nat} {places places' : Nat → Prop}
    (h : m.Moved src dst places m') (hplaces : ∀ b, places b ↔ places' b) :
    m.Moved src dst places' m' :=
  ⟨fun b hb => h.moved b ((hplaces b).mpr hb),
    fun a ha => h.kept a (fun b hb => ha b ((hplaces b).mp hb))⟩

theorem Faithful.left {known : Origins} {first second : List Action}
    (h : Faithful known (first ++ second)) : Faithful known first := by
  induction first generalizing known with
  | nil => trivial
  | cons action rest ih =>
    cases action with
    | load slot span => exact ih h
    | store slot span => exact ⟨h.1, ih h.2⟩

namespace Launch

variable {l : Launch} {order : List Access} {m : Memory}

/-! ## Launches underway -/

/-- An order that the accesses of a launch can have come in so far: every thread has begun to make its
own, in program order. -/
def Underway (l : Launch) (order : List Access) : Prop :=
  ∀ rank, accessesOf rank order <+: l.actionsAt rank

theorem Interleaving.underway (h : l.Interleaving order) : l.Underway order :=
  fun rank => ⟨[], by rw [List.append_nil, h rank]⟩

theorem Underway.mem_actions (h : l.Underway order) {x : Access} (hx : x ∈ order) :
    x.rank < l.geometry.threadCount ∧ x.action ∈ (l.programAt x.rank).actions := by
  have hmem := (h x.rank).subset (mem_accessesOf hx)
  rw [actionsAt] at hmem
  split at hmem
  · next hrank => exact ⟨hrank, hmem⟩
  · cases hmem

section Copying

variable {extent : Nat}
  (hcopies : ∀ rank, rank < l.geometry.threadCount → (l.programAt rank).Copies extent)

include hcopies

theorem Underway.inside (h : l.Underway order) {x : Access} (hx : x ∈ order) :
    x.action.span.offset + x.action.span.width ≤ extent := by
  obtain ⟨hrank, haction⟩ := h.mem_actions hx
  exact (hcopies x.rank hrank).inside x.action haction

theorem Underway.lt_extent (h : l.Underway order) {b : Nat} (hb : b ∈ writtenIn order) :
    b < extent := by
  obtain ⟨x, hx, hwrite⟩ := List.mem_flatMap.mp hb
  have hinside := h.inside hcopies hx
  cases haction : x.action with
  | load slot span =>
    rw [haction] at hwrite
    cases hwrite
  | store slot span =>
    rw [haction] at hwrite hinside
    exact Nat.lt_of_lt_of_le (Span.mem_bytes.mp hwrite).2 hinside

/-- Whatever has been stored so far is what the source has in the same place. -/
theorem Underway.moved (h : l.Underway order)
    (hapart : Block.Apart ⟨l.src, extent⟩ ⟨l.dst, extent⟩) (m : Memory) :
    m.Moved l.src l.dst (· ∈ writtenIn order)
      ((Machine.start m).exec l.src l.dst order).memory := by
  have hfaithful : ∀ rank, Faithful Origins.none (accessesOf rank order) := by
    intro rank
    obtain ⟨rest, hrest⟩ := h rank
    have hwhole : Faithful Origins.none (accessesOf rank order ++ rest) := by
      rw [hrest, actionsAt]
      split
      · next hrank => exact (hcopies rank hrank).faithful
      · trivial
    exact hwhole.left
  exact Memory.moved_of_get ((Machine.midway_start m l.src extent).get_exec hapart
    (fun _ hx => h.inside hcopies hx) hfaithful)

end Copying

/-- A launch that is run makes the accesses of the first so many threads, up to the one that faults. -/
theorem runFrom_fst_eq_exec (l : Launch) (remaining rank : Nat) (s : Machine)
    (hfresh : ∀ r, rank ≤ r → s.registers r = Paged.empty) :
    ∃ ran ≤ remaining, (l.runFrom remaining rank s.memory).1 =
      (s.exec l.src l.dst (l.orderFrom ran rank)).memory := by
  induction remaining generalizing rank s with
  | zero => exact ⟨0, Nat.le_refl 0, rfl⟩
  | succ remaining ih =>
    have hthread := Machine.exec_map_mk l.src l.dst rank (l.programAt rank).actions s
    rw [hfresh rank (Nat.le_refl rank)] at hthread
    have hsplit : ∀ ran, s.exec l.src l.dst (l.orderFrom (ran + 1) rank) =
        (s.exec l.src l.dst ((l.programAt rank).actions.map (Access.mk rank))).exec l.src l.dst
          (l.orderFrom ran (rank + 1)) := by
      intro ran
      simp [orderFrom, List.range'_succ, Machine.exec, List.foldl_append]
    cases hfault : (l.programAt rank).fault with
    | some f =>
      refine ⟨1, Nat.le_add_left 1 remaining, ?_⟩
      rw [hsplit 0, runFrom]
      simp only [hfault, hthread]
      rfl
    | none =>
      have hnext : ∀ r, rank + 1 ≤ r →
          (s.exec l.src l.dst ((l.programAt rank).actions.map (Access.mk rank))).registers r =
            Paged.empty := by
        intro r hr
        have hne : r ≠ rank := by omega
        rw [hthread]
        simpa [Function.update_of_ne hne] using hfresh r (by omega)
      obtain ⟨ran, hran, hrest⟩ := ih (rank + 1) _ hnext
      refine ⟨ran + 1, Nat.succ_le_succ hran, ?_⟩
      rw [hsplit ran, ← hrest, runFrom]
      simp only [hfault, hthread]
      rfl

/-- A launch that is run ends with some of its accesses made, all of them if no thread faults. -/
theorem run_underway (l : Launch) (m : Memory) :
    ∃ order, l.Underway order ∧ (l.run m).1 = ((Machine.start m).exec l.src l.dst order).memory := by
  obtain ⟨ran, hran, hrun⟩ :=
    l.runFrom_fst_eq_exec l.geometry.threadCount 0 (Machine.start m) (fun _ _ => rfl)
  refine ⟨l.orderFrom ran 0, fun rank => ?_, hrun⟩
  rw [accessesOf_orderFrom, actionsAt]
  split
  · next hrank =>
    have hinside : rank < l.geometry.threadCount := by omega
    exact ⟨[], by rw [List.append_nil, if_pos hinside]⟩
  · exact List.nil_prefix

end Launch

/-! ## Kernels that loop over the grid -/

namespace Kernel

/-- A kernel that loops over the grid, with a positive blocking factor. -/
def Strides : Kernel → Prop
  | blocked .singlePass _ => False
  | blocked .gridStride factor => 0 < factor
  | _ => True

instance : (kernel : Kernel) → Decidable kernel.Strides
  | scalar _ | vector _ => isTrue trivial
  | blocked .singlePass _ => isFalse id
  | blocked .gridStride factor => inferInstanceAs (Decidable (0 < factor))

/-- Words or elements that a thread moves in one round. -/
def perRound : Kernel → Nat
  | blocked _ factor => factor
  | _ => 1

variable {kernel : Kernel} {n : Nat} {g : Geometry}

theorem Strides.hasSlots (h : kernel.Strides) : kernel.HasSlots := by
  cases kernel with
  | scalar dtype => trivial
  | vector dtype => trivial
  | blocked sweep factor =>
    cases sweep with
    | singlePass => exact h.elim
    | gridStride => exact h

/-- A loop over the grid reaches every word, however small the grid. -/
theorem Strides.wordReach_eq (h : kernel.Strides) (n : Nat) (g : Geometry) :
    kernel.wordReach n g = kernel.wordCount n := by
  cases kernel with
  | scalar dtype => rfl
  | vector dtype => rfl
  | blocked sweep factor =>
    cases sweep with
    | singlePass => exact h.elim
    | gridStride => rfl

theorem Strides.fits (h : kernel.Strides) (hround : kernel.perRound * g.threadCount < wordLimit)
    (hsum : n + kernel.perRound * g.threadCount ≤ wordLimit) : kernel.Fits n g := by
  cases kernel with
  | scalar dtype =>
    have hone : (scalar dtype).perRound * g.threadCount = g.threadCount := Nat.one_mul _
    rw [hone] at hround hsum
    exact ⟨hround, hsum⟩
  | vector dtype =>
    have hone : (vector dtype).perRound * g.threadCount = g.threadCount := Nat.one_mul _
    rw [hone] at hround hsum
    exact ⟨hround, hsum⟩
  | blocked sweep factor =>
    cases sweep with
    | singlePass => exact h.elim
    | gridStride =>
      have hwords : n / floatLanes ≤ n := Nat.div_le_self n floatLanes
      have hwhole : n / floatLanes + factor * g.threadCount ≤ wordLimit :=
        Nat.le_trans (Nat.add_le_add_right hwords _) hsum
      exact ⟨hround, hwhole⟩

end Kernel

namespace Launch

variable {l : Launch}

/-- A launch with a loop over the grid in which no thread faults copies all, in whatever order. -/
theorem Interleaving.moved_all {order : List Access} (h : l.Interleaving order)
    (hk : l.kernel.Strides) (hgrid : 0 < l.geometry.threadCount) (hsound : l.Sound)
    (hapart : l.Disjoint) (m : Memory) :
    m.Moved l.src l.dst (· < l.extent) ((Machine.start m).exec l.src l.dst order).memory := by
  have hcopies : ∀ rank, rank < l.geometry.threadCount → (l.programAt rank).Copies l.extent :=
    fun rank hrank => copies_programAt hk.hasSlots hrank
  refine (h.underway.moved hcopies hapart m).congr (fun b => ?_)
  rw [h.mem_writtenIn, mem_writes_iff_lt hk.hasSlots hgrid hsound (hk.wordReach_eq _ _)]

/-- With a kernel that loops over the grid, on any grid that the limits admit: every thread comes to an
end, and if it faults, then over an overflow; accesses stay inside the copy; what has been stored at
any time, in whatever order, is what the source has there; a launch in which no thread faults copies
all; and no thread faults if the copy and one round of the grid fit in the word range. -/
theorem gridStride_copies_all (hk : l.kernel.Strides) {limits : Limits}
    (hadmits : limits.Admits l.geometry) (hcount : l.count < wordLimit) (hapart : l.Disjoint) :
    (∀ rank, rank < l.geometry.threadCount →
      (∀ p, (l.kernel.code l.count (l.geometry.thread rank)).Ends p ↔ p = l.programAt rank) ∧
      (l.programAt rank).OnlyOverflows ∧
      ∀ action ∈ (l.programAt rank).actions,
        action.span.offset + action.span.width ≤ l.count * l.kernel.dtype.size) ∧
    (∀ order, l.Underway order →
      (∀ b ∈ writtenIn order, b < l.count * l.kernel.dtype.size) ∧
      ∀ m : Memory, m.Moved l.src l.dst (· ∈ writtenIn order)
        ((Machine.start m).exec l.src l.dst order).memory) ∧
    (∀ m : Memory, ∃ order, l.Underway order ∧
      (l.run m).1 = ((Machine.start m).exec l.src l.dst order).memory) ∧
    (l.Sound → ∀ m : Memory,
      (∀ order, l.Interleaving order →
        m.Moved l.src l.dst (· < l.count * l.kernel.dtype.size)
          ((Machine.start m).exec l.src l.dst order).memory) ∧
      m.Moved l.src l.dst (· < l.count * l.kernel.dtype.size) (l.run m).1 ∧ (l.run m).2 = none) ∧
    (l.count + l.kernel.perRound * l.geometry.threadCount ≤ wordLimit →
      l.kernel.perRound * l.geometry.threadCount < wordLimit → l.Sound) := by
  have hgrid : 0 < l.geometry.threadCount := Nat.mul_pos hadmits.2.1 hadmits.1.1
  have hcopies : ∀ rank, rank < l.geometry.threadCount → (l.programAt rank).Copies l.extent :=
    fun rank hrank => copies_programAt hk.hasSlots hrank
  refine ⟨?_, ?_, l.run_underway, ?_, ?_⟩
  · intro rank hrank
    have hends : (l.kernel.code l.count (l.geometry.thread rank)).Ends (l.programAt rank) :=
      Kernel.ends_code hk.hasSlots hgrid hcount
    refine ⟨fun p => ⟨fun h => h.unique hends, ?_⟩, Kernel.onlyOverflows_program _ _ _,
      (hcopies rank hrank).inside⟩
    rintro rfl
    exact hends
  · exact fun order horder => ⟨fun b hb => horder.lt_extent hcopies hb,
      fun m => horder.moved hcopies hapart m⟩
  · intro hsound m
    refine ⟨fun order horder => horder.moved_all hk hgrid hsound hapart m, ?_⟩
    rw [run_eq_exec m hsound]
    exact ⟨l.interleaving_rankOrder.moved_all hk hgrid hsound hapart m, rfl⟩
  · exact fun hsum hround rank hrank =>
      Kernel.fault_program hk.hasSlots hrank (hk.fits hround hsum)

/-- Thirty-seven floats on a grid of one thread, which copies them nine whole words at a time in steps
of two. -/
theorem gridStride_copies_all_single :
    let l : Launch :=
      { kernel := .blocked .gridStride 2, geometry := ⟨1, 1, 0⟩, count := 37, src := 64, dst := 256 }
    l.kernel.Strides ∧ Limits.standard.Admits l.geometry ∧ l.Disjoint ∧ l.Sound ∧
      ∀ m : Memory, m.Moved l.src l.dst (· < 148) (l.run m).1 ∧ (l.run m).2 = none := by
  intro l
  have hk : l.kernel.Strides := by decide
  have hadmits : Limits.standard.Admits l.geometry := by decide
  have hapart : l.Disjoint := by decide
  obtain ⟨-, -, -, hall, hfits⟩ := gridStride_copies_all hk hadmits (by decide) hapart
  have hsound : l.Sound := hfits (by decide) (by decide)
  exact ⟨hk, hadmits, hapart, hsound, fun m => (hall hsound m).2⟩

/-- The first condition alone is not enough. For a copy of nothing it allows a grid with as many
threads as there are words, and then the size of the grid is no word: threads fault over it before
they find that there is nothing to do. -/
theorem gridStride_copies_all_unchecked :
    let l : Launch :=
      { kernel := .scalar .f32, geometry := ⟨8589934592, 2147483648, 0⟩, count := 0, src := 64
        dst := 256 }
    let limits : Limits := { maxThreadsPerGroup := 4294967295, maxGroups := 18446744073709551615 }
    (l.kernel.Strides ∧ limits.Admits l.geometry ∧ l.count < wordLimit ∧ l.Disjoint) ∧
    l.count + l.kernel.perRound * l.geometry.threadCount ≤ wordLimit ∧
    (l.programAt 0).fault = some .multiplyOverflow ∧ ¬ l.Sound := by
  intro l limits
  have hfault : (l.programAt 0).fault = some .multiplyOverflow := by decide +kernel
  have hthread : 0 < l.geometry.threadCount := by decide
  refine ⟨by decide, by decide, hfault, fun hsound => ?_⟩
  rw [hsound 0 hthread] at hfault
  cases hfault

end Launch

end DeviceCopy
