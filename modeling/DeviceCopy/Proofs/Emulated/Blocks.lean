import DeviceCopy.Proofs.Buffers.Making
import DeviceCopy.Proofs.Emulated.Outline
import Mathlib.Data.List.Pairwise

/-!
# Blocks in use

Where the system places memory is not decided here, but it is held to `Placement.Lawful`. What
follows is the invariant `Heap.Sound`: the blocks in use are aligned, non-null, inside the word range
and pairwise apart. Only allocating and deallocating touch the heap, so in the end every reachable
world has it.

A world `World.Holds` a buffer while the memory of the buffer is in use. Two buffers that are held
are at one address or have no byte in common, and both may be given to the wide kernels.
-/

set_option autoImplicit false

namespace DeviceCopy

/-! ## Lists of blocks -/

theorem Block.Apart.symm {a b : Block} (h : a.Apart b) : b.Apart a := Or.symm h

/-- Parts of two blocks that are apart are apart. -/
theorem Block.Apart.mono {a b : Block} (h : a.Apart b) {size size' : Nat} (ha : size ≤ a.size)
    (hb : size' ≤ b.size) : Block.Apart ⟨a.address, size⟩ ⟨b.address, size'⟩ := by
  rcases h with hbefore | hafter
  · exact Or.inl ((Nat.add_le_add_left ha _).trans hbefore)
  · exact Or.inr ((Nat.add_le_add_left hb _).trans hafter)

/-- A block as allocation makes them. -/
structure Block.Placed (block : Block) : Prop where
  nonNull : block.address ≠ 0
  aligned : block.address % blockAlignment = 0
  nonempty : 0 < block.size
  size_le : block.size ≤ maxBlockSize
  inRange : block.address + block.size ≤ wordLimit

namespace Heap

/-- The blocks in use are well placed, and no two of them have a byte in common. -/
structure Sound (h : Heap) : Prop where
  placed : ∀ block ∈ h.live, block.Placed
  apart : h.live.Pairwise Block.Apart

variable {heap : Heap} {block other : Block}

theorem sound_empty : empty.Sound := ⟨fun _ h => absurd h List.not_mem_nil, .nil⟩

theorem Sound.occupy (h : heap.Sound) (hplaced : block.Placed)
    (hclear : ∀ other ∈ heap.live, other.Apart block) : (heap.occupy block).Sound := by
  refine ⟨?_, List.pairwise_cons.mpr ⟨fun other hother => (hclear other hother).symm, h.apart⟩⟩
  intro other hother
  rcases List.mem_cons.mp hother with rfl | hlive
  · exact hplaced
  · exact h.placed other hlive

/-- A lawful system places a block clear of all others. -/
theorem Sound.place {place : Placement} {size address : Nat} (h : heap.Sound)
    (hlawful : place.Lawful) (hpos : 0 < size) (hle : size ≤ maxBlockSize)
    (hplace : place heap size = some address) : (heap.occupy { address, size }).Sound := by
  obtain ⟨hnull, haligned, hrange, hclear⟩ := hlawful heap size address hplace
  exact h.occupy ⟨hnull, haligned, hpos, hle, hrange⟩ hclear

theorem Sound.vacate (h : heap.Sound) (address : Nat) : (heap.vacate address).Sound :=
  ⟨fun other hother => h.placed other (List.mem_of_mem_filter hother),
    h.apart.sublist List.filter_sublist⟩

theorem Sound.apart_of_ne (h : heap.Sound) (hblock : block ∈ heap.live) (hother : other ∈ heap.live)
    (hne : block.address ≠ other.address) : block.Apart other := by
  have hsymm : Std.Symm Block.Apart := ⟨fun _ _ hab => hab.symm⟩
  refine h.apart.forall hblock hother ?_
  rintro rfl
  exact hne rfl

/-- A new block is apart from the others, and where none of them begins. -/
theorem Sound.apart_of_occupy (h : (heap.occupy block).Sound) (hother : other ∈ heap.live) :
    block.Apart other ∧ other.address ≠ block.address := by
  have hapart : block.Apart other := (List.pairwise_cons.mp h.apart).1 other hother
  have hfirst := (h.placed block List.mem_cons_self).nonempty
  have hsecond := (h.placed other (List.mem_cons_of_mem _ hother)).nonempty
  refine ⟨hapart, ?_⟩
  rcases hapart with hbefore | hafter
  · omega
  · omega

end Heap

namespace Emulated

namespace World

variable {w w' : World}

theorem heapSound_allocate (hheap : w.heap.Sound) (hlawful : w.environment.place.Lawful) (size : Nat) :
    ((allocate size).perform w).2.heap.Sound := by
  rcases allocate_cases size w with ⟨-, hperform⟩ | ⟨-, hperform⟩ |
    ⟨address, hpos, hle, hplace, hperform⟩
  · rw [hperform]
    exact hheap
  · rw [hperform]
    exact hheap
  · rw [hperform]
    exact hheap.place hlawful hpos hle hplace

theorem heapSound_deallocate (hheap : w.heap.Sound) (pointer size : Nat) :
    (deallocate pointer size w).heap.Sound := by
  unfold Emulated.deallocate
  split
  · exact hheap
  · split
    · exact hheap
    · exact hheap.vacate pointer

/-- On a lawful system blocks never run into each other, whatever a program does. -/
theorem Reachable.heapSound (h : Reachable w) (hlawful : w.environment.place.Lawful) :
    w.heap.Sound := by
  induction h with
  | initial environment => exact Heap.sound_empty
  | @next w w' _ hstep ih =>
    rcases hstep.outline_cases with hsame | ⟨hasWorker, device, rfl⟩ | ⟨device, rfl⟩ | ⟨size, rfl⟩ |
      ⟨pointer, size, rfl⟩
    · rw [hsame.heap]
      exact ih (hsame.environment ▸ hlawful)
    · obtain ⟨-, henvironment, hheap, -, -⟩ := openLane_outline hasWorker device w
      rw [hheap]
      exact ih (henvironment ▸ hlawful)
    · obtain ⟨henvironment, hheap⟩ := defaultClient_outline device w
      rw [hheap]
      exact ih (henvironment ▸ hlawful)
    · have hsystem := (allocate_outline size w).1 ▸ hlawful
      exact heapSound_allocate (ih hsystem) hsystem size
    · have hsystem := (deallocate_outline pointer size w).1 ▸ hlawful
      exact heapSound_deallocate (ih hsystem) pointer size

end World

end Emulated

/-! ## Buffers that are held -/

/-- The bytes of a buffer, as a block. -/
def Buffer.block {Device : Type} (buffer : Buffer Device) : Block :=
  { address := buffer.pointer, size := buffer.sizeInBytes }

namespace Emulated

namespace World

/-- A number of bytes from an address on are a block in use, or no bytes at the null pointer. -/
def Stored (w : World) (pointer size : Nat) : Prop :=
  (size = 0 ∧ pointer = 0) ∨ { address := pointer, size } ∈ w.heap.live

theorem Stored.pointer_eq_zero_iff {w : World} {pointer size : Nat} (h : w.Stored pointer size)
    (hheap : w.heap.Sound) : pointer = 0 ↔ size = 0 := by
  rcases h with ⟨hempty, hnull⟩ | hlive
  · simp [hempty, hnull]
  · have hplaced := hheap.placed _ hlive
    have hsize : size ≠ 0 := Nat.ne_of_gt hplaced.nonempty
    have hpointer : pointer ≠ 0 := hplaced.nonNull
    simp [hsize, hpointer]

theorem Stored.pointer_ne_zero {w : World} {pointer size : Nat} (h : w.Stored pointer size)
    (hheap : w.heap.Sound) (hsize : 0 < size) : pointer ≠ 0 :=
  fun hnull => Nat.ne_of_gt hsize ((h.pointer_eq_zero_iff hheap).mp hnull)

theorem Stored.aligned {w : World} {pointer size : Nat} (h : w.Stored pointer size)
    (hheap : w.heap.Sound) : isWideAligned pointer = true := by
  rcases h with ⟨-, hnull⟩ | hlive
  · rw [hnull]
    rfl
  · -- Blocks lie on a multiple of four wide words.
    have haligned : pointer % 64 = 0 := (hheap.placed _ hlive).aligned
    have hword : pointer % 16 = 0 := by omega
    simpa [isWideAligned, wideWordBytes] using hword

/-- Bytes at different addresses are apart. -/
theorem Stored.apart {w : World} {pointer size pointer' size' : Nat} (h : w.Stored pointer size)
    (h' : w.Stored pointer' size') (hheap : w.heap.Sound) (hne : pointer ≠ pointer') :
    Block.Apart ⟨pointer, size⟩ ⟨pointer', size'⟩ := by
  rcases h with ⟨hempty, hnull⟩ | hlive
  · -- The null pointer lies before everything.
    refine Or.inl ?_
    simp only
    omega
  · rcases h' with ⟨hempty, hnull⟩ | hlive'
    · refine Or.inr ?_
      simp only
      omega
    · exact hheap.apart_of_ne hlive hlive' hne

/-- The memory of a buffer is in use. A buffer of no bytes has no memory and the null pointer. -/
def Holds (w : World) (buffer : Buffer Device) : Prop :=
  (buffer.sizeInBytes = 0 ∧ buffer.pointer = 0) ∨ buffer.block ∈ w.heap.live

instance (w : World) (buffer : Buffer Device) : Decidable (w.Holds buffer) :=
  inferInstanceAs (Decidable (_ ∨ _))

variable {w w' : World} {buffer other : Buffer Device}

theorem Holds.of_subset (h : w.Holds buffer) (hlive : w.heap.live ⊆ w'.heap.live) :
    w'.Holds buffer :=
  h.imp id (fun hmem => hlive hmem)

theorem Holds.aligned (h : w.Holds buffer) (hheap : w.heap.Sound) :
    isWideAligned buffer.pointer = true :=
  Stored.aligned h hheap

theorem Holds.size_le (h : w.Holds buffer) (hheap : w.heap.Sound) :
    buffer.sizeInBytes ≤ maxBlockSize := by
  rcases h with ⟨hempty, -⟩ | hlive
  · rw [hempty]
    exact Nat.zero_le _
  · exact (hheap.placed _ hlive).size_le

theorem Holds.pointer_eq_zero_iff (h : w.Holds buffer) (hheap : w.heap.Sound) :
    buffer.pointer = 0 ↔ buffer.sizeInBytes = 0 :=
  Stored.pointer_eq_zero_iff h hheap

/-- Two buffers at different addresses have no byte in common. -/
theorem Holds.apart (h : w.Holds buffer) (hother : w.Holds other) (hheap : w.heap.Sound)
    (hne : buffer.pointer ≠ other.pointer) : buffer.block.Apart other.block :=
  Stored.apart h hother hheap hne

/-! ## Making a buffer -/

/-- A buffer has been made between two worlds: its memory is in use, apart from the memory of every
buffer that was held before. -/
structure Made (w w' : World) (device : Device) (dtype : DType) (length : Nat)
    (buffer : Buffer Device) : Prop where
  dtype : buffer.dtype = dtype
  length : buffer.length = length
  device : buffer.device = device
  holds : w'.Holds buffer
  others : ∀ other, w.Holds other →
    w'.Holds other ∧ (other.pointer = buffer.pointer → other.pointer = 0)

section Making

variable {device : Device} {dtype : DType} {length : Nat}

theorem Made.of_sameOutline {w'' : World} (h : w.Made w' device dtype length buffer)
    (hsame : w'.SameOutline w'') : w.Made w'' device dtype length buffer := by
  have hlive : w'.heap.live ⊆ w''.heap.live := by
    rw [hsame.heap]
    exact List.Subset.refl _
  refine ⟨h.dtype, h.length, h.device, h.holds.of_subset hlive, ?_⟩
  intro other hother
  obtain ⟨hholds, hapart⟩ := h.others other hother
  exact ⟨hholds.of_subset hlive, hapart⟩

/-- A lawful system gives every buffer memory of its own. -/
theorem made_allocate (hheap : w.heap.Sound) (hlawful : w.environment.place.Lawful)
    (h : (Buffer.allocate backend device dtype length).perform w = (.ok buffer, w')) :
    w.Made w' device dtype length buffer := by
  rw [Buffer.perform_allocate] at h
  split at h
  case isFalse => cases h
  case isTrue =>
    have hasked : backend.allocate device (length * dtype.size) =
        Emulated.allocate (length * dtype.size) := rfl
    rw [hasked] at h
    rcases allocate_cases (length * dtype.size) w with ⟨hempty, hperform⟩ | ⟨-, hperform⟩ |
      ⟨address, hpos, hle, hplace, hperform⟩
    · rw [hperform] at h
      cases h
      exact ⟨rfl, rfl, rfl, Or.inl ⟨hempty, rfl⟩, fun other hother => ⟨hother, id⟩⟩
    · rw [hperform] at h
      cases h
    · rw [hperform] at h
      cases h
      have hsound := hheap.place hlawful hpos hle hplace
      refine ⟨rfl, rfl, rfl, Or.inr List.mem_cons_self, ?_⟩
      intro other hother
      refine ⟨hother.imp id (List.mem_cons_of_mem _), ?_⟩
      intro hpointer
      rcases hother with ⟨-, hnull⟩ | hlive
      · exact hnull
      · exact absurd hpointer (hsound.apart_of_occupy hlive).2

/-- Filling a buffer does not touch the blocks in use. -/
theorem Made.filled {w'' : World} {filled : Buffer Device} {bytes : Bytes}
    (h : w.Made w' device dtype length buffer)
    (hfill : (buffer.fillOrRelease backend bytes).perform w' = (.ok filled, w'')) :
    w.Made w'' device dtype length filled := by
  have hsame := sameOutline_copyToDevice bytes buffer.pointer w' (.refl w')
  unfold Buffer.fillOrRelease at hfill
  rw [Effect.perform_ofFun] at hfill
  split at hfill
  · next hcopied =>
    cases hfill
    have hworld : ((copyToDevice bytes buffer.pointer).perform w').2 = w'' :=
      congrArg Prod.snd hcopied
    exact h.of_sameOutline (hworld ▸ hsame)
  · cases hfill

/-- A buffer that was made according to a plan has memory of its own. -/
theorem made_plan {plan : BufferPlan} (hheap : w.heap.Sound) (hlawful : w.environment.place.Lawful)
    (h : (plan.make backend device).perform w = (.ok buffer, w')) :
    w.Made w' device plan.contents.dtype plan.contents.length buffer := by
  -- Both plans begin with an allocation.
  have hfirst : ∀ {dtype : DType} {length : Nat} {next : Buffer Device → Effect World (Buffer Device)},
      (Buffer.allocate backend device dtype length >>= next).perform w = (.ok buffer, w') →
        ∃ fresh between, w.Made between device dtype length fresh ∧
          (next fresh).perform between = (.ok buffer, w') := by
    intro dtype length next h
    cases hallocate : (Buffer.allocate backend device dtype length).perform w with
    | mk answer between =>
      cases answer with
      | error failure =>
        rw [Effect.perform_bind_error hallocate] at h
        cases h
      | ok fresh =>
        rw [Effect.perform_bind_ok hallocate] at h
        exact ⟨fresh, between, made_allocate hheap hlawful hallocate, h⟩
  cases plan with
  | zeros dtype length =>
    obtain ⟨fresh, between, hmade, hfill⟩ := hfirst h
    rw [BufferPlan.contents, Elements.length_zeros]
    split at hfill
    · cases hfill
      exact hmade
    · exact hmade.filled hfill
  | ofElements elements =>
    obtain ⟨fresh, between, hmade, hfill⟩ := hfirst h
    rw [Elements.length_toSlice] at hmade
    exact hmade.filled hfill

end Making

end World

end Emulated

end DeviceCopy
