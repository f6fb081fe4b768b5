import DeviceCopy.Proofs.Buffers.Custody
import DeviceCopy.Proofs.Emulated.Outline
import DeviceCopy.Proofs.WebGpu.Storage

/-!
# Byte sizes

The bytes of a buffer are counted once, with a check, when the buffer is made; afterwards they are
counted again without one. A backend rounds the size it is asked for up to units of its own. The
emulated device refuses sizes that it could not round up. A WebGPU device does not look, and gives up
on the last sizes of the word range (`byte_sizes_overflow_iff`).
-/

set_option autoImplicit false

namespace DeviceCopy

/-! ## Effects that answer -/

def Failure.IsAnswer : Failure → Prop
  | .error _ => True
  | .fault _ => False

/-- From every world an effect ends with a value or with an error. It never gives up. -/
abbrev Effect.Answers {World α : Type} (e : Effect World α) : Prop :=
  Effect.FailsAs (fun _ => True) Failure.IsAnswer e

theorem Effect.Answers.ne_fault {World α : Type} {e : Effect World α} (h : e.Answers) (w : World)
    (fault : Fault) : (e.perform w).1 ≠ .error (.fault fault) :=
  fun hfault => (h w trivial).2 _ hfault

/-! ## Buffers of zeros -/

namespace Buffer

variable {World Device Client : Type} {b : Backend World Device Client} {device : Device} {dtype : DType}
  {length : Nat}

/-- A buffer was made with the number of bytes that its elements take: their count does not leave the
word range, that many bytes were granted, and that many are given back with it. -/
structure Sized (b : Backend World Device Client) (device : Device) (dtype : DType) (length : Nat)
    (w : World) (buffer : Buffer Device) : Prop where
  made : buffer = { pointer := buffer.pointer, length, dtype, device }
  counted : Checked.mul length dtype.size = .ok buffer.sizeInBytes
  granted : ∃ between, (b.allocate device buffer.sizeInBytes).perform w = (.ok buffer.pointer, between)
  released : buffer.pointer ≠ 0 → ∀ later,
    buffer.release b later = b.deallocate device buffer.pointer buffer.sizeInBytes later

theorem zeros_too_large (b : Backend World Device Client) (device : Device) (w : World)
    (hlarge : wordLimit ≤ length * dtype.size) :
    (zeros b device dtype length).perform w = (.error (.error (.outOfMemory maxWord)), w) := by
  have hrefused := perform_allocate b device dtype length w
  rw [if_neg (Nat.not_lt.mpr hlarge)] at hrefused
  exact Effect.perform_bind_error hrefused

theorem sized_of_zeros {buffer : Buffer Device} {w w' : World}
    (h : (zeros b device dtype length).perform w = (.ok buffer, w')) :
    Sized b device dtype length w buffer := by
  let plan : BufferPlan := .zeros dtype length
  have hcount : plan.contents.length = length := Elements.length_zeros dtype length
  have hsize : plan.size = length * dtype.size := by
    unfold BufferPlan.size
    rw [hcount]
    rfl
  have hbuffer : ∀ pointer, plan.buffer device pointer = { pointer, length, dtype, device } := by
    intro pointer
    unfold BufferPlan.buffer
    rw [hcount]
    rfl
  have hmaking := plan.making b device w
  have hperform : (plan.make b device).perform w = (.ok buffer, w') := h
  rw [hperform] at hmaking
  cases hmaking with
  | @granted pointer between _ hfits hallocate hfill =>
    rw [hsize] at hfits hallocate
    have hmade : buffer = { pointer, length, dtype, device } := by
      rw [← hbuffer pointer]
      cases hfill with
      | nothingToFill => rfl
      | filled _ => rfl
    subst hmade
    exact ⟨rfl, Checked.mul_of_lt hfits, ⟨between, hallocate⟩, fun hpointer _ => if_neg hpointer⟩

section Answering

variable (hcopy : ∀ device bytes pointer, (b.copyToDevice device bytes pointer).Answers)

include hcopy

theorem answers_fillOrRelease (buffer : Buffer Device) (bytes : Bytes) :
    (buffer.fillOrRelease b bytes).Answers := by
  intro w _
  have hfill := buffer.filling_fillOrRelease b bytes w
  generalize (buffer.fillOrRelease b bytes).perform w = result at hfill ⊢
  refine ⟨trivial, fun failure hfailure => ?_⟩
  cases hfill with
  | nothingToFill => cases hfailure
  | filled _ => cases hfailure
  | @givenBack moved reported after hreported =>
    cases hfailure
    exact (hcopy buffer.device moved buffer.pointer w trivial).2 failure (by rw [hreported])

/-- Where transfers to the device answer, making a buffer gives up only as the allocation does. -/
theorem zeros_gives_up_iff (w : World) (fault : Fault) :
    ((zeros b device dtype length).perform w).1 = .error (.fault fault) ↔
      length * dtype.size < wordLimit ∧
        ((b.allocate device (length * dtype.size)).perform w).1 = .error (.fault fault) := by
  rcases Nat.lt_or_ge (length * dtype.size) wordLimit with hfits | hlarge
  · have hallocate := perform_allocate b device dtype length w
    rw [if_pos hfits] at hallocate
    unfold zeros
    cases hgranted : (b.allocate device (length * dtype.size)).perform w with
    | mk answer between =>
      rw [hgranted] at hallocate
      cases answer with
      | error failure =>
        rw [Effect.perform_bind_error hallocate]
        simp only [Except.error.injEq, hfits, true_and]
      | ok pointer =>
        rw [Effect.perform_bind_ok hallocate]
        refine iff_of_false ?_ (fun h => nomatch h.2)
        split
        · exact fun h => nomatch h
        · exact (answers_fillOrRelease hcopy _ _).ne_fault between fault
  · rw [zeros_too_large b device w hlarge]
    exact iff_of_false (fun h => nomatch h) (fun h => Nat.not_lt.mpr hlarge h.1)

end Answering

end Buffer

/-! ## The emulated device -/

namespace Emulated

theorem answers_allocate (size : Nat) : (allocate size).Answers := by
  intro w _
  refine ⟨trivial, fun failure hfailure => ?_⟩
  rcases World.allocate_cases size w with ⟨-, hperform⟩ | ⟨-, hperform⟩ | ⟨address, -, -, -, hperform⟩
  · rw [hperform] at hfailure
    cases hfailure
  · rw [hperform] at hfailure
    cases hfailure
    trivial
  · rw [hperform] at hfailure
    cases hfailure

/-- A job that gave up is reported as an error of the wait. -/
theorem answers_synchronize (client : Client) : (synchronize client).Answers := by
  intro w _
  refine ⟨trivial, fun failure hfailure => ?_⟩
  rw [perform_synchronize] at hfailure
  cases hfault : ((w.progress.drain client.lane).laneAt client.lane).stream.fault with
  | none =>
    simp only [hfault] at hfailure
    cases hfailure
  | some f =>
    simp only [hfault] at hfailure
    cases hfailure
    trivial

theorem answers_drainDefaults : drainDefaults.Answers := by
  unfold drainDefaults
  have hlooked : Effect.FailsAs (fun _ => True) Failure.IsAnswer (Effect.inspect World.defaults) :=
    .of_total (.inspect _) (fun w => ⟨w.defaults, rfl⟩)
  refine hlooked.bind (fun defaults => .forM ?_ defaults)
  intro entry
  exact answers_synchronize entry.2

theorem answers_copyToDevice (bytes : Bytes) (pointer : Nat) :
    (copyToDevice bytes pointer).Answers := by
  unfold copyToDevice
  split
  · exact .pure ()
  · split
    · exact .fail trivial
    · exact .bind answers_drainDefaults (fun _ => .update (fun _ h => h))

/-- Memory is only granted where its size can be rounded up to the alignment of blocks. -/
theorem size_le_of_allocate {size pointer : Nat} {w w' : World}
    (h : (allocate size).perform w = (.ok pointer, w')) : size ≤ maxBlockSize := by
  rcases World.allocate_cases size w with ⟨rfl, -⟩ | ⟨-, hperform⟩ | ⟨address, -, hsize, -, -⟩
  · exact Nat.zero_le _
  · rw [hperform] at h
    cases h
  · exact hsize

end Emulated

/-! ## WebGPU devices -/

namespace WebGpu

/-- The last size that can be rounded up to whole wide words. -/
def lastWideSize : Nat := wordLimit - wideWordBytes

/-- The most bytes that a list on the host can take. -/
def maxHostBytes : Nat := Nat.pow 2 63 - 1

theorem wordLimit_le_roundUpTo_iff {size : Nat} :
    wordLimit ≤ roundUpTo wideWordBytes size ↔ lastWideSize < size := by
  have hlimit : wordLimit = 2 ^ 64 := rfl
  unfold roundUpTo lastWideSize wideWordBytes
  omega

/-- The only sizes that an allocation gives up on are those beyond the last that can be rounded up. -/
theorem allocateOn_gives_up_iff (device : Device) (size : Nat) (w : World) (fault : Fault) :
    ((allocateOn device size).perform w).1 = .error (.fault fault) ↔
      fault = .multiplyOverflow ∧ lastWideSize < size := by
  have hlast : 0 < lastWideSize := by decide
  rw [← wordLimit_le_roundUpTo_iff]
  rcases allocateOn_cases device size w with
    ⟨rfl, hperform⟩ | ⟨hlarge, hperform⟩ | ⟨-, hfits, hperform⟩
  · rw [hperform]
    exact iff_of_false (fun h => nomatch h) (fun h => absurd h.2 (by decide))
  · rw [hperform]
    simp [hlarge, eq_comm]
  · rw [hperform]
    exact iff_of_false (fun h => nomatch h) (fun h => absurd h.2 (Nat.not_le.mpr hfits))

theorem answers_copyToDevice (device : Device) (bytes : Bytes) (handle : Nat) :
    (copyToDevice device bytes handle).Answers := by
  unfold copyToDevice
  split
  · exact .pure ()
  · have hopened : Effect.FailsAs (fun _ => True) Failure.IsAnswer (requireClient device) :=
      .update (fun _ h => h)
    have hfound : (requireBuffer "dst" handle).Answers := by
      intro w _
      refine ⟨trivial, fun failure hfailure => ?_⟩
      cases hbuffer : w.registry.find? handle with
      | some buffer =>
        rw [perform_requireBuffer hbuffer] at hfailure
        cases hfailure
      | none =>
        rw [perform_requireBuffer_none hbuffer] at hfailure
        cases hfailure
        trivial
    refine hopened.bind (fun _ => ?_)
    exact .bind (.bind hfound (fun _ => .pure ())) (fun _ => .update (fun _ h => h))

/-- Memory is only granted where its size can be rounded up to whole wide words. -/
theorem size_le_of_allocateOn {device : Device} {size handle : Nat} {w w' : World}
    (h : (allocateOn device size).perform w = (.ok handle, w')) : size ≤ lastWideSize := by
  refine Nat.le_of_not_lt (fun hlarge => ?_)
  have hfault := (allocateOn_gives_up_iff device size w .multiplyOverflow).mpr ⟨rfl, hlarge⟩
  rw [h] at hfault
  cases hfault

/-- Making a buffer of zeros gives up on the same sizes, unless their count is out of range. -/
theorem zeros_gives_up_iff (device : Device) (dtype : DType) (length : Nat) (w : World)
    (fault : Fault) :
    ((Buffer.zeros backend device dtype length).perform w).1 = .error (.fault fault) ↔
      fault = .multiplyOverflow ∧ lastWideSize < length * dtype.size ∧
        length * dtype.size < wordLimit := by
  rw [Buffer.zeros_gives_up_iff answers_copyToDevice]
  refine (and_congr_right fun _ => allocateOn_gives_up_iff device _ w fault).trans ?_
  exact ⟨fun ⟨hfits, hfault, hlarge⟩ => ⟨hfault, hlarge, hfits⟩,
    fun ⟨hfault, hlarge, hfits⟩ => ⟨hfits, hfault, hlarge⟩⟩

end WebGpu

/-! ## Both backends -/

/-- The size of a buffer is counted, rounded up and counted again without leaving the word range, with
one exception: a WebGPU device gives up on the sizes past the last that it can round up. -/
theorem byte_sizes_overflow_iff (w : Emulated.World) (v : WebGpu.World) (cpu : Emulated.Device)
    (gpu : WebGpu.Device) (dtype : DType) (length : Nat) :
    -- The emulated device answers every request for memory.
    ((∀ size fault, ((Emulated.backend.allocate cpu size).perform w).1 ≠ .error (.fault fault)) ∧
      ∀ fault,
        ((Buffer.zeros Emulated.backend cpu dtype length).perform w).1 ≠ .error (.fault fault)) ∧
    -- A WebGPU device gives up on some, and answers the others that a host can have zeros for.
    ((∀ size fault, ((WebGpu.backend.allocate gpu size).perform v).1 = .error (.fault fault) ↔
        fault = .multiplyOverflow ∧ WebGpu.lastWideSize < size) ∧
      (((Buffer.zeros WebGpu.backend gpu dtype length).perform v).1 =
          .error (.fault .multiplyOverflow) ↔
        WebGpu.lastWideSize < length * dtype.size ∧ length * dtype.size < wordLimit) ∧
      (length * dtype.size ≤ WebGpu.maxHostBytes ∨ wordLimit ≤ length * dtype.size → ∀ fault,
        ((Buffer.zeros WebGpu.backend gpu dtype length).perform v).1 ≠ .error (.fault fault))) ∧
    -- Sizes that cannot be counted are out of memory.
    (wordLimit ≤ length * dtype.size →
      (Buffer.zeros Emulated.backend cpu dtype length).perform w =
          (.error (.error (.outOfMemory maxWord)), w) ∧
        (Buffer.zeros WebGpu.backend gpu dtype length).perform v =
          (.error (.error (.outOfMemory maxWord)), v)) ∧
    -- The size of a buffer is the one that was granted, and it can be rounded up again.
    (∀ buffer w', (Buffer.zeros Emulated.backend cpu dtype length).perform w = (.ok buffer, w') →
      buffer.Sized Emulated.backend cpu dtype length w ∧ buffer.sizeInBytes ≤ maxBlockSize) ∧
    ∀ buffer v', (Buffer.zeros WebGpu.backend gpu dtype length).perform v = (.ok buffer, v') →
      buffer.Sized WebGpu.backend gpu dtype length v ∧
        WebGpu.roundUpTo wideWordBytes buffer.sizeInBytes < wordLimit := by
  refine ⟨⟨?_, ?_⟩, ⟨?_, ?_, ?_⟩, ?_, ?_, ?_⟩
  · exact fun size fault => (Emulated.answers_allocate size).ne_fault w fault
  · intro fault hfault
    rw [Buffer.zeros_gives_up_iff (fun _ => Emulated.answers_copyToDevice)] at hfault
    exact (Emulated.answers_allocate _).ne_fault w fault hfault.2
  · exact fun size fault => WebGpu.allocateOn_gives_up_iff gpu size v fault
  · rw [WebGpu.zeros_gives_up_iff, and_iff_right rfl]
  · intro hsize fault hfault
    obtain ⟨-, hlarge, hfits⟩ := (WebGpu.zeros_gives_up_iff gpu dtype length v fault).mp hfault
    have hhost : WebGpu.maxHostBytes < WebGpu.lastWideSize := by decide
    omega
  · exact fun hlarge =>
      ⟨Buffer.zeros_too_large _ cpu w hlarge, Buffer.zeros_too_large _ gpu v hlarge⟩
  · intro buffer w' hmade
    have hsized := Buffer.sized_of_zeros hmade
    obtain ⟨between, hgranted⟩ := hsized.granted
    exact ⟨hsized, Emulated.size_le_of_allocate hgranted⟩
  · intro buffer v' hmade
    have hsized := Buffer.sized_of_zeros hmade
    obtain ⟨between, hgranted⟩ := hsized.granted
    have hsize := WebGpu.size_le_of_allocateOn hgranted
    exact ⟨hsized, Nat.lt_of_not_le (fun h => Nat.not_lt.mpr hsize
      (WebGpu.wordLimit_le_roundUpTo_iff.mp h))⟩

/-- A WebGPU device gives up where the emulated device answers that it is out of memory, and where it
answers so itself for one element more. -/
theorem zeros_of_last_length_overflows :
    ((Buffer.zeros WebGpu.backend (.ofIndex 0) .f64 (Nat.pow 2 61 - 1)).perform
        (.initial (fun _ => .noop) 1)).1 = .error (.fault .multiplyOverflow) ∧
      ((Buffer.zeros WebGpu.backend (.ofIndex 0) .f64 (Nat.pow 2 61)).perform
        (.initial (fun _ => .noop) 1)).1 = .error (.error (.outOfMemory maxWord)) ∧
      ((Buffer.zeros Emulated.backend .standard .f64 (Nat.pow 2 61 - 1)).perform
        (.initial .prompt)).1 = .error (.error (.outOfMemory (Nat.pow 2 64 - 8))) :=
  ⟨by rfl, by rfl, by rfl⟩

end DeviceCopy
