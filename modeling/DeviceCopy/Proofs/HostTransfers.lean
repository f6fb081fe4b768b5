import DeviceCopy.Proofs.Emulated.Waiting
import DeviceCopy.Proofs.WebGpu.Transfers

/-!
# Host transfers

What a transfer between host and device changes, and what it answers for the pointers it is given.

The two backends differ in two places. The emulated device changes exactly the bytes of a transfer;
a WebGPU device changes whole units of four bytes. And the null pointer is an invalid argument on
the emulated device, while on a WebGPU device there is nothing to do for it.
-/

set_option autoImplicit false

namespace DeviceCopy

/-! ## What a transfer changes -/

/-- A transfer to the beginning of an allocation puts its bytes there and leaves everything else
alone, but for the rest of the last unit of four bytes on a WebGPU device. A transfer back answers
with what is there. -/
theorem transfers_keep_the_rest :
    (∀ (w w' : Emulated.World) (data : Bytes) (pointer size : Nat),
      Emulated.World.Reachable w → w.environment.place.Lawful →
      ⟨pointer, size⟩ ∈ w.heap.live → data ≠ [] → data.length ≤ size →
      (Emulated.copyToDevice data pointer).perform w = (.ok (), w') →
      w.Receives w' data pointer size) ∧
    (∀ (w : WebGpu.World) (device : WebGpu.Device) (data : Bytes) (handle size : Nat),
      w.registry.Stored handle size → data ≠ [] → data.length ≤ size →
      ∃ w', (WebGpu.copyToDevice device data handle).perform w = (.ok (), w') ∧
        w.Receives w' device data handle size) := by
  refine ⟨fun w w' data pointer size hreachable hlawful hlive hdata hfits h =>
    Emulated.receives_copyToDevice hreachable hlawful hlive hdata hfits h, ?_⟩
  intro w device data handle size hstored hdata hfits
  -- There is nothing at the null handle, so bytes that fit are for another one.
  have hpos : 0 < data.length := List.length_pos_iff.mpr hdata
  have hhandle := hstored.handle_ne_zero (Nat.lt_of_lt_of_le hpos hfits)
  obtain ⟨buffer, hbuffer, -⟩ := hstored.exists_buffer hhandle
  exact WebGpu.receives_copyToDevice device hhandle hbuffer hdata size

/-- Two blocks, the first of them set, and the job of copying it to the second. -/
def Emulated.workLeft : World :=
  let opened := (World.initial .unhurried).defaultClient .standard
  let w := ((allocate 16).perform opened.2).2
  let w := ((allocate 16).perform w).2
  let w := ((copyToDevice (List.replicate 16 255) 64).perform w).2
  ((enqueue opened.1 ⟨.scalar .f32, ⟨1, 64, 0⟩, 4, 64, 128⟩).perform w).2

/-- A buffer of eight bytes, all of them set. -/
def WebGpu.eightSet : WebGpu.World :=
  ((copyToDevice (.ofIndex 0) (List.replicate 8 255) 1).perform
    ((allocateOn (.ofIndex 0) 8).perform (.initial (fun _ => .noop) 1)).2).2

theorem Emulated.reachable_workLeft : World.Reachable workLeft := by
  have hopened := World.Reachable.next (.initial .unhurried) (.defaultClient .standard _)
  have hfirst := hopened.next (.allocate 16 _)
  have hsecond := hfirst.next (.allocate 16 _)
  have hset := hsecond.next (.copyToDevice (List.replicate 16 255) 64 _)
  exact hset.next (.enqueue _ ⟨.scalar .f32, ⟨1, 64, 0⟩, 4, 64, 128⟩ _)

theorem WebGpu.stored_eightSet : eightSet.registry.Stored 1 8 :=
  Or.inr ⟨by decide, by decide, by decide, _, rfl, by decide⟩

theorem transfers_keep_the_rest_three_bytes :
    (∃ w' : Emulated.World,
      (Emulated.copyToDevice [1, 2, 3] 64).perform Emulated.workLeft = (.ok (), w') ∧
        Emulated.workLeft.Receives w' [1, 2, 3] 64 16) ∧
    ∃ w' : WebGpu.World,
      (WebGpu.copyToDevice (.ofIndex 0) [1, 2, 3] 1).perform WebGpu.eightSet = (.ok (), w') ∧
        WebGpu.eightSet.Receives w' (.ofIndex 0) [1, 2, 3] 1 8 := by
  constructor
  · -- The transfer waits for the job first, and the job has nothing to report.
    have hlive : ⟨64, 16⟩ ∈ Emulated.workLeft.heap.live := by decide
    exact ⟨_, rfl, transfers_keep_the_rest.1 Emulated.workLeft _ [1, 2, 3] 64 16
      Emulated.reachable_workLeft Placement.ascending_lawful hlive (by simp) (by decide) rfl⟩
  · exact transfers_keep_the_rest.2 WebGpu.eightSet (.ofIndex 0) [1, 2, 3] 1 8
      WebGpu.stored_eightSet (by simp) (by decide)

/-- One byte that is transferred to a WebGPU device clears the three after it. On the emulated
device the same transfer waits for a job that was left, and that job writes to another block. -/
theorem transfer_of_one_byte_changes_others :
    let v := ((WebGpu.copyToDevice (.ofIndex 0) [1] 1).perform WebGpu.eightSet).2
    let w := ((Emulated.copyToDevice [1] 64).perform Emulated.workLeft).2
    (WebGpu.eightSet.registry.Stored 1 8 ∧
      (WebGpu.copyToDevice (.ofIndex 0) [1] 1).perform WebGpu.eightSet = (.ok (), v) ∧
      WebGpu.eightSet.registry.bytes 1 8 = [255, 255, 255, 255, 255, 255, 255, 255] ∧
      v.registry.bytes 1 8 = [1, 0, 0, 0, 255, 255, 255, 255]) ∧
    Emulated.World.Reachable Emulated.workLeft ∧
      ⟨64, 16⟩ ∈ Emulated.workLeft.heap.live ∧ ⟨128, 16⟩ ∈ Emulated.workLeft.heap.live ∧
      (Emulated.copyToDevice [1] 64).perform Emulated.workLeft = (.ok (), w) ∧
      Emulated.workLeft.memory.read 128 16 = List.replicate 16 0 ∧
      w.memory.read 128 16 = List.replicate 16 255 :=
  ⟨⟨WebGpu.stored_eightSet, rfl, by decide +kernel, by decide +kernel⟩,
    Emulated.reachable_workLeft, by decide, by decide, rfl, by decide +kernel, by decide +kernel⟩

/-! ## What a transfer answers -/

section Answers

variable {World Device Client : Type} (b : Backend World Device Client)

/-- What a host range holds after a transfer to it: the bytes of the answer, or, if there are none,
what it held before. -/
def hostAfter (host : Bytes) : Except Failure Bytes → Bytes
  | .ok bytes => bytes
  | .error _ => host

/-- A transfer that answers that it is done was about a pointer with room for all of it, and has
moved all of it. -/
structure Backend.Delivers (roomAt : World → (pointer length : Nat) → Prop)
    (bytesAt : World → (pointer length : Nat) → Bytes) (device : Device) (data host : Bytes)
    (pointer : Nat) (w : World) : Prop where
  toDevice : ∀ w', (b.copyToDevice device data pointer).perform w = (.ok (), w') →
    roomAt w pointer data.length ∧ bytesAt w' pointer data.length = data
  toHost : ∀ answer w', (b.copyFromDevice device pointer host).perform w = (.ok answer, w') →
    roomAt w pointer host.length ∧ answer = bytesAt w' pointer host.length

/-- Both transfers answer that the pointer is an invalid argument, and neither moves anything. -/
structure Backend.Refuses {Memory : Type} (memory : World → Memory) (problem : ArgumentProblem)
    (device : Device) (data host : Bytes) (pointer : Nat) (w : World) : Prop where
  toDevice : ∃ w', (b.copyToDevice device data pointer).perform w =
    (.error (.error (.invalidArgument "dst" problem)), w') ∧ memory w' = memory w
  toHost : ∃ w', (b.copyFromDevice device pointer host).perform w =
    (.error (.error (.invalidArgument "src" problem)), w') ∧ memory w' = memory w
  host : hostAfter host ((b.copyFromDevice device pointer host).perform w).1 = host

/-- Both transfers answer that they are done, and neither has done anything. -/
structure Backend.Ignores (device : Device) (data host : Bytes) (pointer : Nat) (w : World) :
    Prop where
  toDevice : (b.copyToDevice device data pointer).perform w = (.ok (), w)
  toHost : (b.copyFromDevice device pointer host).perform w = (.ok host, w)

end Answers

variable {data host : Bytes}

namespace Emulated

/-- A block with room for so many bytes is in use at the pointer. -/
def World.RoomAt (w : World) (pointer length : Nat) : Prop :=
  ∃ size, ⟨pointer, size⟩ ∈ w.heap.live ∧ length ≤ size

def World.bytesAt (w : World) : (pointer length : Nat) → Bytes := w.memory.read

theorem delivers {w : World} {pointer : Nat} (device : Device) (hdata : data ≠ [])
    (hhost : host ≠ [])
    (h : pointer = 0 ∨ (w.RoomAt pointer data.length ∧ w.RoomAt pointer host.length)) :
    backend.Delivers World.RoomAt World.bytesAt device data host pointer w where
  toDevice w' hdone := by
    obtain ⟨hpointer, waited, -, rfl⟩ := copyToDevice_ok hdata hdone
    exact ⟨(h.resolve_left hpointer).1, read_write_self _ _ _⟩
  toHost answer w' hdone := by
    obtain ⟨hpointer, -, hanswer⟩ := copyFromDevice_ok hhost hdone
    exact ⟨(h.resolve_left hpointer).2, hanswer⟩

theorem refuses_null (device : Device) (hdata : data ≠ []) (hhost : host ≠ []) (w : World) :
    backend.Refuses World.memory .nullPointer device data host 0 w where
  toDevice := ⟨w, perform_copyToDevice_null hdata w, rfl⟩
  toHost := ⟨w, perform_copyFromDevice_null hhost w, rfl⟩
  host := by
    change hostAfter host ((copyFromDevice 0 host).perform w).1 = host
    rw [perform_copyFromDevice_null hhost]
    rfl

end Emulated

namespace WebGpu

/-- A buffer with room for so many bytes is registered under the handle. -/
def World.RoomAt (w : World) (handle length : Nat) : Prop :=
  ∃ buffer, w.registry.find? handle = some buffer ∧ length ≤ buffer.size

def World.bytesAt (w : World) : (handle length : Nat) → Bytes := w.registry.bytes

variable {w : World} {handle : Nat}

theorem ignores_null (device : Device) (data host : Bytes) (w : World) :
    backend.Ignores device data host 0 w where
  toDevice := perform_copyToDevice_null device data w
  toHost := perform_copyFromDevice_null device host w

theorem refuses_unregistered (device : Device) (hdata : data ≠ []) (hhost : host ≠ [])
    (hhandle : handle ≠ 0) (h : w.registry.find? handle = none) :
    backend.Refuses World.registry (.unregistered handle) device data host handle w where
  toDevice := ⟨(w.defaultClient device).2, perform_copyToDevice_unregistered hdata hhandle h,
    registry_defaultClient device w⟩
  toHost := ⟨(w.defaultClient device).2, perform_copyFromDevice_unregistered hhost hhandle h,
    registry_defaultClient device w⟩
  host := by
    change hostAfter host ((copyFromDevice device handle host).perform w).1 = host
    rw [perform_copyFromDevice_unregistered hhost hhandle h]
    rfl

theorem delivers (device : Device) (hdata : data ≠ []) (hhost : host ≠ []) (hhandle : handle ≠ 0)
    (hroom : ∀ buffer, w.registry.find? handle = some buffer →
      data.length ≤ buffer.size ∧ host.length ≤ buffer.size) :
    backend.Delivers World.RoomAt World.bytesAt device data host handle w := by
  cases hfound : w.registry.find? handle with
  | none =>
    -- A transfer that is refused is not done.
    obtain ⟨⟨_, hto, -⟩, ⟨_, hfrom, -⟩, -⟩ :=
      refuses_unregistered device hdata hhost hhandle hfound
    constructor
    · intro w' hdone
      rw [hto] at hdone
      cases hdone
    · intro answer w' hdone
      rw [hfrom] at hdone
      cases hdone
  | some buffer =>
    -- A transfer that is not refused has one outcome, so that is the one it is done with.
    obtain ⟨hdataRoom, hhostRoom⟩ := hroom buffer hfound
    constructor
    · intro w' hdone
      obtain ⟨done, hperform, hreceives⟩ :=
        receives_copyToDevice device hhandle hfound hdata data.length
      have hsame : done = w' := congrArg Prod.snd (hperform.symm.trans hdone)
      exact ⟨⟨buffer, hfound, hdataRoom⟩, hsame ▸ hreceives.written⟩
    · intro answer w' hdone
      cases (perform_copyFromDevice hhost hhandle hfound).symm.trans hdone
      refine ⟨⟨buffer, hfound, hhostRoom⟩, ?_⟩
      rw [World.bytesAt, registry_defaultClient, Registry.bytes_of_find? hfound]

end WebGpu

/-- A transfer that is done has moved all its bytes, to or from a pointer with room for them, with
one exception; a pointer that nothing is at is an invalid argument, with the same exception. The
exception is the null handle of a WebGPU device, for which there is nothing to do. -/
theorem transfers_answer_for_what_moved :
    (∀ (w : Emulated.World) (device : Emulated.Device) (data host : Bytes) (pointer : Nat),
      data ≠ [] → host ≠ [] →
      (pointer = 0 ∨ (w.RoomAt pointer data.length ∧ w.RoomAt pointer host.length)) →
      Emulated.backend.Delivers Emulated.World.RoomAt Emulated.World.bytesAt device data host
          pointer w ∧
        (pointer = 0 →
          Emulated.backend.Refuses Emulated.World.memory .nullPointer device data host pointer w)) ∧
    (∀ (w : WebGpu.World) (device : WebGpu.Device) (data host : Bytes) (handle : Nat),
      data ≠ [] → host ≠ [] →
      (∀ buffer, w.registry.find? handle = some buffer →
        data.length ≤ buffer.size ∧ host.length ≤ buffer.size) →
      (handle = 0 → WebGpu.backend.Ignores device data host handle w) ∧
        (handle ≠ 0 → WebGpu.backend.Delivers WebGpu.World.RoomAt WebGpu.World.bytesAt device data
          host handle w) ∧
        (handle ≠ 0 → w.registry.find? handle = none →
          WebGpu.backend.Refuses WebGpu.World.registry (.unregistered handle) device data host
            handle w)) := by
  constructor
  · intro w device data host pointer hdata hhost hpointer
    refine ⟨Emulated.delivers device hdata hhost hpointer, ?_⟩
    rintro rfl
    exact Emulated.refuses_null device hdata hhost w
  · intro w device data host handle hdata hhost hroom
    refine ⟨?_, fun hhandle => WebGpu.delivers device hdata hhost hhandle hroom,
      fun hhandle => WebGpu.refuses_unregistered device hdata hhost hhandle⟩
    rintro rfl
    exact WebGpu.ignores_null device data host w

/-- The buffer of eight bytes has been given back. -/
def WebGpu.eightFreed : WebGpu.World := deallocateOn (.ofIndex 0) 1 eightSet

theorem transfers_answer_for_what_moved_eight :
    (Emulated.workLeft.RoomAt 64 16 ∧
      Emulated.backend.Delivers Emulated.World.RoomAt Emulated.World.bytesAt .standard
        (List.replicate 16 1) (List.replicate 16 0) 64 Emulated.workLeft) ∧
    Emulated.backend.Refuses Emulated.World.memory .nullPointer .standard [1] [0] 0
      Emulated.workLeft ∧
    (WebGpu.eightSet.RoomAt 1 8 ∧
      WebGpu.backend.Delivers WebGpu.World.RoomAt WebGpu.World.bytesAt (.ofIndex 0)
        (List.replicate 8 1) (List.replicate 8 0) 1 WebGpu.eightSet) ∧
    WebGpu.backend.Refuses WebGpu.World.registry (.unregistered 1) (.ofIndex 0) [1] [0] 1
      WebGpu.eightFreed ∧
    WebGpu.backend.Ignores (.ofIndex 0) [1] [0] 0 WebGpu.eightSet := by
  have hroom : Emulated.workLeft.RoomAt 64 16 := ⟨16, by decide, by decide⟩
  have hregistered : WebGpu.eightSet.RoomAt 1 8 := ⟨_, rfl, by decide⟩
  have hfreed : WebGpu.eightFreed.registry.find? 1 = none := rfl
  refine ⟨⟨hroom, ?_⟩, ?_, ⟨hregistered, ?_⟩, ?_, ?_⟩
  · exact (transfers_answer_for_what_moved.1 Emulated.workLeft .standard (List.replicate 16 1)
      (List.replicate 16 0) 64 (by simp) (by simp) (Or.inr ⟨hroom, hroom⟩)).1
  · exact (transfers_answer_for_what_moved.1 Emulated.workLeft .standard [1] [0] 0 (by simp)
      (by simp) (Or.inl rfl)).2 rfl
  · have hfits : ∀ buffer, WebGpu.eightSet.registry.find? 1 = some buffer →
        (List.replicate 8 (1 : UInt8)).length ≤ buffer.size ∧
          (List.replicate 8 (0 : UInt8)).length ≤ buffer.size := by
      rintro buffer ⟨⟩
      decide
    exact (transfers_answer_for_what_moved.2 WebGpu.eightSet (.ofIndex 0) (List.replicate 8 1)
      (List.replicate 8 0) 1 (by simp) (by simp) hfits).2.1 (by decide)
  · exact (transfers_answer_for_what_moved.2 WebGpu.eightFreed (.ofIndex 0) [1] [0] 1 (by simp)
      (by simp) (by rw [hfreed]; exact fun _ h => nomatch h)).2.2 (by decide) hfreed
  · exact (transfers_answer_for_what_moved.2 WebGpu.eightSet (.ofIndex 0) [1] [0] 0 (by simp)
      (by simp) (fun _ h => nomatch h)).1 rfl

/-- A byte for the null handle is lost, and a byte from it is the one that was there; neither is an
error. On the emulated device both are. -/
theorem null_transfers_differ :
    WebGpu.eightSet.registry.find? 0 = none ∧
      ((WebGpu.backend.copyToDevice (.ofIndex 0) [1] 0).perform WebGpu.eightSet).1 = .ok () ∧
      ((WebGpu.backend.copyFromDevice (.ofIndex 0) 0 [1]).perform WebGpu.eightSet).1 = .ok [1] ∧
      ((Emulated.backend.copyToDevice .standard [1] 0).perform Emulated.workLeft).1 =
        .error (.error (.invalidArgument "dst" .nullPointer)) ∧
      ((Emulated.backend.copyFromDevice .standard 0 [1]).perform Emulated.workLeft).1 =
        .error (.error (.invalidArgument "src" .nullPointer)) :=
  ⟨rfl, rfl, rfl, rfl, rfl⟩

end DeviceCopy
