import DeviceCopy.Proofs.Buffers.Sharing

/-!
# Backends that agree on what is stored

A backend may treat transfers differently that go to memory nobody has asked for, or past the end of
what was asked for. On buffers that makes no difference (`Storage.Agrees.performAll_eq`): their
transfers begin where memory is stored and move no more than that.
-/

set_option autoImplicit false

namespace DeviceCopy

variable {World Device Client : Type} {b b' : Backend World Device Client}

/-- Another backend that serves allocations in the same way, and transfers as long as they stay within
what is stored. -/
structure Storage.Agrees (s : Storage b) (b' : Backend World Device Client) : Prop where
  allocate : b'.allocate = b.allocate
  deallocate : b'.deallocate = b.deallocate
  copyToDevice : ∀ {w pointer size data} (device : Device), s.Stored w pointer size →
    data.length ≤ size →
      (b'.copyToDevice device data pointer).perform w = (b.copyToDevice device data pointer).perform w
  copyFromDevice : ∀ {w pointer} {host : Bytes} (device : Device), s.Stored w pointer host.length →
    (b'.copyFromDevice device pointer host).perform w =
      (b.copyFromDevice device pointer host).perform w

namespace Storage.Agrees

variable {s : Storage b} {rooms : Nat} {w : World} {buffer : Buffer Device}

theorem allocate_eq (h : s.Agrees b') (device : Device) (dtype : DType) (length : Nat) :
    Buffer.allocate b' device dtype length = Buffer.allocate b device dtype length := by
  unfold Buffer.allocate
  rw [h.allocate]

theorem release_eq (h : s.Agrees b') (buffer : Buffer Device) :
    buffer.release b' = buffer.release b := by
  unfold Buffer.release
  rw [h.deallocate]

theorem drop_eq (h : s.Agrees b') (id : Nat) (ws : Workspace World Device) :
    ws.drop b' id = ws.drop b id := by
  unfold Workspace.drop
  simp only [h.release_eq]

theorem fillOrRelease_eq (h : s.Agrees b') (hholds : s.Holds w buffer) {data : Bytes}
    (hlength : data.length ≤ buffer.sizeInBytes) :
    (buffer.fillOrRelease b' data).perform w = (buffer.fillOrRelease b data).perform w := by
  unfold Buffer.fillOrRelease
  rw [Effect.perform_ofFun, Effect.perform_ofFun, h.copyToDevice buffer.device hholds hlength,
    h.release_eq]

/-- What is made of a fresh allocation is the same if it is the same where the memory is there. -/
theorem bind_allocate_eq (h : s.Agrees b') (hready : s.Ready (rooms + 1) w) (device : Device)
    (dtype : DType) (length : Nat) {next next' : Buffer Device → Effect World (Buffer Device)}
    (hnext : ∀ {fresh between}, s.Holds between fresh → fresh.sizeInBytes = length * dtype.size →
      (next' fresh).perform between = (next fresh).perform between) :
    (Buffer.allocate b' device dtype length >>= next').perform w =
      (Buffer.allocate b device dtype length >>= next).perform w := by
  rw [h.allocate_eq]
  obtain ⟨bytes, hmade⟩ := Storage.makes_allocate hready device dtype length
  cases hallocate : (Buffer.allocate b device dtype length).perform w with
  | mk answer between =>
    rw [hallocate] at hmade
    cases answer with
    | error failure => rw [Effect.perform_bind_error hallocate, Effect.perform_bind_error hallocate]
    | ok fresh =>
      obtain ⟨⟨hdtype, hcount, -⟩, -, hholds, -⟩ := hmade
      rw [Effect.perform_bind_ok hallocate, Effect.perform_bind_ok hallocate]
      refine hnext hholds ?_
      rw [Buffer.sizeInBytes, hdtype, hcount]

theorem make_eq (h : s.Agrees b') (hready : s.Ready (rooms + 1) w) (device : Device)
    (plan : BufferPlan) :
    (plan.make b' device).perform w = (plan.make b device).perform w := by
  cases plan with
  | zeros dtype length =>
    refine h.bind_allocate_eq hready device dtype length ?_
    intro fresh between hholds _
    split
    · rfl
    · exact h.fillOrRelease_eq hholds (Nat.le_of_eq List.length_replicate)
  | ofElements elements =>
    refine h.bind_allocate_eq hready device _ _ ?_
    intro fresh between hholds hsize
    refine h.fillOrRelease_eq hholds ?_
    rw [hsize]
    exact Nat.le_of_eq elements.whole_toSlice

theorem write_eq (h : s.Agrees b') (hholds : s.Holds w buffer) (elements : Elements) :
    (buffer.write b' elements.toSlice).perform w = (buffer.write b elements.toSlice).perform w := by
  by_cases hdtype : elements.toSlice.dtype = buffer.dtype
  · rcases Nat.lt_or_ge buffer.length elements.toSlice.length with hlong | hshort
    · rw [Storage.write_tooLong hdtype hlong, Storage.write_tooLong hdtype hlong]
    · have hfits : elements.toSlice.bytes.length ≤ buffer.sizeInBytes := by
        rw [elements.whole_toSlice, hdtype]
        exact Nat.mul_le_mul_right _ hshort
      rw [Storage.write_fitting hdtype hshort, Storage.write_fitting hdtype hshort]
      exact h.copyToDevice buffer.device hholds hfits
  · rw [Storage.write_mismatch hdtype, Storage.write_mismatch hdtype]

theorem read_eq (h : s.Agrees b') (hholds : s.Holds w buffer) (dtype : DType) :
    (buffer.read b' dtype).perform w = (buffer.read b dtype).perform w := by
  by_cases hdtype : dtype = buffer.dtype
  · subst hdtype
    have hstored : s.Stored w buffer.pointer
        (List.replicate buffer.sizeInBytes (0 : UInt8)).length := by
      rw [List.length_replicate]
      exact hholds
    rw [Storage.read_matching, Storage.read_matching]
    exact h.copyFromDevice buffer.device hstored
  · rw [Storage.read_mismatch hdtype, Storage.read_mismatch hdtype]

variable {shelf : Shelf} {held : Holdings World Device}

/-- A buffer that is used through a handle is there. -/
theorem withBuffer_eq (hrep : Represents s rooms shelf held) (handle : Nat)
    {use use' : Buffer Device → Effect World BufferAnswer}
    (huse : ∀ {buffer}, s.Holds held.workspace.world buffer →
      (use' buffer).perform held.workspace.world = (use buffer).perform held.workspace.world) :
    (Holdings.withBuffer handle use').perform held = (Holdings.withBuffer handle use).perform held := by
  cases htarget : shelf.handles.target handle with
  | none =>
    have hnone := hrep.buffer?_eq_none htarget
    rw [Holdings.perform_withBuffer_none hnone, Holdings.perform_withBuffer_none hnone]
  | some id =>
    obtain ⟨shared, hfound, hbuffer⟩ := hrep.buffer?_eq htarget
    rw [Holdings.perform_withBuffer_some hbuffer, Holdings.perform_withBuffer_some hbuffer,
      huse (hrep.bears hfound).holds]

theorem carryOut_eq (h : s.Agrees b') (request : BufferRequest Device)
    (hrep : Represents s (rooms + request.making) shelf held) :
    (request.carryOut b').perform held = (request.carryOut b).perform held := by
  cases request with
  | make device plan =>
    rw [BufferRequest.perform_make, BufferRequest.perform_make, h.make_eq hrep.ready device plan]
  | write handle elements =>
    refine withBuffer_eq hrep handle (fun hholds => ?_)
    rw [Effect.perform_bind, Effect.perform_bind, h.write_eq hholds]
  | read handle dtype =>
    refine withBuffer_eq hrep handle (fun hholds => ?_)
    rw [Effect.perform_bind, Effect.perform_bind, h.read_eq hholds]
  | clone handle => rfl
  | drop handle =>
    simp only [BufferRequest.carryOut, h.drop_eq]

/-- A program on buffers cannot tell the two backends apart. -/
theorem performAll_eq (h : s.Agrees b') (requests : List (BufferRequest Device))
    (hrep : Represents s (rooms + (requests.map BufferRequest.making).sum) shelf held) :
    Effect.performAll (BufferRequest.carryOut b') requests held =
      Effect.performAll (BufferRequest.carryOut b) requests held := by
  induction requests generalizing shelf held with
  | nil => rfl
  | cons request rest ih =>
    have hcost : rooms + ((request :: rest).map BufferRequest.making).sum =
        rooms + (rest.map BufferRequest.making).sum + request.making := by
      rw [List.map_cons, List.sum_cons]
      omega
    rw [hcost] at hrep
    obtain ⟨shelf', -, hrep'⟩ := answered_carryOut request hrep
    unfold Effect.performAll
    rw [h.carryOut_eq request hrep]
    simp only [ih hrep']

end Storage.Agrees

end DeviceCopy
