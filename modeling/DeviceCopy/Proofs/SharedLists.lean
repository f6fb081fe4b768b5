import DeviceCopy.Proofs.Buffers.Agreement
import DeviceCopy.Proofs.Emulated.Sharing
import DeviceCopy.Proofs.WebGpu.Storage

/-!
# Buffers are shared lists

Whatever a program does with buffers, on either backend it is answered as by a shelf of lists: a read
gives what the writes and copies before it have left, handles cloned from one another see one list, no
request changes the list behind other handles, and what fails changes nothing
(`requests_leave_other_lists`).

The emulated device is taken at rest, on a system that places memory lawfully; a WebGPU device as
long as its counter of handles does not come round. There it also makes no difference to check every
transfer, rounded up to whole units, against the end of its buffer first.
-/

set_option autoImplicit false

namespace DeviceCopy

/-- A transfer within what is stored stays inside, so checking it makes no difference. -/
theorem WebGpu.storage_agrees : WebGpu.storage.Agrees WebGpu.guarded where
  allocate := rfl
  deallocate := rfl
  copyToDevice device hstored hfits := WebGpu.guarded_copyToDevice hstored device hfits
  copyFromDevice device hstored := WebGpu.guarded_copyFromDevice hstored device

/-- Every program on buffers is answered as a shelf of shared lists allows, and what it holds in the
end stands for what is left on the shelf. On a WebGPU device no transfer passes the end of a buffer. -/
theorem buffers_share_lists :
    (∀ (w : Emulated.World) (requests : List Emulated.Request), w.AtRest →
      let run := Effect.performAll Emulated.Request.carryOut requests (.initial w)
      ∃ shelf, Effect.Allowed Emulated.Allows .empty requests run.1 shelf ∧
        Represents Emulated.storage 0 shelf run.2) ∧
    (∀ (v : WebGpu.World) (requests : List (BufferRequest WebGpu.Device)),
      v.Ready (requests.map BufferRequest.making).sum →
      let run := Effect.performAll (BufferRequest.carryOut WebGpu.backend) requests (.initial v)
      (∃ shelf, Effect.Allowed (Shelf.Allows WebGpu.storage.Tight) .empty requests run.1 shelf ∧
        Represents WebGpu.storage 0 shelf run.2) ∧
      Effect.performAll (BufferRequest.carryOut WebGpu.guarded) requests (.initial v) = run) := by
  refine ⟨?_, ?_⟩
  · intro w requests hrest
    exact Emulated.answered_requests requests (Represents.initial hrest)
  · intro v requests hready
    have hinitial : Represents WebGpu.storage (0 + (requests.map BufferRequest.making).sum) .empty
        (Holdings.initial v) := by
      rw [Nat.zero_add]
      exact Represents.initial hready
    exact ⟨answered_performAll requests hinitial,
      WebGpu.storage_agrees.performAll_eq requests hinitial⟩

/-- Two floats, a clone of their handle, and a write of one float through the clone, which goes away
before the first handle is read. -/
def shortProgram {Device : Type} (device : Device) : List (BufferRequest Device) :=
  let two : Elements := ⟨.f32, [[1, 2, 3, 4], [5, 6, 7, 8]], by decide⟩
  let one : Elements := ⟨.f32, [[9, 9, 9, 9]], by decide⟩
  [.make device (.ofElements two), .clone 0, .write 1 one, .drop 1, .read 0 .f32]

/-- The same, and a copy of the first float to a list of zeros. -/
def shortProgramWithCopy : List Emulated.Request :=
  (shortProgram .standard).map .onBuffers ++
    [.onBuffers (.make .standard (.zeros .f32 2)), .copy .standard 0 2 1, .onBuffers (.read 2 .f32)]

theorem buffers_share_lists_short :
    let w : Emulated.World := .initial .prompt
    let v : WebGpu.World := .initial (fun _ => .noop) 1
    let run := Effect.performAll Emulated.Request.carryOut shortProgramWithCopy (.initial w)
    let first : WebGpu.Device := .ofIndex 0
    let run' :=
      Effect.performAll (BufferRequest.carryOut WebGpu.backend) (shortProgram first) (.initial v)
    (w.AtRest ∧
      run.1 =
        [.ok (.handle 0), .ok (.handle 1), .ok .done, .ok .done,
          .ok (.bytes [9, 9, 9, 9, 5, 6, 7, 8]), .ok (.handle 2), .ok (.copied .scalar), .ok (.bytes [9, 9, 9, 9, 0, 0, 0, 0])] ∧
      ∃ shelf, Effect.Allowed Emulated.Allows .empty shortProgramWithCopy run.1 shelf) ∧
    (v.Ready 1 ∧
      run'.1 =
        [.ok (.handle 0), .ok (.handle 1), .ok .done, .ok .done,
          .ok (.bytes [9, 9, 9, 9, 5, 6, 7, 8])] ∧
      (∃ shelf, Effect.Allowed (Shelf.Allows WebGpu.storage.Tight) .empty (shortProgram first)
        run'.1 shelf) ∧
      Effect.performAll (BufferRequest.carryOut WebGpu.guarded) (shortProgram first) (.initial v) =
        run') := by
  intro w v run first run'
  have hrest : w.AtRest := .initial Placement.ascending_lawful
  have hready : v.Ready 1 := ⟨Nat.one_pos, (by decide : 1 + 1 < wordLimit)⟩
  obtain ⟨shelf, hallowed, -⟩ := buffers_share_lists.1 w shortProgramWithCopy hrest
  obtain ⟨⟨shelf', hallowed', -⟩, hguarded⟩ := buffers_share_lists.2 v (shortProgram first) hready
  exact ⟨⟨hrest, by decide +kernel, shelf, hallowed⟩,
    ⟨hready, by decide +kernel, ⟨shelf', hallowed'⟩, hguarded⟩⟩

/-! ## What requests leave alone -/

/-- A request after any others. If it fails, or if a handle stands for another list than the one it may
change, then reads through the handle answer after it as they would have before. -/
theorem requests_leave_other_lists :
    (∀ (w : Emulated.World) (requests : List Emulated.Request) (request : Emulated.Request), w.AtRest →
      let before := (Effect.performAll Emulated.Request.carryOut requests (.initial w)).2
      let result := request.carryOut.perform before
      ∀ handle id, before.handles.target handle = some id → result.2.handles.target handle = some id →
        ((∃ failure, result.1 = .error failure) ∨
          ∀ other, request.written? = some other → before.handles.target other ≠ some id) →
        before.SameReads Emulated.backend handle result.2) ∧
    (∀ (v : WebGpu.World) (requests : List (BufferRequest WebGpu.Device))
      (request : BufferRequest WebGpu.Device),
      v.Ready (request.making + (requests.map BufferRequest.making).sum) →
      let before :=
        (Effect.performAll (BufferRequest.carryOut WebGpu.backend) requests (.initial v)).2
      let result := (request.carryOut WebGpu.backend).perform before
      ∀ handle id, before.handles.target handle = some id → result.2.handles.target handle = some id →
        ((∃ failure, result.1 = .error failure) ∨
          ∀ other, request.written? = some other → before.handles.target other ≠ some id) →
        before.SameReads WebGpu.backend handle result.2) := by
  refine ⟨?_, ?_⟩
  · intro w requests request hrest before result handle id htarget htarget' hleft
    -- A device at rest stays ready however many buffers are made.
    have hinitial : Represents Emulated.storage
        (0 + request.making + (requests.map Emulated.Request.making).sum) .empty
        (Holdings.initial w) := Represents.initial hrest
    obtain ⟨shelf, -, hrep⟩ := Emulated.answered_requests requests hinitial
    obtain ⟨shelf', hallows, hrep'⟩ := Emulated.answered_request request hrep
    refine hrep.sameReads hrep' htarget htarget' ?_
    rcases hleft with ⟨failure, hfailed⟩ | hother
    · rw [hallows.eq_of_error hfailed]
    · exact hallows.list_eq (hrep.lt_next htarget) (hrep.handles ▸ hother)
  · intro v requests request hready before result handle id htarget htarget' hleft
    have hinitial : Represents WebGpu.storage
        (0 + request.making + (requests.map BufferRequest.making).sum) .empty (Holdings.initial v) := by
      rw [Nat.zero_add]
      exact Represents.initial hready
    obtain ⟨shelf, -, hrep⟩ := answered_performAll requests hinitial
    obtain ⟨shelf', hallows, hrep'⟩ := answered_carryOut request hrep
    refine hrep.sameReads hrep' htarget htarget' ?_
    rcases hleft with ⟨failure, hfailed⟩ | hother
    · rw [hallows.eq_of_error hfailed]
    · exact hallows.list_eq (hrep.lt_next htarget) (hrep.handles ▸ hother)

end DeviceCopy
