import DeviceCopy.Proofs.Buffers.Lending
import DeviceCopy.Proofs.Emulated.Housing
import DeviceCopy.Proofs.WebGpu.Housing

/-!
# Memory comes back once

On any backend, whatever a program does with its buffers and whichever allocations and transfers fail:
memory that was granted is given back once, as much of it as was granted and to the device it is of.
That happens when the last handle on its buffer is dropped, or before the buffer fails to be made, and
when no handle is left no memory is out.

So the two ways in which a backend can find fault with what it is given back never come up: on the
emulated device a size that no block has, on a WebGPU device a handle that nothing is registered under.
-/

set_option autoImplicit false

namespace DeviceCopy

variable {World Device Client : Type}

/-! ## Buffers with handles -/

/-- The numbers that handles stand for, each once. -/
def Handles.targets (h : Handles) : List Nat := ((List.range h.next).filterMap h.target).dedup

theorem Handles.Given.mem_targets {h : Handles} (hgiven : h.Given) {id : Nat} :
    id ∈ h.targets ↔ ∃ handle, h.target handle = some id := by
  unfold Handles.targets
  rw [List.mem_dedup, List.mem_filterMap]
  constructor
  · rintro ⟨handle, -, htarget⟩
    exact ⟨handle, htarget⟩
  · rintro ⟨handle, htarget⟩
    exact ⟨handle, List.mem_range.mpr (hgiven.lt_next htarget), htarget⟩

theorem Holdings.Tallied.lists {h : Holdings World Device} (htallied : h.Tallied) :
    Lists h.owned h.handles.targets where
  nodup := List.nodup_dedup _
  mem_iff _ := htallied.given.mem_targets.trans (htallied.owned_iff).symm

/-- The memory of the buffers that handles stand for. -/
def Holdings.outstanding (h : Holdings World Device) : List (Lease Device) :=
  leasesOf h.owned h.handles.targets

theorem Holdings.outstanding_of_no_handles {h : Holdings World Device}
    (hnone : ∀ handle, h.handles.target handle = none) : h.outstanding = [] := by
  have htargets : h.handles.targets = [] := by
    unfold Handles.targets
    rw [List.filterMap_eq_nil_iff.mpr (fun handle _ => hnone handle)]
    rfl
  unfold outstanding
  rw [htargets]
  rfl

/-- What was granted and not given back is what the handles stand for, and no more was ever given
back. -/
structure Holdings.Accounted (h : Holdings (Watched World Device) Device) : Prop where
  justified : AtEvery LeaseEvent.Justified h.workspace.world.history
  counted : ∀ lease ∈ lentIn h.workspace.world.history, lease.size < wordLimit
  balanced : (lentIn h.workspace.world.history).Perm
    (returnedIn h.workspace.world.history ++ h.outstanding)

theorem Estate.Settled.accounted {h : Holdings (Watched World Device) Device} (htallied : h.Tallied)
    (hsettled : h.estate.Settled) : h.Accounted := by
  obtain ⟨ids, hlists, hbalanced⟩ := hsettled.balanced
  refine ⟨hsettled.justified, hsettled.counted, ?_⟩
  exact hbalanced.trans ((hlists.leasesOf_perm htallied.lists).append_left _)

/-! ## Programs -/

/-- A program on a watched backend, from the start. -/
def runWatched (b : Backend World Device Client) (w : World) (requests : List (BufferRequest Device)) :
    List (Except Failure BufferAnswer) × Holdings (Watched World Device) Device :=
  Effect.performAll (BufferRequest.carryOut b.watched) requests
    (.initial { world := w, history := [] })

theorem runWatched_tallied (b : Backend World Device Client) (w : World)
    (requests : List (BufferRequest Device)) : (runWatched b w requests).2.Tallied :=
  ((Holdings.tallied_initial _).performAll b.watched requests).2

theorem runWatched_settled (b : Backend World Device Client) (w : World)
    (requests : List (BufferRequest Device)) : (runWatched b w requests).2.estate.Settled := by
  obtain ⟨hrun, -⟩ := (Holdings.tallied_initial _).performAll b.watched requests
  exact hrun.preserves (fun hstep hsettled => (hsettled.step hstep).1) (.initial w)

/-- Memory that is granted to a program on buffers is given back exactly once, with its size and to
its device, at the last drop or before an error; and no backend finds fault with it. -/
theorem memory_comes_back_once :
    (∀ {World Device Client : Type} (b : Backend World Device Client) (w : World)
        (requests : List (BufferRequest Device)),
      let run := runWatched b w requests
      (run.1 = (Effect.performAll (BufferRequest.carryOut b) requests (.initial w)).1 ∧
        run.2.unwatched = (Effect.performAll (BufferRequest.carryOut b) requests (.initial w)).2) ∧
      run.2.Accounted ∧
      ((∀ handle, run.2.handles.target handle = none) →
        (lentIn run.2.workspace.world.history).Perm (returnedIn run.2.workspace.world.history)) ∧
      ∀ request : BufferRequest Device,
        let next := (request.carryOut b.watched).perform run.2
        ∃ entries, next.2.workspace.world.history = entries ++ run.2.workspace.world.history ∧
          Entered run.2.estate next.2.estate request next.1 entries) ∧
    (∀ (w : Emulated.World) (requests : List (BufferRequest Emulated.Device)),
      (Effect.performAll (BufferRequest.carryOut Emulated.backend) requests
        (.initial w)).2.workspace.world.events = w.events) ∧
    (∀ (v : WebGpu.World) (requests : List (BufferRequest WebGpu.Device)),
      v.Ready (requests.map BufferRequest.making).sum →
      (Effect.performAll (BufferRequest.carryOut WebGpu.backend) requests
        (.initial v)).2.workspace.world.unknownReleases = v.unknownReleases) := by
  refine ⟨?_, ?_, ?_⟩
  · intro World Device Client b w requests run
    have htallied : run.2.Tallied := runWatched_tallied b w requests
    have hsettled : run.2.estate.Settled := runWatched_settled b w requests
    have haccounted := hsettled.accounted htallied
    refine ⟨Holdings.performAll_watched b requests _, haccounted, ?_, ?_⟩
    · intro hnone
      have hbalanced := haccounted.balanced
      rw [Holdings.outstanding_of_no_handles hnone, List.append_nil] at hbalanced
      exact hbalanced
    · intro request next
      exact (hsettled.step (htallied.step b.watched request).1).2
  · intro w requests
    obtain ⟨hrun, -⟩ := (Holdings.tallied_initial w).performAll Emulated.backend requests
    have hstart : Emulated.Silent w.events (Holdings.initial w : Holdings _ _).estate := ⟨rfl, nofun⟩
    have hsilent := hrun.preserves (fun hstep hsilent => hsilent.step hstep) hstart
    exact hsilent.events
  · intro v requests hready
    obtain ⟨hrun, -⟩ := (Holdings.tallied_initial v).performAll WebGpu.backend requests
    let P (rooms : Nat) (e : Estate WebGpu.World WebGpu.Device) : Prop :=
      WebGpu.housing.Houses rooms e ∧ e.world.unknownReleases = v.unknownReleases
    have hstart : P (0 + (requests.map BufferRequest.making).sum)
        (Holdings.initial v : Holdings _ _).estate := by
      refine ⟨.initial ?_, rfl⟩
      rw [Nat.zero_add]
      exact hready
    have hlast : P 0 _ := hrun.keeps (fun _ _ _ _ _ hstep hbefore =>
      ⟨hbefore.1.step hstep, (WebGpu.unknownReleases_step hbefore.1 hstep).trans hbefore.2⟩) 0 hstart
    exact hlast.2

/-- Two zeros and a clone of their handle: their memory is out until the second of the two drops. -/
def makeCloneDrop {Device : Type} (device : Device) : List (BufferRequest Device) :=
  [.make device (.zeros .f32 2), .clone 0, .drop 0, .drop 1]

theorem memory_comes_back_once_clone :
    let first : WebGpu.Device := .ofIndex 0
    let v : WebGpu.World := .initial (fun _ => .noop) 1
    let lease : Lease WebGpu.Device := { device := first, pointer := 1, size := 8 }
    let history (requests : List (BufferRequest WebGpu.Device)) :=
      (runWatched WebGpu.backend v requests).2.workspace.world.history
    (history ((makeCloneDrop first).take 3) = [.granted lease] ∧
      history (makeCloneDrop first) = [.returned lease, .granted lease]) ∧
    (lentIn (history (makeCloneDrop first))).Perm (returnedIn (history (makeCloneDrop first))) ∧
    v.Ready 1 ∧
    (Effect.performAll (BufferRequest.carryOut WebGpu.backend) (makeCloneDrop first)
      (.initial v)).2.workspace.world.unknownReleases = [] := by
  intro first v lease history
  have hready : v.Ready 1 := ⟨Nat.one_pos, (by decide : 1 + 1 < wordLimit)⟩
  obtain ⟨-, -, hnone, -⟩ := memory_comes_back_once.1 WebGpu.backend v (makeCloneDrop first)
  have hdropped : ∀ handle,
      (runWatched WebGpu.backend v (makeCloneDrop first)).2.handles.target handle = none := by
    intro handle
    have hgiven := (runWatched_tallied WebGpu.backend v (makeCloneDrop first)).given
    rcases Nat.lt_or_ge handle 2 with hlt | hge
    · have hboth : ∀ handle < 2,
          (runWatched WebGpu.backend v (makeCloneDrop first)).2.handles.target handle = none := by
        decide +kernel
      exact hboth handle hlt
    · exact hgiven handle hge
  exact ⟨⟨by decide +kernel, by decide +kernel⟩, hnone hdropped, hready,
    memory_comes_back_once.2.2 v (makeCloneDrop first) hready⟩

end DeviceCopy
