import DeviceCopy.Proofs.Buffers.Housing
import DeviceCopy.Proofs.WebGpu.Requests

/-!
# Registered buffers as memory of their own

As long as the counter of handles does not come round, a registered buffer stays registered until it
is given back, whatever is transferred. So giving back a buffer that is in use never meets a handle
that nothing is registered under (`World.unknownReleases`).
-/

set_option autoImplicit false

namespace DeviceCopy

namespace WebGpu

variable {rooms : Nat} {w w' : World} {device : Device} {handle size : Nat}

/-! ## Transfers leave buffers registered -/

/-- The counter has room, and what was registered still is. -/
structure World.Sheltered (rooms : Nat) (start w : World) : Prop where
  ready : w.Ready rooms
  stored : ∀ p n, start.registry.Stored p n → w.registry.Stored p n

namespace World.Sheltered

variable {start : World}

theorem refl (h : w.Ready rooms) : w.Sheltered rooms w := ⟨h, fun _ _ hstored => hstored⟩

theorem of_registry_eq (h : start.Sheltered rooms w) (hregistry : w'.registry = w.registry) :
    start.Sheltered rooms w' := by
  refine ⟨h.ready.of_next_eq (congrArg Registry.next hregistry), ?_⟩
  rw [hregistry]
  exact h.stored

theorem defaultClient (h : start.Sheltered rooms w) (device : Device) :
    start.Sheltered rooms (w.defaultClient device).2 :=
  h.of_registry_eq (registry_defaultClient device w)

theorem modify (h : start.Sheltered rooms w) (handle : Nat) (f : Memory → Memory) :
    start.Sheltered rooms { w with registry := w.registry.modify handle f } :=
  ⟨h.ready.of_next_eq rfl, fun p n hstored => ((h.stored p n hstored).modify handle f).1⟩

end World.Sheltered

theorem keeps_sheltered_copyToDevice (start : World) (device : Device) (bytes : Bytes) (handle : Nat) :
    Effect.Keeps (start.Sheltered rooms) (copyToDevice device bytes handle) := by
  unfold copyToDevice
  split
  · exact .pure ()
  · refine .bind (.update (fun _ h => h.defaultClient device)) (fun _ => ?_)
    refine .bind (.bind (World.keeps_requireBuffer "dst" handle) (fun _ => .pure _)) (fun _ => ?_)
    exact .update (fun _ h => h.modify handle _)

theorem keeps_sheltered_copyFromDevice (start : World) (device : Device) (handle : Nat) (host : Bytes) :
    Effect.Keeps (start.Sheltered rooms) (copyFromDevice device handle host) :=
  World.keeps_copyFromDevice (fun device _ h => h.defaultClient device) device handle host

/-- Registered buffers are apart, each under a handle of its own. -/
def housing : Housing backend where
  Ready := World.Ready
  Stored w := w.registry.Stored
  ready_pred := storage.ready_pred
  pointer_eq_zero_iff := storage.pointer_eq_zero_iff
  allocate_ok hready hallocate := by
    obtain ⟨hready', hstored, hkept⟩ := storage_allocate_ok hready hallocate
    exact ⟨hready', hstored, fun p n hp => ⟨(hkept p n hp).1, (hkept p n hp).2.1⟩⟩
  allocate_error hready hallocate := by
    obtain ⟨-, hready', hkept⟩ := storage_allocate_error hready hallocate
    exact ⟨hready', fun p n hp => (hkept p n hp).1⟩
  copyToDevice device bytes pointer hready := by
    have hkept := keeps_sheltered_copyToDevice _ device bytes pointer _ (.refl hready)
    exact ⟨hkept.ready, hkept.stored⟩
  copyFromDevice device pointer host hready := by
    have hkept := keeps_sheltered_copyFromDevice _ device pointer host _ (.refl hready)
    exact ⟨hkept.ready, hkept.stored⟩
  deallocate device hready _ hpointer := by
    obtain ⟨hready', hkept⟩ := storage_deallocate device hready hpointer
    exact ⟨hready', fun p n hp hne => (hkept p n hp hne).1⟩

/-! ## Handles that name no buffer -/

/-- The handle of a release that found nothing registered. -/
def unknownHandle? : Event → Option Nat
  | .unknownBuffer handle => some handle
  | _ => none

/-- The handles of the releases that found nothing registered. -/
def World.unknownReleases (w : World) : List Nat := w.events.toList.filterMap unknownHandle?

theorem unknownReleases_tell (event : Event) (w : World) :
    (w.tell event).unknownReleases = w.unknownReleases ++ (unknownHandle? event).toList := by
  unfold World.unknownReleases World.tell
  rw [Array.toList_push, List.filterMap_append]
  cases hevent : unknownHandle? event with
  | none => simp [hevent]
  | some handle => simp [hevent]

theorem unknownReleases_defaultClient (device : Device) (w : World) :
    (w.defaultClient device).2.unknownReleases = w.unknownReleases := by
  unfold World.defaultClient
  cases w.defaults.lookup device.index with
  | some client => rfl
  | none =>
    -- A client that is opened is told about, and that is no release.
    have htold := unknownReleases_tell
      (.clientCreated device.index (w.adapterAt device.index).name
        (w.adapterAt device.index).limits.launchLimits.maxGroups)
      { w with queues := w.queues.push { flag := .clear, pipelines := .empty, submissions := [] } }
    exact htold.trans (List.append_nil _)

/-- A handle that a buffer is stored under is known. -/
theorem Registry.Stored.contains {r : Registry} (h : r.Stored handle size) (hhandle : handle ≠ 0) :
    r.contains handle = true := by
  rcases h with ⟨hnull, -⟩ | ⟨-, -, -, buffer, hbuffer, -⟩
  · exact absurd hnull hhandle
  · exact List.any_eq_true.mpr ⟨(handle, buffer), Table.mem_of_lookup hbuffer, beq_self_eq_true handle⟩

theorem unknownReleases_deallocateOn (device : Device) (h : w.registry.Stored handle size) :
    (deallocateOn device handle w).unknownReleases = w.unknownReleases := by
  unfold deallocateOn deallocate
  split
  · rfl
  · next hhandle =>
    have hknown : (w.defaultClient device).2.registry.contains handle = true := by
      rw [registry_defaultClient]
      exact h.contains hhandle
    simp only [hknown, if_true]
    exact unknownReleases_defaultClient device w

/-- No request of a program finds a handle that it wants to release unknown. -/
theorem unknownReleases_step {e e' : Estate World Device} {request : BufferRequest Device}
    {answer : Except Failure BufferAnswer} (h : housing.Houses (rooms + request.making) e)
    (hstep : Estate.Step backend e request answer e') :
    e'.world.unknownReleases = e.world.unknownReleases := by
  let P (w : World) : Prop := w.unknownReleases = e.world.unknownReleases
  have hregistry : ∀ (w : World) (registry : Registry), P w → P { w with registry } := fun _ _ hw => hw
  have hclient : ∀ (device : Device) (w : World), P w → P (w.defaultClient device).2 :=
    fun device w hw => (unknownReleases_defaultClient device w).trans hw
  refine h.step_keeps (P := P) (World.keeps_allocateOn hregistry hclient)
    (World.keeps_copyToDevice hregistry hclient) (World.keeps_copyFromDevice hclient) ?_ hstep rfl
  intro w buffer hholds hw
  unfold Buffer.release
  split
  · exact hw
  · exact (unknownReleases_deallocateOn buffer.device hholds).trans hw

end WebGpu

end DeviceCopy
