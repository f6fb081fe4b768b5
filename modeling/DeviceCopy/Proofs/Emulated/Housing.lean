import DeviceCopy.Proofs.Buffers.Housing
import DeviceCopy.Proofs.Emulated.Blocks

/-!
# Blocks as memory of their own

On a system that places memory lawfully the blocks in use are apart, whatever runs on the device.

To give memory back the device has to be told a size that a block can have. A buffer keeps the size
it was made with, so a program on buffers never brings the device to tell of anything
(`Silent.step`), wherever the system places its memory.
-/

set_option autoImplicit false

namespace DeviceCopy

namespace Emulated

variable {w w' : World} {pointer size : Nat}

/-! ## Blocks stay in use -/

/-- Blocks in use are apart, and the system is going to place others clear of them. -/
structure World.Lawful (w : World) : Prop where
  heap : w.heap.Sound
  place : w.environment.place.Lawful

theorem World.SameOutline.lawful (h : w.SameOutline w') (hlawful : w.Lawful) :
    w'.Lawful ∧ ∀ p n, w.Stored p n → w'.Stored p n := by
  refine ⟨⟨?_, ?_⟩, fun p n hstored => ?_⟩
  · rw [h.heap]
    exact hlawful.heap
  · rw [h.environment]
    exact hlawful.place
  · unfold Stored
    rw [h.heap]
    exact hstored

theorem housing_allocate_ok (hlawful : w.Lawful)
    (h : (allocate size).perform w = (.ok pointer, w')) :
    w'.Lawful ∧ w'.Stored pointer size ∧
      ∀ p n, w.Stored p n → (p = pointer → p = 0) ∧ w'.Stored p n := by
  rcases World.allocate_cases size w with ⟨hempty, hperform⟩ | ⟨-, hperform⟩ |
    ⟨address, hpos, hle, hplace, hperform⟩
  · rw [hperform] at h
    cases h
    exact ⟨hlawful, Or.inl ⟨hempty, rfl⟩, fun p n hstored => ⟨id, hstored⟩⟩
  · rw [hperform] at h
    cases h
  · rw [hperform] at h
    cases h
    have hsound := hlawful.heap.place hlawful.place hpos hle hplace
    refine ⟨⟨hsound, hlawful.place⟩, Or.inr List.mem_cons_self, fun p n hstored => ?_⟩
    refine ⟨fun heq => ?_, hstored.imp id (List.mem_cons_of_mem _)⟩
    rcases hstored with ⟨-, hnull⟩ | hlive
    · exact hnull
    · exact absurd heq (hsound.apart_of_occupy hlive).2

theorem housing_allocate_error (hlawful : w.Lawful) {failure : Failure}
    (h : (allocate size).perform w = (.error failure, w')) :
    w'.Lawful ∧ ∀ p n, w.Stored p n → w'.Stored p n := by
  rcases World.allocate_cases size w with
    ⟨-, hperform⟩ | ⟨-, hperform⟩ | ⟨address, -, -, -, hperform⟩
  · rw [hperform] at h
    cases h
  · rw [hperform] at h
    cases h
    exact ⟨hlawful, fun p n hstored => hstored⟩
  · rw [hperform] at h
    cases h

theorem housing_deallocate (hlawful : w.Lawful) :
    (deallocate pointer size w).Lawful ∧
      ∀ p n, w.Stored p n → p ≠ pointer → (deallocate pointer size w).Stored p n := by
  obtain ⟨henvironment, -, -⟩ := World.deallocate_outline pointer size w
  have hheap := World.heapSound_deallocate hlawful.heap pointer size
  refine ⟨⟨hheap, henvironment ▸ hlawful.place⟩, fun p n hstored hne => ?_⟩
  refine hstored.imp id (fun hlive => ?_)
  unfold deallocate
  split
  · exact hlive
  · split
    · exact hlive
    · exact List.mem_filter.mpr ⟨hlive, by simpa using hne⟩

/-- The address space, whatever runs on the device. -/
def housing : Housing backend where
  Ready _ := World.Lawful
  Stored := World.Stored
  ready_pred := id
  pointer_eq_zero_iff hlawful hstored := hstored.pointer_eq_zero_iff hlawful.heap
  allocate_ok hlawful hallocate := housing_allocate_ok hlawful hallocate
  allocate_error hlawful hallocate := housing_allocate_error hlawful hallocate
  copyToDevice _ bytes pointer hlawful :=
    (World.sameOutline_copyToDevice bytes pointer _ (.refl _)).lawful hlawful
  copyFromDevice _ pointer host hlawful :=
    (World.sameOutline_copyFromDevice pointer host _ (.refl _)).lawful hlawful
  deallocate _ hlawful _ _ := housing_deallocate hlawful

/-! ## Sizes that blocks can have -/

/-- A buffer can be given back: it has no memory, or a size that a block can have. -/
def Returnable (pointer size : Nat) : Prop := pointer = 0 ∨ size ≤ maxBlockSize

theorem events_allocate (size : Nat) (w : World) :
    ((allocate size).perform w).2.events = w.events ∧
      ∀ pointer, ((allocate size).perform w).1 = .ok pointer → Returnable pointer size := by
  rcases World.allocate_cases size w with ⟨-, hperform⟩ | ⟨-, hperform⟩ |
    ⟨address, -, hle, -, hperform⟩
  · rw [hperform]
    refine ⟨rfl, fun pointer heq => ?_⟩
    cases heq
    exact Or.inl rfl
  · rw [hperform]
    exact ⟨rfl, nofun⟩
  · rw [hperform]
    exact ⟨rfl, fun _ _ => Or.inr hle⟩

theorem events_deallocate (h : Returnable pointer size) (w : World) :
    (deallocate pointer size w).events = w.events := by
  unfold deallocate
  split
  · rfl
  · next hnontrivial =>
    have hsize : size ≤ maxBlockSize := h.resolve_left (fun hnull => hnontrivial (Or.inl hnull))
    rw [if_neg (Nat.not_lt.mpr hsize)]

section Keeping

variable (start : Array Event)

theorem keeps_events_drainDefaults : Effect.Keeps (fun w => w.events = start) drainDefaults := by
  unfold drainDefaults
  refine .bind (.inspect World.defaults) (fun defaults => .forM (fun entry => ?_) defaults)
  intro w h
  have hdrained : (w.progress.drain entry.2.lane).events = w.events :=
    ((World.sameClients_progress w).trans (World.sameClients_workThrough w.progress _ _)).events
  rw [perform_synchronize]
  exact hdrained.trans h

theorem keeps_events_copyToDevice (bytes : Bytes) (pointer : Nat) :
    Effect.Keeps (fun w => w.events = start) (copyToDevice bytes pointer) := by
  unfold copyToDevice
  split
  · exact .pure ()
  · split
    · exact .fail _
    · exact .bind (keeps_events_drainDefaults start) (fun _ => .update (fun _ h => h))

theorem keeps_events_copyFromDevice (pointer : Nat) (host : Bytes) :
    Effect.Keeps (fun w => w.events = start) (copyFromDevice pointer host) := by
  unfold copyFromDevice
  split
  · exact .pure host
  · split
    · exact .fail _
    · exact .bind (keeps_events_drainDefaults start) (fun _ => .inspect _)

end Keeping

/-- Nothing has been told since the start, and every buffer can be given back. -/
structure Silent (start : Array Event) (e : Estate World Device) : Prop where
  events : e.world.events = start
  returnable : ∀ {id buffer}, e.owned id = some buffer → Returnable buffer.pointer buffer.sizeInBytes

namespace Silent

variable {start : Array Event} {e e' : Estate World Device}

theorem of_world (h : Silent start e) (hevents : w'.events = start) (handles : Handles) :
    Silent start ⟨w', e.owned, handles⟩ :=
  ⟨hevents, h.returnable⟩

theorem release {buffer : Buffer Device} (hevents : w.events = start)
    (h : Returnable buffer.pointer buffer.sizeInBytes) : (buffer.release backend w).events = start := by
  unfold Buffer.release
  split
  · exact hevents
  · exact (events_deallocate h w).trans hevents

/-- What is made can be given back, and what cannot be filled is given back without a word. -/
theorem made {device : Device} {plan : BufferPlan} {result : Except Failure (Buffer Device) × World}
    (hevents : w.events = start) (h : BufferPlan.Making backend device plan w result) :
    result.2.events = start ∧
      ∀ buffer, result.1 = .ok buffer → Returnable buffer.pointer buffer.sizeInBytes := by
  have hallocated : ((allocate plan.size).perform w).2.events = start ∧ _ :=
    ⟨(events_allocate plan.size w).1.trans hevents, (events_allocate plan.size w).2⟩
  cases h with
  | tooLarge _ => exact ⟨hevents, nofun⟩
  | declined _ hallocate =>
    have hperform : (allocate plan.size).perform w = _ := hallocate
    rw [hperform] at hallocated
    exact ⟨hallocated.1, nofun⟩
  | granted _ hallocate hfill =>
    have hperform : (allocate plan.size).perform w = _ := hallocate
    rw [hperform] at hallocated
    have hreturnable := hallocated.2 _ rfl
    cases hfill with
    | nothingToFill =>
      refine ⟨hallocated.1, fun buffer heq => ?_⟩
      cases heq
      exact hreturnable
    | filled hcopy =>
      refine ⟨(keeps_events_copyToDevice start _ _).after hcopy hallocated.1, fun buffer heq => ?_⟩
      cases heq
      exact hreturnable
    | givenBack hcopy =>
      refine ⟨release ?_ hreturnable, nofun⟩
      exact (keeps_events_copyToDevice start _ _).after hcopy hallocated.1

/-- A program on buffers does not bring the device to tell of anything. -/
theorem step {request : BufferRequest Device} {answer : Except Failure BufferAnswer}
    (h : Silent start e) (hstep : Estate.Step backend e request answer e') : Silent start e' := by
  cases hstep with
  | made device plan hmake hfresh =>
    obtain ⟨hevents, hbuffer⟩ := made h.events (plan.making backend device e.world)
    rw [hmake] at hevents hbuffer
    refine ⟨hevents, fun hfound => ?_⟩
    rcases owned_made hfound with ⟨-, rfl⟩ | ⟨-, hold⟩
    · exact hbuffer _ rfl
    · exact h.returnable hold
  | failed device plan hmake =>
    obtain ⟨hevents, -⟩ := made h.events (plan.making backend device e.world)
    rw [hmake] at hevents
    exact h.of_world hevents _
  | @written elements handle id buffer htarget howned =>
    have hkeeps : Effect.Keeps (fun w => w.events = start) (buffer.writing backend elements) :=
      Buffer.keeps_writing (fun bytes => keeps_events_copyToDevice start bytes buffer.pointer) elements
    exact h.of_world (hkeeps e.world h.events) _
  | @read dtype handle id buffer htarget howned =>
    have hkeeps : Effect.Keeps (fun w => w.events = start) (buffer.reading backend dtype) :=
      Buffer.keeps_reading (fun host => keeps_events_copyFromDevice start buffer.pointer host) dtype
    exact h.of_world (hkeeps e.world h.events) _
  | unknown hhandle hnone => exact h
  | cloned htarget howned => exact ⟨h.events, h.returnable⟩
  | dropped htarget hother hne => exact ⟨h.events, h.returnable⟩
  | released htarget howned hlast =>
    exact ⟨release h.events (h.returnable howned), fun hfound => h.returnable (owned_released hfound).2⟩

end Silent

end Emulated

end DeviceCopy
