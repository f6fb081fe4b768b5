import DeviceCopy.Proofs.Emulated.EntryPoints
import DeviceCopy.Proofs.Tables

/-!
# What steps leave alone

Most steps of a program change memory, flags and how far the lanes have got, and nothing else: the
system, the blocks in use, the lanes there are and the default clients stay (`World.SameOutline`). The
others open a lane, allocate or deallocate (`World.Step.outline_cases`).

So a default client keeps the lane it was opened with and the limits it was asked for:
`World.DefaultsOpen` holds of every reachable world.
-/

set_option autoImplicit false

namespace DeviceCopy

namespace Emulated

namespace World

variable {start w w' : World}

/-! ## Steps that keep the outline -/

/-- Two worlds on one system with the same blocks in use, as many lanes and the same default
clients. -/
structure SameOutline (w w' : World) : Prop where
  environment : w'.environment = w.environment
  heap : w'.heap = w.heap
  size : w'.lanes.size = w.lanes.size
  defaults : w'.defaults = w.defaults

theorem SameOutline.refl (w : World) : w.SameOutline w := ⟨rfl, rfl, rfl, rfl⟩

theorem SameOutline.trans {w'' : World} (h : w.SameOutline w') (h' : w'.SameOutline w'') :
    w.SameOutline w'' :=
  ⟨h'.environment.trans h.environment, h'.heap.trans h.heap, h'.size.trans h.size,
    h'.defaults.trans h.defaults⟩

theorem SameClients.sameOutline (h : w.SameClients w') : w.SameOutline w' :=
  ⟨h.environment, h.heap, h.size, h.defaults⟩

theorem sameOutline_putLane (w : World) (lane : Nat) (l : Lane) : w.SameOutline (w.putLane lane l) :=
  ⟨rfl, rfl, size_putLane w lane l, rfl⟩

theorem sameOutline_screen (client : Client) (launch : Launch) (w : World) :
    w.SameOutline (screen client launch w).2 := by
  cases hreport : client.rejection launch with
  | none =>
    rw [screen_of_admitted hreport]
    exact .refl w
  | some e =>
    rw [screen_of_rejected hreport]
    exact ⟨rfl, rfl, size_putLane w _ _, rfl⟩

theorem sameOutline_enqueue (client : Client) (launch : Launch) :
    Effect.Keeps (start.SameOutline ·) (enqueue client launch) := by
  unfold Emulated.enqueue
  cases launchFault launch with
  | some f => exact .giveUp f
  | none =>
    refine .update ?_
    intro w h
    cases hreport : client.rejection launch with
    | none =>
      rw [screen_of_admitted hreport]
      have hsubmitted := (sameClients_submit w client.lane launch).trans (sameClients_progress _)
      exact h.trans hsubmitted.sameOutline
    | some e =>
      have hscreened := sameOutline_screen client launch w
      rw [screen_of_rejected hreport] at hscreened ⊢
      exact h.trans hscreened

theorem sameOutline_checkLastError (client : Client) :
    Effect.Keeps (start.SameOutline ·) (checkLastError client) := by
  intro w h
  have htaken : w.SameOutline (takeError client w).2 := by
    rw [takeError_eq]
    exact sameOutline_putLane w _ _
  exact h.trans htaken

theorem sameOutline_synchronize (client : Client) :
    Effect.Keeps (start.SameOutline ·) (synchronize client) := by
  intro w h
  have hdrained : w.SameOutline (w.progress.drain client.lane) :=
    ((sameClients_progress w).trans (sameClients_workThrough w.progress client.lane _)).sameOutline
  rw [perform_synchronize]
  exact h.trans (hdrained.trans (sameOutline_putLane _ _ _))

theorem sameOutline_drainDefaults : Effect.Keeps (start.SameOutline ·) drainDefaults := by
  unfold drainDefaults
  refine .bind (.inspect World.defaults) ?_
  intro defaults
  refine .forM ?_ defaults
  intro entry
  exact sameOutline_synchronize entry.2

theorem sameOutline_copyToDevice (bytes : Bytes) (pointer : Nat) :
    Effect.Keeps (start.SameOutline ·) (copyToDevice bytes pointer) := by
  unfold Emulated.copyToDevice
  split
  · exact .pure ()
  · split
    · exact .fail _
    · refine .bind sameOutline_drainDefaults (fun _ => .update ?_)
      exact fun _ h => ⟨h.environment, h.heap, h.size, h.defaults⟩

theorem sameOutline_copyFromDevice (pointer : Nat) (host : Bytes) :
    Effect.Keeps (start.SameOutline ·) (copyFromDevice pointer host) := by
  unfold Emulated.copyFromDevice
  split
  · exact .pure host
  · split
    · exact .fail _
    · exact .bind sameOutline_drainDefaults (fun _ => .inspect _)

/-- A step of a program keeps the outline, or it opens a lane, allocates or deallocates. -/
theorem Step.outline_cases (h : Step w w') :
    w.SameOutline w' ∨ (∃ hasWorker device, w' = (w.openLane hasWorker device).2) ∨
    (∃ device, w' = (w.defaultClient device).2) ∨
    (∃ size, w' = ((Emulated.allocate size).perform w).2) ∨
    ∃ pointer size, w' = Emulated.deallocate pointer size w := by
  cases h with
  | openLane hasWorker device => exact Or.inr (Or.inl ⟨hasWorker, device, rfl⟩)
  | defaultClient device => exact Or.inr (Or.inr (Or.inl ⟨device, rfl⟩))
  | allocate size => exact Or.inr (Or.inr (Or.inr (Or.inl ⟨size, rfl⟩)))
  | deallocate pointer size => exact Or.inr (Or.inr (Or.inr (Or.inr ⟨pointer, size, rfl⟩)))
  | closeLane lane => exact Or.inl (sameClients_workThrough w lane _).sameOutline
  | work lane => exact Or.inl (sameClients_work w lane).sameOutline
  | tell event => exact Or.inl ⟨rfl, rfl, rfl, rfl⟩
  | enqueue client launch => exact Or.inl (sameOutline_enqueue client launch w (.refl w))
  | checkLastError client => exact Or.inl (sameOutline_checkLastError client w (.refl w))
  | synchronize client => exact Or.inl (sameOutline_synchronize client w (.refl w))
  | copyToDevice bytes pointer => exact Or.inl (sameOutline_copyToDevice bytes pointer w (.refl w))
  | copyFromDevice pointer host => exact Or.inl (sameOutline_copyFromDevice pointer host w (.refl w))

/-! ## Opening lanes -/

theorem openLane_outline (hasWorker : Bool) (device : Device) (w : World) :
    (w.openLane hasWorker device).1 = { lane := w.lanes.size, device } ∧
      (w.openLane hasWorker device).2.environment = w.environment ∧
      (w.openLane hasWorker device).2.heap = w.heap ∧
      (w.openLane hasWorker device).2.lanes.size = w.lanes.size + 1 ∧
      (w.openLane hasWorker device).2.defaults = w.defaults := by
  cases hasWorker with
  | true => exact ⟨rfl, rfl, rfl, Array.size_push _, rfl⟩
  | false => exact ⟨rfl, rfl, rfl, Array.size_push _, rfl⟩

/-- Asking for a default client changes neither the system nor the blocks in use. -/
theorem defaultClient_outline (device : Device) (w : World) :
    (w.defaultClient device).2.environment = w.environment ∧
      (w.defaultClient device).2.heap = w.heap := by
  unfold World.defaultClient
  cases w.defaults.lookup device.limits with
  | some client => exact ⟨rfl, rfl⟩
  | none =>
    obtain ⟨-, henvironment, hheap, -, -⟩ :=
      openLane_outline (w.environment.grantsWorker w.lanes.size) device w
    exact ⟨henvironment, hheap⟩

/-! ## Allocating and deallocating -/

/-- An allocation needs no memory, or is declined, or occupies a block where the system places it. -/
theorem allocate_cases (size : Nat) (w : World) :
    (size = 0 ∧ (allocate size).perform w = (.ok 0, w)) ∨
    (0 < size ∧ (allocate size).perform w = (.error (.error (.outOfMemory size)), w)) ∨
    (∃ address, 0 < size ∧ size ≤ maxBlockSize ∧ w.environment.place w.heap size = some address ∧
      (allocate size).perform w = (.ok address,
        { w with
          memory := w.memory.clear address size
          heap := w.heap.occupy { address, size } })) := by
  unfold allocate
  rw [Effect.perform_ofFun]
  by_cases hzero : size = 0
  · exact Or.inl ⟨hzero, if_pos hzero⟩
  · have hpos := Nat.pos_of_ne_zero hzero
    rw [if_neg hzero]
    by_cases hlarge : maxBlockSize < size
    · exact Or.inr (Or.inl ⟨hpos, if_pos hlarge⟩)
    · rw [if_neg hlarge]
      cases hplace : w.environment.place w.heap size with
      | none => exact Or.inr (Or.inl ⟨hpos, rfl⟩)
      | some address =>
        exact Or.inr (Or.inr ⟨address, hpos, Nat.le_of_not_lt hlarge, rfl, rfl⟩)

/-- Allocating does not touch the lanes. -/
theorem allocate_outline (size : Nat) (w : World) :
    ((allocate size).perform w).2.environment = w.environment ∧
      ((allocate size).perform w).2.lanes = w.lanes ∧
      ((allocate size).perform w).2.defaults = w.defaults := by
  rcases allocate_cases size w with ⟨-, hperform⟩ | ⟨-, hperform⟩ | ⟨address, -, -, -, hperform⟩
  all_goals rw [hperform]; exact ⟨rfl, rfl, rfl⟩

/-- Deallocating does not touch the lanes. -/
theorem deallocate_outline (pointer size : Nat) (w : World) :
    (deallocate pointer size w).environment = w.environment ∧
      (deallocate pointer size w).lanes = w.lanes ∧
      (deallocate pointer size w).defaults = w.defaults := by
  unfold Emulated.deallocate
  split
  · exact ⟨rfl, rfl, rfl⟩
  · split
    · exact ⟨rfl, rfl, rfl⟩
    · exact ⟨rfl, rfl, rfl⟩

/-! ## Default clients -/

/-- Every default client is on a lane there is, and is held to the limits it is kept under. -/
structure DefaultsOpen (w : World) : Prop where
  lane : ∀ entry ∈ w.defaults, entry.2.lane < w.lanes.size
  limits : ∀ entry ∈ w.defaults, entry.2.device.limits = entry.1

theorem DefaultsOpen.of_le (h : w.DefaultsOpen) (hdefaults : w'.defaults = w.defaults)
    (hsize : w.lanes.size ≤ w'.lanes.size) : w'.DefaultsOpen := by
  refine ⟨?_, ?_⟩
  · rw [hdefaults]
    exact fun entry hentry => (h.lane entry hentry).trans_le hsize
  · rw [hdefaults]
    exact h.limits

/-- The default client of a device is on a lane there is, and is held to the limits of the device. -/
theorem DefaultsOpen.defaultClient (h : w.DefaultsOpen) (device : Device) :
    (w.defaultClient device).2.DefaultsOpen ∧
      (device.limits, (w.defaultClient device).1) ∈ (w.defaultClient device).2.defaults := by
  unfold World.defaultClient
  cases hlookup : w.defaults.lookup device.limits with
  | some client => exact ⟨h, Table.mem_of_lookup hlookup⟩
  | none =>
    obtain ⟨hclient, -, -, hsize, hdefaults⟩ :=
      openLane_outline (w.environment.grantsWorker w.lanes.size) device w
    simp only [World.newClient, hclient, hdefaults]
    refine ⟨⟨?_, ?_⟩, List.mem_append_right _ List.mem_cons_self⟩
    · intro entry hentry
      rw [hsize]
      rcases List.mem_append.mp hentry with hold | hnew
      · exact Nat.lt_succ_of_lt (h.lane entry hold)
      · rw [List.mem_singleton.mp hnew]
        exact Nat.lt_succ_self _
    · intro entry hentry
      rcases List.mem_append.mp hentry with hold | hnew
      · exact h.limits entry hold
      · rw [List.mem_singleton.mp hnew]

theorem Reachable.defaultsOpen (h : Reachable w) : w.DefaultsOpen := by
  induction h with
  | initial environment =>
    exact ⟨fun _ h => absurd h List.not_mem_nil, fun _ h => absurd h List.not_mem_nil⟩
  | @next w w' _ hstep ih =>
    rcases hstep.outline_cases with hsame | ⟨hasWorker, device, rfl⟩ | ⟨device, rfl⟩ | ⟨size, rfl⟩ |
      ⟨pointer, size, rfl⟩
    · exact ih.of_le hsame.defaults hsame.size.ge
    · obtain ⟨-, -, -, hsize, hdefaults⟩ := openLane_outline hasWorker device w
      exact ih.of_le hdefaults (hsize ▸ Nat.le_succ _)
    · exact (ih.defaultClient device).1
    · obtain ⟨-, hlanes, hdefaults⟩ := allocate_outline size w
      exact ih.of_le hdefaults (hlanes ▸ le_rfl)
    · obtain ⟨-, hlanes, hdefaults⟩ := deallocate_outline pointer size w
      exact ih.of_le hdefaults (hlanes ▸ le_rfl)

end World

end Emulated

end DeviceCopy
