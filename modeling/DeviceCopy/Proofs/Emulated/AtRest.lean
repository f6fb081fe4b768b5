import DeviceCopy.Proofs.Emulated.CopyOutcome

/-!
# The emulated device at rest

A world is at rest (`World.AtRest`) while no job is left on any lane and no default client has a fault
or a launch error to report. Then waiting is only a moment passing, transfers move bytes and nothing
else, and the device keeps what it is given: `storage` is the address space with the blocks in use.

Opening a default client leaves a world at rest, and so does a checked copy by one, as it returns when
its job is done (`World.AtRest.copy`).
-/

set_option autoImplicit false

namespace DeviceCopy

/-! ## Bytes in one block and in another -/

/-- A block reads as before where bytes have changed only in a block that is apart from it. -/
theorem Memory.read_of_apart {m m' : Memory} {changed block : Block}
    (h : ∀ a, ¬ changed.Contains a → m'.get a = m.get a) (hapart : changed.Apart block) :
    m'.read block.address block.size = m.read block.address block.size := by
  apply List.ext_getElem?
  intro i
  rw [Memory.getElem?_read, Memory.getElem?_read]
  split
  · rw [h]
    rintro ⟨hbegin, hend⟩
    rcases hapart with hbefore | hafter
    · omega
    · omega
  · rfl

theorem Memory.read_write_apart (m : Memory) {data : Bytes} {block : Block} {address : Nat}
    (h : Block.Apart ⟨address, data.length⟩ block) :
    (m.write address data).read block.address block.size = m.read block.address block.size := by
  refine Memory.read_of_apart (fun a hout => ?_) h
  rw [Memory.get_write]
  exact if_neg hout

theorem Memory.read_clear_apart (m : Memory) {address size : Nat} {block : Block}
    (h : Block.Apart ⟨address, size⟩ block) :
    (m.clear address size).read block.address block.size = m.read block.address block.size := by
  unfold Memory.clear
  refine Memory.read_write_apart m (h.mono ?_ (Nat.le_refl _))
  rw [List.length_replicate]
  exact Nat.min_le_left _ _

namespace Emulated

variable {w w' : World} {client : Client}

/-! ## Waiting where there is nothing to wait for -/

namespace World

theorem putLane_laneAt (w : World) (lane : Nat) : w.putLane lane (w.laneAt lane) = w := by
  unfold putLane
  rcases Nat.lt_or_ge lane w.lanes.size with hlt | hge
  · have hlane : w.laneAt lane = w.lanes[lane] := laneAt_of_getElem? (Array.getElem?_eq_getElem hlt)
    simp [hlane, Array.setIfInBounds, hlt]
  · rw [Array.setIfInBounds_eq_of_size_le hge]

theorem foldl_advance_of_idle (moment : Nat) (lanes : List Nat)
    (h : ∀ lane, w.unfinished lane = []) : lanes.foldl (advance moment) w = w := by
  induction lanes with
  | nil => rfl
  | cons lane rest ih =>
    have hfirst : advance moment w lane = w := workThrough_of_idle (h lane) _
    rw [List.foldl_cons, hfirst, ih]

theorem progress_of_idle (h : ∀ lane, w.unfinished lane = []) :
    w.progress = { w with moment := w.moment + 1 } := by
  rw [progress_eq_foldl]
  exact foldl_advance_of_idle w.moment _ h

end World

/-- A wait for an idle lane without a fault is a moment passing. -/
theorem synchronize_of_idle (hidle : ∀ lane, w.unfinished lane = [])
    (hfault : w.faultAt client.lane = none) :
    (synchronize client).perform w = (.ok (), { w with moment := w.moment + 1 }) := by
  let later : World := { w with moment := w.moment + 1 }
  have hdrained : w.progress.drain client.lane = later := by
    have hlater : later.unfinished client.lane = [] := hidle client.lane
    rw [World.progress_of_idle hidle]
    exact World.workThrough_of_idle hlater _
  have hnone : (later.laneAt client.lane).stream.fault = none := hfault
  have hkept :
      { later.laneAt client.lane with stream := (later.laneAt client.lane).stream.takeFault.2 } =
      later.laneAt client.lane := by
    have hstream :
        (later.laneAt client.lane).stream.takeFault.2 = (later.laneAt client.lane).stream := by
      unfold Stream.takeFault
      simp only [← hnone]
    rw [hstream]
  rw [perform_synchronize, hdrained]
  simp only [hnone, hkept, World.putLane_laneAt]
  rfl

/-- So are waits for one idle lane after another. -/
theorem forM_synchronize_of_idle {entries : List (Limits × Client)}
    (hidle : ∀ lane, w.unfinished lane = [])
    (hfault : ∀ entry ∈ entries, w.faultAt entry.2.lane = none) :
    (entries.forM (fun entry => synchronize entry.2)).perform w =
      (.ok (), { w with moment := w.moment + entries.length }) := by
  induction entries generalizing w with
  | nil => rfl
  | cons entry rest ih =>
    have hfirst := synchronize_of_idle hidle (hfault entry List.mem_cons_self)
    refine (Effect.perform_bind_ok hfirst).trans ?_
    have hrest := ih (w := { w with moment := w.moment + 1 }) hidle
      (fun other hother => hfault other (List.mem_cons_of_mem _ hother))
    rw [hrest, List.length_cons, Nat.add_assoc, Nat.add_comm 1]

/-- Nothing is left on any lane, and no default client has anything to report. -/
structure World.AtRest (w : World) : Prop where
  reachable : World.Reachable w
  lawful : w.environment.place.Lawful
  idle : ∀ lane, w.unfinished lane = []
  fault : ∀ entry ∈ w.defaults, w.faultAt entry.2.lane = none
  flag : ∀ entry ∈ w.defaults, w.flagAt entry.2.lane = none

namespace World.AtRest

/-- A device that nobody has used is at rest. -/
theorem initial {environment : Environment} (hlawful : environment.place.Lawful) :
    (World.initial environment).AtRest where
  reachable := .initial environment
  lawful := hlawful
  idle lane := World.unfinished_of_size_le (Nat.zero_le lane)
  fault _ hentry := absurd hentry List.not_mem_nil
  flag _ hentry := absurd hentry List.not_mem_nil

/-- A world at rest stays so as long as its lanes and default clients do. -/
theorem of_lanes_eq (h : w.AtRest) (hreachable : World.Reachable w')
    (henvironment : w'.environment = w.environment) (hlanes : w'.lanes = w.lanes)
    (hdefaults : w'.defaults = w.defaults) : w'.AtRest := by
  have hlaneAt : ∀ lane, w'.laneAt lane = w.laneAt lane := by
    intro lane
    unfold World.laneAt
    rw [hlanes]
  refine ⟨hreachable, ?_, ?_, ?_, ?_⟩
  · rw [henvironment]
    exact h.lawful
  · intro lane
    rw [World.unfinished_congr (hlaneAt lane)]
    exact h.idle lane
  · rw [hdefaults]
    intro entry hentry
    rw [World.faultAt, hlaneAt]
    exact h.fault entry hentry
  · rw [hdefaults]
    intro entry hentry
    rw [World.flagAt, hlaneAt]
    exact h.flag entry hentry

theorem heapSound (h : w.AtRest) : w.heap.Sound := h.reachable.heapSound h.lawful

theorem drainDefaults (h : w.AtRest) :
    Emulated.drainDefaults.perform w =
      (.ok (), { w with moment := w.moment + w.defaults.length }) := by
  unfold Emulated.drainDefaults
  have hinspect : (Effect.inspect World.defaults).perform w = (.ok w.defaults, w) := rfl
  rw [Effect.perform_bind_ok hinspect]
  exact forM_synchronize_of_idle h.idle h.fault

theorem copyToDevice (h : w.AtRest) {bytes : Bytes} (hbytes : bytes ≠ []) {pointer : Nat}
    (hpointer : pointer ≠ 0) :
    (Emulated.copyToDevice bytes pointer).perform w =
      (.ok (), { w with moment := w.moment + w.defaults.length
                        memory := w.memory.write pointer bytes }) := by
  unfold Emulated.copyToDevice
  rw [if_neg (by simpa using hbytes), if_neg hpointer, Effect.perform_bind_ok h.drainDefaults,
    Effect.perform_update]

theorem copyFromDevice (h : w.AtRest) {host : Bytes} (hhost : host ≠ []) {pointer : Nat}
    (hpointer : pointer ≠ 0) :
    (Emulated.copyFromDevice pointer host).perform w =
      (.ok (w.memory.read pointer host.length),
        { w with moment := w.moment + w.defaults.length }) := by
  unfold Emulated.copyFromDevice
  rw [if_neg (by simpa using hhost), if_neg hpointer, Effect.perform_bind_ok h.drainDefaults,
    Effect.perform_inspect]

end World.AtRest

/-! ## The promises of a storage -/

section Promises

variable {pointer size : Nat}

theorem storage_allocate_ok (hrest : w.AtRest)
    (h : (allocate size).perform w = (.ok pointer, w')) :
    w'.AtRest ∧ w'.Stored pointer size ∧
      ∀ p n, w.Stored p n →
        (p = pointer → p = 0) ∧ w'.Stored p n ∧ w'.memory.read p n = w.memory.read p n := by
  have hreachable : World.Reachable w' := by
    have hnext := hrest.reachable.next (.allocate size w)
    rwa [h] at hnext
  rcases World.allocate_cases size w with ⟨hempty, hperform⟩ | ⟨-, hperform⟩ |
    ⟨address, hpos, hle, hplace, hperform⟩
  · rw [hperform] at h
    cases h
    exact ⟨hrest, Or.inl ⟨hempty, rfl⟩, fun p n hstored => ⟨id, hstored, rfl⟩⟩
  · rw [hperform] at h
    cases h
  · rw [hperform] at h
    cases h
    have hsound := hrest.heapSound.place hrest.lawful hpos hle hplace
    refine ⟨hrest.of_lanes_eq hreachable rfl rfl rfl, Or.inr List.mem_cons_self, ?_⟩
    intro p n hstored
    have happart : Block.Apart ⟨pointer, size⟩ ⟨p, n⟩ ∧ (p = pointer → p = 0) := by
      rcases hstored with ⟨hempty, hnull⟩ | hlive
      · refine ⟨Or.inr ?_, fun _ => hnull⟩
        simp only
        omega
      · obtain ⟨hclear, hne⟩ := hsound.apart_of_occupy hlive
        exact ⟨hclear, fun heq => absurd heq hne⟩
    exact ⟨happart.2, hstored.imp id (List.mem_cons_of_mem _),
      Memory.read_clear_apart w.memory happart.1⟩

theorem storage_allocate_error {failure : Failure} (hrest : w.AtRest)
    (h : (allocate size).perform w = (.error failure, w')) :
    (failure.OutOfSpace ∧ 0 < size) ∧ w'.AtRest ∧
      ∀ p n, w.Stored p n → w'.Stored p n ∧ w'.memory.read p n = w.memory.read p n := by
  rcases World.allocate_cases size w with
    ⟨-, hperform⟩ | ⟨hpos, hperform⟩ | ⟨address, -, -, -, hperform⟩
  · rw [hperform] at h
    cases h
  · rw [hperform] at h
    cases h
    exact ⟨⟨trivial, hpos⟩, hrest, fun p n hstored => ⟨hstored, rfl⟩⟩
  · rw [hperform] at h
    cases h

theorem storage_copyToDevice {data : Bytes} (hrest : w.AtRest) (hstored : w.Stored pointer size)
    (hfits : data.length ≤ size) :
    ∃ w', (copyToDevice data pointer).perform w = (.ok (), w') ∧ w'.AtRest ∧
      w'.memory.read pointer size = (w.memory.read pointer size).overlay data ∧
      ∀ p n, w.Stored p n →
        w'.Stored p n ∧ (p ≠ pointer → w'.memory.read p n = w.memory.read p n) := by
  by_cases hdata : data = []
  · -- Nothing is moved, and the pointer may be null.
    subst hdata
    exact ⟨w, rfl, hrest, rfl, fun p n h => ⟨h, fun _ => rfl⟩⟩
  · have hpos : 0 < data.length := List.length_pos_iff.mpr hdata
    have hpointer := hstored.pointer_ne_zero hrest.heapSound (Nat.lt_of_lt_of_le hpos hfits)
    have hperform := hrest.copyToDevice hdata hpointer
    have hreachable := hrest.reachable.next (.copyToDevice data pointer w)
    rw [hperform] at hreachable
    refine ⟨_, hperform, hrest.of_lanes_eq hreachable rfl rfl rfl,
      Memory.read_write_overlay w.memory pointer hfits, ?_⟩
    intro p n h
    refine ⟨h, fun hne => ?_⟩
    exact Memory.read_write_apart w.memory
      ((hstored.apart h hrest.heapSound (Ne.symm hne)).mono hfits (Nat.le_refl _))

theorem storage_copyFromDevice {host : Bytes} (hrest : w.AtRest)
    (hstored : w.Stored pointer host.length) :
    ∃ w', (copyFromDevice pointer host).perform w =
        (.ok (w.memory.read pointer host.length), w') ∧ w'.AtRest ∧
      ∀ p n, w.Stored p n → w'.Stored p n ∧ w'.memory.read p n = w.memory.read p n := by
  by_cases hhost : host = []
  · subst hhost
    exact ⟨w, rfl, hrest, fun p n h => ⟨h, rfl⟩⟩
  · have hpos : 0 < host.length := List.length_pos_iff.mpr hhost
    have hpointer := hstored.pointer_ne_zero hrest.heapSound hpos
    have hperform := hrest.copyFromDevice hhost hpointer
    have hreachable := hrest.reachable.next (.copyFromDevice pointer host w)
    rw [hperform] at hreachable
    exact ⟨_, hperform, hrest.of_lanes_eq hreachable rfl rfl rfl, fun p n h => ⟨h, rfl⟩⟩

theorem storage_deallocate (hrest : w.AtRest) :
    (deallocate pointer size w).AtRest ∧
      ∀ p n, w.Stored p n → p ≠ pointer →
        (deallocate pointer size w).Stored p n ∧
          (deallocate pointer size w).memory.read p n = w.memory.read p n := by
  obtain ⟨henvironment, hlanes, hdefaults⟩ := World.deallocate_outline pointer size w
  have hreachable := hrest.reachable.next (.deallocate pointer size w)
  refine ⟨hrest.of_lanes_eq hreachable henvironment hlanes hdefaults, ?_⟩
  intro p n h hne
  have hmemory : (deallocate pointer size w).memory = w.memory := by
    unfold deallocate
    split
    · rfl
    · split
      · rfl
      · rfl
  rw [hmemory]
  refine ⟨h.imp id (fun hlive => ?_), rfl⟩
  unfold deallocate
  split
  · exact hlive
  · split
    · exact hlive
    · exact List.mem_filter.mpr ⟨hlive, by simpa using hne⟩

end Promises

/-- The address space keeps what it is given, while the device is at rest. Where memory is placed is
not decided here, so there may be no room for any bytes. -/
def storage : Storage backend where
  Ready _ := World.AtRest
  Stored := World.Stored
  bytes w := w.memory.read
  Tight size := 0 < size
  tight_of_le hlarge := Nat.lt_of_lt_of_le (by decide) hlarge
  ready_pred := id
  length_bytes _ _ _ := Memory.length_read _ _ _
  pointer_eq_zero_iff hrest hstored := hstored.pointer_eq_zero_iff hrest.heapSound
  allocate_ok := storage_allocate_ok
  allocate_error := storage_allocate_error
  copyToDevice _ hrest hstored hfits _ := storage_copyToDevice hrest hstored hfits
  copyFromDevice _ hrest hstored := storage_copyFromDevice hrest hstored
  deallocate _ hrest _ _ := storage_deallocate hrest

/-! ## Default clients -/

theorem memory_defaultClient (device : Device) (w : World) :
    (w.defaultClient device).2.memory = w.memory := by
  unfold World.defaultClient
  cases w.defaults.lookup device.limits with
  | some client => rfl
  | none =>
    simp only [World.newClient, World.openLane]
    split
    · rfl
    · rfl

/-- A lane that is opened has nothing left on it and nothing to report. -/
theorem World.AtRest.openLane (hrest : w.AtRest) (hasWorker : Bool) (device : Device) :
    (w.openLane hasWorker device).2.AtRest := by
  obtain ⟨-, henvironment, -, -, hdefaults⟩ := World.openLane_outline hasWorker device w
  refine ⟨hrest.reachable.next (.openLane hasWorker device w), ?_, ?_, ?_, ?_⟩
  · rw [henvironment]
    exact hrest.lawful
  · intro lane
    unfold World.unfinished
    rw [World.laneAt_openLane]
    split
    · rfl
    · exact hrest.idle lane
  · rw [hdefaults]
    intro entry hentry
    unfold World.faultAt
    rw [World.laneAt_openLane]
    split
    · rfl
    · exact hrest.fault entry hentry
  · rw [hdefaults]
    intro entry hentry
    unfold World.flagAt
    rw [World.laneAt_openLane]
    split
    · rfl
    · exact hrest.flag entry hentry

theorem World.AtRest.defaultClient (hrest : w.AtRest) (device : Device) :
    (w.defaultClient device).2.AtRest := by
  have hreachable := hrest.reachable.next (.defaultClient device w)
  unfold World.defaultClient at hreachable ⊢
  cases hlookup : w.defaults.lookup device.limits with
  | some client => exact hrest
  | none =>
    rw [hlookup] at hreachable
    obtain ⟨hclient, -, -, -, hdefaults⟩ :=
      World.openLane_outline (w.environment.grantsWorker w.lanes.size) device w
    have hopened := hrest.openLane (w.environment.grantsWorker w.lanes.size) device
    -- The client that is listed last is on the lane that was opened for it.
    have hnew : (w.newClient device).2.laneAt (w.newClient device).1.lane =
        { stream := .idle (w.environment.grantsWorker w.lanes.size), flag := .clear } := by
      unfold World.newClient
      rw [hclient, World.laneAt_openLane, if_pos rfl]
    refine ⟨hreachable, hopened.lawful, hopened.idle, ?_, ?_⟩
    · intro entry hentry
      rcases List.mem_append.mp hentry with hold | hlast
      · exact hopened.fault entry hold
      · rw [List.mem_singleton.mp hlast]
        exact congrArg (fun l : Lane => l.stream.fault) hnew
    · intro entry hentry
      rcases List.mem_append.mp hentry with hold | hlast
      · exact hopened.flag entry hold
      · rw [List.mem_singleton.mp hlast]
        exact congrArg (fun l : Lane => l.flag.pending) hnew

/-! ## Checked copies -/

namespace World

variable {start : World} {lane : Nat}

theorem laneAt_foldl_advance_of_idle (moment : Nat) (turns : List Nat)
    (h : w.unfinished lane = []) : (turns.foldl (advance moment) w).laneAt lane = w.laneAt lane := by
  induction turns generalizing w with
  | nil => rfl
  | cons turn rest ih =>
    have hfirst : (advance moment w turn).laneAt lane = w.laneAt lane := by
      unfold advance
      by_cases hturn : lane = turn
      · subst hturn
        rw [workThrough_of_idle h]
      · exact laneAt_workThrough_of_ne w hturn _
    exact (ih ((unfinished_congr hfirst).trans h)).trans hfirst

theorem laneAt_progress_of_idle (h : w.unfinished lane = []) :
    w.progress.laneAt lane = w.laneAt lane := by
  rw [progress_eq_foldl]
  exact laneAt_foldl_advance_of_idle (w := { w with moment := w.moment + 1 }) w.moment _ h

/-- Two worlds that differ in memory, events and one lane. -/
structure SameBeside (lane : Nat) (start w : World) : Prop where
  outline : start.SameOutline w
  lanes : ∀ other, other ≠ lane → w.laneAt other = start.laneAt other

theorem sameBeside_enqueue {client : Client}
    (hidle : ∀ other, other ≠ client.lane → start.unfinished other = []) (launch : Launch) :
    Effect.Keeps (SameBeside client.lane start) (enqueue client launch) := by
  intro v h
  refine ⟨sameOutline_enqueue client launch v h.outline, ?_⟩
  intro other hother
  refine Eq.trans ?_ (h.lanes other hother)
  have hquiet : v.unfinished other = [] :=
    (unfinished_congr (h.lanes other hother)).trans (hidle other hother)
  unfold Emulated.enqueue
  cases launchFault launch with
  | some f => rfl
  | none =>
    rw [Effect.perform_update]
    cases hreport : client.rejection launch with
    | none =>
      rw [screen_of_admitted hreport]
      have hsubmitted : (v.submit client.lane launch).laneAt other = v.laneAt other :=
        laneAt_submit_of_ne v hother launch
      exact (laneAt_progress_of_idle ((unfinished_congr hsubmitted).trans hquiet)).trans hsubmitted
    | some e =>
      rw [screen_of_rejected hreport]
      exact laneAt_putLane_of_ne hother

theorem sameBeside_checkLastError (client : Client) :
    Effect.Keeps (SameBeside client.lane start) (checkLastError client) := by
  intro v h
  refine ⟨sameOutline_checkLastError client v h.outline, ?_⟩
  intro other hother
  refine Eq.trans ?_ (h.lanes other hother)
  have htaken : ((checkLastError client).perform v).2 = (takeError client v).2 := rfl
  rw [htaken, takeError_eq]
  exact laneAt_putLane_of_ne hother

theorem sameBeside_synchronize {client : Client}
    (hidle : ∀ other, other ≠ client.lane → start.unfinished other = []) :
    Effect.Keeps (SameBeside client.lane start) (synchronize client) := by
  intro v h
  refine ⟨sameOutline_synchronize client v h.outline, ?_⟩
  intro other hother
  refine Eq.trans ?_ (h.lanes other hother)
  have hquiet : v.unfinished other = [] :=
    (unfinished_congr (h.lanes other hother)).trans (hidle other hother)
  rw [perform_synchronize]
  refine (laneAt_putLane_of_ne hother).trans ?_
  exact (laneAt_workThrough_of_ne v.progress hother _).trans (laneAt_progress_of_idle hquiet)

theorem sameBeside_copy {client : Client}
    (hidle : ∀ other, other ≠ client.lane → start.unfinished other = []) (src dst : Buffer Device)
    (count : Nat) :
    Effect.Keeps (SameBeside client.lane start) (Buffer.copy backend client src dst count) :=
  Buffer.keeps_copy
    (fun _ _ h => ⟨h.outline.trans ⟨rfl, rfl, rfl, rfl⟩, h.lanes⟩)
    (fun launch => sameBeside_enqueue hidle launch) (sameBeside_checkLastError client)
    (sameBeside_synchronize hidle) src dst count

end World

section Copies

variable {src dst : Buffer Device} {limits : Limits}

theorem World.AtRest.of_sameBeside {lane : Nat} (hrest : w.AtRest) (hreachable : World.Reachable w')
    (hbeside : w.SameBeside lane w') (hidle : w'.unfinished lane = []) (hfault : w'.faultAt lane = none)
    (hflag : w'.flagAt lane = none) : w'.AtRest := by
  refine ⟨hreachable, ?_, ?_, ?_, ?_⟩
  · rw [hbeside.outline.environment]
    exact hrest.lawful
  · intro other
    by_cases hother : other = lane
    · rw [hother, hidle]
    · rw [World.unfinished_congr (hbeside.lanes other hother), hrest.idle other]
  · rw [hbeside.outline.defaults]
    intro entry hentry
    by_cases hother : entry.2.lane = lane
    · rw [hother, hfault]
    · rw [World.faultAt, hbeside.lanes _ hother]
      exact hrest.fault entry hentry
  · rw [hbeside.outline.defaults]
    intro entry hentry
    by_cases hother : entry.2.lane = lane
    · rw [hother, hflag]
    · rw [World.flagAt, hbeside.lanes _ hother]
      exact hrest.flag entry hentry

/-- A copy by a default client leaves the device at rest. If there is a reason to refuse it, it has
done nothing; otherwise it has copied the elements and touched no other byte. -/
theorem World.AtRest.copy (hrest : w.AtRest) (hclient : (limits, client) ∈ w.defaults)
    (hsrc : w.Holds src) (hdst : w.Holds dst) (count : Nat) :
    let picked := Buffer.autoStrategy backend src dst count
    let result := (Buffer.copy backend client src dst count).perform w
    (result.2.AtRest ∧ result.2.heap = w.heap) ∧
      match refusal? client picked src dst count with
      | some e => result.1 = .error (.error e) ∧ result.2.memory = w.memory
      | none =>
          result.1 = .ok picked ∧ ∀ a, result.2.memory.get a =
            if Block.Contains ⟨dst.pointer, count * src.dtype.size⟩ a then
              w.memory.get (src.pointer + (a - dst.pointer))
            else w.memory.get a := by
  intro picked result
  have hlane := hrest.reachable.defaultsOpen.lane _ hclient
  -- No other lane has a job that could store to a byte while this one copies.
  have hquiet : ∀ a, w.Quiet client.lane a := .of_idle (fun other _ => hrest.idle other)
  have hends := ends_copy hrest.reachable.sound hrest.heapSound hlane (hrest.idle _)
    (hrest.fault _ hclient) (hrest.flag _ hclient) hsrc hdst (fun a _ => hquiet a) count
  have hbeside : w.SameBeside client.lane result.2 :=
    World.sameBeside_copy (fun other _ => hrest.idle other) src dst count w ⟨.refl w, fun _ _ => rfl⟩
  have hreachable : World.Reachable result.2 :=
    World.Reachable.copy client src dst count w hrest.reachable
  change Ends client src dst count picked w result (refusal? client picked src dst count) at hends
  cases hrefusal : refusal? client picked src dst count with
  | some e =>
    rw [hrefusal] at hends
    obtain ⟨hanswer, hsame, hflag⟩ := hends
    have hidle : result.2.unfinished client.lane = [] := (hsame.unfinished _).trans (hrest.idle _)
    have hfault : result.2.faultAt client.lane = none :=
      (congrArg Stream.fault (hsame.stream _)).trans (hrest.fault _ hclient)
    exact ⟨⟨hrest.of_sameBeside hreachable hbeside hidle hfault hflag, hbeside.outline.heap⟩, hanswer,
      hsame.memory⟩
  | none =>
    rw [hrefusal] at hends
    obtain ⟨hanswer, hmemory, hidle, hfault, hflag⟩ := hends
    exact ⟨⟨hrest.of_sameBeside hreachable hbeside hidle hfault hflag, hbeside.outline.heap⟩, hanswer,
      fun a => hmemory a (hquiet a)⟩

end Copies

end Emulated

end DeviceCopy
