import DeviceCopy.Proofs.Emulated.AtRest

/-!
# Transfers after waiting

A host transfer waits for the default clients before it moves anything. While it waits, jobs that
were left on the lanes are run, and nothing else happens to memory (`World.Proceeds`): a byte to
which none of them writes is `World.Spared` and keeps its value.

The wait leaves nothing on the lanes of the default clients, neither a job nor a fault
(`World.Vacant`), so a transfer right after another one has nothing to report
(`exists_perform_drainDefaults`).
-/

set_option autoImplicit false

namespace DeviceCopy

namespace Emulated

namespace World

variable {start w w' : World} {lane a : Nat}

/-! ## What happens to memory -/

/-- No job that is left on any lane writes to the address. -/
def Spared (w : World) (a : Nat) : Prop := ∀ lane, ∀ job ∈ w.unfinished lane, job.Spares a

/-- From one world to the other some of the jobs left have been run, and memory has changed only
where one of them writes. -/
structure Proceeds (w w' : World) : Prop where
  jobs : ∀ lane, w'.unfinished lane ⊆ w.unfinished lane
  memory : ∀ a, w.Spared a → w'.memory.get a = w.memory.get a

theorem Proceeds.spared (h : w.Proceeds w') (ha : w.Spared a) : w'.Spared a :=
  fun lane job hjob => ha lane job (h.jobs lane hjob)

theorem Proceeds.refl (w : World) : w.Proceeds w := ⟨fun _ => List.Subset.refl _, fun _ _ => rfl⟩

theorem Proceeds.trans {w'' : World} (h : w.Proceeds w') (h' : w'.Proceeds w'') : w.Proceeds w'' :=
  ⟨fun lane => List.Subset.trans (h'.jobs lane) (h.jobs lane),
    fun a ha => (h'.memory a (h.spared ha)).trans (h.memory a ha)⟩

/-- Nothing happens to memory as long as the jobs and the bytes are the same. -/
theorem Proceeds.of_same (hjobs : ∀ lane, w'.unfinished lane ⊆ w.unfinished lane)
    (hmemory : w'.memory = w.memory) : w.Proceeds w' :=
  ⟨hjobs, fun _ _ => congrArg (fun m : Memory => m.get _) hmemory⟩

theorem proceeds_work (w : World) (lane : Nat) : w.Proceeds (w.work lane) := by
  refine ⟨unfinished_work_subset w lane, fun a ha => ?_⟩
  cases hjobs : w.unfinished lane with
  | nil => rw [work_of_idle hjobs]
  | cons job rest =>
    have hspares : job.Spares a := ha lane job (by rw [hjobs]; exact List.mem_cons_self)
    rw [work_of_busy hjobs]
    exact hspares w.memory

theorem proceeds_workThrough (lane jobs : Nat) (w : World) :
    w.Proceeds (workThrough lane jobs w) := by
  induction jobs generalizing w with
  | zero => exact .refl w
  | succ jobs ih => exact (proceeds_work w lane).trans (ih (w.work lane))

theorem proceeds_foldl_advance (moment : Nat) (turns : List Nat) (w : World) :
    w.Proceeds (turns.foldl (advance moment) w) := by
  induction turns generalizing w with
  | nil => exact .refl w
  | cons turn rest ih => exact (proceeds_workThrough turn _ w).trans (ih _)

theorem proceeds_progress (w : World) : w.Proceeds w.progress := by
  -- The clock is moved on before the workers have their turns.
  have hlater : w.Proceeds { w with moment := w.moment + 1 } :=
    .of_same (fun _ => List.Subset.refl _) rfl
  rw [progress_eq_foldl]
  exact hlater.trans (proceeds_foldl_advance _ _ _)

/-- Waiting for one client runs jobs, and takes a fault from its lane. -/
theorem proceeds_synchronize (client : Client) :
    Effect.Keeps (start.Proceeds ·) (synchronize client) := by
  intro w h
  let drained := w.progress.drain client.lane
  have hdrained : w.Proceeds drained :=
    (proceeds_progress w).trans (proceeds_workThrough client.lane _ w.progress)
  refine h.trans (hdrained.trans ?_)
  rw [perform_synchronize]
  refine .of_same (fun lane => ?_) rfl
  -- Taking the fault leaves the jobs alone.
  by_cases hlane : lane = client.lane
  · subst hlane
    rcases Nat.lt_or_ge client.lane drained.lanes.size with hlt | hge
    · rw [unfinished_putLane hlt]
      exact List.Subset.refl _
    · have hempty := unfinished_of_size_le (w := drained.putLane client.lane
        { drained.laneAt client.lane with
          stream := (drained.laneAt client.lane).stream.takeFault.2 }) (by simpa using hge)
      rw [hempty]
      exact List.nil_subset _
  · rw [unfinished_congr (laneAt_putLane_of_ne hlane)]
    exact List.Subset.refl _

theorem proceeds_drainDefaults : Effect.Keeps (start.Proceeds ·) drainDefaults := by
  unfold drainDefaults
  refine .bind (.inspect World.defaults) (fun defaults => .forM (fun entry => ?_) defaults)
  exact proceeds_synchronize entry.2

/-! ## What is left on the lanes -/

/-- Neither a job nor a fault is left on the lane. -/
structure Vacant (w : World) (lane : Nat) : Prop where
  idle : w.unfinished lane = []
  fault : w.faultAt lane = none

theorem Vacant.congr (h : w.Vacant lane) (hlane : w'.laneAt lane = w.laneAt lane) :
    w'.Vacant lane :=
  ⟨(unfinished_congr hlane).trans h.idle,
    (congrArg (fun l : Lane => l.stream.fault) hlane).trans h.fault⟩

theorem vacant_synchronize_self {client : Client} (hlane : client.lane < w.lanes.size) :
    ((synchronize client).perform w).2.Vacant client.lane :=
  ⟨unfinished_synchronize client w, (synchronize_settles hlane).2.2.1⟩

/-- Waiting for a client puts nothing on any lane. -/
theorem vacant_synchronize (hlane : lane < w.lanes.size) (h : w.Vacant lane) (client : Client) :
    ((synchronize client).perform w).2.Vacant lane := by
  by_cases hclient : lane = client.lane
  · subst hclient
    exact vacant_synchronize_self hlane
  · refine h.congr ?_
    have hprogress : w.progress.laneAt lane = w.laneAt lane := laneAt_progress_of_idle h.idle
    rw [perform_synchronize]
    exact (laneAt_putLane_of_ne hclient).trans
      ((laneAt_workThrough_of_ne w.progress hclient _).trans hprogress)

/-- Waiting for clients one after another leaves nothing on their lanes. -/
theorem vacant_forM_synchronize {entries : List (Limits × Client)}
    (hlanes : ∀ entry ∈ entries, entry.2.lane < w.lanes.size)
    (h : (entries.forM (fun entry => synchronize entry.2)).perform w = (.ok (), w')) :
    ∀ entry ∈ entries, w'.Vacant entry.2.lane := by
  induction entries generalizing w with
  | nil => exact fun entry hentry => absurd hentry List.not_mem_nil
  | cons first rest ih =>
    have hopen := hlanes first List.mem_cons_self
    have hsize : ((synchronize first.2).perform w).2.lanes.size = w.lanes.size :=
      (sameOutline_synchronize first.2 w (.refl w)).size
    have hvacant := vacant_synchronize_self hopen
    change (synchronize first.2 >>= fun _ => rest.forM fun entry => synchronize entry.2).perform w =
      _ at h
    cases hfirst : (synchronize first.2).perform w with
    | mk answer between =>
      rw [hfirst] at hsize hvacant
      cases answer with
      | error failure =>
        rw [Effect.perform_bind_error hfirst] at h
        cases h
      | ok _ =>
        rw [Effect.perform_bind_ok hfirst] at h
        intro entry hentry
        rcases List.mem_cons.mp hentry with rfl | hrest
        · -- The waits that follow leave the first lane as it is.
          have hkeeps : Effect.Keeps
              (fun v => entry.2.lane < v.lanes.size ∧ v.Vacant entry.2.lane)
              (rest.forM (fun entry => synchronize entry.2)) := by
            refine .forM (fun other v hv => ?_) rest
            exact ⟨(sameOutline_synchronize other.2 v (.refl v)).size.symm ▸ hv.1,
              vacant_synchronize hv.1 hv.2 other.2⟩
          exact (hkeeps.after h ⟨hsize.symm ▸ hopen, hvacant⟩).2
        · refine ih (fun other hother => ?_) h entry hrest
          rw [hsize]
          exact hlanes other (List.mem_cons_of_mem first hother)

/-- A wait for clients on whose lanes nothing is left has nothing to report. -/
theorem exists_perform_forM_synchronize {entries : List (Limits × Client)}
    (h : ∀ entry ∈ entries, entry.2.lane < w.lanes.size ∧ w.Vacant entry.2.lane) :
    ∃ w', (entries.forM (fun entry => synchronize entry.2)).perform w = (.ok (), w') := by
  induction entries generalizing w with
  | nil => exact ⟨w, rfl⟩
  | cons first rest ih =>
    obtain ⟨hopen, hvacant⟩ := h first List.mem_cons_self
    -- Nothing is run while the first client is waited for, and its lane has no fault to report.
    have hcourse : w.progress.Vacant first.2.lane :=
      hvacant.congr (laneAt_progress_of_idle hvacant.idle)
    have hanswer : ((synchronize first.2).perform w).1 = .ok () := by
      rw [(synchronize_settles hopen).1, settled_of_idle hcourse.idle, hcourse.fault]
      rfl
    have hsize := (sameOutline_synchronize first.2 w (.refl w)).size
    -- The wait has put nothing on the lanes of the other clients.
    obtain ⟨last, hlast⟩ := ih (w := ((synchronize first.2).perform w).2) (fun entry hentry => by
      obtain ⟨hlane, hbefore⟩ := h entry (List.mem_cons_of_mem first hentry)
      exact ⟨hsize.symm ▸ hlane, vacant_synchronize hlane hbefore first.2⟩)
    exact ⟨last, (Effect.perform_bind_ok (Prod.ext hanswer rfl)).trans hlast⟩

end World

/-! ## Waiting for the default clients -/

variable {w w' : World}

theorem perform_drainDefaults (w : World) :
    drainDefaults.perform w = (w.defaults.forM (fun entry => synchronize entry.2)).perform w := by
  unfold drainDefaults
  exact Effect.perform_bind_ok (Effect.perform_inspect World.defaults w)

theorem vacant_drainDefaults (hopen : w.DefaultsOpen)
    (h : drainDefaults.perform w = (.ok (), w')) :
    ∀ entry ∈ w'.defaults, entry.2.lane < w'.lanes.size ∧ w'.Vacant entry.2.lane := by
  have hsame : w.SameOutline w' :=
    World.sameOutline_drainDefaults.after h (.refl w)
  rw [perform_drainDefaults] at h
  intro entry hentry
  rw [hsame.defaults] at hentry
  exact ⟨hsame.size.symm ▸ hopen.lane entry hentry,
    World.vacant_forM_synchronize hopen.lane h entry hentry⟩

/-- Where the default clients have nothing left, waiting for them succeeds. -/
theorem exists_perform_drainDefaults
    (h : ∀ entry ∈ w.defaults, entry.2.lane < w.lanes.size ∧ w.Vacant entry.2.lane) :
    ∃ w', drainDefaults.perform w = (.ok (), w') := by
  rw [perform_drainDefaults]
  exact World.exists_perform_forM_synchronize h

/-! ## Transfers -/

section Transfers

variable {data host : Bytes} {pointer size : Nat}

theorem perform_copyToDevice_null (hdata : data ≠ []) (w : World) :
    (copyToDevice data 0).perform w =
      (.error (.error (.invalidArgument "dst" .nullPointer)), w) := by
  unfold copyToDevice
  rw [if_neg (by simpa using hdata), if_pos rfl, Effect.perform_fail]

theorem perform_copyFromDevice_null (hhost : host ≠ []) (w : World) :
    (copyFromDevice 0 host).perform w =
      (.error (.error (.invalidArgument "src" .nullPointer)), w) := by
  unfold copyFromDevice
  rw [if_neg (by simpa using hhost), if_pos rfl, Effect.perform_fail]

/-- A transfer to the device that succeeds has waited, and has then written its bytes. -/
theorem copyToDevice_ok (hdata : data ≠ [])
    (h : (copyToDevice data pointer).perform w = (.ok (), w')) :
    pointer ≠ 0 ∧ ∃ waited, drainDefaults.perform w = (.ok (), waited) ∧
      w' = { waited with memory := waited.memory.write pointer data } := by
  by_cases hpointer : pointer = 0
  · subst hpointer
    rw [perform_copyToDevice_null hdata] at h
    cases h
  · refine ⟨hpointer, ?_⟩
    unfold copyToDevice at h
    rw [if_neg (by simpa using hdata), if_neg hpointer] at h
    cases hwait : drainDefaults.perform w with
    | mk answer waited =>
      cases answer with
      | error failure =>
        rw [Effect.perform_bind_error hwait] at h
        cases h
      | ok _ =>
        rw [Effect.perform_bind_ok hwait, Effect.perform_update] at h
        exact ⟨waited, rfl, (congrArg Prod.snd h).symm⟩

/-- A transfer to the host that succeeds has waited, and answers with the bytes that are then
there. -/
theorem copyFromDevice_ok {bytes : Bytes} (hhost : host ≠ [])
    (h : (copyFromDevice pointer host).perform w = (.ok bytes, w')) :
    pointer ≠ 0 ∧ drainDefaults.perform w = (.ok (), w') ∧
      bytes = w'.memory.read pointer host.length := by
  by_cases hpointer : pointer = 0
  · subst hpointer
    rw [perform_copyFromDevice_null hhost] at h
    cases h
  · refine ⟨hpointer, ?_⟩
    unfold copyFromDevice at h
    rw [if_neg (by simpa using hhost), if_neg hpointer] at h
    cases hwait : drainDefaults.perform w with
    | mk answer waited =>
      cases answer with
      | error failure =>
        rw [Effect.perform_bind_error hwait] at h
        cases h
      | ok _ =>
        rw [Effect.perform_bind_ok hwait, Effect.perform_inspect] at h
        cases h
        exact ⟨rfl, rfl⟩

/-- From one world to the other bytes have been transferred to the beginning of a block. They are
there. Every other byte in use, of the block and of all others, is as the wait before the transfer
left it, and that is as it was unless a job was left that writes to it. A transfer back of any
length up to the size of the block succeeds and answers with what the block begins with, unless a
job is left that writes to the block. -/
structure World.Receives (w w' : World) (data : Bytes) (pointer size : Nat) : Prop where
  written : w'.memory.read pointer data.length = data
  kept : ∃ waited, drainDefaults.perform w = (.ok (), waited) ∧
    ∀ block ∈ w.heap.live, ∀ i < block.size, (block.address = pointer → data.length ≤ i) →
      w'.memory.get (block.address + i) = waited.memory.get (block.address + i) ∧
        (w.Spared (block.address + i) →
          waited.memory.get (block.address + i) = w.memory.get (block.address + i))
  readBack : ∀ host : Bytes, host.length ≤ size → (∀ i < size, w'.Spared (pointer + i)) →
    ∃ later, (copyFromDevice pointer host).perform w' =
      (.ok ((w'.memory.read pointer size).take host.length), later)

theorem read_write_self (m : Memory) (pointer : Nat) (data : Bytes) :
    (m.write pointer data).read pointer data.length = data := by
  rw [Memory.read_write_overlay m pointer (Nat.le_refl _)]
  exact Bytes.overlay_of_length_eq (Memory.length_read _ _ _)

/-- What is transferred back is what is there, if no job that is left writes to it. -/
theorem copyFromDevice_spared {w : World} (hpointer : pointer ≠ 0)
    (hvacant : ∀ entry ∈ w.defaults, entry.2.lane < w.lanes.size ∧ w.Vacant entry.2.lane)
    (hfits : host.length ≤ size) (hspared : ∀ i < size, w.Spared (pointer + i)) :
    ∃ later, (copyFromDevice pointer host).perform w =
      (.ok ((w.memory.read pointer size).take host.length), later) := by
  rw [Memory.take_read w.memory hfits]
  by_cases hhost : host = []
  · subst hhost
    exact ⟨w, rfl⟩
  · -- The wait before the transfer may run jobs of other clients, but none that writes here.
    obtain ⟨later, hwait⟩ := exists_perform_drainDefaults hvacant
    have hproceeds : w.Proceeds later := World.proceeds_drainDefaults.after hwait (.refl w)
    have hsame : later.memory.read pointer host.length = w.memory.read pointer host.length := by
      apply List.ext_getElem?
      intro i
      rw [Memory.getElem?_read, Memory.getElem?_read]
      by_cases hi : i < host.length
      · rw [hproceeds.memory _ (hspared i (Nat.lt_of_lt_of_le hi hfits))]
      · rw [if_neg hi, if_neg hi]
    refine ⟨later, ?_⟩
    unfold copyFromDevice
    rw [if_neg (by simpa using hhost), if_neg hpointer, Effect.perform_bind_ok hwait,
      Effect.perform_inspect, hsame]

/-- A transfer to the beginning of a block changes as many bytes as it has. -/
theorem receives_copyToDevice (hreachable : World.Reachable w)
    (hlawful : w.environment.place.Lawful) (hlive : ⟨pointer, size⟩ ∈ w.heap.live)
    (hdata : data ≠ []) (hfits : data.length ≤ size)
    (h : (copyToDevice data pointer).perform w = (.ok (), w')) :
    w.Receives w' data pointer size := by
  obtain ⟨hpointer, waited, hwait, rfl⟩ := copyToDevice_ok hdata h
  have hproceeds : w.Proceeds waited := World.proceeds_drainDefaults.after hwait (.refl w)
  have hvacant := vacant_drainDefaults hreachable.defaultsOpen hwait
  refine ⟨read_write_self _ _ _, ⟨waited, hwait, ?_⟩, fun host hhost hspared => ?_⟩
  · intro block hblock i hi hrest
    refine ⟨?_, hproceeds.memory _⟩
    -- The byte is past the data in this block, or in a block apart from it.
    have hout : ¬ (pointer ≤ block.address + i ∧ block.address + i < pointer + data.length) := by
      by_cases hsame : block.address = pointer
      · have hpast := hrest hsame
        omega
      · have hapart : Block.Apart ⟨pointer, size⟩ block :=
          (hreachable.heapSound hlawful).apart_of_ne hlive hblock (Ne.symm hsame)
        rcases hapart with hbefore | hafter
        · simp only at hbefore
          omega
        · simp only at hafter
          omega
    exact (Memory.get_write _ _ _ _).trans (if_neg hout)
  · -- What is left on the lanes is not a matter of memory.
    refine copyFromDevice_spared hpointer (fun entry hentry => ?_) hhost hspared
    exact ⟨(hvacant entry hentry).1, (hvacant entry hentry).2.congr rfl⟩

end Transfers

end Emulated

end DeviceCopy
