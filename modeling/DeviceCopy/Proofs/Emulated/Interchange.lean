import DeviceCopy.Proofs.Emulated.CopyOutcome

/-!
# One strategy in the place of another

Two jobs are twins if memory looks the same after the one as after the other. Put one in the place of
the other and nobody notices: the workers take the same turns, memory has the same bytes all along,
and the same faults are kept (`World.Twin`). The jobs of two strategies are twins where both copy, so
a checked copy may as well be made with the one as with the other (`copyWith_interchange`).

The strategy picked for a copy is therefore as good as the plain one, with a single exception: it is
picked without a look at the limits, and the grid of the staged kernel is not cut down to them.
-/

set_option autoImplicit false

namespace DeviceCopy

/-! ## Memories with the same bytes -/

/-- Two memories that cannot be told apart by reading. -/
def Memory.Same (m m' : Memory) : Prop := ∀ a, m.get a = m'.get a

namespace Memory

variable {m m' : Memory}

theorem Same.refl (m : Memory) : m.Same m := fun _ => rfl

theorem Same.read (h : m.Same m') (address count : Nat) :
    m.read address count = m'.read address count := by
  unfold Memory.read
  refine List.map_congr_left ?_
  intro i _
  exact h (address + i)

theorem Same.write (h : m.Same m') (address : Nat) (bytes : Bytes) :
    (m.write address bytes).Same (m'.write address bytes) := by
  intro a
  rw [get_write, get_write, h a]

/-- A copied range does not show how the memory was represented. -/
theorem Same.copied {after after' : Memory} {src dst size : Nat} (h : m.Same m')
    (hcopied : m.Copied after src dst size) (hcopied' : m'.Copied after' src dst size) :
    after.Same after' := by
  intro a
  rw [hcopied a, hcopied' a, h, h]

end Memory

/-- The accesses of a thread load the same into its registers from memories with the same bytes, and
leave the same bytes. -/
theorem Program.same_foldl {src dst : Nat} (actions : List Action) (r : Registers) {m m' : Memory}
    (h : m.Same m') :
    let after := actions.foldl (fun state action => action.apply src dst state) (r, m)
    let after' := actions.foldl (fun state action => action.apply src dst state) (r, m')
    after.1 = after'.1 ∧ after.2.Same after'.2 := by
  induction actions generalizing r m m' with
  | nil => exact ⟨rfl, h⟩
  | cons action rest ih =>
    cases action with
    | load slot span =>
      simp only [List.foldl_cons, Action.apply, h.read]
      exact ih _ h
    | store slot span => exact ih r (h.write _ _)

namespace Launch

variable {job job' : Launch}

/-- Wherever they start from, two jobs leave the same bytes and end in the same fault. -/
def Twin (job job' : Launch) : Prop :=
  ∀ m m' : Memory, m.Same m' → (job.run m).1.Same (job'.run m').1 ∧ (job.run m).2 = (job'.run m').2

theorem same_runFrom (l : Launch) (remaining rank : Nat) {m m' : Memory} (h : m.Same m') :
    (l.runFrom remaining rank m).1.Same (l.runFrom remaining rank m').1 := by
  induction remaining generalizing rank m m' with
  | zero => exact h
  | succ remaining ih =>
    have hthread : ((l.programAt rank).run l.src l.dst m).Same
        ((l.programAt rank).run l.src l.dst m') :=
      (Program.same_foldl (l.programAt rank).actions Paged.empty h).2
    unfold runFrom
    cases hfault : (l.programAt rank).fault with
    | some f => simpa [hfault] using hthread
    | none => simpa [hfault] using ih (rank + 1) hthread

theorem Twin.refl (job : Launch) : job.Twin job :=
  fun m m' h => ⟨job.same_runFrom _ _ h, job.fault_run m m'⟩

/-- Jobs that copy the same range, and do not fault, are twins. -/
theorem Twin.of_copied {from_ to_ size : Nat}
    (h : ∀ m : Memory, (job.run m).2 = none ∧ m.Copied (job.run m).1 from_ to_ size)
    (h' : ∀ m : Memory, (job'.run m).2 = none ∧ m.Copied (job'.run m).1 from_ to_ size) :
    job.Twin job' := by
  intro m m' hsame
  obtain ⟨hnone, hcopied⟩ := h m
  obtain ⟨hnone', hcopied'⟩ := h' m'
  exact ⟨hsame.copied hcopied hcopied', hnone.trans hnone'.symm⟩

end Launch

namespace Emulated

namespace World

variable {w w' v v' : World} {lane other : Nat} {job job' : Launch}

/-! ## Worlds in lockstep -/

/-- Two worlds at one moment of one schedule, with the same bytes in memory, and with a twin for each
job that is left on a lane. -/
structure Twin (w w' : World) : Prop where
  environment : w'.environment = w.environment
  moment : w'.moment = w.moment
  size : w'.lanes.size = w.lanes.size
  hasWorker : ∀ lane, (w'.laneAt lane).stream.hasWorker = (w.laneAt lane).stream.hasWorker
  memory : w.memory.Same w'.memory
  fault : ∀ lane, w'.faultAt lane = w.faultAt lane
  jobs : ∀ lane, List.Forall₂ Launch.Twin (w.unfinished lane) (w'.unfinished lane)

theorem Twin.of_sameStreams (h : w.SameStreams v) (h' : w.SameStreams v') : v.Twin v' := by
  have hstream : ∀ lane, (v'.laneAt lane).stream = (v.laneAt lane).stream :=
    fun lane => (h'.stream lane).trans (h.stream lane).symm
  refine ⟨h'.environment.trans h.environment.symm, h'.moment.trans h.moment.symm,
    h'.size.trans h.size.symm, fun lane => congrArg Stream.hasWorker (hstream lane), ?_,
    fun lane => congrArg Stream.fault (hstream lane), ?_⟩
  · rw [h.memory, h'.memory]
    exact .refl _
  · intro lane
    rw [h.unfinished, h'.unfinished]
    exact List.forall₂_same.mpr (fun job _ => .refl job)

theorem Twin.congr (h : w.Twin w') (hv : w.SameStreams v) (hv' : w'.SameStreams v') : v.Twin v' := by
  refine ⟨?_, ?_, ?_, ?_, ?_, ?_, ?_⟩
  · rw [hv'.environment, h.environment, hv.environment]
  · rw [hv'.moment, h.moment, hv.moment]
  · rw [hv'.size, h.size, hv.size]
  · intro lane
    rw [hv'.stream, h.hasWorker, hv.stream]
  · rw [hv.memory, hv'.memory]
    exact h.memory
  · intro lane
    rw [faultAt, faultAt, hv'.stream, hv.stream]
    exact h.fault lane
  · intro lane
    rw [hv.unfinished, hv'.unfinished]
    exact h.jobs lane

theorem Twin.backlog (h : w.Twin w') (lane : Nat) : w'.backlog lane = w.backlog lane := by
  rw [backlog_eq_length, backlog_eq_length, (h.jobs lane).length_eq]

/-! ## Turns of the workers -/

theorem Twin.work (h : w.Twin w') (turn : Nat) : (w.work turn).Twin (w'.work turn) := by
  have hjobs := h.jobs turn
  have hsame := sameClients_work w turn
  have hsame' := sameClients_work w' turn
  cases hleft : w.unfinished turn with
  | nil =>
    rw [hleft, List.forall₂_nil_left_iff] at hjobs
    rw [work_of_idle hleft, work_of_idle hjobs]
    exact h
  | cons job rest =>
    rw [hleft, List.forall₂_cons_left_iff] at hjobs
    obtain ⟨job', rest', htwin, hrest, hleft'⟩ := hjobs
    obtain ⟨hmemory, hfault⟩ := htwin w.memory w'.memory h.memory
    refine ⟨?_, ?_, ?_, ?_, ?_, ?_, ?_⟩
    · rw [hsame'.environment, h.environment, hsame.environment]
    · rw [work_of_busy hleft, work_of_busy hleft']
      exact h.moment
    · rw [hsame'.size, h.size, hsame.size]
    · intro lane
      rw [hsame'.hasWorker, h.hasWorker, hsame.hasWorker]
    · rw [work_of_busy hleft, work_of_busy hleft']
      exact hmemory
    · intro lane
      by_cases hlane : lane = turn
      · subst hlane
        have hsize : lane < w.lanes.size := lt_size_of_busy (by simp [hleft])
        have hkept : (w.work lane).faultAt lane = (w.faultAt lane <|> (job.run w.memory).2) := by
          rw [work_of_busy hleft]
          exact faultAt_putLane hsize
        have hkept' : (w'.work lane).faultAt lane =
            (w'.faultAt lane <|> (job'.run w'.memory).2) := by
          rw [work_of_busy hleft']
          exact faultAt_putLane (h.size ▸ hsize)
        rw [hkept, hkept', h.fault, hfault]
      · rw [faultAt, faultAt, laneAt_work_of_ne w hlane, laneAt_work_of_ne w' hlane]
        exact h.fault lane
    · intro lane
      by_cases hlane : lane = turn
      · subst hlane
        rw [unfinished_work, unfinished_work, hleft, hleft']
        exact hrest
      · rw [unfinished_congr (laneAt_work_of_ne w hlane), unfinished_congr (laneAt_work_of_ne w' hlane)]
        exact h.jobs lane

theorem Twin.workThrough (h : w.Twin w') (turn jobs : Nat) :
    (workThrough turn jobs w).Twin (workThrough turn jobs w') := by
  induction jobs generalizing w w' with
  | zero => exact h
  | succ jobs ih => exact ih (h.work turn)

/-- The schedule is asked about the same moment and the same backlogs, and answers the same. -/
theorem Twin.progress (h : w.Twin w') : w.progress.Twin w'.progress := by
  have hfold : ∀ (moment : Nat) (turns : List Nat) (w w' : World), w.Twin w' →
      (turns.foldl (advance moment) w).Twin (turns.foldl (advance moment) w') := by
    intro moment turns
    induction turns with
    | nil => exact fun _ _ h => h
    | cons turn rest ih =>
      intro w w' h
      have hquota : w'.quota moment turn = w.quota moment turn := by
        rw [quota, quota, h.backlog, h.environment]
      have hnext : (advance moment w turn).Twin (advance moment w' turn) := by
        rw [advance, advance, hquota]
        exact h.workThrough turn _
      exact ih _ _ hnext
  have hstart : ({ w with moment := w.moment + 1 } : World).Twin
      { w' with moment := w'.moment + 1 } :=
    ⟨h.environment, congrArg (· + 1) h.moment, h.size, h.hasWorker, h.memory, h.fault, h.jobs⟩
  rw [progress_eq_foldl, progress_eq_foldl, h.moment, h.size]
  rw [h.moment] at hstart
  exact hfold w.moment (List.range w.lanes.size) _ _ hstart

theorem Twin.drain (h : w.Twin w') (lane : Nat) : (w.drain lane).Twin (w'.drain lane) := by
  rw [World.drain, World.drain, h.backlog]
  exact h.workThrough lane _

/-! ## Steps of the host -/

/-- Memory and fault of a lane right after a job was put on it: as before if there is a worker, and
what the job makes of them if there is none. -/
theorem submit_outcome (hlane : lane < w.lanes.size) (job : Launch) :
    (w.submit lane job).memory =
        (if (w.laneAt lane).stream.hasWorker then w.memory else (job.run w.memory).1) ∧
      (w.submit lane job).faultAt lane =
        (if (w.laneAt lane).stream.hasWorker then w.faultAt lane
          else w.faultAt lane <|> (job.run w.memory).2) := by
  cases hworker : (w.laneAt lane).stream.hasWorker with
  | true =>
    rw [submit_of_worker hlane hworker]
    exact ⟨rfl, faultAt_putLane hlane⟩
  | false =>
    rw [submit_of_inline hlane hworker]
    exact ⟨rfl, faultAt_putLane hlane⟩

theorem Twin.submit (h : w.Twin w') (hsound : w.Sound) (hsound' : w'.Sound)
    (hlane : lane < w.lanes.size) (hjob : job.Twin job') :
    (w.submit lane job).Twin (w'.submit lane job') := by
  have hlane' : lane < w'.lanes.size := h.size ▸ hlane
  have hsame := sameClients_submit w lane job
  have hsame' := sameClients_submit w' lane job'
  obtain ⟨hmemory, hfault⟩ := submit_outcome hlane job
  obtain ⟨hmemory', hfault'⟩ := submit_outcome hlane' job'
  obtain ⟨hrun, hrunFault⟩ := hjob w.memory w'.memory h.memory
  refine ⟨?_, ?_, ?_, ?_, ?_, ?_, ?_⟩
  · rw [hsame'.environment, h.environment, hsame.environment]
  · rw [moment_submit, moment_submit, h.moment]
  · rw [hsame'.size, h.size, hsame.size]
  · intro lane
    rw [hsame'.hasWorker, h.hasWorker, hsame.hasWorker]
  · rw [hmemory, hmemory', h.hasWorker]
    split
    · exact h.memory
    · exact hrun
  · intro other
    by_cases hother : other = lane
    · subst hother
      rw [hfault, hfault', h.hasWorker, h.fault, hrunFault]
    · rw [faultAt, faultAt, laneAt_submit_of_ne w hother, laneAt_submit_of_ne w' hother]
      exact h.fault other
  · intro other
    by_cases hother : other = lane
    · subst hother
      rw [unfinished_submit hsound hlane, unfinished_submit hsound' hlane', h.hasWorker]
      split
      · exact List.rel_append (h.jobs other) (.cons hjob .nil)
      · exact .nil
    · rw [unfinished_submit_of_ne w hother, unfinished_submit_of_ne w' hother]
      exact h.jobs other

/-- Waits in both worlds are answered alike and leave the same bytes. -/
theorem Twin.synchronize (h : w.Twin w') (client : Client) :
    ((synchronize client).perform w).1 = ((synchronize client).perform w').1 ∧
      ((synchronize client).perform w).2.memory.Same ((synchronize client).perform w').2.memory := by
  have hdrained := h.progress.drain client.lane
  have hfault : ((w'.progress.drain client.lane).laneAt client.lane).stream.fault =
      ((w.progress.drain client.lane).laneAt client.lane).stream.fault := hdrained.fault client.lane
  rw [perform_synchronize, perform_synchronize]
  refine ⟨?_, hdrained.memory⟩
  simp only [hfault]

end World

variable {client : Client} {strategy other : Strategy} {src dst : Buffer Device} {count : Nat}
  {w : World}

/-! ## Strategies that copy -/

/-- Where two strategies both copy, it does not matter which of them does: the call is answered alike
and memory has the same bytes, whatever the other clients do meanwhile. -/
theorem copyWith_interchange (hsound : w.Sound) (hheap : w.heap.Sound)
    (hlane : client.lane < w.lanes.size) (hsrc : w.Holds src) (hdst : w.Holds dst)
    (h : refusal? client strategy src dst count = none)
    (h' : refusal? client other src dst count = none) :
    ((Buffer.copyWith backend client strategy src dst count).perform w).1 =
        ((Buffer.copyWith backend client other src dst count).perform w).1 ∧
      ((Buffer.copyWith backend client strategy src dst count).perform w).2.memory.Same
        ((Buffer.copyWith backend client other src dst count).perform w).2.memory := by
  obtain ⟨hcopyable, hkernel, hlaunch⟩ := copyLaunch?_of_accepted h
  obtain ⟨hcopyable', hkernel', hlaunch'⟩ := copyLaunch?_of_accepted h'
  have hreport := Client.rejection_eq_none_iff.mpr (admits_of_copyLaunch? hlaunch)
  have hreport' := Client.rejection_eq_none_iff.mpr (admits_of_copyLaunch? hlaunch')
  have htwins := Launch.Twin.of_copied (run_bufferLaunch hheap hsrc hdst hcopyable hkernel)
    (run_bufferLaunch hheap hsrc hdst hcopyable' hkernel')
  rw [copyWith_of_launch hlaunch, copyWith_of_launch hlaunch']
  generalize bufferLaunch client (strategy.kernel src.dtype) src dst count = job at *
  generalize bufferLaunch client (other.kernel src.dtype) src dst count = job' at *
  -- Up to the wait the two calls differ in the event they begin with and in their job.
  have hquery : (afterQuery client job w).Twin (afterQuery client job' w) := by
    have htold := World.sameStreams_tell (copyEvent job.kernel job.count job.geometry) w
    have htold' := World.sameStreams_tell (copyEvent job'.kernel job'.count job'.geometry) w
    have hsubmitted := (World.Twin.of_sameStreams htold htold').submit (htold.sound hsound)
      (htold'.sound hsound) hlane htwins
    unfold afterQuery
    rw [afterEnqueue_of_admitted hreport, afterEnqueue_of_admitted hreport']
    exact hsubmitted.progress.congr (sameStreams_takeError client _) (sameStreams_takeError client _)
  generalize afterQuery client job w = v at hquery ⊢
  generalize afterQuery client job' w = v' at hquery ⊢
  cases w.flagAt client.lane with
  | none => exact hquery.synchronize client
  | some e => exact ⟨rfl, hquery.memory⟩

/-! ## The strategy that is picked -/

/-- Where the plain strategy copies, the limits are the only reason to refuse the one that is
picked. -/
theorem refusal?_auto_of_scalar (h : refusal? client .scalar src dst count = none) :
    refusal? client (Buffer.autoStrategy backend src dst count) src dst count =
      if Buffer.autoStrategy backend src dst count = .blocked ∧
          client.device.limits.maxGroups < max 1 ((count + 511) / 512) then
        some (launchReport client (Buffer.autoStrategy backend src dst count) src.dtype count)
      else none := by
  obtain ⟨hwide, hfloat⟩ := autoStrategy_fits src dst count
  have hsrc : ¬ (Buffer.autoStrategy backend src dst count ≠ .scalar ∧
      src.pointer % wideWordBytes ≠ 0) := fun hoff => hoff.2 (hwide hoff.1).1
  have hdst : ¬ (Buffer.autoStrategy backend src dst count ≠ .scalar ∧
      dst.pointer % wideWordBytes ≠ 0) := fun hoff => hoff.2 (hwide hoff.1).2
  have hdtype : ¬ (Buffer.autoStrategy backend src dst count = .blocked ∧ src.dtype ≠ .f32) :=
    fun hoff => hoff.2 (hfloat hoff.1)
  simp only [refusal?, refusals, lookup_true_cons, decide_eq_true_eq, List.lookup_nil, ite_eq_iff,
    reduceCtorEq, and_false, false_or, and_true] at h
  obtain ⟨hsame, hhome, hsrcLength, hdstLength, hdistinct, -, -, -, hlimits⟩ := h
  rw [not_or, not_or] at hlimits
  obtain ⟨hthreads, hgroups, -⟩ := hlimits
  simp only [refusal?, refusals, lookup_true_cons, decide_eq_true_eq, List.lookup_nil, if_neg hsame,
    if_neg hhome, if_neg hsrcLength, if_neg hdstLength, if_neg hdistinct, if_neg hsrc, if_neg hdst,
    if_neg hdtype, hthreads, hgroups, false_or]

/-- Only a copy that nothing speaks against, and that finds the flag empty, is answered with a
success. -/
theorem accepted_of_ok (hlane : client.lane < w.lanes.size)
    (h : ((Buffer.copyWith backend client strategy src dst count).perform w).1 = .ok ()) :
    refusal? client strategy src dst count = none ∧ w.flagAt client.lane = none := by
  cases hlaunch : copyLaunch? client strategy src dst count with
  | none =>
    obtain ⟨-, e, hanswer⟩ := copyWith_of_no_launch (w := w) hlane hlaunch
    rw [hanswer] at h
    cases h
  | some launch =>
    refine ⟨refusal?_of_launch hlaunch, ?_⟩
    rw [copyWith_of_launch hlaunch] at h
    cases hflag : w.flagAt client.lane with
    | none => rfl
    | some e =>
      rw [hflag] at h
      cases h

/-- Where the plain strategy copies, a copy that picks its strategy does as well and leaves the same
bytes, unless it picks the staged kernel and the single pass of that has more groups than the device
runs. Then it is refused, and has put no job on the lane. -/
theorem copy_follows_scalar (hreachable : World.Reachable w)
    (hlawful : w.environment.place.Lawful) (hlane : client.lane < w.lanes.size)
    (hsrc : w.Holds src) (hdst : w.Holds dst)
    (hscalar : ((Buffer.copyWith backend client .scalar src dst count).perform w).1 = .ok ()) :
    let picked := Buffer.autoStrategy backend src dst count
    let plain := ((Buffer.copyWith backend client .scalar src dst count).perform w).2
    let result := (Buffer.copy backend client src dst count).perform w
    if picked = .blocked ∧ client.device.limits.maxGroups < max 1 ((count + 511) / 512) then
      result.1 = .error (.error (launchReport client picked src.dtype count)) ∧
        w.SameStreams result.2 ∧ result.2.flagAt client.lane = none
    else result.1 = .ok picked ∧ plain.memory.Same result.2.memory := by
  intro picked plain result
  obtain ⟨haccepted, hflag⟩ := accepted_of_ok hlane hscalar
  have hrefusal : refusal? client picked src dst count = _ := refusal?_auto_of_scalar haccepted
  have hresult : result = (((Buffer.copyWith backend client picked src dst count).perform w).1.map
      (fun _ => picked), ((Buffer.copyWith backend client picked src dst count).perform w).2) :=
    perform_copy client src dst count w
  rw [hresult]
  split
  · next hwide =>
    rw [if_pos hwide] at hrefusal
    obtain ⟨hanswer, hsame, hclear⟩ := copyWith_of_refused (w := w) hlane hflag hrefusal
    exact ⟨congrArg (Except.map _) hanswer, hsame, hclear⟩
  · next hfits =>
    rw [if_neg hfits] at hrefusal
    obtain ⟨hanswer, hmemory⟩ := copyWith_interchange hreachable.sound (hreachable.heapSound hlawful)
      hlane hsrc hdst haccepted hrefusal
    exact ⟨congrArg (Except.map _) (hanswer.symm.trans hscalar), hmemory⟩

theorem copy_follows_scalar_besideOther :
    World.Reachable besideOther ∧ besideOther.environment.place.Lawful ∧
      Buffer.autoStrategy backend firstFloats secondFloats 4 = .blocked ∧
      ((Buffer.copy backend ⟨0, .standard⟩ firstFloats secondFloats 4).perform besideOther).1 =
        .ok .blocked ∧
      ((Buffer.copyWith backend ⟨0, .standard⟩ .scalar firstFloats secondFloats 4).perform
          besideOther).2.memory.Same
        ((Buffer.copy backend ⟨0, .standard⟩ firstFloats secondFloats 4).perform
          besideOther).2.memory := by
  have hlane : (⟨0, .standard⟩ : Client).lane < besideOther.lanes.size := by decide
  have hsrc : besideOther.Holds firstFloats := by decide
  have hdst : besideOther.Holds secondFloats := by decide
  have hlawful : besideOther.environment.place.Lawful := Placement.ascending_lawful
  have hscalar := ends_copyWith reachable_besideOther.sound (reachable_besideOther.heapSound hlawful)
    hlane rfl rfl rfl hsrc hdst (fun a ha => quiet_besideOther (Or.inl ha)) .scalar 4
  have hfollows := copy_follows_scalar reachable_besideOther hlawful hlane hsrc hdst hscalar.1
  rw [if_neg (by decide)] at hfollows
  exact ⟨reachable_besideOther, hlawful, by decide, hfollows⟩

/-! ## Limits that the plain strategy keeps to -/

/-- A device that runs one group at a time. -/
def narrowDevice : Device := .ofLimits { maxThreadsPerGroup := 1024, maxGroups := 1 }

/-- A client of that device and two allocations of a thousand floats and some more. -/
def narrowWorld : World :=
  let w := ((World.initial .prompt).openLane true narrowDevice).2
  let w := ((allocate 4096).perform w).2
  ((allocate 4096).perform w).2

theorem reachable_narrowWorld : World.Reachable narrowWorld := by
  have hopened := World.Reachable.next (.initial .prompt) (.openLane true narrowDevice _)
  exact (hopened.next (.allocate 4096 _)).next (.allocate 4096 _)

/-- The plain kernel loops where there are too few groups; the staged kernel that is picked for the
same copy makes a single pass, and that is refused. -/
theorem copy_refused_where_scalar_copies :
    let client : Client := ⟨0, narrowDevice⟩
    let src : Buffer Device := ⟨64, 1024, .f32, narrowDevice⟩
    let dst : Buffer Device := ⟨4160, 1024, .f32, narrowDevice⟩
    World.Reachable narrowWorld ∧ narrowWorld.environment.place.Lawful ∧
      client.lane < narrowWorld.lanes.size ∧ narrowWorld.Holds src ∧ narrowWorld.Holds dst ∧
      (∀ lane, narrowWorld.unfinished lane = []) ∧ narrowWorld.flagAt client.lane = none ∧
      ((Buffer.copyWith backend client .scalar src dst 1024).perform narrowWorld).1 = .ok () ∧
      ((Buffer.copy backend client src dst 1024).perform narrowWorld).1 =
        .error (.error (launchReport client .blocked .f32 1024)) := by
  intro client src dst
  have hlane : client.lane < narrowWorld.lanes.size := by decide
  have hlawful : narrowWorld.environment.place.Lawful := Placement.ascending_lawful
  have hheap := reachable_narrowWorld.heapSound hlawful
  have hsrc : narrowWorld.Holds src := by decide +kernel
  have hdst : narrowWorld.Holds dst := by decide +kernel
  have hidle : ∀ lane, narrowWorld.unfinished lane = [] := by
    intro lane
    obtain rfl | hbeyond : lane = 0 ∨ narrowWorld.lanes.size ≤ lane :=
      (Nat.eq_zero_or_pos lane).imp id (fun hpos => hpos)
    · rfl
    · exact World.unfinished_of_size_le hbeyond
  have hquiet : ∀ a, src.block.Contains a → narrowWorld.Quiet client.lane a :=
    fun a _ => .of_idle (fun other _ => hidle other) a
  have hscalar := ends_copyWith reachable_narrowWorld.sound hheap hlane (hidle 0) rfl rfl hsrc hdst
    hquiet .scalar 1024
  have hcopy := ends_copy reachable_narrowWorld.sound hheap hlane (hidle 0) rfl rfl hsrc hdst hquiet
    1024
  have haccepted := (accepted_of_ok hlane hscalar.1).1
  have hpicked : Buffer.autoStrategy backend src dst 1024 = .blocked := by decide
  rw [refusal?_auto_of_scalar haccepted, hpicked, if_pos (by decide)] at hcopy
  exact ⟨reachable_narrowWorld, hlawful, hlane, hsrc, hdst, hidle, rfl, hscalar.1, hcopy.1⟩

end Emulated

end DeviceCopy
