import DeviceCopy.Buffer.Copy
import DeviceCopy.Emulated.Backend
import DeviceCopy.Proofs.Effects
import DeviceCopy.Proofs.Emulated.Lanes

/-!
# Steps of the host

Between two steps of the host the workers get as far as the schedule lets them; a submitted job goes
to the end of its lane; a launch is screened against the limits before that. Each of these has one
lemma on what becomes of the unfinished jobs, of the memory a lane is headed for, and of the flag.

`World.Reachable` collects what a program can bring about on the emulated device: its own calls, in
any order and with any arguments, and the work of the lanes in between. Every reachable world is
`World.Sound`.
-/

set_option autoImplicit false

namespace DeviceCopy

namespace Emulated

namespace World

variable {w : World} {lane other : Nat} {job : Launch}

/-! ## Progress of the workers -/

/-- How many jobs the worker of a lane completes at a moment. -/
def quota (moment : Nat) (w : World) (lane : Nat) : Nat :=
  min (w.backlog lane) (w.environment.schedule moment lane (w.backlog lane))

/-- The worker of a lane gets as far as the schedule lets it at a moment. -/
def advance (moment : Nat) (w : World) (lane : Nat) : World :=
  workThrough lane (w.quota moment lane) w

theorem progress_eq_foldl (w : World) :
    w.progress =
      (List.range w.lanes.size).foldl (advance w.moment) { w with moment := w.moment + 1 } := rfl

theorem sameClients_foldl_advance (moment : Nat) (lanes : List Nat) (w : World) :
    w.SameClients (lanes.foldl (advance moment) w) := by
  induction lanes generalizing w with
  | nil => exact .refl w
  | cons lane rest ih => exact (sameClients_workThrough w lane _).trans (ih _)

theorem sameClients_progress (w : World) : w.SameClients w.progress := by
  have hmoment : w.SameClients { w with moment := w.moment + 1 } :=
    ⟨rfl, rfl, rfl, rfl, rfl, fun _ => rfl, fun _ => rfl⟩
  rw [progress_eq_foldl]
  exact hmoment.trans (sameClients_foldl_advance w.moment (List.range w.lanes.size) _)

theorem Sound.progress (h : w.Sound) : w.progress.Sound := by
  have hfold : ∀ (moment : Nat) (lanes : List Nat) (w : World), w.Sound →
      (lanes.foldl (advance moment) w).Sound := by
    intro moment lanes
    induction lanes with
    | nil => exact fun _ hw => hw
    | cons lane rest ih => exact fun w hw => ih _ (hw.workThrough lane _)
  rw [progress_eq_foldl]
  exact hfold w.moment (List.range w.lanes.size) { w with moment := w.moment + 1 } h

theorem laneAt_foldl_advance {moment : Nat} {lanes : List Nat} (h : lane ∉ lanes) (w : World) :
    (lanes.foldl (advance moment) w).laneAt lane = w.laneAt lane := by
  induction lanes generalizing w with
  | nil => rfl
  | cons first rest ih =>
    have hfirst : lane ≠ first := List.ne_of_not_mem_cons h
    have hrest : lane ∉ rest := List.not_mem_of_not_mem_cons h
    exact (ih hrest _).trans (laneAt_workThrough_of_ne w hfirst _)

theorem unfinished_foldl_advance {moment : Nat} {lanes : List Nat} (hnodup : lanes.Nodup)
    (h : lane ∈ lanes) (w : World) :
    (lanes.foldl (advance moment) w).unfinished lane =
      (w.unfinished lane).drop (w.quota moment lane) := by
  induction lanes generalizing w with
  | nil => cases h
  | cons first rest ih =>
    rcases List.nodup_cons.mp hnodup with ⟨hfirst, hrest⟩
    by_cases hlane : lane = first
    · -- This lane's turn is now, and it has no other.
      subst hlane
      have hlater : (rest.foldl (advance moment) (advance moment w lane)).unfinished lane =
          (advance moment w lane).unfinished lane :=
        unfinished_congr (laneAt_foldl_advance hfirst _)
      exact hlater.trans (unfinished_workThrough w lane _)
    · have hmem : lane ∈ rest := (List.mem_cons.mp h).resolve_left hlane
      have hsame : (advance moment w first).unfinished lane = w.unfinished lane :=
        unfinished_workThrough_of_ne w hlane _
      have hsystem : (advance moment w first).environment = w.environment :=
        (sameClients_workThrough w first _).environment
      -- The turn of another lane changes neither this lane nor the schedule.
      have hquota : (advance moment w first).quota moment lane = w.quota moment lane := by
        unfold quota
        rw [backlog_eq_length, backlog_eq_length, hsame, hsystem]
      rw [List.foldl_cons, ih hrest hmem, hsame, hquota]

/-- At every step of the host the worker of a lane takes its quota off the front. -/
theorem unfinished_progress (w : World) (lane : Nat) :
    w.progress.unfinished lane = (w.unfinished lane).drop (w.quota w.moment lane) := by
  rcases Nat.lt_or_ge lane w.lanes.size with hlt | hge
  · rw [progress_eq_foldl]
    exact unfinished_foldl_advance List.nodup_range (List.mem_range.mpr hlt) _
  · have hafter : w.progress.lanes.size ≤ lane := (sameClients_progress w).size ▸ hge
    rw [unfinished_of_size_le hge, unfinished_of_size_le hafter, List.drop_nil]

/-- While the other lanes have nothing to do, the progress of the workers does not change what a lane
is headed for. -/
theorem settled_progress (hothers : ∀ other, other ≠ lane → w.unfinished other = []) :
    w.progress.settled lane = w.settled lane := by
  have hfold : ∀ (moment : Nat) (lanes : List Nat) (w : World),
      (∀ other, other ≠ lane → w.unfinished other = []) →
        (lanes.foldl (advance moment) w).settled lane = w.settled lane := by
    intro moment lanes
    induction lanes with
    | nil => exact fun _ _ => rfl
    | cons first rest ih =>
      intro w hidle
      -- A turn of this lane keeps where it is headed; in any other turn nothing happens.
      by_cases hfirst : first = lane
      · subst hfirst
        refine (ih (advance moment w first) ?_).trans (settled_workThrough w first _)
        intro other hother
        exact (unfinished_workThrough_of_ne w hother _).trans (hidle other hother)
      · have hnothing : advance moment w first = w := workThrough_of_idle (hidle first hfirst) _
        rw [List.foldl_cons, hnothing]
        exact ih w hidle
  rw [progress_eq_foldl]
  exact hfold w.moment (List.range w.lanes.size) { w with moment := w.moment + 1 } hothers

/-! ## Submitting a job -/

theorem submit_of_worker (hlane : lane < w.lanes.size)
    (h : (w.laneAt lane).stream.hasWorker = true) :
    w.submit lane job =
      w.putLane lane
        { w.laneAt lane with stream := ((w.laneAt lane).stream.count).send job } := by
  have hcount : ((w.laneAt lane).stream.count).hasWorker = true := h
  simp [submit, getElem?_eq_laneAt hlane, hcount, putLane]

theorem submit_of_inline (hlane : lane < w.lanes.size)
    (h : (w.laneAt lane).stream.hasWorker = false) :
    w.submit lane job =
      { w.putLane lane
          { w.laneAt lane with
            stream := ((w.laneAt lane).stream.count).finish (job.run w.memory).2 }
        with memory := (job.run w.memory).1 } := by
  have hcount : ((w.laneAt lane).stream.count).hasWorker = false := h
  simp [submit, getElem?_eq_laneAt hlane, hcount, putLane]

theorem submit_of_missing (h : w.lanes.size ≤ lane) : w.submit lane job = w := by
  simp [submit, h]

theorem moment_submit (w : World) (lane : Nat) (job : Launch) :
    (w.submit lane job).moment = w.moment := by
  rcases Nat.lt_or_ge lane w.lanes.size with hlt | hge
  · cases hworker : (w.laneAt lane).stream.hasWorker with
    | true => rw [submit_of_worker hlt hworker, putLane]
    | false => rw [submit_of_inline hlt hworker, putLane]
  · rw [submit_of_missing hge]

theorem sameClients_submit (w : World) (lane : Nat) (job : Launch) :
    w.SameClients (w.submit lane job) := by
  rcases Nat.lt_or_ge lane w.lanes.size with hlt | hge
  · cases hworker : (w.laneAt lane).stream.hasWorker with
    | true =>
      have hkind : ((w.laneAt lane).stream.count.send job).hasWorker =
          (w.laneAt lane).stream.hasWorker := rfl
      rw [submit_of_worker hlt hworker]
      exact SameClients.putStream hkind w.memory
    | false =>
      have hkind : ((w.laneAt lane).stream.count.finish (job.run w.memory).2).hasWorker =
          (w.laneAt lane).stream.hasWorker := rfl
      rw [submit_of_inline hlt hworker]
      exact SameClients.putStream hkind (job.run w.memory).1
  · rw [submit_of_missing hge]
    exact .refl w

theorem laneAt_submit_of_ne (w : World) (h : other ≠ lane) (job : Launch) :
    (w.submit lane job).laneAt other = w.laneAt other := by
  rcases Nat.lt_or_ge lane w.lanes.size with hlt | hge
  · cases hworker : (w.laneAt lane).stream.hasWorker with
    | true =>
      rw [submit_of_worker hlt hworker]
      exact laneAt_putLane_of_ne h
    | false =>
      rw [submit_of_inline hlt hworker]
      exact laneAt_putLane_of_ne h
  · rw [submit_of_missing hge]

theorem unfinished_submit_of_ne (w : World) (h : other ≠ lane) (job : Launch) :
    (w.submit lane job).unfinished other = w.unfinished other :=
  unfinished_congr (laneAt_submit_of_ne w h job)

/-- A submitted job waits at the end of its lane, or has been run already where there is no
worker. -/
theorem unfinished_submit (hsound : w.Sound) (hlane : lane < w.lanes.size) (job : Launch) :
    (w.submit lane job).unfinished lane =
      if (w.laneAt lane).stream.hasWorker then w.unfinished lane ++ [job] else [] := by
  cases hworker : (w.laneAt lane).stream.hasWorker with
  | true =>
    rw [submit_of_worker hlane hworker, unfinished_putLane hlane]
    exact (List.append_assoc _ _ _).symm
  | false =>
    have hnone := (hsound lane).inline hworker
    have hwaiting : (w.laneAt lane).stream.waiting = [] := (List.append_eq_nil_iff.mp hnone).2
    rw [submit_of_inline hlane hworker]
    exact (unfinished_putLane hlane).trans hwaiting

/-- With a job submitted to it a lane is headed for what the job makes of where it was headed. -/
theorem settled_submit (hsound : w.Sound) (hlane : lane < w.lanes.size) (job : Launch) :
    (w.submit lane job).settled lane =
      ((job.run (w.settled lane).1).1,
        (w.settled lane).2 <|> (job.run (w.settled lane).1).2) := by
  have hjobs := unfinished_submit hsound hlane job
  cases hworker : (w.laneAt lane).stream.hasWorker with
  | true =>
    have hfault : (w.submit lane job).faultAt lane = w.faultAt lane := by
      rw [submit_of_worker hlane hworker]
      exact faultAt_putLane hlane
    have hmemory : (w.submit lane job).memory = w.memory := by
      rw [submit_of_worker hlane hworker]
      rfl
    -- The job is behind those that are left, so it starts from where they end.
    rw [settled, settled, hjobs, hworker, if_pos rfl, hfault, hmemory, Launch.runAll_append,
      Launch.runAll_singleton]
    cases w.faultAt lane <;> rfl
  | false =>
    have hnone : w.unfinished lane = [] := (hsound lane).inline hworker
    have hfault : (w.submit lane job).faultAt lane = (w.faultAt lane <|> (job.run w.memory).2) := by
      rw [submit_of_inline hlane hworker]
      exact faultAt_putLane hlane
    have hmemory : (w.submit lane job).memory = (job.run w.memory).1 := by
      rw [submit_of_inline hlane hworker]
    -- Nothing was left, so the job has started from the memory as it was.
    rw [settled, settled, hjobs, hworker, hnone, hfault, hmemory]
    simp [Launch.runAll]

theorem Sound.submit (h : w.Sound) (lane : Nat) (job : Launch) : (w.submit lane job).Sound := by
  rcases Nat.lt_or_ge lane w.lanes.size with hlane | hmissing
  case inr =>
    rw [submit_of_missing hmissing]
    exact h
  intro other
  by_cases hother : other = lane
  · subst hother
    have hcounted := (h other).accounted
    cases hworker : (w.laneAt other).stream.hasWorker with
    | true =>
      rw [submit_of_worker hlane hworker, laneAt_putLane hlane]
      refine ⟨?_, ?_⟩
      · have hlength : ((w.laneAt other).stream.count.send job).unfinished =
            (w.laneAt other).stream.unfinished ++ [job] := (List.append_assoc _ _ _).symm
        rw [hlength, List.length_append, ← hcounted]
        rfl
      · intro hinline
        exact absurd (hinline.symm.trans hworker) (by decide)
    | false =>
      have hnone := (h other).inline hworker
      have hwaiting : (w.laneAt other).stream.waiting = [] := (List.append_eq_nil_iff.mp hnone).2
      let l := { w.laneAt other with
        stream := ((w.laneAt other).stream.count).finish (job.run w.memory).2 }
      have hput : (w.putLane other l).laneAt other = l := laneAt_putLane hlane
      rw [hnone] at hcounted
      rw [submit_of_inline hlane hworker]
      refine ⟨?_, ?_⟩
      · change ((w.putLane other _).laneAt other).stream.pending =
          ((w.putLane other _).laneAt other).stream.unfinished.length
        rw [hput]
        change (w.laneAt other).stream.pending + 1 - 1 = (w.laneAt other).stream.waiting.length
        rw [hwaiting, hcounted]
        rfl
      · intro _
        exact (congrArg (fun l : Lane => l.stream.unfinished) hput).trans hwaiting
  · rw [laneAt_submit_of_ne w hother job]
    exact h other

/-! ## Steps that leave the streams alone -/

/-- Two worlds in which the same jobs are at the same point. -/
structure SameStreams (w w' : World) : Prop where
  environment : w'.environment = w.environment
  memory : w'.memory = w.memory
  moment : w'.moment = w.moment
  size : w'.lanes.size = w.lanes.size
  stream : ∀ lane, (w'.laneAt lane).stream = (w.laneAt lane).stream

variable {w' : World}

theorem SameStreams.refl (w : World) : w.SameStreams w := ⟨rfl, rfl, rfl, rfl, fun _ => rfl⟩

theorem SameStreams.trans {w'' : World} (h : w.SameStreams w') (h' : w'.SameStreams w'') :
    w.SameStreams w'' :=
  ⟨h'.environment.trans h.environment, h'.memory.trans h.memory, h'.moment.trans h.moment,
    h'.size.trans h.size, fun lane => (h'.stream lane).trans (h.stream lane)⟩

theorem SameStreams.unfinished (h : w.SameStreams w') (lane : Nat) :
    w'.unfinished lane = w.unfinished lane :=
  congrArg Stream.unfinished (h.stream lane)

theorem SameStreams.settled (h : w.SameStreams w') (lane : Nat) :
    w'.settled lane = w.settled lane := by
  have hfault : w'.faultAt lane = w.faultAt lane := congrArg Stream.fault (h.stream lane)
  rw [World.settled, World.settled, h.unfinished lane, h.memory, hfault]

theorem SameStreams.sound (h : w.SameStreams w') (hsound : w.Sound) : w'.Sound := by
  intro lane
  rw [h.stream lane]
  exact hsound lane

/-- Putting a lane back with another flag. -/
theorem SameStreams.putLane {l : Lane} (h : l.stream = (w.laneAt lane).stream) :
    w.SameStreams (w.putLane lane l) := by
  refine ⟨rfl, rfl, rfl, size_putLane w lane l, ?_⟩
  intro other
  by_cases hother : other = lane
  · subst hother
    rcases Nat.lt_or_ge other w.lanes.size with hlt | hge
    · rw [laneAt_putLane hlt, h]
    · rw [laneAt_of_size_le hge, laneAt_of_size_le]
      simpa using hge
  · rw [laneAt_putLane_of_ne hother]

theorem sameStreams_tell (event : Event) (w : World) : w.SameStreams (w.tell event) :=
  ⟨rfl, rfl, rfl, rfl, fun _ => rfl⟩

theorem alterLane_eq_putLane (w : World) (lane : Nat) (f : Lane → Lane) :
    w.alterLane lane f = w.putLane lane (f (w.laneAt lane)) := by
  have hlanes : w.lanes.modify lane f = w.lanes.setIfInBounds lane (f (w.laneAt lane)) := by
    apply Array.ext_getElem?
    intro other
    rw [Array.getElem?_modify, Array.getElem?_setIfInBounds]
    by_cases hother : lane = other
    · subst hother
      rcases Nat.lt_or_ge lane w.lanes.size with hlt | hge
      · simp [hlt, laneAt]
      · simp [hge]
    · simp [hother]
  rw [alterLane, putLane, hlanes]

end World

/-- The report on a launch that the limits of a client's device reject. -/
def Client.rejection (client : Client) (launch : Launch) : Option Error :=
  launchRejection backendName launch.kernel.name client.device.limits launch.geometry

section Flags

variable {client : Client} {launch : Launch} {w : World}

theorem Client.rejection_eq_none_iff :
    client.rejection launch = none ↔ client.device.limits.Admits launch.geometry :=
  launchRejection_eq_none_iff

theorem screen_of_admitted (h : client.rejection launch = none) (w : World) :
    screen client launch w = (true, w) := by
  unfold Client.rejection at h
  simp [screen, h]

theorem screen_of_rejected {e : Error} (h : client.rejection launch = some e) (w : World) :
    screen client launch w =
      (false,
        (w.putLane client.lane
          { w.laneAt client.lane with flag := (w.laneAt client.lane).flag.record e }).tell
            (.launchRejected e)) := by
  unfold Client.rejection at h
  simp [screen, h, World.alterLane_eq_putLane]

theorem sameStreams_screen (client : Client) (launch : Launch) (w : World) :
    w.SameStreams (screen client launch w).2 := by
  cases hreport : client.rejection launch with
  | none =>
    rw [screen_of_admitted hreport]
    exact .refl w
  | some e =>
    let l := { w.laneAt client.lane with flag := (w.laneAt client.lane).flag.record e }
    have hstream : l.stream = (w.laneAt client.lane).stream := rfl
    rw [screen_of_rejected hreport]
    exact (World.SameStreams.putLane hstream).trans (World.sameStreams_tell _ _)

/-- A rejected launch leaves its report in the flag, whatever was there; an admitted one leaves the
flag alone. -/
theorem flagAt_screen (hlane : client.lane < w.lanes.size) (launch : Launch) :
    (screen client launch w).2.flagAt client.lane =
      (client.rejection launch <|> w.flagAt client.lane) := by
  cases hreport : client.rejection launch with
  | none =>
    rw [screen_of_admitted hreport]
    rfl
  | some e =>
    rw [screen_of_rejected hreport]
    exact World.flagAt_putLane hlane

/-- What a query answers on a flag. -/
def flagAnswer : Option Error → Except Error Unit
  | none => .ok ()
  | some e => .error e

theorem takeError_eq (client : Client) (w : World) :
    takeError client w =
      (flagAnswer (w.flagAt client.lane),
        w.putLane client.lane { w.laneAt client.lane with flag := .clear }) := by
  rcases Nat.lt_or_ge client.lane w.lanes.size with hlt | hge
  · simp only [takeError, World.getElem?_eq_laneAt hlt, ErrorFlag.take, World.flagAt, World.putLane]
    cases (w.laneAt client.lane).flag.pending <;> rfl
  · have hunchanged : w.putLane client.lane { w.laneAt client.lane with flag := .clear } = w := by
      simp [World.putLane, Array.setIfInBounds_eq_of_size_le hge]
    rw [hunchanged, World.flagAt, World.laneAt_of_size_le hge]
    simp [takeError, hge]
    rfl

theorem sameStreams_takeError (client : Client) (w : World) :
    w.SameStreams (takeError client w).2 := by
  rw [takeError_eq]
  exact .putLane rfl

/-- A query leaves an empty flag behind. -/
theorem flagAt_takeError (client : Client) (w : World) :
    (takeError client w).2.flagAt client.lane = none := by
  rw [takeError_eq]
  rcases Nat.lt_or_ge client.lane w.lanes.size with hlt | hge
  · exact World.flagAt_putLane hlt
  · rw [World.flagAt, World.laneAt_of_size_le (by simpa using hge)]
    rfl

end Flags

/-! ## Waiting -/

/-- A wait drains the lane and takes the fault kept there, which is its answer. -/
theorem perform_synchronize (client : Client) (w : World) :
    (synchronize client).perform w =
      let drained := w.progress.drain client.lane
      let l := drained.laneAt client.lane
      (match l.stream.fault with
        | none => .ok ()
        | some f => .error (.error (.backend (.streamFaulted client.lane f))),
        drained.putLane client.lane { l with stream := l.stream.takeFault.2 }) := by
  unfold synchronize
  rw [Effect.perform_ofFun]
  generalize w.progress.drain client.lane = drained
  rcases Nat.lt_or_ge client.lane drained.lanes.size with hlt | hge
  · simp only [World.getElem?_eq_laneAt hlt, Stream.takeFault, World.putLane]
    cases (drained.laneAt client.lane).stream.fault <;> rfl
  · -- There is no such lane, and nothing to take.
    have hunchanged : ∀ l : Lane, drained.putLane client.lane l = drained := by
      intro l
      simp [World.putLane, Array.setIfInBounds_eq_of_size_le hge]
    simp only [hunchanged, World.laneAt_of_size_le hge]
    simp [hge]
    rfl

theorem unfinished_synchronize (client : Client) (w : World) :
    ((synchronize client).perform w).2.unfinished client.lane = [] := by
  have hdrained := World.unfinished_drain w.progress client.lane
  rw [perform_synchronize]
  rcases Nat.lt_or_ge client.lane (w.progress.drain client.lane).lanes.size with hlt | hge
  · exact (World.unfinished_putLane hlt).trans hdrained
  · exact World.unfinished_of_size_le (by simpa using hge)

end Emulated

end DeviceCopy
