import DeviceCopy.Emulated.World

/-!
# Work on the lanes

What the steps of the host and of the workers do to a lane, in terms of the jobs on it that are not
finished. A worker takes them off one by one, oldest first, and runs them on the shared memory; a
submitted job goes to the end, or is run on the spot where there is no worker. So whatever the
workers have done so far, a lane has one memory and one fault it is headed for: `World.settled`, which
no step of its worker changes.

That a lane without a worker has nothing left over, and that every job counted is one that is still
there, is the invariant `World.Sound`.
-/

set_option autoImplicit false

namespace DeviceCopy

/-- Run jobs one after another: the memory at the end, and the first fault on the way. -/
def Launch.runAll : List Launch → Memory → Memory × Option Fault
  | [], m => (m, none)
  | job :: rest, m =>
      let (between, fault) := job.run m
      let (last, later) := runAll rest between
      (last, fault <|> later)

theorem Launch.runAll_append (first second : List Launch) (m : Memory) :
    runAll (first ++ second) m =
      ((runAll second (runAll first m).1).1,
        (runAll first m).2 <|> (runAll second (runAll first m).1).2) := by
  induction first generalizing m with
  | nil => simp [runAll]
  | cons job rest ih =>
    simp only [List.cons_append, runAll, ih]
    cases (job.run m).2 <;> rfl

theorem Launch.runAll_singleton (job : Launch) (m : Memory) : runAll [job] m = job.run m := by
  simp [runAll]

namespace Emulated

/-! ## Streams -/

namespace Stream

variable {Job Mishap : Type} {s : Stream Job Mishap} {job : Job} {rest : List Job}

/-- Jobs sent and not finished, the oldest first. -/
def unfinished (s : Stream Job Mishap) : List Job := s.running.toList ++ s.waiting

/-- Between two steps of the host every counted job is there, and none is left on a stream without a
worker. -/
structure Sound (s : Stream Job Mishap) : Prop where
  accounted : s.pending = s.unfinished.length
  inline : s.hasWorker = false → s.unfinished = []

theorem length_unfinished (s : Stream Job Mishap) : s.unfinished.length = s.backlog := by
  unfold unfinished backlog
  cases s.running <;> simp

theorem resume_of_idle (h : s.unfinished = []) : s.resume = none := by
  rcases List.append_eq_nil_iff.mp h with ⟨hrunning, hwaiting⟩
  have hnone : s.running = none := by simpa using hrunning
  simp [resume, receive, hnone, hwaiting]

theorem resume_of_busy (h : s.unfinished = job :: rest) :
    s.resume = some (job, { s with waiting := rest, running := some job }) := by
  cases s with
  | mk hasWorker pending waiting running fault =>
    -- A worker that is at a job goes on with it, and else takes the oldest that waits.
    cases running with
    | none =>
      have hwaiting : waiting = job :: rest := h
      simp [resume, receive, hwaiting]
    | some current =>
      have hboth : current = job ∧ waiting = rest := by simpa [unfinished] using h
      rcases hboth with ⟨rfl, rfl⟩
      rfl

theorem sound_idle (hasWorker : Bool) : (idle hasWorker : Stream Job Mishap).Sound :=
  ⟨rfl, fun _ => rfl⟩

end Stream

/-! ## Looking at a lane -/

/-- A lane that nobody has opened. -/
def Lane.unopened : Lane := { stream := .idle false, flag := .clear }

namespace World

variable {w w' : World} {lane other : Nat} {job : Launch} {rest : List Launch}

/-- The lane of a number. -/
def laneAt (w : World) (lane : Nat) : Lane := w.lanes[lane]?.getD .unopened

/-- Jobs on a lane that are not finished, the oldest first. -/
def unfinished (w : World) (lane : Nat) : List Launch := (w.laneAt lane).stream.unfinished

/-- The fault kept on a lane. -/
def faultAt (w : World) (lane : Nat) : Option Fault := (w.laneAt lane).stream.fault

/-- The launch error kept on a lane. -/
def flagAt (w : World) (lane : Nat) : Option Error := (w.laneAt lane).flag.pending

/-- Put a lane in the place of another. -/
def putLane (w : World) (lane : Nat) (l : Lane) : World :=
  { w with lanes := w.lanes.setIfInBounds lane l }

/-- The memory and the fault of a lane once its worker has nothing left to do, if no other worker
does anything. -/
def settled (w : World) (lane : Nat) : Memory × Option Fault :=
  let (m, fault) := Launch.runAll (w.unfinished lane) w.memory
  (m, w.faultAt lane <|> fault)

/-- Every stream is in order. -/
def Sound (w : World) : Prop := ∀ lane, (w.laneAt lane).stream.Sound

theorem laneAt_of_getElem? {l : Lane} (h : w.lanes[lane]? = some l) : w.laneAt lane = l := by
  simp [laneAt, h]

theorem getElem?_eq_laneAt (h : lane < w.lanes.size) : w.lanes[lane]? = some (w.laneAt lane) := by
  simp [laneAt, h]

theorem laneAt_of_size_le (h : w.lanes.size ≤ lane) : w.laneAt lane = .unopened := by
  simp [laneAt, h]

theorem laneAt_putLane {l : Lane} (h : lane < w.lanes.size) : (w.putLane lane l).laneAt lane = l := by
  simp [putLane, laneAt, h]

theorem laneAt_putLane_of_ne {l : Lane} (h : other ≠ lane) :
    (w.putLane lane l).laneAt other = w.laneAt other := by
  simp [putLane, laneAt, Array.getElem?_setIfInBounds_ne h.symm]

theorem unfinished_putLane {l : Lane} (h : lane < w.lanes.size) :
    (w.putLane lane l).unfinished lane = l.stream.unfinished := by
  rw [unfinished, laneAt_putLane h]

theorem faultAt_putLane {l : Lane} (h : lane < w.lanes.size) :
    (w.putLane lane l).faultAt lane = l.stream.fault := by
  rw [faultAt, laneAt_putLane h]

theorem flagAt_putLane {l : Lane} (h : lane < w.lanes.size) :
    (w.putLane lane l).flagAt lane = l.flag.pending := by
  rw [flagAt, laneAt_putLane h]

theorem unfinished_congr (h : w'.laneAt lane = w.laneAt lane) :
    w'.unfinished lane = w.unfinished lane := by
  rw [unfinished, unfinished, h]

theorem unfinished_of_size_le (h : w.lanes.size ≤ lane) : w.unfinished lane = [] := by
  rw [unfinished, laneAt_of_size_le h]
  rfl

@[simp] theorem size_putLane (w : World) (lane : Nat) (l : Lane) :
    (w.putLane lane l).lanes.size = w.lanes.size := by
  simp [putLane]

theorem backlog_eq_length (w : World) (lane : Nat) : w.backlog lane = (w.unfinished lane).length := by
  unfold backlog unfinished
  rw [Stream.length_unfinished]
  rcases Nat.lt_or_ge lane w.lanes.size with hlt | hge
  · simp [getElem?_eq_laneAt hlt]
  · simp [laneAt_of_size_le hge, hge]
    rfl

theorem lt_size_of_busy (h : w.unfinished lane ≠ []) : lane < w.lanes.size := by
  rcases Nat.lt_or_ge lane w.lanes.size with hlt | hge
  · exact hlt
  · exact absurd (unfinished_of_size_le hge) h

/-! ## What workers leave alone -/

/-- Two worlds that differ at most in memory, in how far the streams have got, and in the moment. -/
structure SameClients (w w' : World) : Prop where
  environment : w'.environment = w.environment
  heap : w'.heap = w.heap
  defaults : w'.defaults = w.defaults
  events : w'.events = w.events
  size : w'.lanes.size = w.lanes.size
  flag : ∀ lane, (w'.laneAt lane).flag = (w.laneAt lane).flag
  hasWorker : ∀ lane, (w'.laneAt lane).stream.hasWorker = (w.laneAt lane).stream.hasWorker

theorem SameClients.refl (w : World) : w.SameClients w :=
  ⟨rfl, rfl, rfl, rfl, rfl, fun _ => rfl, fun _ => rfl⟩

theorem SameClients.trans {w'' : World} (h : w.SameClients w') (h' : w'.SameClients w'') :
    w.SameClients w'' :=
  ⟨h'.environment.trans h.environment, h'.heap.trans h.heap, h'.defaults.trans h.defaults,
    h'.events.trans h.events, h'.size.trans h.size, fun lane => (h'.flag lane).trans (h.flag lane),
    fun lane => (h'.hasWorker lane).trans (h.hasWorker lane)⟩

theorem SameClients.flagAt (h : w.SameClients w') (lane : Nat) : w'.flagAt lane = w.flagAt lane := by
  rw [World.flagAt, World.flagAt, h.flag lane]

/-- A lane may be put back with another stream of the same kind. -/
theorem SameClients.putStream {s : Stream Launch Fault}
    (h : s.hasWorker = (w.laneAt lane).stream.hasWorker) (m : Memory) :
    w.SameClients { w.putLane lane { w.laneAt lane with stream := s } with memory := m } := by
  let l : Lane := { w.laneAt lane with stream := s }
  have hflag : l.flag = (w.laneAt lane).flag := rfl
  -- Every other lane is as it was, and so is this one if it does not exist.
  have hlane : ∀ other, (w.putLane lane l).laneAt other = l ∧ other = lane ∨
      (w.putLane lane l).laneAt other = w.laneAt other := by
    intro other
    by_cases hother : other = lane
    · subst hother
      rcases Nat.lt_or_ge other w.lanes.size with hlt | hge
      · exact Or.inl ⟨laneAt_putLane hlt, rfl⟩
      · refine Or.inr ?_
        rw [laneAt_of_size_le hge, laneAt_of_size_le]
        simpa using hge
    · exact Or.inr (laneAt_putLane_of_ne hother)
  refine ⟨rfl, rfl, rfl, rfl, size_putLane w lane l, ?_, ?_⟩
  · intro other
    rcases hlane other with ⟨hput, rfl⟩ | hkept
    · exact (congrArg Lane.flag hput).trans hflag
    · exact congrArg Lane.flag hkept
  · intro other
    rcases hlane other with ⟨hput, rfl⟩ | hkept
    · exact (congrArg (fun l : Lane => l.stream.hasWorker) hput).trans h
    · exact congrArg (fun l : Lane => l.stream.hasWorker) hkept

/-! ## One job -/

/-- A stream after its worker has run the job it goes on with. -/
def afterJob (s : Stream Launch Fault) (rest : List Launch) (outcome : Option Fault) :
    Stream Launch Fault :=
  { s with pending := s.pending - 1, waiting := rest, running := none, fault := s.fault <|> outcome }

theorem work_of_idle (h : w.unfinished lane = []) : w.work lane = w := by
  rcases Nat.lt_or_ge lane w.lanes.size with hlt | hge
  · simp [work, getElem?_eq_laneAt hlt, Stream.resume_of_idle h]
  · simp [work, hge]

theorem work_of_busy (h : w.unfinished lane = job :: rest) :
    w.work lane =
      { w.putLane lane
          { w.laneAt lane with stream := afterJob (w.laneAt lane).stream rest (job.run w.memory).2 }
        with memory := (job.run w.memory).1 } := by
  have hlt : lane < w.lanes.size := lt_size_of_busy (by simp [h])
  simp [work, getElem?_eq_laneAt hlt, Stream.resume_of_busy h, putLane, Stream.finish, afterJob]

theorem laneAt_work_of_ne (w : World) (h : other ≠ lane) :
    (w.work lane).laneAt other = w.laneAt other := by
  cases hjobs : w.unfinished lane with
  | nil => rw [work_of_idle hjobs]
  | cons job rest =>
    rw [work_of_busy hjobs]
    exact laneAt_putLane_of_ne h

theorem unfinished_work (w : World) (lane : Nat) :
    (w.work lane).unfinished lane = (w.unfinished lane).tail := by
  cases hjobs : w.unfinished lane with
  | nil => rw [work_of_idle hjobs, hjobs, List.tail_nil]
  | cons job rest =>
    have hlt : lane < w.lanes.size := lt_size_of_busy (by simp [hjobs])
    rw [work_of_busy hjobs]
    exact unfinished_putLane hlt

theorem sameClients_work (w : World) (lane : Nat) : w.SameClients (w.work lane) := by
  cases hjobs : w.unfinished lane with
  | nil =>
    rw [work_of_idle hjobs]
    exact .refl w
  | cons job rest =>
    have hkind : (afterJob (w.laneAt lane).stream rest (job.run w.memory).2).hasWorker =
        (w.laneAt lane).stream.hasWorker := rfl
    rw [work_of_busy hjobs]
    exact SameClients.putStream hkind (job.run w.memory).1

/-- What a lane is headed for does not depend on how far its worker has got. -/
theorem settled_work (w : World) (lane : Nat) : (w.work lane).settled lane = w.settled lane := by
  cases hjobs : w.unfinished lane with
  | nil => rw [work_of_idle hjobs]
  | cons job rest =>
    have hlt : lane < w.lanes.size := lt_size_of_busy (by simp [hjobs])
    have hrest : (w.work lane).unfinished lane = rest := by rw [unfinished_work, hjobs, List.tail_cons]
    have hfault : (w.work lane).faultAt lane = (w.faultAt lane <|> (job.run w.memory).2) := by
      rw [work_of_busy hjobs]
      exact faultAt_putLane hlt
    have hmemory : (w.work lane).memory = (job.run w.memory).1 := by rw [work_of_busy hjobs]
    rw [settled, settled, hrest, hfault, hmemory, hjobs]
    -- The job just run is the first of those that were to be run.
    simp only [Launch.runAll]
    cases w.faultAt lane <;> rfl

/-- An idle lane is where it is headed. -/
theorem settled_of_idle (h : w.unfinished lane = []) :
    w.settled lane = (w.memory, w.faultAt lane) := by
  simp [settled, h, Launch.runAll]

theorem Sound.work (h : w.Sound) (lane : Nat) : (w.work lane).Sound := by
  intro other
  cases hjobs : w.unfinished lane with
  | nil =>
    rw [work_of_idle hjobs]
    exact h other
  | cons job rest =>
    by_cases hother : other = lane
    · subst hother
      have hlt : other < w.lanes.size := lt_size_of_busy (by simp [hjobs])
      have hcounted := (h other).accounted
      have hlength : (w.laneAt other).stream.unfinished.length = rest.length + 1 := by
        change (w.unfinished other).length = rest.length + 1
        rw [hjobs, List.length_cons]
      have hput : (w.work other).laneAt other =
          { w.laneAt other with
            stream := afterJob (w.laneAt other).stream rest (job.run w.memory).2 } := by
        rw [work_of_busy hjobs]
        exact laneAt_putLane hlt
      rw [hput]
      refine ⟨?_, ?_⟩
      · change (w.laneAt other).stream.pending - 1 = rest.length
        omega
      · -- There was a job, so there is a worker.
        intro hinline
        have hnone := (h other).inline hinline
        rw [hnone] at hlength
        cases hlength
    · rw [laneAt_work_of_ne w hother]
      exact h other

/-! ## Many jobs -/

theorem workThrough_of_idle (h : w.unfinished lane = []) (jobs : Nat) :
    workThrough lane jobs w = w := by
  induction jobs with
  | zero => rfl
  | succ jobs ih => rw [workThrough, work_of_idle h, ih]

theorem laneAt_workThrough_of_ne (w : World) (h : other ≠ lane) (jobs : Nat) :
    (workThrough lane jobs w).laneAt other = w.laneAt other := by
  induction jobs generalizing w with
  | zero => rfl
  | succ jobs ih => rw [workThrough, ih, laneAt_work_of_ne w h]

theorem unfinished_workThrough_of_ne (w : World) (h : other ≠ lane) (jobs : Nat) :
    (workThrough lane jobs w).unfinished other = w.unfinished other :=
  unfinished_congr (laneAt_workThrough_of_ne w h jobs)

theorem unfinished_workThrough (w : World) (lane jobs : Nat) :
    (workThrough lane jobs w).unfinished lane = (w.unfinished lane).drop jobs := by
  induction jobs generalizing w with
  | zero => rfl
  | succ jobs ih => rw [workThrough, ih, unfinished_work, List.drop_tail]

theorem sameClients_workThrough (w : World) (lane jobs : Nat) :
    w.SameClients (workThrough lane jobs w) := by
  induction jobs generalizing w with
  | zero => exact .refl w
  | succ jobs ih => exact (sameClients_work w lane).trans (ih (w.work lane))

theorem settled_workThrough (w : World) (lane jobs : Nat) :
    (workThrough lane jobs w).settled lane = w.settled lane := by
  induction jobs generalizing w with
  | zero => rfl
  | succ jobs ih => rw [workThrough, ih, settled_work]

theorem Sound.workThrough (h : w.Sound) (lane jobs : Nat) : (workThrough lane jobs w).Sound := by
  induction jobs generalizing w with
  | zero => exact h
  | succ jobs ih => exact ih (h.work lane)

/-- Nothing is left on a lane that has been drained. -/
theorem unfinished_drain (w : World) (lane : Nat) : (w.drain lane).unfinished lane = [] := by
  rw [drain, unfinished_workThrough, backlog_eq_length, List.drop_length]

/-- Draining a lane takes it where it is headed. -/
theorem settled_eq_drain (w : World) (lane : Nat) :
    w.settled lane = ((w.drain lane).memory, (w.drain lane).faultAt lane) := by
  -- Where the lane is headed has not changed, and after the drain it is there.
  have hsettled := settled_workThrough w lane (w.backlog lane)
  rw [← hsettled, settled]
  change ((Launch.runAll ((w.drain lane).unfinished lane) (w.drain lane).memory).1,
    ((w.drain lane).faultAt lane <|>
      (Launch.runAll ((w.drain lane).unfinished lane) (w.drain lane).memory).2)) = _
  rw [unfinished_drain]
  simp [Launch.runAll]

end World

end Emulated

end DeviceCopy
