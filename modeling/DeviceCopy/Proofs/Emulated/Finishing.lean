import DeviceCopy.Proofs.Emulated.HostSteps
import Mathlib.Logic.Function.Basic

/-!
# What the workers finish

How far the workers get while the host takes a step is up to the schedule, but not what comes of it.
Of the jobs that a lane had to do, the oldest have been finished and the others are left, and memory
and the faults kept on the lanes are what running the finished ones, one after the other, makes of
those before: `World.Advances`. It looks at lanes, memory and faults only, and at no step of the code.

A submission gives a lane one more job to do, which on a lane without a worker is finished at once
(`World.advances_submit`).
-/

set_option autoImplicit false

namespace DeviceCopy

namespace Emulated

/-- A job that has been finished on a lane. -/
structure Finished where
  lane : Nat
  job : Launch

namespace Finished

/-- The jobs finished on a lane, the oldest first. -/
def jobsOn (lane : Nat) (finished : List Finished) : List Launch :=
  (finished.filter (fun entry => entry.lane = lane)).map Finished.job

/-- What a job makes of memory and of the faults kept on the lanes. An earlier fault stays. -/
def after (state : Memory × (Nat → Option Fault)) (entry : Finished) :
    Memory × (Nat → Option Fault) :=
  ((entry.job.run state.1).1,
    Function.update state.2 entry.lane (state.2 entry.lane <|> (entry.job.run state.1).2))

theorem jobsOn_append (lane : Nat) (first second : List Finished) :
    jobsOn lane (first ++ second) = jobsOn lane first ++ jobsOn lane second := by
  rw [jobsOn, List.filter_append, List.map_append]
  rfl

theorem jobsOn_singleton (entry : Finished) :
    (jobsOn · [entry]) = Function.update (fun _ => []) entry.lane [entry.job] := by
  funext lane
  rw [jobsOn, Function.update_apply]
  by_cases hlane : lane = entry.lane
  · simp [hlane]
  · simp [hlane, Ne.symm hlane]

end Finished

namespace World

/-- From one world to the other lanes that had certain jobs to do have finished some of them, in the
given order, and have the others left. -/
structure Advances (w : World) (tasks : Nat → List Launch) (finished : List Finished) (w' : World) :
    Prop where
  environment : w'.environment = w.environment
  size : w'.lanes.size = w.lanes.size
  hasWorker : ∀ lane, (w'.laneAt lane).stream.hasWorker = (w.laneAt lane).stream.hasWorker
  tasks : ∀ lane, tasks lane = Finished.jobsOn lane finished ++ w'.unfinished lane
  outcome : (w'.memory, w'.faultAt) = finished.foldl Finished.after (w.memory, w.faultAt)

variable {w w' w'' : World} {tasks : Nat → List Launch} {finished later : List Finished} {lane : Nat}

theorem Advances.refl (w : World) : w.Advances w.unfinished [] w :=
  ⟨rfl, rfl, fun _ => rfl, fun _ => rfl, rfl⟩

/-- What a lane has left it still has to do. -/
theorem Advances.trans (h : w.Advances tasks finished w')
    (h' : w'.Advances w'.unfinished later w'') : w.Advances tasks (finished ++ later) w'' := by
  refine ⟨h'.environment.trans h.environment, h'.size.trans h.size,
    fun lane => (h'.hasWorker lane).trans (h.hasWorker lane), ?_, ?_⟩
  · intro lane
    rw [h.tasks, h'.tasks, Finished.jobsOn_append, List.append_assoc]
  · rw [h'.outcome, h.outcome, List.foldl_append]

theorem SameStreams.outcome_eq (h : w.SameStreams w') :
    (w'.memory, w'.faultAt) = (w.memory, w.faultAt) :=
  Prod.ext h.memory (funext fun lane => congrArg Stream.fault (h.stream lane))

theorem SameStreams.advances (h : w.SameStreams w') : w.Advances w.unfinished [] w' :=
  ⟨h.environment, h.size, fun lane => congrArg Stream.hasWorker (h.stream lane),
    fun lane => (h.unfinished lane).symm, h.outcome_eq⟩

/-- What finishes jobs from one world finishes them from any other with the same streams. -/
theorem Advances.of_sameStreams (h : w'.Advances tasks finished w'') (hsame : w.SameStreams w') :
    w.Advances tasks finished w'' := by
  refine ⟨h.environment.trans hsame.environment, h.size.trans hsame.size, fun lane => ?_, h.tasks, ?_⟩
  · exact (h.hasWorker lane).trans (congrArg Stream.hasWorker (hsame.stream lane))
  · rw [h.outcome, hsame.outcome_eq]

/-! ## One lane at a time -/

section OneLane

variable {s : Stream Launch Fault}

/-- A lane that is put back with another stream of the same kind, and the memory there is then. -/
theorem advances_putStream (hlane : lane < w.lanes.size)
    (hworker : s.hasWorker = (w.laneAt lane).stream.hasWorker) {m : Memory}
    (htasks : ∀ other, tasks other =
      Finished.jobsOn other finished ++ Function.update w.unfinished lane s.unfinished other)
    (houtcome : (m, Function.update w.faultAt lane s.fault) =
      finished.foldl Finished.after (w.memory, w.faultAt)) :
    w.Advances tasks finished
      { w.putLane lane { w.laneAt lane with stream := s } with memory := m } := by
  have hsame := SameClients.putStream hworker m
  have hleft : (w.putLane lane { w.laneAt lane with stream := s }).unfinished =
      Function.update w.unfinished lane s.unfinished := by
    refine Function.eq_update_iff.mpr ⟨unfinished_putLane hlane, fun other hother => ?_⟩
    exact unfinished_congr (laneAt_putLane_of_ne hother)
  have hfaults : (w.putLane lane { w.laneAt lane with stream := s }).faultAt =
      Function.update w.faultAt lane s.fault := by
    refine Function.eq_update_iff.mpr ⟨faultAt_putLane hlane, fun other hother => ?_⟩
    rw [faultAt, laneAt_putLane_of_ne hother]
    rfl
  refine ⟨rfl, hsame.size, hsame.hasWorker, fun other => ?_, ?_⟩
  · exact (htasks other).trans (congrArg (_ ++ · other) hleft.symm)
  · exact (congrArg (m, ·) hfaults).trans houtcome

/-- A job is finished on its lane. -/
theorem advances_finish (hlane : lane < w.lanes.size)
    (hworker : s.hasWorker = (w.laneAt lane).stream.hasWorker) (job : Launch)
    (hfault : s.fault = (w.faultAt lane <|> (job.run w.memory).2)) :
    w.Advances (Function.update w.unfinished lane (job :: s.unfinished)) [⟨lane, job⟩]
      { w.putLane lane { w.laneAt lane with stream := s } with memory := (job.run w.memory).1 } := by
  refine advances_putStream hlane hworker (fun other => ?_) ?_
  · rw [congrFun (Finished.jobsOn_singleton ⟨lane, job⟩) other]
    by_cases hother : other = lane
    · subst hother
      rw [Function.update_self, Function.update_self, Function.update_self, List.singleton_append]
    · rw [Function.update_of_ne hother, Function.update_of_ne hother, Function.update_of_ne hother,
        List.nil_append]
  · rw [hfault]
    rfl

end OneLane

/-! ## Turns of the workers -/

theorem advances_work (w : World) (lane : Nat) :
    ∃ finished, w.Advances w.unfinished finished (w.work lane) := by
  cases hjobs : w.unfinished lane with
  | nil =>
    rw [work_of_idle hjobs]
    exact ⟨[], .refl w⟩
  | cons job rest =>
    -- The job that is next is finished, and those behind it are left.
    have hlane : lane < w.lanes.size := lt_size_of_busy (by simp [hjobs])
    have hfinished := advances_finish (s := afterJob (w.laneAt lane).stream rest (job.run w.memory).2)
      hlane rfl job rfl
    have hrest : (afterJob (w.laneAt lane).stream rest (job.run w.memory).2).unfinished = rest := rfl
    rw [hrest, ← hjobs, Function.update_eq_self] at hfinished
    rw [work_of_busy hjobs]
    exact ⟨_, hfinished⟩

theorem advances_workThrough (lane jobs : Nat) (w : World) :
    ∃ finished, w.Advances w.unfinished finished (workThrough lane jobs w) := by
  induction jobs generalizing w with
  | zero => exact ⟨[], .refl w⟩
  | succ jobs ih =>
    obtain ⟨first, hfirst⟩ := w.advances_work lane
    obtain ⟨others, hothers⟩ := ih (w.work lane)
    exact ⟨first ++ others, hfirst.trans hothers⟩

theorem advances_progress (w : World) : ∃ finished, w.Advances w.unfinished finished w.progress := by
  -- All lanes have their turn at one moment, so it stays fixed while the lanes are gone through.
  have hfold : ∀ (lanes : List Nat) (between : World),
      ∃ finished, between.Advances between.unfinished finished
        (lanes.foldl (advance w.moment) between) := by
    intro lanes
    induction lanes with
    | nil => exact fun between => ⟨[], .refl between⟩
    | cons lane rest ih =>
      intro between
      obtain ⟨first, hfirst⟩ := advances_workThrough lane (between.quota w.moment lane) between
      obtain ⟨others, hothers⟩ := ih (advance w.moment between lane)
      exact ⟨first ++ others, hfirst.trans hothers⟩
  have hmoment : w.Advances w.unfinished [] { w with moment := w.moment + 1 } :=
    ⟨rfl, rfl, fun _ => rfl, fun _ => rfl, rfl⟩
  obtain ⟨finished, hfinished⟩ := hfold (List.range w.lanes.size) { w with moment := w.moment + 1 }
  exact ⟨[] ++ finished, hmoment.trans hfinished⟩

/-! ## Submitting a job -/

/-- With a job submitted to it a lane has that to do after everything else. -/
theorem advances_submit (hsound : w.Sound) (hlane : lane < w.lanes.size) (job : Launch) :
    ∃ finished, w.Advances (Function.update w.unfinished lane (w.unfinished lane ++ [job])) finished
      (w.submit lane job) := by
  cases hworker : (w.laneAt lane).stream.hasWorker with
  | true =>
    have hsent : ((w.laneAt lane).stream.count.send job).unfinished = w.unfinished lane ++ [job] :=
      (List.append_assoc _ _ _).symm
    have hkept : Function.update w.faultAt lane (w.faultAt lane) = w.faultAt :=
      Function.update_eq_self lane w.faultAt
    rw [submit_of_worker hlane hworker, ← hsent]
    exact ⟨[], advances_putStream (s := (w.laneAt lane).stream.count.send job) hlane rfl
      (fun _ => rfl) (congrArg (w.memory, ·) hkept)⟩
  | false =>
    -- Nothing is left on the lane, so the job is next, and it is run on the spot.
    have hnone : w.unfinished lane = [] := (hsound lane).inline hworker
    have hwaiting : (w.laneAt lane).stream.waiting = [] := (List.append_eq_nil_iff.mp hnone).2
    have hfinished := advances_finish
      (s := (w.laneAt lane).stream.count.finish (job.run w.memory).2) hlane rfl job rfl
    have hleft : ((w.laneAt lane).stream.count.finish (job.run w.memory).2).unfinished = [] := hwaiting
    rw [hleft] at hfinished
    rw [submit_of_inline hlane hworker, hnone, List.nil_append]
    exact ⟨_, hfinished⟩

end World

end Emulated

end DeviceCopy
