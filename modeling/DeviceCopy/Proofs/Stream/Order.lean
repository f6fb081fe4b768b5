import DeviceCopy.Proofs.History
import DeviceCopy.Proofs.Stream.Pending

/-!
# Jobs in order

On a stream with a worker the jobs sent are, in this order, those that are finished, the one the
worker is at and those in the channel. So each is received, run and finished at most once, one at a
time and in the order of the channel, whatever the earlier ones came to. That each is indeed run is
a matter of the worker's turns: three for each job sent are enough, however they lie among the turns
of the others.
-/

set_option autoImplicit false

namespace DeviceCopy

namespace Emulated

namespace Traffic

variable {Name Job Mishap : Type}

/-! ## What a deed is about -/

namespace Deed

def sent? : Deed Name Job Mishap → Option Job
  | .sent _ job => some job
  | _ => none

def received? : Deed Name Job Mishap → Option Job
  | .received job => some job
  | _ => none

def ran? : Deed Name Job Mishap → Option Job
  | .ran job => some job
  | _ => none

def finished? : Deed Name Job Mishap → Option Job
  | .finished job => some job
  | _ => none

/-- The deed moves no job on. -/
def isIdle : Deed Name Job Mishap → Bool
  | .counted .. | .called _ | .answered .. | .closed | .dropped => true
  | .sent .. | .received _ | .ran _ | .finished _ => false

theorem picks_of_isIdle {deed : Deed Name Job Mishap} (h : deed.isIdle = true) :
    deed.sent? = none ∧ deed.received? = none ∧ deed.ran? = none ∧ deed.finished? = none := by
  cases deed <;> simp_all [isIdle, sent?, received?, ran?, finished?]

end Deed

/-! ## Jobs in the order of the channel -/

section Order

/-- The worker has received, run and finished jobs in the order in which they were sent, each once,
and has finished each before it went on to the next. -/
structure InOrder (history : List (Deed Name Job Mishap)) : Prop where
  received : logOf Deed.received? history <+: logOf Deed.sent? history
  ran : logOf Deed.ran? history <+: logOf Deed.received? history
  finished : logOf Deed.finished? history <+: logOf Deed.ran? history
  oneAtATime : (logOf Deed.received? history).length ≤
    (logOf Deed.finished? history).length + 1

/-- On a stream with a worker the jobs sent are those finished, then the one the worker is at, then
those in the channel. -/
structure Ordered (s : Traffic Name Job Mishap) : Prop where
  worker : s.stream.hasWorker = true
  fresh : s.stream.running = none → s.hasRun = false
  sent : logOf Deed.sent? s.history =
    logOf Deed.finished? s.history ++ s.stream.unfinished
  received : logOf Deed.received? s.history =
    logOf Deed.finished? s.history ++ s.stream.running.toList
  ran : logOf Deed.ran? s.history =
    logOf Deed.finished? s.history ++ (if s.hasRun then s.stream.running.toList else [])

variable {outcome : Job → Option Mishap} {s s' : Traffic Name Job Mishap}

theorem ordered_start (programs : Name → List (Request Job)) :
    (start true programs : Traffic Name Job Mishap).Ordered :=
  ⟨rfl, fun _ => rfl, rfl, rfl, rfl⟩

theorem Ordered.inOrder (h : s.Ordered) : InOrder s.history := by
  refine ⟨?_, ?_, ?_, ?_⟩
  · rw [h.received, h.sent, Stream.unfinished, ← List.append_assoc]
    exact List.prefix_append _ _
  · rw [h.ran, h.received]
    cases s.hasRun <;> simp
  · rw [h.ran]
    exact List.prefix_append _ _
  · rw [h.received, List.length_append]
    cases s.stream.running <;> simp

/-- Nothing happens to the jobs that are sent. -/
theorem Ordered.of_idle (h : s.Ordered) (deeds : List (Deed Name Job Mishap))
    (hdeeds : ∀ deed ∈ deeds, deed.isIdle = true) (hhistory : s'.history = deeds ++ s.history)
    (hworker : s'.stream.hasWorker = s.stream.hasWorker)
    (hrunning : s'.stream.running = s.stream.running)
    (hwaiting : s'.stream.waiting = s.stream.waiting) (hrun : s'.hasRun = s.hasRun) :
    s'.Ordered := by
  have hpicks := fun deed hdeed => Deed.picks_of_isIdle (hdeeds deed hdeed)
  have hjobs : s'.stream.unfinished = s.stream.unfinished := by
    rw [Stream.unfinished, Stream.unfinished, hrunning, hwaiting]
  have hfinished : logOf Deed.finished? s'.history = logOf Deed.finished? s.history := by
    rw [hhistory, logOf_append_of_none (fun deed hdeed => (hpicks deed hdeed).2.2.2)]
  refine ⟨hworker.trans h.worker, ?_, ?_, ?_, ?_⟩
  · rw [hrunning, hrun]
    exact h.fresh
  · rw [hfinished, hjobs, ← h.sent, hhistory,
      logOf_append_of_none (fun deed hdeed => (hpicks deed hdeed).1)]
  · rw [hfinished, hrunning, ← h.received, hhistory,
      logOf_append_of_none (fun deed hdeed => (hpicks deed hdeed).2.1)]
  · rw [hfinished, hrunning, hrun, ← h.ran, hhistory,
      logOf_append_of_none (fun deed hdeed => (hpicks deed hdeed).2.2.1)]

variable [DecidableEq Name] [Fintype Name]

theorem Ordered.move (h : s.Ordered) (haccounted : s.Accounted) (hmove : Move outcome s s') :
    s'.Ordered := by
  have hsent := h.sent
  have hreceived := h.received
  have hran := h.ran
  cases hmove with
  | stay => exact h
  | @count i job rest stage todo =>
    exact h.of_idle [.counted i job] (by simp [Deed.isIdle]) rfl rfl rfl rfl rfl
  | @send i job stage worker =>
    refine ⟨h.worker, h.fresh, ?_, ?_, ?_⟩
    · simp [Traffic.send, Stream.send, Stream.unfinished, Deed.sent?, Deed.finished?, hsent]
    · simpa [Traffic.send, Stream.send, Deed.received?, Deed.finished?] using hreceived
    · change logOf Deed.ran? (.sent i job :: s.history) =
        logOf Deed.finished? (.sent i job :: s.history) ++
          (if s.hasRun then s.stream.running.toList else [])
      simpa [Deed.ran?, Deed.finished?] using hran
  | runHere stage inline => exact absurd (inline.symm.trans h.worker) Bool.false_ne_true
  | finishHere stage =>
    exact absurd ((haccounted.here _ _ stage).symm.trans h.worker) Bool.false_ne_true
  | @call i rest stage todo =>
    exact h.of_idle [.called i] (by simp [Deed.isIdle]) rfl rfl rfl rfl rfl
  | @answer i stage drained =>
    exact h.of_idle [.answered i s.stream.takeFault.1] (by simp [Deed.isIdle]) rfl rfl rfl rfl rfl
  | doze stage busy => exact h.of_idle [] (List.forall_mem_nil _) rfl rfl rfl rfl rfl
  | @receive job waiting free next =>
    have hrun := h.fresh free
    refine ⟨h.worker, by simp [Traffic.receive], ?_, ?_, ?_⟩
    · simpa [Traffic.receive, Deed.sent?, Deed.finished?, Stream.unfinished, free, next] using hsent
    · simpa [Traffic.receive, Deed.received?, Deed.finished?, free] using hreceived
    · simpa [Traffic.receive, Deed.ran?, Deed.finished?, hrun] using hran
  | @runReceived job running fresh =>
    refine ⟨h.worker, by simp [Traffic.runReceived, running], ?_, ?_, ?_⟩
    · simpa [Traffic.runReceived, Deed.sent?, Deed.finished?] using hsent
    · simpa [Traffic.runReceived, Deed.received?, Deed.finished?] using hreceived
    · simpa [Traffic.runReceived, Deed.ran?, Deed.finished?, running, fresh] using hran
  | @finish job running done =>
    refine ⟨h.worker, fun _ => rfl, ?_, ?_, ?_⟩
    · simpa [Traffic.finish, Stream.finish, Stream.unfinished, Deed.sent?, Deed.finished?, running]
        using hsent
    · simpa [Traffic.finish, Stream.finish, Deed.received?, Deed.finished?, running] using hreceived
    · simpa [Traffic.finish, Stream.finish, Deed.ran?, Deed.finished?, running, done] using hran
  | leave idle closed => exact h.of_idle [] (List.forall_mem_nil _) rfl rfl rfl rfl rfl
  | close through inUse =>
    exact h.of_idle [.closed] (by simp [Deed.isIdle]) rfl rfl rfl rfl rfl
  | drop ended => exact h.of_idle [.dropped] (by simp [Deed.isIdle]) rfl rfl rfl rfl rfl

theorem Ordered.run (h : s.Ordered) (haccounted : s.Accounted) (order : List (Turn Name)) :
    (s.run outcome order).Ordered :=
  (run_induction (P := fun s => s.Accounted ∧ s.Ordered)
    (fun _ _ hs hmove => ⟨hs.1.move hmove, hs.2.move hs.1 hmove⟩) ⟨haccounted, h⟩ order).2

end Order

/-! ## The worker's turns -/

section WorkDone

/-- How many turns the worker has spent on jobs. -/
def workDone (history : List (Deed Name Job Mishap)) : Nat :=
  (logOf Deed.received? history).length + (logOf Deed.ran? history).length +
    (logOf Deed.finished? history).length

theorem workDone_mono {earlier history : List (Deed Name Job Mishap)} (h : earlier <:+ history) :
    workDone earlier ≤ workDone history :=
  Nat.add_le_add (Nat.add_le_add (logOf_mono _ h).length_le (logOf_mono _ h).length_le)
    (logOf_mono _ h).length_le

/-- Three turns for each of the first jobs finish them. -/
theorem InOrder.le_finished {history : List (Deed Name Job Mishap)} (h : InOrder history)
    {count : Nat} (hdone : 3 * count ≤ workDone history) :
    count ≤ (logOf Deed.finished? history).length := by
  have hran := h.ran.length_le
  have hreceived := h.oneAtATime
  unfold workDone at hdone
  omega

variable {outcome : Job → Option Mishap} {s s' : Traffic Name Job Mishap}

theorem Ordered.workDone_of_idle (h : s.Ordered) (hidle : s.stream.unfinished = []) :
    workDone s.history = 3 * (logOf Deed.sent? s.history).length := by
  have hrunning : s.stream.running.toList = [] := (List.append_eq_nil_iff.mp hidle).1
  have hsent := h.sent
  have hreceived := h.received
  have hran := h.ran
  simp only [hidle, hrunning, ite_self, List.append_nil] at hsent hreceived hran
  rw [workDone, hreceived, hran, hsent]
  omega

/-- What the worker does is one more deed, unless there is no job for it. -/
theorem workDone_work (hjobs : s.stream.unfinished ≠ []) :
    workDone (s.work outcome).history = workDone s.history + 1 := by
  unfold work
  cases hrunning : s.stream.running with
  | some job =>
    cases s.hasRun with
    | false =>
      simp [workDone, Traffic.runReceived, Deed.received?, Deed.ran?, Deed.finished?]
      omega
    | true => simp [workDone, Traffic.finish, Deed.received?, Deed.ran?, Deed.finished?]; omega
  | none =>
    cases hwaiting : s.stream.waiting with
    | cons job waiting =>
      simp [workDone, Stream.receive, hrunning, hwaiting, Traffic.receive, Deed.received?,
        Deed.ran?, Deed.finished?]
      omega
    | nil => exact absurd (by simp [Stream.unfinished, hrunning, hwaiting]) hjobs

variable [DecidableEq Name]

/-- The history only grows. -/
theorem Move.history_suffix (hmove : Move outcome s s') : s.history <:+ s'.history := by
  cases hmove <;>
    first
    | exact List.suffix_refl _
    | exact List.suffix_cons _ _

variable [Fintype Name]

/-- The worker's turns among those that come are spent on the jobs sent so far, as long as there are
such jobs. -/
theorem Ordered.le_workDone_run (h : s.Ordered) (haccounted : s.Accounted) {sent : Nat}
    (hsent : sent ≤ (logOf Deed.sent? s.history).length) (order : List (Turn Name)) :
    min (3 * sent) (workDone s.history + order.count .worker) ≤
      workDone (s.run outcome order).history := by
  induction order generalizing s with
  | nil => exact min_le_right _ _
  | cons turn rest ih =>
    have hmove : Move outcome s (s.step outcome turn) := move_step s turn
    have hsame := (logOf_mono Deed.sent? hmove.history_suffix).length_le
    have hrest := ih (h.move haccounted hmove) (haccounted.move hmove) (hsent.trans hsame)
    have hmono := workDone_mono hmove.history_suffix
    refine le_trans ?_ hrest
    cases turn with
    | thread i => simp; omega
    | dropper => simp; omega
    | worker =>
      by_cases hjobs : s.stream.unfinished = []
      · have hdone := h.workDone_of_idle hjobs
        omega
      · have hone : workDone (s.step outcome .worker).history = workDone s.history + 1 :=
          workDone_work hjobs
        simp; omega

/-- However the turns come, three of the worker's for each job sent so far finish all of these. -/
theorem Ordered.sent_prefix_finished (h : s.Ordered) (haccounted : s.Accounted)
    {order : List (Turn Name)}
    (hturns : 3 * (logOf Deed.sent? s.history).length ≤ order.count .worker) :
    logOf Deed.sent? s.history <+: logOf Deed.finished? (s.run outcome order).history := by
  have hafter : (s.run outcome order).Ordered := h.run haccounted order
  have hdone : min _ _ ≤ workDone (s.run outcome order).history :=
    h.le_workDone_run haccounted le_rfl order
  have hlength : (logOf Deed.sent? s.history).length ≤
      (logOf Deed.finished? (s.run outcome order).history).length :=
    hafter.inOrder.le_finished (by omega)
  have hgrown : s.history <:+ (s.run outcome order).history :=
    run_induction (P := fun s' => s.history <:+ s'.history)
      (fun _ _ hs hmove => hs.trans hmove.history_suffix) (List.suffix_refl _) order
  have hfinished : logOf Deed.finished? (s.run outcome order).history <+:
      logOf Deed.sent? (s.run outcome order).history := by
    rw [hafter.sent]
    exact List.prefix_append _ _
  exact List.prefix_of_prefix_length_le (logOf_mono _ hgrown) hfinished hlength

end WorkDone

end Traffic

end Emulated

end DeviceCopy
