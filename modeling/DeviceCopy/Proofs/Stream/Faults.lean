import DeviceCopy.Proofs.Stream.Accounting

/-!
# Faults

What one thread learns about its jobs. A program falls into windows, each the jobs enqueued from one
wait to the next, and a wait answers with the fault of the first job of its window that has one.
Jobs behind that one are run all the same. It makes no difference whether there is a worker, nor
when its turns come.

The deeds since the last answer show the window that is open. Its jobs are those finished, whose
first fault is the one kept, and then those that are still on their way.
-/

set_option autoImplicit false

namespace DeviceCopy

namespace Emulated

namespace Traffic

variable {Job Mishap : Type}

/-! ## Windows -/

/-- The windows of a program that goes on from an open window. -/
def windowsFrom : List Job → List (Request Job) → List (List Job)
  | _, [] => []
  | opened, .enqueue job :: rest => windowsFrom (opened ++ [job]) rest
  | opened, .synchronize :: rest => opened :: windowsFrom [] rest

/-- For each wait of a program the jobs enqueued since the wait before it. -/
def windows (program : List (Request Job)) : List (List Job) := windowsFrom [] program

/-- The answers due to a program that goes on from an open window: for each wait the fault of the
first job that has one. -/
def due (outcome : Job → Option Mishap) (opened : List Job) (program : List (Request Job)) :
    List (Option Mishap) :=
  (windowsFrom opened program).map (·.findSome? outcome)

namespace Deed

def counted? : Deed Unit Job Mishap → Option Job
  | .counted _ job => some job
  | _ => none

def answered? : Deed Unit Job Mishap → Option (Option Mishap)
  | .answered _ fault => some fault
  | _ => none

/-- The deed is neither the count, the run or the end of a job nor an answer. -/
def isQuiet : Deed Unit Job Mishap → Bool
  | .sent .. | .received _ | .called _ | .closed | .dropped => true
  | .counted .. | .ran _ | .finished _ | .answered .. => false

end Deed

/-- The jobs counted since the last answer. -/
def openWindow : List (Deed Unit Job Mishap) → List Job
  | [] => []
  | .answered _ _ :: _ => []
  | .counted _ job :: earlier => openWindow earlier ++ [job]
  | _ :: earlier => openWindow earlier

/-- The job a thread has counted and not handed on or finished. -/
def Stage.held : Stage Job → List Job
  | .sending job | .finishing job => [job]
  | _ => []

/-- The job a thread has run and not finished. -/
def Stage.done : Stage Job → List Job
  | .finishing job => [job]
  | _ => []

/-- What is left of a thread's program, with the wait it is at. -/
def Thread.remaining (t : Thread Job) : List (Request Job) :=
  if t.stage.isWaiting then .synchronize :: t.todo else t.todo

/-- If this is the end of a wait, then every job counted before has been run and finished. -/
def AnswerBehind (deed : Deed Unit Job Mishap) (earlier : List (Deed Unit Job Mishap)) : Prop :=
  ∀ fault, deed = .answered () fault →
    logOf Deed.ran? earlier = logOf Deed.counted? earlier ∧
    logOf Deed.finished? earlier = logOf Deed.counted? earlier

theorem openWindow_append_quiet {deeds : List (Deed Unit Job Mishap)}
    (h : ∀ deed ∈ deeds, deed.isQuiet = true) (history : List (Deed Unit Job Mishap)) :
    openWindow (deeds ++ history) = openWindow history := by
  induction deeds with
  | nil => rfl
  | cons deed deeds ih =>
    have hrest := ih (fun other hother => h other (List.mem_cons_of_mem _ hother))
    have hdeed : deed.isQuiet = true := h deed List.mem_cons_self
    cases deed <;> first | exact hrest | cases hdeed

theorem logs_append_quiet {deeds : List (Deed Unit Job Mishap)}
    (h : ∀ deed ∈ deeds, deed.isQuiet = true) (history : List (Deed Unit Job Mishap)) :
    logOf Deed.counted? (deeds ++ history) = logOf Deed.counted? history ∧
      logOf Deed.ran? (deeds ++ history) = logOf Deed.ran? history ∧
      logOf Deed.finished? (deeds ++ history) = logOf Deed.finished? history ∧
      logOf Deed.answered? (deeds ++ history) = logOf Deed.answered? history := by
  refine ⟨?_, ?_, ?_, ?_⟩ <;>
    · apply logOf_append_of_none
      intro deed hdeed
      have hquiet := h deed hdeed
      cases deed <;> first | rfl | cases hquiet

theorem not_answered_of_isQuiet {deed : Deed Unit Job Mishap} (h : deed.isQuiet = true)
    (earlier : List (Deed Unit Job Mishap)) : AnswerBehind deed earlier := by
  rintro fault rfl
  cases h

section Delivered

variable {outcome : Job → Option Mishap} {program : List (Request Job)}
  {s s' : Traffic Unit Job Mishap}

/-- The thread that uses the stream. -/
def user (s : Traffic Unit Job Mishap) : Thread Job := s.threads ()

/-- Jobs counted and not finished. -/
def underWay (s : Traffic Unit Job Mishap) : List Job :=
  s.stream.unfinished ++ s.user.stage.held

/-- Jobs run and not finished. -/
def ranAhead (s : Traffic Unit Job Mishap) : List Job :=
  (if s.hasRun then s.stream.running.toList else []) ++ s.user.stage.done

/-- The jobs counted are those of the program so far; they are finished in their order; the fault
kept is the first of those finished since the last answer; and answers so far and answers due are
together those due to the whole program. -/
structure Delivered (outcome : Job → Option Mishap) (program : List (Request Job))
    (s : Traffic Unit Job Mishap) : Prop where
  fresh : s.stream.running = none → s.hasRun = false
  asked : jobsIn program = logOf Deed.counted? s.history ++ jobsIn s.user.remaining
  counted : logOf Deed.counted? s.history = logOf Deed.finished? s.history ++ s.underWay
  ran : logOf Deed.ran? s.history = logOf Deed.finished? s.history ++ s.ranAhead
  kept : ∃ finished, openWindow s.history = finished ++ s.underWay ∧
    s.stream.fault = finished.findSome? outcome
  answers : due outcome [] program = logOf Deed.answered? s.history ++
    due outcome (openWindow s.history) s.user.remaining
  behind : AtEvery AnswerBehind s.history

theorem delivered_start (hasWorker : Bool) (program : List (Request Job)) :
    (start hasWorker fun _ => program : Traffic Unit Job Mishap).Delivered outcome program :=
  ⟨fun _ => rfl, rfl, rfl, rfl, ⟨[], rfl, rfl⟩, rfl, AtEvery.nil⟩

/-- A job goes from one place to the next, or nothing happens to any. -/
theorem Delivered.of_quiet (h : s.Delivered outcome program)
    (deeds : List (Deed Unit Job Mishap)) (hquiet : ∀ deed ∈ deeds, deed.isQuiet = true)
    (hhistory : s'.history = deeds ++ s.history)
    (hfresh : s'.stream.running = none → s'.hasRun = false)
    (hremaining : s'.user.remaining = s.user.remaining) (hunderWay : s'.underWay = s.underWay)
    (hran : s'.ranAhead = s.ranAhead) (hfault : s'.stream.fault = s.stream.fault) :
    s'.Delivered outcome program := by
  have hwindow := openWindow_append_quiet hquiet s.history
  obtain ⟨hcounted, hranLog, hfinished, hanswered⟩ := logs_append_quiet hquiet s.history
  refine ⟨hfresh, ?_, ?_, ?_, ?_, ?_, ?_⟩
  · rw [hhistory, hcounted, hremaining, h.asked]
  · rw [hhistory, hcounted, hfinished, hunderWay, h.counted]
  · rw [hhistory, hranLog, hfinished, hran, h.ran]
  · rw [hhistory, hwindow, hunderWay, hfault]
    exact h.kept
  · rw [hhistory, hwindow, hanswered, hremaining, h.answers]
  · rw [hhistory]
    exact h.behind.append deeds (fun deed hdeed => not_answered_of_isQuiet (hquiet deed hdeed))

/-- The thread counts the next job of its program. -/
theorem Delivered.of_counted (h : s.Delivered outcome program) {i : Unit} {job : Job}
    (hhistory : s'.history = .counted i job :: s.history)
    (hfresh : s'.stream.running = none → s'.hasRun = false)
    (hremaining : s.user.remaining = .enqueue job :: s'.user.remaining)
    (hunderWay : s'.underWay = s.underWay ++ [job]) (hran : s'.ranAhead = s.ranAhead)
    (hfault : s'.stream.fault = s.stream.fault) : s'.Delivered outcome program := by
  obtain ⟨finished, hopen, hkept⟩ := h.kept
  have hwindow : openWindow s'.history = openWindow s.history ++ [job] := by
    rw [hhistory]
    rfl
  refine ⟨hfresh, ?_, ?_, ?_, ⟨finished, ?_, ?_⟩, ?_, ?_⟩
  · rw [h.asked, hhistory, hremaining]
    simp [jobsIn, Deed.counted?]
  · rw [hhistory, hunderWay]
    simp [Deed.counted?, Deed.finished?, h.counted]
  · rw [hhistory, hran]
    simp [Deed.ran?, Deed.finished?, h.ran]
  · rw [hwindow, hopen, hunderWay, List.append_assoc]
  · rw [hfault, hkept]
  · rw [h.answers, hwindow, hhistory, hremaining]
    simp [Deed.answered?, due, windowsFrom]
  · rw [hhistory]
    exact h.behind.cons (by simp [AnswerBehind])

/-- A job is run. -/
theorem Delivered.of_ran (h : s.Delivered outcome program) {job : Job}
    (hhistory : s'.history = .ran job :: s.history)
    (hfresh : s'.stream.running = none → s'.hasRun = false)
    (hremaining : s'.user.remaining = s.user.remaining) (hunderWay : s'.underWay = s.underWay)
    (hran : s'.ranAhead = s.ranAhead ++ [job]) (hfault : s'.stream.fault = s.stream.fault) :
    s'.Delivered outcome program := by
  have hwindow : openWindow s'.history = openWindow s.history := by
    rw [hhistory]
    rfl
  refine ⟨hfresh, ?_, ?_, ?_, ?_, ?_, ?_⟩
  · rw [hhistory, hremaining]
    simp [Deed.counted?, h.asked]
  · rw [hhistory, hunderWay]
    simp [Deed.counted?, Deed.finished?, h.counted]
  · rw [hhistory, hran]
    simp [Deed.ran?, Deed.finished?, h.ran]
  · rw [hwindow, hunderWay, hfault]
    exact h.kept
  · rw [hwindow, hremaining, hhistory]
    simp [Deed.answered?, h.answers]
  · rw [hhistory]
    exact h.behind.cons (by simp [AnswerBehind])

/-- The oldest job under way is finished, and what it came to is kept unless something is. -/
theorem Delivered.of_finished (h : s.Delivered outcome program) {job : Job}
    (hhistory : s'.history = .finished job :: s.history)
    (hfresh : s'.stream.running = none → s'.hasRun = false)
    (hremaining : s'.user.remaining = s.user.remaining)
    (hunderWay : s.underWay = job :: s'.underWay) (hran : s.ranAhead = job :: s'.ranAhead)
    (hfault : s'.stream.fault = (s.stream.fault <|> outcome job)) :
    s'.Delivered outcome program := by
  obtain ⟨finished, hopen, hkept⟩ := h.kept
  have hwindow : openWindow s'.history = openWindow s.history := by
    rw [hhistory]
    rfl
  refine ⟨hfresh, ?_, ?_, ?_, ⟨finished ++ [job], ?_, ?_⟩, ?_, ?_⟩
  · rw [hhistory, hremaining]
    simp [Deed.counted?, h.asked]
  · rw [hhistory]
    simp [Deed.counted?, Deed.finished?, h.counted, hunderWay]
  · rw [hhistory]
    simp [Deed.ran?, Deed.finished?, h.ran, hran]
  · rw [hwindow, hopen, hunderWay, List.append_assoc]
    rfl
  · rw [hfault, hkept, List.findSome?_append]
    simp
  · rw [hwindow, hremaining, hhistory]
    simp [Deed.answered?, h.answers]
  · rw [hhistory]
    exact h.behind.cons (by simp [AnswerBehind])

/-- A wait ends with nothing under way: its answer is what the open window is due. -/
theorem Delivered.of_answered (h : s.Delivered outcome program) {i : Unit}
    (hhistory : s'.history = .answered i s.stream.fault :: s.history)
    (hfresh : s'.stream.running = none → s'.hasRun = false)
    (hremaining : s.user.remaining = .synchronize :: s'.user.remaining)
    (hnone : s.underWay = []) (hnone' : s'.underWay = []) (hran : s.ranAhead = [])
    (hran' : s'.ranAhead = []) (hfault : s'.stream.fault = none) :
    s'.Delivered outcome program := by
  obtain ⟨finished, hopen, hkept⟩ := h.kept
  rw [hnone, List.append_nil] at hopen
  have hwindow : openWindow s'.history = [] := by
    rw [hhistory]
    rfl
  have hall : logOf Deed.ran? s.history = logOf Deed.counted? s.history ∧
      logOf Deed.finished? s.history = logOf Deed.counted? s.history := by
    rw [h.counted, h.ran, hnone, hran]
    exact ⟨rfl, (List.append_nil _).symm⟩
  refine ⟨hfresh, ?_, ?_, ?_, ⟨[], ?_, ?_⟩, ?_, ?_⟩
  · rw [h.asked, hhistory, hremaining]
    simp [jobsIn, Deed.counted?]
  · rw [hhistory, hnone']
    simp [Deed.counted?, Deed.finished?, h.counted, hnone]
  · rw [hhistory, hran']
    simp [Deed.ran?, Deed.finished?, h.ran, hran]
  · rw [hwindow, hnone']
    rfl
  · rw [hfault]
    rfl
  · rw [h.answers, hwindow, hhistory, hremaining, hkept, hopen]
    simp [Deed.answered?, due, windowsFrom]
  · rw [hhistory]
    exact h.behind.cons (fun _ _ => hall)

theorem Thread.remaining_woken (t : Thread Job) :
    t.woken.remaining = t.remaining ∧ t.woken.stage.held = t.stage.held ∧
      t.woken.stage.done = t.stage.done := by
  rcases t with ⟨todo, stage⟩
  cases stage <;> exact ⟨rfl, rfl, rfl⟩

theorem user_finish (outcome : Job → Option Mishap) (job : Job) (s : Traffic Unit Job Mishap) :
    (s.finish job outcome).user.remaining = s.user.remaining ∧
      (s.finish job outcome).user.stage.held = s.user.stage.held ∧
      (s.finish job outcome).user.stage.done = s.user.stage.done := by
  simp only [user, Traffic.finish]
  split
  · exact Thread.remaining_woken _
  · exact ⟨rfl, rfl, rfl⟩

theorem user_enter (s : Traffic Unit Job Mishap) (stage : Stage Job) :
    (s.enter () stage).user = ⟨s.user.todo, stage⟩ := by
  simp [user, enter]

/-- A job that the user has run itself, for want of a worker, is the only one under way. -/
theorem Delivered.finishHere (h : s.Delivered outcome program) (haccounted : s.Accounted)
    {job : Job} (hstage : s.user.stage = .finishing job) :
    ((s.enter () .idle).finish job outcome).Delivered outcome program := by
  have hnone : s.stream.unfinished = [] := haccounted.inline (haccounted.here () job hstage)
  rcases List.append_eq_nil_iff.mp hnone with ⟨hrunning, hwaiting⟩
  have hrun : s.hasRun = false := h.fresh (by simpa using hrunning)
  obtain ⟨hremaining, hheld, hdone⟩ := user_finish outcome job (s.enter () .idle)
  rw [user_enter] at hremaining hheld hdone
  refine h.of_finished rfl (fun _ => hrun) ?_ ?_ ?_ rfl
  · rw [hremaining]
    simp [Thread.remaining, hstage, Stage.isWaiting]
  · have hafter : ((s.enter () .idle).finish job outcome).underWay = [] := by
      rw [underWay, hheld]
      change s.stream.waiting ++ [] = []
      rw [hwaiting, List.append_nil]
    rw [hafter, underWay, hnone, hstage]
    rfl
  · have hafter : ((s.enter () .idle).finish job outcome).ranAhead = [] := by
      rw [ranAhead, hdone]
      change (if s.hasRun then [] else []) ++ [] = ([] : List Job)
      rw [ite_self, List.append_nil]
    rw [hafter, ranAhead, hstage, hrun]
    rfl

/-- The worker's job is the oldest one under way. -/
theorem Delivered.finish (h : s.Delivered outcome program) {job : Job}
    (hrunning : s.stream.running = some job) (hrun : s.hasRun = true) :
    { s.finish job outcome with hasRun := false }.Delivered outcome program := by
  obtain ⟨hremaining, hheld, hdone⟩ := user_finish outcome job s
  refine h.of_finished rfl (fun _ => rfl) hremaining ?_ ?_ rfl
  · have hafter : { s.finish job outcome with hasRun := false }.underWay =
        s.stream.waiting ++ s.user.stage.held := congrArg (s.stream.waiting ++ ·) hheld
    rw [hafter, underWay, Stream.unfinished, hrunning]
    rfl
  · have hafter : { s.finish job outcome with hasRun := false }.ranAhead = s.user.stage.done :=
      hdone
    rw [hafter, ranAhead, hrunning, hrun]
    rfl

/-- A wait that ends has found nothing pending, so nothing is under way. -/
theorem Delivered.answer (h : s.Delivered outcome program) (haccounted : s.Accounted)
    (hstage : s.user.stage = .looking) (hdrained : s.stream.pending = 0) :
    (s.answer ()).Delivered outcome program := by
  have huser : (s.answer ()).user = ⟨s.user.todo, .idle⟩ := user_enter s .idle
  have hpending := haccounted.pending
  have hnone : s.stream.unfinished = [] := List.eq_nil_of_length_eq_zero (by omega)
  have hrunning : s.stream.running.toList = [] := (List.append_eq_nil_iff.mp hnone).1
  refine h.of_answered rfl h.fresh ?_ ?_ ?_ ?_ ?_ rfl
  · rw [huser, Thread.remaining, Thread.remaining, hstage]
    rfl
  · rw [underWay, hnone, hstage]
    rfl
  · rw [underWay, huser]
    exact congrArg (· ++ []) hnone
  · rw [ranAhead, hrunning, ite_self, hstage]
    rfl
  · rw [ranAhead, huser]
    change (if s.hasRun then s.stream.running.toList else []) ++ [] = []
    rw [hrunning, ite_self, List.append_nil]

/-- The worker runs its job. Where there is a worker, the user has run nothing itself. -/
theorem Delivered.runReceived (h : s.Delivered outcome program) (haccounted : s.Accounted)
    {job : Job} (hrunning : s.stream.running = some job) (hfresh : s.hasRun = false) :
    (s.runReceived job).Delivered outcome program := by
  have hdone : s.user.stage.done = [] := by
    cases hstage : s.user.stage with
    | finishing other =>
      have hnone := haccounted.inline (haccounted.here () other hstage)
      simp [Stream.unfinished, hrunning] at hnone
    | _ => rfl
  refine h.of_ran rfl (by simp [Traffic.runReceived, hrunning]) rfl rfl ?_ rfl
  have hbefore : s.ranAhead = [] := by simp [ranAhead, hfresh, hdone]
  rw [hbefore]
  change s.stream.running.toList ++ s.user.stage.done = [job]
  rw [hrunning, hdone]
  rfl

theorem Delivered.move (h : s.Delivered outcome program) (haccounted : s.Accounted)
    (hmove : Move outcome s s') : s'.Delivered outcome program := by
  cases hmove with
  | stay => exact h
  | @count i job rest stage todo =>
    have huser : (s.count () job rest).user = ⟨rest, .sending job⟩ := by simp [user, Traffic.count]
    have hbefore : s.user = ⟨.enqueue job :: rest, .idle⟩ := by rw [← stage, ← todo]; rfl
    refine h.of_counted rfl h.fresh ?_ ?_ ?_ rfl
    · rw [huser, hbefore]
      rfl
    · rw [underWay, underWay, huser, hbefore]
      simp [Stage.held, Traffic.count, Stream.count, Stream.unfinished]
    · rw [ranAhead, ranAhead, huser, hbefore]
      rfl
  | @send i job stage worker =>
    have huser : (s.send () job).user = ⟨s.user.todo, .idle⟩ := user_enter s .idle
    have hstage : s.user.stage = .sending job := stage
    refine h.of_quiet [.sent i job] (by simp [Deed.isQuiet]) rfl h.fresh ?_ ?_ ?_ rfl
    · rw [huser, Thread.remaining, Thread.remaining, hstage]
      rfl
    · -- The job held by the user is now the last in the channel.
      rw [underWay, underWay, huser, hstage]
      simp [Stage.held, Traffic.send, Stream.send, Stream.unfinished]
    · rw [ranAhead, ranAhead, huser, hstage]
      rfl
  | @runHere i job stage inline =>
    have huser : (s.runHere () job).user = ⟨s.user.todo, .finishing job⟩ := user_enter s _
    have hstage : s.user.stage = .sending job := stage
    refine h.of_ran rfl h.fresh ?_ ?_ ?_ rfl
    · rw [huser, Thread.remaining, Thread.remaining, hstage]
      rfl
    · rw [underWay, underWay, huser, hstage]
      rfl
    · have hdone : s.ranAhead = (if s.hasRun then s.stream.running.toList else []) ++ [] := by
        rw [ranAhead, hstage]
        rfl
      rw [hdone, ranAhead, huser, List.append_nil]
      rfl
  | finishHere stage => exact h.finishHere haccounted stage
  | @call i rest stage todo =>
    have huser : (s.call () rest).user = ⟨rest, .looking⟩ := by simp [user, Traffic.call]
    have hbefore : s.user = ⟨.synchronize :: rest, .idle⟩ := by rw [← stage, ← todo]; rfl
    refine h.of_quiet [.called i] (by simp [Deed.isQuiet]) rfl h.fresh ?_ ?_ ?_ rfl
    · rw [huser, hbefore]
      rfl
    · rw [underWay, underWay, huser, hbefore]
      rfl
    · rw [ranAhead, ranAhead, huser, hbefore]
      rfl
  | answer stage drained => exact h.answer haccounted stage drained
  | @doze i stage busy =>
    have huser : (s.enter () .asleep).user = ⟨s.user.todo, .asleep⟩ := user_enter s .asleep
    have hstage : s.user.stage = .looking := stage
    refine h.of_quiet [] (List.forall_mem_nil _) rfl h.fresh ?_ ?_ ?_ rfl
    · rw [huser, Thread.remaining, Thread.remaining, hstage]
      rfl
    · rw [underWay, underWay, huser, hstage]
      rfl
    · rw [ranAhead, ranAhead, huser, hstage]
      rfl
  | @receive job waiting free next =>
    refine h.of_quiet [.received job] (by simp [Deed.isQuiet]) rfl (by simp [Traffic.receive]) rfl
      ?_ ?_ rfl
    · -- The oldest job of the channel is now with the worker.
      simp [underWay, Stream.unfinished, free, next, Traffic.receive, user]
    · simp [ranAhead, h.fresh free, Traffic.receive, user]
  | runReceived running fresh => exact h.runReceived haccounted running fresh
  | finish running done => exact h.finish running done
  | leave idle closed => exact h.of_quiet [] (List.forall_mem_nil _) rfl h.fresh rfl rfl rfl rfl
  | close through inUse =>
    exact h.of_quiet [.closed] (by simp [Deed.isQuiet]) rfl h.fresh rfl rfl rfl rfl
  | drop ended => exact h.of_quiet [.dropped] (by simp [Deed.isQuiet]) rfl h.fresh rfl rfl rfl rfl

theorem Delivered.run (h : s.Delivered outcome program) (haccounted : s.Accounted)
    (order : List (Turn Unit)) : (s.run outcome order).Delivered outcome program :=
  (run_induction (P := fun s => s.Accounted ∧ s.Delivered outcome program)
    (fun _ _ hs hmove => ⟨hs.1.move hmove, hs.2.move hs.1 hmove⟩) ⟨haccounted, h⟩ order).2

/-- Once all is done, the program has had all its answers and all its jobs have been run. -/
theorem Delivered.complete (h : s.Delivered outcome program) (hrest : s.AtRest) :
    logOf Deed.answered? s.history = due outcome [] program ∧
      logOf Deed.ran? s.history = jobsIn program := by
  have huser : s.user = ⟨[], .idle⟩ := Thread.eq_of_isThrough (hrest.through ())
  have hremaining : s.user.remaining = [] := by
    rw [huser]
    rfl
  have hunderWay : s.underWay = [] := by
    rw [underWay, hrest.finished, huser]
    rfl
  have hranAhead : s.ranAhead = [] := by
    have hrunning : s.stream.running.toList = [] := (List.append_eq_nil_iff.mp hrest.finished).1
    rw [ranAhead, hrunning, ite_self, huser]
    rfl
  constructor
  · have hanswers := h.answers
    simpa [hremaining, due, windowsFrom] using hanswers.symm
  · rw [h.ran, hranAhead, h.asked, h.counted, hunderWay, hremaining]
    simp [jobsIn]

end Delivered

/-! ## What a wait returns -/

/-- What a wait on a stream returns when it has taken this fault. -/
def waitResult (stream : Nat) : Option String → Except Error Unit
  | none => .ok ()
  | some text => .error (.backend (.other s!"cpu stream {stream} faulted while executing: {text}"))

/-- The report of a fault of kernel code is of this form. -/
theorem message_streamFaulted (stream : Nat) (fault : Fault) :
    waitResult stream (some fault.message) =
      .error (.backend (.other (BackendProblem.streamFaulted stream fault).message)) :=
  rfl

/-- What the waits so far have returned. -/
def waitResults (stream : Nat) (s : Traffic Unit Job String) : List (Except Error Unit) :=
  (logOf Deed.answered? s.history).map (waitResult stream)

/-- One thread's waits return, in their order, the fault of the first job of their window that has
one; by then every job of the program so far has been run; and from wherever the run has got to
there are turns that bring all waits to their end and run all jobs. -/
theorem waits_report_first_fault (stream : Nat) (hasWorker : Bool) (outcome : Job → Option String)
    (program : List (Request Job)) (order : List (Turn Unit)) :
    let s : Traffic Unit Job String := (start hasWorker fun _ => program).run outcome order
    let expected := (windows program).map fun jobs => waitResult stream (jobs.findSome? outcome)
    waitResults stream s <+: expected ∧
      AtEvery AnswerBehind s.history ∧
      ∃ more, waitResults stream (s.run outcome more) = expected ∧
        logOf Deed.ran? (s.run outcome more).history = jobsIn program := by
  intro s expected
  have haccounted : s.Accounted := (accounted_start hasWorker _).run order
  have hdelivered : s.Delivered outcome program :=
    (delivered_start hasWorker program).run (accounted_start hasWorker _) order
  have hexpected : expected = (due outcome [] program).map (waitResult stream) := by
    simp [expected, due, windows]
  refine ⟨?_, hdelivered.behind, ?_⟩
  · rw [hexpected, hdelivered.answers, List.map_append]
    exact List.prefix_append _ _
  · obtain ⟨more, hrest⟩ : ∃ more, (s.run outcome more).AtRest := haccounted.exists_atRest
    rcases (hdelivered.run haccounted more).complete hrest with ⟨hanswers, hran⟩
    refine ⟨more, ?_, hran⟩
    rw [hexpected, waitResults, hanswers]

/-- The second job of the first window faults, and so does the third; the last window is as if
nothing had happened. -/
example :
    let outcome : Nat → Option String := fun job => if 2 ≤ job then some (toString job) else none
    (windows [.enqueue 1, .enqueue 2, .enqueue 3, .synchronize, .enqueue 0, .synchronize]).map
        (·.findSome? outcome) =
      [some "2", none] := by
  decide

end Traffic

end Emulated

end DeviceCopy
