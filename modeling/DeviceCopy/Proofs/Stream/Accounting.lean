import DeviceCopy.Proofs.Stream.Order

/-!
# Stream accounting

What the users of a stream with a worker can count on: a wait that ends has waited for every job
that was sent before it began, and a stream that is dropped has run every job it was ever given.
Both are statements about points of the history, so they say of a deed and of what came before it
that the one was justified by the other.
-/

set_option autoImplicit false

namespace DeviceCopy

namespace Emulated

namespace Traffic

variable {Name Job Mishap : Type}

/-! ## Waits -/

/-- The thread whose deed it is. The worker's deeds and those about the whole stream are nobody's,
and so is running a job here: the thread has not done with it. -/
def Deed.thread? : Deed Name Job Mishap → Option Name
  | .counted i _ | .sent i _ | .called i | .answered i _ => some i
  | .received _ | .ran _ | .finished _ | .closed | .dropped => none

/-- The thread is about to look whether the stream is drained, or sleeps until it is. -/
def Stage.isWaiting : Stage Job → Bool
  | .looking | .asleep => true
  | _ => false

theorem Thread.isWaiting_woken (t : Thread Job) : t.woken.stage.isWaiting = t.stage.isWaiting := by
  rcases t with ⟨todo, stage⟩
  cases stage <;> rfl

/-- A wait of the thread began after the first of these deeds, and is the last thing it has done. -/
def WaitingSince (i : Name) (history before : List (Deed Name Job Mishap)) : Prop :=
  ∃ between, history = between ++ .called i :: before ∧
    ∀ deed ∈ between, deed.thread? ≠ some i

/-- If this is the end of a wait, then every job sent before the wait began has been finished. -/
def AnswerCovers (deed : Deed Name Job Mishap) (earlier : List (Deed Name Job Mishap)) : Prop :=
  ∀ i fault, deed = .answered i fault → ∃ before, WaitingSince i earlier before ∧
    logOf Deed.sent? before <+: logOf Deed.finished? earlier

theorem WaitingSince.append {i : Name} {history before : List (Deed Name Job Mishap)}
    (h : WaitingSince i history before) (deeds : List (Deed Name Job Mishap))
    (hdeeds : ∀ deed ∈ deeds, deed.thread? ≠ some i) :
    WaitingSince i (deeds ++ history) before := by
  rcases h with ⟨between, rfl, hbetween⟩
  refine ⟨deeds ++ between, (List.append_assoc _ _ _).symm, ?_⟩
  intro deed hdeed
  exact (List.mem_append.mp hdeed).elim (hdeeds deed) (hbetween deed)

theorem WaitingSince.before_suffix {i : Name} {history before : List (Deed Name Job Mishap)}
    (h : WaitingSince i history before) : before <:+ history := by
  rcases h with ⟨between, rfl, -⟩
  exact (List.suffix_cons _ _).trans (List.suffix_append _ _)

/-- Once no job is left, all that were sent have been run and finished. -/
theorem Ordered.of_empty {s : Traffic Name Job Mishap} (h : s.Ordered)
    (hempty : s.stream.unfinished = []) :
    logOf Deed.ran? s.history = logOf Deed.sent? s.history ∧
      logOf Deed.finished? s.history = logOf Deed.sent? s.history := by
  have hrunning : s.stream.running.toList = [] := (List.append_eq_nil_iff.mp hempty).1
  constructor
  · simp [h.ran, h.sent, hempty, hrunning]
  · simp [h.sent, hempty]

section Waits

/-- Every wait that has ended has waited for what it should, and every wait under way has its
beginning in the history. -/
structure Waits (s : Traffic Name Job Mishap) : Prop where
  covers : AtEvery AnswerCovers s.history
  since : ∀ i, (s.threads i).stage.isWaiting = true → ∃ before, WaitingSince i s.history before

variable {outcome : Job → Option Mishap} {s s' : Traffic Name Job Mishap}

theorem waits_start (hasWorker : Bool) (programs : Name → List (Request Job)) :
    (start hasWorker programs : Traffic Name Job Mishap).Waits :=
  ⟨AtEvery.nil, nofun⟩

/-- No wait ends, and whoever waits afterwards has waited before and done nothing. -/
theorem Waits.of_deeds (h : s.Waits) (deeds : List (Deed Name Job Mishap))
    (hhistory : s'.history = deeds ++ s.history)
    (hanswers : ∀ deed ∈ deeds, ∀ i fault, deed ≠ .answered i fault)
    (hwaiting : ∀ i, (s'.threads i).stage.isWaiting = true →
      (s.threads i).stage.isWaiting = true ∧ ∀ deed ∈ deeds, deed.thread? ≠ some i) :
    s'.Waits := by
  constructor
  · rw [hhistory]
    apply h.covers.append deeds
    intro deed hdeed earlier i fault heq
    exact absurd heq (hanswers deed hdeed i fault)
  · intro i hi
    rcases hwaiting i hi with ⟨hbefore, hdeeds⟩
    rcases h.since i hbefore with ⟨before, hsince⟩
    exact ⟨before, hhistory ▸ hsince.append deeds hdeeds⟩

/-- The worker and the holder of the stream do nothing to waits but wake them. -/
theorem Waits.of_others (h : s.Waits) (deeds : List (Deed Name Job Mishap))
    (hhistory : s'.history = deeds ++ s.history)
    (hanswers : ∀ deed ∈ deeds, ∀ i fault, deed ≠ .answered i fault)
    (hthreads : ∀ i, (s'.threads i).stage.isWaiting = (s.threads i).stage.isWaiting)
    (hnobody : ∀ deed ∈ deeds, deed.thread? = none) : s'.Waits := by
  refine h.of_deeds deeds hhistory hanswers ?_
  intro i hi
  refine ⟨hthreads i ▸ hi, ?_⟩
  intro deed hdeed
  simp [hnobody deed hdeed]

theorem isWaiting_finish (job : Job) (s : Traffic Name Job Mishap) (i : Name) :
    ((s.finish job outcome).threads i).stage.isWaiting = (s.threads i).stage.isWaiting := by
  simp only [Traffic.finish]
  split
  · exact Thread.isWaiting_woken _
  · rfl

variable [DecidableEq Name]

/-- One thread does something and does not wait afterwards. -/
theorem Waits.of_update (h : s.Waits) {i : Name} {t : Thread Job}
    (deeds : List (Deed Name Job Mishap)) (hhistory : s'.history = deeds ++ s.history)
    (hanswers : ∀ deed ∈ deeds, ∀ j fault, deed ≠ .answered j fault)
    (hthreads : ∀ j, (s'.threads j).stage.isWaiting =
      (Function.update s.threads i t j).stage.isWaiting)
    (hstage : t.stage.isWaiting = false)
    (howner : ∀ deed ∈ deeds, ∀ j, deed.thread? = some j → j = i) : s'.Waits := by
  refine h.of_deeds deeds hhistory hanswers ?_
  intro j hj
  rw [hthreads] at hj
  have hother : j ≠ i := by
    rintro rfl
    rw [Function.update_self, hstage] at hj
    cases hj
  rw [Function.update_of_ne hother] at hj
  exact ⟨hj, fun deed hdeed howned => hother (howner deed hdeed j howned)⟩

variable [Fintype Name]

theorem Waits.answer (h : s.Waits) (hordered : s.Ordered) (haccounted : s.Accounted) {i : Name}
    (hstage : (s.threads i).stage = .looking) (hdrained : s.stream.pending = 0) :
    (s.answer i).Waits := by
  obtain ⟨before, hsince⟩ := h.since i (by rw [hstage]; rfl)
  -- Nothing is pending, so all that was ever sent has been finished.
  have hpending := haccounted.pending
  have hempty : s.stream.unfinished = [] := List.eq_nil_of_length_eq_zero (by omega)
  have hcovered : logOf Deed.sent? before <+: logOf Deed.finished? s.history := by
    rw [(hordered.of_empty hempty).2]
    exact logOf_mono _ hsince.before_suffix
  constructor
  · apply h.covers.cons
    intro j fault heq
    obtain rfl : i = j := (Deed.answered.inj heq).1
    exact ⟨before, hsince, hcovered⟩
  · intro j hj
    have hother : j ≠ i := by
      rintro rfl
      simp [Traffic.answer, enter, Stage.isWaiting] at hj
    obtain ⟨begun, hbegun⟩ := h.since j
      (by simpa [Traffic.answer, enter, Function.update_of_ne hother] using hj)
    refine ⟨begun, hbegun.append [_] ?_⟩
    simp [Deed.thread?, Ne.symm hother]

theorem Waits.move (h : s.Waits) (hordered : s.Ordered) (haccounted : s.Accounted)
    (hmove : Move outcome s s') : s'.Waits := by
  cases hmove with
  | stay => exact h
  | @count i job rest stage todo =>
    exact h.of_update [.counted i job] rfl (by simp) (fun _ => rfl) rfl (by simp [Deed.thread?])
  | @send i job stage worker =>
    exact h.of_update [.sent i job] rfl (by simp) (fun _ => rfl) rfl (by simp [Deed.thread?])
  | @runHere i job stage inline =>
    exact h.of_update [.ran job] rfl (by simp) (fun _ => rfl) rfl (by simp [Deed.thread?])
  | @finishHere i job stage =>
    exact h.of_update [.finished job] rfl (by simp)
      (fun j => isWaiting_finish job (s.enter i .idle) j) rfl (by simp [Deed.thread?])
  | @call i rest stage todo =>
    constructor
    · exact h.covers.append [_] (by simp [AnswerCovers])
    · intro j hj
      by_cases hother : j = i
      · exact ⟨s.history, [], by rw [hother]; rfl, List.forall_mem_nil _⟩
      · obtain ⟨before, hsince⟩ := h.since j
          (by simpa [Traffic.call, Function.update_of_ne hother] using hj)
        refine ⟨before, hsince.append [_] ?_⟩
        simp [Deed.thread?, Ne.symm hother]
  | answer stage drained => exact h.answer hordered haccounted stage drained
  | @doze i stage busy =>
    refine h.of_deeds [] rfl (List.forall_mem_nil _) ?_
    intro j hj
    refine ⟨?_, List.forall_mem_nil _⟩
    by_cases hother : j = i
    · rw [hother, stage]
      rfl
    · simpa [enter, Function.update_of_ne hother] using hj
  | @receive job waiting free next =>
    exact h.of_others [.received job] rfl (by simp) (fun _ => rfl) (by simp [Deed.thread?])
  | @runReceived job running fresh =>
    exact h.of_others [.ran job] rfl (by simp) (fun _ => rfl) (by simp [Deed.thread?])
  | @finish job running done =>
    exact h.of_others [.finished job] rfl (by simp) (isWaiting_finish job s)
      (by simp [Deed.thread?])
  | leave idle closed =>
    exact h.of_others [] rfl (List.forall_mem_nil _) (fun _ => rfl) (List.forall_mem_nil _)
  | close through inUse =>
    exact h.of_others [.closed] rfl (by simp) (fun _ => rfl) (by simp [Deed.thread?])
  | drop ended =>
    exact h.of_others [.dropped] rfl (by simp) (fun _ => rfl) (by simp [Deed.thread?])

end Waits

/-! ## The end of a stream -/

/-- The jobs a program enqueues, in its order. -/
def jobsIn (requests : List (Request Job)) : List Job :=
  requests.filterMap fun
    | .enqueue job => some job
    | .synchronize => none

/-- The job counted and not sent. -/
def Stage.unsent : Stage Job → List Job
  | .sending job => [job]
  | _ => []

/-- The jobs a thread has still to send. -/
def Thread.unsent (t : Thread Job) : List Job := t.stage.unsent ++ jobsIn t.todo

/-- The job sent by the given thread. -/
def Deed.sentBy? [DecidableEq Name] (i : Name) : Deed Name Job Mishap → Option Job
  | .sent j job => if j = i then some job else none
  | _ => none

/-- If this is the return of the drop, then every job of every program has been sent, run and
finished. -/
def DropCovers [DecidableEq Name] (programs : Name → List (Request Job))
    (deed : Deed Name Job Mishap) (earlier : List (Deed Name Job Mishap)) : Prop :=
  deed = .dropped →
    (∀ i, logOf (Deed.sentBy? i) earlier = jobsIn (programs i)) ∧
    logOf Deed.ran? earlier = logOf Deed.sent? earlier ∧
    logOf Deed.finished? earlier = logOf Deed.sent? earlier

theorem Thread.unsent_woken (t : Thread Job) : t.woken.unsent = t.unsent := by
  rcases t with ⟨todo, stage⟩
  cases stage <;> rfl

theorem Thread.isThrough_woken (t : Thread Job) : t.woken.isThrough = t.isThrough := by
  rcases t with ⟨todo, stage⟩
  cases todo <;> cases stage <;> rfl

theorem Thread.unsent_of_isThrough {t : Thread Job} (h : t.isThrough = true) : t.unsent = [] := by
  rcases t with ⟨todo, stage⟩
  cases todo <;> cases stage <;> simp_all [isThrough, unsent, Stage.unsent, jobsIn]

theorem Thread.not_isThrough {t : Thread Job} (h : t.todo ≠ [] ∨ t.stage ≠ .idle) :
    t.isThrough = false := by
  rcases t with ⟨todo, stage⟩
  cases todo <;> cases stage <;> simp_all [isThrough]

theorem unsent_finish (outcome : Job → Option Mishap) (job : Job)
    (s : Traffic Name Job Mishap) (i : Name) :
    ((s.finish job outcome).threads i).unsent = (s.threads i).unsent ∧
      ((s.finish job outcome).threads i).isThrough = (s.threads i).isThrough := by
  simp only [Traffic.finish]
  split
  · exact ⟨Thread.unsent_woken _, Thread.isThrough_woken _⟩
  · exact ⟨rfl, rfl⟩

section Ending

variable [DecidableEq Name]

/-- The jobs a thread has sent and has still to send are those of its program; nothing goes on once
the stream is closed but the jobs sent before; and nothing at all once the worker is gone. -/
structure Ending (programs : Name → List (Request Job)) (s : Traffic Name Job Mishap) : Prop where
  sent : ∀ i, jobsIn (programs i) = logOf (Deed.sentBy? i) s.history ++ (s.threads i).unsent
  through : s.phase ≠ .inUse → ∀ i, (s.threads i).isThrough = true
  finished : s.phase = .workerGone ∨ s.phase = .dropped → s.stream.unfinished = []
  covers : AtEvery (DropCovers programs) s.history

variable {programs : Name → List (Request Job)} {outcome : Job → Option Mishap}
  {s s' : Traffic Name Job Mishap}

theorem ending_start (hasWorker : Bool) (programs : Name → List (Request Job)) :
    (start hasWorker programs : Traffic Name Job Mishap).Ending programs :=
  ⟨fun _ => rfl, fun h => absurd rfl h, fun _ => rfl, AtEvery.nil⟩

theorem Ending.inUse (h : s.Ending programs) {i : Name} (hi : (s.threads i).isThrough = false) :
    s.phase = .inUse := by
  by_contra hphase
  exact absurd (h.through hphase i) (by simp [hi])

/-- A thread does something, which it can only while the stream is in use. -/
theorem Ending.of_update (h : s.Ending programs) {i : Name} {t : Thread Job}
    (deeds : List (Deed Name Job Mishap)) (hbusy : (s.threads i).isThrough = false)
    (hphase : s'.phase = s.phase) (hhistory : s'.history = deeds ++ s.history)
    (hthreads : s'.threads = Function.update s.threads i t)
    (hsent : (s.threads i).unsent = logOf (Deed.sentBy? i) deeds ++ t.unsent)
    (hothers : ∀ j, j ≠ i → ∀ deed ∈ deeds, deed.sentBy? j = none)
    (hdropped : ∀ deed ∈ deeds, deed ≠ .dropped) : s'.Ending programs := by
  have hinUse : s'.phase = .inUse := hphase.trans (h.inUse hbusy)
  refine ⟨?_, fun hnot => absurd hinUse hnot, by simp [hinUse], ?_⟩
  · intro j
    rw [hhistory, hthreads]
    by_cases hj : j = i
    · subst hj
      rw [Function.update_self, h.sent, hsent, logOf_append, List.append_assoc]
    · rw [Function.update_of_ne hj, logOf_append_of_none (hothers j hj), h.sent]
  · rw [hhistory]
    exact h.covers.append deeds (fun deed hdeed _ heq => absurd heq (hdropped deed hdeed))

/-- The worker goes on with a job, which it can only before it is gone. -/
theorem Ending.of_worker (h : s.Ending programs) (deed : Deed Name Job Mishap)
    (hjobs : s.stream.unfinished ≠ []) (hphase : s'.phase = s.phase)
    (hhistory : s'.history = deed :: s.history)
    (hthreads : ∀ i, (s'.threads i).unsent = (s.threads i).unsent ∧
      (s'.threads i).isThrough = (s.threads i).isThrough)
    (hnobody : ∀ i, deed.sentBy? i = none) (hdropped : deed ≠ .dropped) : s'.Ending programs := by
  refine ⟨?_, ?_, ?_, ?_⟩
  · intro i
    rw [hhistory, (hthreads i).1, h.sent]
    simp [hnobody]
  · intro hnot i
    rw [(hthreads i).2]
    exact h.through (hphase ▸ hnot) i
  · intro hgone
    exact absurd (h.finished (hphase ▸ hgone)) hjobs
  · rw [hhistory]
    exact h.covers.cons (fun heq => absurd heq hdropped)

/-- When the worker is gone all jobs are through. -/
theorem Ending.dropCovers (h : s.Ending programs) (hordered : s.Ordered)
    (hgone : s.phase = .workerGone) : DropCovers programs .dropped s.history := by
  intro _
  refine ⟨?_, hordered.of_empty (h.finished (Or.inl hgone))⟩
  intro i
  have hthrough := h.through (by simp [hgone]) i
  rw [h.sent i, Thread.unsent_of_isThrough hthrough, List.append_nil]

variable [Fintype Name]

theorem Ending.move (h : s.Ending programs) (hordered : s.Ordered) (haccounted : s.Accounted)
    (hmove : Move outcome s s') : s'.Ending programs := by
  cases hmove with
  | stay => exact h
  | @count i job rest stage todo =>
    refine h.of_update [.counted i job] (Thread.not_isThrough (Or.inl (by simp [todo]))) rfl rfl rfl
      ?_ (by simp [Deed.sentBy?]) (by simp)
    simp [Thread.unsent, Stage.unsent, stage, todo, jobsIn, logOf, Deed.sentBy?]
  | @send i job stage worker =>
    refine h.of_update [.sent i job] (Thread.not_isThrough (Or.inr (by simp [stage]))) rfl rfl rfl
      ?_ ?_ (by simp)
    · simp [Thread.unsent, Stage.unsent, stage, logOf, Deed.sentBy?]
    · intro j hj
      simp [Deed.sentBy?, Ne.symm hj]
  | runHere stage inline => exact absurd (inline.symm.trans hordered.worker) Bool.false_ne_true
  | finishHere stage =>
    exact absurd ((haccounted.here _ _ stage).symm.trans hordered.worker) Bool.false_ne_true
  | @call i rest stage todo =>
    refine h.of_update [.called i] (Thread.not_isThrough (Or.inl (by simp [todo]))) rfl rfl rfl ?_
      (by simp [Deed.sentBy?]) (by simp)
    simp [Thread.unsent, Stage.unsent, stage, todo, jobsIn, logOf, Deed.sentBy?]
  | @answer i stage drained =>
    refine h.of_update [.answered i s.stream.takeFault.1]
      (Thread.not_isThrough (Or.inr (by simp [stage]))) rfl rfl rfl ?_ (by simp [Deed.sentBy?])
      (by simp)
    simp [Thread.unsent, Stage.unsent, stage, logOf, Deed.sentBy?]
  | @doze i stage busy =>
    refine h.of_update [] (Thread.not_isThrough (Or.inr (by simp [stage]))) rfl rfl rfl ?_
      (by simp) (by simp)
    simp [Thread.unsent, Stage.unsent, stage, logOf]
  | @receive job waiting free next =>
    exact h.of_worker (.received job) (by simp [Stream.unfinished, next]) rfl rfl
      (fun _ => ⟨rfl, rfl⟩) (by simp [Deed.sentBy?]) (by simp)
  | @runReceived job running fresh =>
    exact h.of_worker (.ran job) (by simp [Stream.unfinished, running]) rfl rfl
      (fun _ => ⟨rfl, rfl⟩) (by simp [Deed.sentBy?]) (by simp)
  | @finish job running done =>
    exact h.of_worker (.finished job) (by simp [Stream.unfinished, running]) rfl rfl
      (unsent_finish outcome job s) (by simp [Deed.sentBy?]) (by simp)
  | leave idle closed =>
    exact ⟨h.sent, fun _ => h.through (by simp [closed]), fun _ => idle, h.covers⟩
  | close through inUse =>
    refine ⟨?_, fun _ => through, by simp, h.covers.cons (by simp [DropCovers])⟩
    intro i
    simpa [Deed.sentBy?] using h.sent i
  | drop ended =>
    have hgone : s.phase = .workerGone := by
      rcases ended with ⟨-, hinline⟩ | hgone
      · exact absurd (hinline.symm.trans hordered.worker) Bool.false_ne_true
      · exact hgone
    refine ⟨?_, fun _ => h.through (by simp [hgone]), fun _ => h.finished (Or.inl hgone),
      h.covers.cons (h.dropCovers hordered hgone)⟩
    intro i
    simpa [Deed.sentBy?] using h.sent i

end Ending

/-! ## What the users can count on -/

section Reliable

/-- With a worker the threads halfway through an enqueue are those with a job to send. -/
theorem Accounted.halfway_eq [Fintype Name] {s : Traffic Name Job Mishap} (h : s.Accounted)
    (hworker : s.stream.hasWorker = true) :
    halfway s.threads = ∑ i, (s.threads i).stage.unsent.length := by
  rw [halfway, Finset.card_filter]
  refine Finset.sum_congr rfl ?_
  intro i _
  cases hstage : (s.threads i).stage with
  | finishing job => exact absurd (hworker.symm.trans (h.here i job hstage)) (by decide)
  | _ => rfl

variable [DecidableEq Name] [Fintype Name]

/-- What those who use a stream with a worker can count on, wherever it and they have got to. -/
structure Reliable (outcome : Job → Option Mishap) (programs : Name → List (Request Job))
    (s : Traffic Name Job Mishap) : Prop where
  /-- Every job that is pending is with the thread that counted it, in the channel or with the
  worker. -/
  pending : s.stream.pending =
    (∑ i, (s.threads i).stage.unsent.length) + s.stream.waiting.length +
      s.stream.running.toList.length
  /-- There is something to take the one from that finishing a job takes. -/
  counted : s.stream.running ≠ none → 0 < s.stream.pending
  inOrder : InOrder s.history
  /-- All jobs sent so far are finished once the worker has had three turns for each. -/
  served : ∀ order : List (Turn Name),
    3 * (logOf Deed.sent? s.history).length ≤ order.count .worker →
      logOf Deed.sent? s.history <+: logOf Deed.finished? (s.run outcome order).history
  waits : AtEvery AnswerCovers s.history
  drops : AtEvery (DropCovers programs) s.history

/-- All the invariants of a stream with a worker and of those who use it. -/
structure Kept (programs : Name → List (Request Job)) (s : Traffic Name Job Mishap) : Prop where
  accounted : s.Accounted
  ordered : s.Ordered
  waits : s.Waits
  ending : s.Ending programs

theorem kept_start (programs : Name → List (Request Job)) :
    (start true programs : Traffic Name Job Mishap).Kept programs :=
  ⟨accounted_start true programs, ordered_start programs, waits_start true programs,
    ending_start true programs⟩

theorem Kept.move {programs : Name → List (Request Job)} {outcome : Job → Option Mishap}
    {s s' : Traffic Name Job Mishap} (h : s.Kept programs) (hmove : Move outcome s s') :
    s'.Kept programs :=
  ⟨h.accounted.move hmove, h.ordered.move h.accounted hmove,
    h.waits.move h.ordered h.accounted hmove, h.ending.move h.ordered h.accounted hmove⟩

theorem Kept.run {programs : Name → List (Request Job)} {outcome : Job → Option Mishap}
    {s : Traffic Name Job Mishap} (h : s.Kept programs) (order : List (Turn Name)) :
    (s.run outcome order).Kept programs :=
  run_induction (fun _ _ hs hmove => hs.move hmove) h order

/-- Whatever turns have been taken on a stream with a worker, those who use it can count on all of
this. -/
theorem run_reliable (outcome : Job → Option Mishap) (programs : Name → List (Request Job))
    (order : List (Turn Name)) :
    ((start true programs : Traffic Name Job Mishap).run outcome order).Reliable outcome
      programs := by
  obtain ⟨haccounted, hordered, hwaits, hending⟩ :
      ((start true programs).run outcome order).Kept programs := (kept_start programs).run order
  have hpending := haccounted.pending
  rw [haccounted.halfway_eq hordered.worker, Stream.unfinished, List.length_append,
    Nat.add_comm (Option.toList _).length, ← Nat.add_assoc] at hpending
  refine ⟨hpending, ?_, hordered.inOrder, fun _ => hordered.sent_prefix_finished haccounted,
    hwaits.covers, hending.covers⟩
  intro hrunning
  obtain ⟨job, hjob⟩ := Option.ne_none_iff_exists'.mp hrunning
  rw [hjob] at hpending
  simp at hpending
  omega

/-- Two threads, one of which waits while the other has counted a job and not sent it. The first job
faults, the second is run all the same, and the wait ends when both are finished. -/
example :
    let programs : Fin 2 → List (Request Nat) := fun
      | 0 => [.enqueue 7, .synchronize]
      | 1 => [.enqueue 8]
    let order : List (Turn (Fin 2)) :=
      [.thread 0, .thread 0, .thread 1, .thread 0, .thread 0, .worker, .worker, .worker,
        .thread 1, .worker, .worker, .worker, .thread 0, .dropper, .worker, .dropper]
    let outcome : Nat → Option String := fun job => if job = 7 then some "seven" else none
    ((start true programs).run outcome order).history =
      [.dropped, .closed, .answered 0 (some "seven"), .finished 8, .ran 8, .received 8, .sent 1 8,
        .finished 7, .ran 7, .received 7, .called 0, .counted 1 8, .sent 0 7, .counted 0 7] := by
  decide

end Reliable

end Traffic

end Emulated

end DeviceCopy
