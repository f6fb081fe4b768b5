import DeviceCopy.Proofs.Stream.Traffic

/-!
# What is pending on a stream

Between two turns the count of pending jobs is the number of threads halfway through an enqueue plus
the jobs in the channel and with the worker. So finishing a job never takes from a count of zero,
and nobody sleeps on a drained stream. It follows that there is always somebody whose turn gets the
whole nearer to its end, until every thread is through and every job is finished.
-/

set_option autoImplicit false

namespace DeviceCopy

namespace Emulated

namespace Traffic

variable {Name Job Mishap : Type}

/-! ## Threads halfway through an enqueue -/

/-- The thread has counted a job and has still to send or to finish it. -/
def Stage.isHalfway : Stage Job → Bool
  | .sending _ | .finishing _ => true
  | _ => false

theorem Thread.isHalfway_woken (t : Thread Job) : t.woken.stage.isHalfway = t.stage.isHalfway := by
  rcases t with ⟨todo, stage⟩
  cases stage <;> rfl

section Halfway

variable [Fintype Name]

/-- How many threads have counted a job that they have still to send or to finish. -/
def halfway (threads : Name → Thread Job) : Nat :=
  (Finset.univ.filter fun i => (threads i).stage.isHalfway = true).card

theorem halfway_woken (threads : Name → Thread Job) :
    halfway (fun i => (threads i).woken) = halfway threads := by
  simp only [halfway, Thread.isHalfway_woken]

theorem halfway_pos_iff {threads : Name → Thread Job} :
    0 < halfway threads ↔ ∃ i, (threads i).stage.isHalfway = true := by
  simp [halfway, Finset.card_pos, Finset.Nonempty]

variable [DecidableEq Name]

/-- When one thread changes, so does its own part of a sum over all threads. -/
theorem sum_update (f : Thread Job → Nat) (threads : Name → Thread Job) (i : Name)
    (t : Thread Job) :
    (∑ j, f (Function.update threads i t j)) + f (threads i) = (∑ j, f (threads j)) + f t := by
  have hothers : ∑ j ∈ Finset.univ.erase i, f (Function.update threads i t j) =
      ∑ j ∈ Finset.univ.erase i, f (threads j) := by
    refine Finset.sum_congr rfl ?_
    intro j hj
    rw [Function.update_of_ne (Finset.ne_of_mem_erase hj)]
  have hafter := Finset.add_sum_erase Finset.univ (fun j => f (Function.update threads i t j))
    (Finset.mem_univ i)
  have hbefore := Finset.add_sum_erase Finset.univ (fun j => f (threads j)) (Finset.mem_univ i)
  simp only [Function.update_self] at hafter
  omega

theorem halfway_update (threads : Name → Thread Job) (i : Name) (t : Thread Job) :
    halfway (Function.update threads i t) + (if (threads i).stage.isHalfway then 1 else 0) =
      halfway threads + (if t.stage.isHalfway then 1 else 0) := by
  simp only [halfway, Finset.card_filter]
  exact sum_update (fun t => if t.stage.isHalfway then 1 else 0) threads i t

variable {threads : Name → Thread Job} {i : Name} {t : Thread Job}

theorem halfway_update_begin (h : (threads i).stage.isHalfway = false)
    (ht : t.stage.isHalfway = true) :
    halfway (Function.update threads i t) = halfway threads + 1 := by
  simpa [h, ht] using halfway_update threads i t

theorem halfway_update_end (h : (threads i).stage.isHalfway = true)
    (ht : t.stage.isHalfway = false) :
    halfway (Function.update threads i t) + 1 = halfway threads := by
  simpa [h, ht] using halfway_update threads i t

theorem halfway_update_same (h : t.stage.isHalfway = (threads i).stage.isHalfway) :
    halfway (Function.update threads i t) = halfway threads := by
  simpa [h] using halfway_update threads i t

end Halfway

/-! ## Pending jobs -/

section Pending

/-- When one thread goes on to another stage, whoever is at a third one has been there before. -/
theorem stage_of_update [DecidableEq Name] {threads : Name → Thread Job} {i j : Name}
    {t : Thread Job} {stage : Stage Job} (h : (Function.update threads i t j).stage = stage)
    (ht : t.stage ≠ stage) : (threads j).stage = stage := by
  by_cases hj : j = i
  · subst hj
    rw [Function.update_self] at h
    exact absurd h ht
  · rwa [Function.update_of_ne hj] at h

theorem Thread.stage_woken_ne (t : Thread Job) : t.woken.stage ≠ .asleep := by
  rcases t with ⟨todo, stage⟩
  cases stage <;> simp [woken]

theorem Thread.stage_of_woken {t : Thread Job} {job : Job} (h : t.woken.stage = .finishing job) :
    t.stage = .finishing job := by
  rcases t with ⟨todo, stage⟩
  cases stage <;> simp_all [woken]

variable [Fintype Name]

/-- Every job counted is with a thread halfway through its enqueue, in the channel or with the
worker; nobody sleeps on a drained stream; and jobs are sent where there is a worker, and finished
by their threads where there is none. -/
structure Accounted (s : Traffic Name Job Mishap) : Prop where
  pending : s.stream.pending = halfway s.threads + s.stream.unfinished.length
  asleep : ∀ i, (s.threads i).stage = .asleep → 0 < s.stream.pending
  inline : s.stream.hasWorker = false → s.stream.unfinished = []
  here : ∀ i job, (s.threads i).stage = .finishing job → s.stream.hasWorker = false

theorem accounted_start (hasWorker : Bool) (programs : Name → List (Request Job)) :
    (start hasWorker programs : Traffic Name Job Mishap).Accounted := by
  refine ⟨?_, nofun, fun _ => rfl, nofun⟩
  simp [start, Stream.idle, Stream.unfinished, halfway, Stage.isHalfway]

variable {outcome : Job → Option Mishap} {s s' : Traffic Name Job Mishap}

/-- Finishing a job that is counted besides those that wait. -/
theorem Accounted.finish {job : Job}
    (hpending : s.stream.pending = halfway s.threads + s.stream.waiting.length + 1)
    (hinline : s.stream.hasWorker = false → s.stream.waiting = [])
    (hhere : ∀ i job, (s.threads i).stage = .finishing job → s.stream.hasWorker = false) :
    (s.finish job outcome).Accounted := by
  have hcount : (s.finish job outcome).stream.pending =
      halfway s.threads + s.stream.waiting.length := by
    change s.stream.pending - 1 = _
    omega
  by_cases hdrained : (s.finish job outcome).stream.isDrained = true
  · -- Whoever slept is awake now.
    have hthreads : (s.finish job outcome).threads = fun j => (s.threads j).woken := if_pos hdrained
    refine ⟨?_, ?_, hinline, ?_⟩
    · rw [hthreads, halfway_woken]
      exact hcount
    · intro i hi
      rw [hthreads] at hi
      exact absurd hi (Thread.stage_woken_ne _)
    · intro i other hi
      rw [hthreads] at hi
      exact hhere i other (Thread.stage_of_woken hi)
  · have hthreads : (s.finish job outcome).threads = s.threads := if_neg hdrained
    refine ⟨?_, ?_, hinline, ?_⟩
    · rw [hthreads]
      exact hcount
    · intro _ _
      exact Nat.pos_of_ne_zero (by simpa [Stream.isDrained] using hdrained)
    · rw [hthreads]
      exact hhere

variable [DecidableEq Name]

/-- A thread goes on to another stage, and no job goes anywhere. -/
theorem Accounted.of_update {i : Name} {t : Thread Job} (h : s.Accounted)
    (hthreads : s'.threads = Function.update s.threads i t)
    (hpending : s'.stream.pending = s.stream.pending)
    (hjobs : s'.stream.unfinished = s.stream.unfinished)
    (hworker : s'.stream.hasWorker = s.stream.hasWorker)
    (hhalfway : t.stage.isHalfway = (s.threads i).stage.isHalfway)
    (hasleep : t.stage = .asleep → 0 < s.stream.pending)
    (hhere : ∀ job, t.stage = .finishing job → s.stream.hasWorker = false) : s'.Accounted := by
  refine ⟨?_, ?_, ?_, ?_⟩
  · rw [hpending, hjobs, hthreads, halfway_update_same hhalfway, h.pending]
  · intro j hj
    rw [hthreads] at hj
    rw [hpending]
    by_cases ht : t.stage = .asleep
    · exact hasleep ht
    · exact h.asleep j (stage_of_update hj ht)
  · rw [hjobs, hworker]
    exact h.inline
  · intro j job hj
    rw [hthreads] at hj
    rw [hworker]
    by_cases ht : t.stage = .finishing job
    · exact hhere job ht
    · exact h.here j job (stage_of_update hj ht)

theorem Accounted.move (h : s.Accounted) (hmove : Move outcome s s') : s'.Accounted := by
  have hpending := h.pending
  cases hmove with
  | stay => exact h
  | @count i job rest stage todo =>
    have hmore : halfway (Function.update s.threads i ⟨rest, .sending job⟩) =
        halfway s.threads + 1 := halfway_update_begin (by rw [stage]; rfl) rfl
    refine ⟨?_, fun _ _ => Nat.succ_pos _, h.inline,
      fun j other hj => h.here j other (stage_of_update hj nofun)⟩
    change s.stream.pending + 1 =
      halfway (Function.update s.threads i _) + s.stream.unfinished.length
    omega
  | @send i job stage worker =>
    -- The job goes from the thread to the channel.
    have hless : halfway (s.enter i .idle).threads + 1 = halfway s.threads :=
      halfway_update_end (by rw [stage]; rfl) rfl
    have hjobs : (s.stream.send job).unfinished = s.stream.unfinished ++ [job] :=
      (List.append_assoc _ _ _).symm
    refine ⟨?_, fun j hj => h.asleep j (stage_of_update hj nofun), ?_,
      fun j other hj => h.here j other (stage_of_update hj nofun)⟩
    · change s.stream.pending =
        halfway (s.enter i .idle).threads + (s.stream.send job).unfinished.length
      rw [hjobs, List.length_append, List.length_singleton]
      omega
    · intro hinline
      exact absurd (hinline.symm.trans worker) Bool.false_ne_true
  | runHere stage inline =>
    exact h.of_update rfl rfl rfl rfl (by rw [stage]; rfl) nofun (fun _ _ => inline)
  | @finishHere i job stage =>
    -- There is no worker, so the job of this thread is all there is besides those of the others.
    have hless : halfway (s.enter i .idle).threads + 1 = halfway s.threads :=
      halfway_update_end (by rw [stage]; rfl) rfl
    have hnone := h.inline (h.here i job stage)
    have hwaiting : s.stream.waiting = [] := (List.append_eq_nil_iff.mp hnone).2
    refine Accounted.finish ?_ (fun _ => hwaiting)
      (fun j other hj => h.here j other (stage_of_update hj nofun))
    change s.stream.pending = halfway (s.enter i .idle).threads + s.stream.waiting.length + 1
    rw [hpending, hnone, hwaiting]
    simp only [List.length_nil]
    omega
  | call stage todo => exact h.of_update rfl rfl rfl rfl (by rw [stage]; rfl) nofun nofun
  | answer stage drained => exact h.of_update rfl rfl rfl rfl (by rw [stage]; rfl) nofun nofun
  | doze stage busy =>
    exact h.of_update rfl rfl rfl rfl (by rw [stage]; rfl) (fun _ => busy) nofun
  | @receive job waiting free next =>
    -- The job goes from the channel to the worker.
    have hjobs : s.stream.unfinished = job :: waiting := by simp [Stream.unfinished, free, next]
    refine ⟨?_, h.asleep, ?_, h.here⟩
    · change s.stream.pending = halfway s.threads + (job :: waiting).length
      rw [hpending, hjobs]
    · intro hinline
      exact absurd (hjobs.symm.trans (h.inline hinline)) (List.cons_ne_nil _ _)
  | runReceived running fresh => exact ⟨h.pending, h.asleep, h.inline, h.here⟩
  | @finish job running done =>
    have hjobs : s.stream.unfinished = job :: s.stream.waiting := by
      simp [Stream.unfinished, running]
    have hfinished : (s.finish job outcome).Accounted := by
      refine Accounted.finish ?_ ?_ h.here
      · rw [hpending, hjobs, List.length_cons]
        rfl
      · intro hinline
        exact absurd (hjobs.symm.trans (h.inline hinline)) (List.cons_ne_nil _ _)
    exact ⟨hfinished.pending, hfinished.asleep, hfinished.inline, hfinished.here⟩
  | leave idle closed => exact ⟨h.pending, h.asleep, h.inline, h.here⟩
  | close through inUse => exact ⟨h.pending, h.asleep, h.inline, h.here⟩
  | drop ended => exact ⟨h.pending, h.asleep, h.inline, h.here⟩

theorem Accounted.run (h : s.Accounted) (order : List (Turn Name)) :
    (s.run outcome order).Accounted :=
  run_induction (fun _ _ hs hmove => hs.move hmove) h order

end Pending

/-! ## Turns that get somewhere -/

/-- How much is left of a request. -/
def Stage.load : Stage Job → Nat
  | .idle => 0
  | .sending _ => 5
  | .finishing _ => 3
  | .looking | .asleep => 1

/-- How much is left for a thread to do, and for the worker with its jobs. -/
def Thread.load (t : Thread Job) : Nat := 6 * t.todo.length + t.stage.load

/-- How much is left of the job the worker is at. -/
def runningLoad (s : Traffic Name Job Mishap) : Nat :=
  match s.stream.running, s.hasRun with
  | none, _ => 0
  | some _, false => 2
  | some _, true => 1

/-- How much is left to do. A job is worth less at each stage on its way. -/
def load [Fintype Name] (s : Traffic Name Job Mishap) : Nat :=
  (∑ i, (s.threads i).load) + 4 * s.stream.waiting.length + s.runningLoad

/-- Nobody has anything left to do. -/
structure AtRest (s : Traffic Name Job Mishap) : Prop where
  through : ∀ i, (s.threads i).isThrough = true
  finished : s.stream.unfinished = []

section Progress

theorem Thread.load_woken (t : Thread Job) : t.woken.load = t.load := by
  rcases t with ⟨todo, stage⟩
  cases stage <;> rfl

theorem Thread.eq_of_isThrough {t : Thread Job} (h : t.isThrough = true) : t = ⟨[], .idle⟩ := by
  rcases t with ⟨todo, stage⟩
  cases todo <;> cases stage <;> simp_all [isThrough]

theorem runningLoad_le (s : Traffic Name Job Mishap) : s.runningLoad ≤ 2 := by
  unfold runningLoad
  split <;> decide

variable [Fintype Name] {outcome : Job → Option Mishap} {s s' : Traffic Name Job Mishap}

theorem sum_load_finish (job : Job) (s : Traffic Name Job Mishap) :
    ∑ i, ((s.finish job outcome).threads i).load = ∑ i, (s.threads i).load := by
  have hsame : ∀ i, ((s.finish job outcome).threads i).load = (s.threads i).load := by
    intro i
    simp only [Traffic.finish]
    split
    · exact Thread.load_woken _
    · rfl
  exact Finset.sum_congr rfl (fun i _ => hsame i)

theorem load_finish (job : Job) (s : Traffic Name Job Mishap) :
    (s.finish job outcome).load = (∑ i, (s.threads i).load) + 4 * s.stream.waiting.length := by
  rw [load, sum_load_finish]
  rfl

/-- While jobs are unfinished the worker gets somewhere. -/
theorem load_work_lt (hjobs : s.stream.unfinished ≠ []) : (s.work outcome).load < s.load := by
  unfold work
  cases hrunning : s.stream.running with
  | some job =>
    cases hrun : s.hasRun with
    | false => simp [load, runningLoad, Traffic.runReceived, hrunning, hrun]
    | true =>
      change (s.finish job outcome).load < s.load
      rw [load_finish]
      simp [load, runningLoad, hrunning, hrun]
  | none =>
    cases hwaiting : s.stream.waiting with
    | cons job waiting =>
      simp only [Stream.receive, hrunning, hwaiting]
      have hreceived := runningLoad_le
        (s.receive job { s.stream with waiting, running := some job })
      simp only [load, Traffic.receive, hwaiting, List.length_cons] at hreceived ⊢
      omega
    | nil => exact absurd (by simp [Stream.unfinished, hrunning, hwaiting]) hjobs

variable [DecidableEq Name] {i : Name}

/-- The turn of one thread counts with what it leaves of its own load and of the jobs sent. -/
theorem load_lt_of_update {t : Thread Job} (hthreads : s'.threads = Function.update s.threads i t)
    (hrunning : s'.runningLoad = s.runningLoad)
    (hless : t.load + 4 * s'.stream.waiting.length <
      (s.threads i).load + 4 * s.stream.waiting.length) : s'.load < s.load := by
  have hsum := sum_update Thread.load s.threads i t
  unfold load
  rw [hthreads, hrunning]
  omega

/-- A thread that is neither through nor held up gets somewhere. -/
theorem load_act_lt (hthrough : (s.threads i).isThrough = false)
    (hawake : (s.threads i).stage ≠ .asleep)
    (hlooking : (s.threads i).stage = .looking → s.stream.pending = 0) :
    (s.act i outcome).load < s.load := by
  unfold act
  cases hstage : (s.threads i).stage with
  | idle =>
    cases htodo : (s.threads i).todo with
    | nil =>
      have hsame : s.threads i = ⟨[], .idle⟩ := by rw [← hstage, ← htodo]
      rw [hsame] at hthrough
      cases hthrough
    | cons request rest =>
      have hload : (s.threads i).load = 6 * (rest.length + 1) := by
        rw [Thread.load, htodo, hstage]
        rfl
      cases request with
      | enqueue job =>
        refine load_lt_of_update (t := ⟨rest, .sending job⟩) rfl rfl ?_
        rw [hload]
        simp only [Thread.load, Stage.load, Traffic.count, Stream.count]
        omega
      | synchronize =>
        refine load_lt_of_update (t := ⟨rest, .looking⟩) rfl rfl ?_
        rw [hload]
        simp only [Thread.load, Stage.load, Traffic.call]
        omega
  | sending job =>
    dsimp only
    split
    · refine load_lt_of_update (i := i) rfl rfl ?_
      simp only [Thread.load, Stage.load, Traffic.send, Stream.send, hstage, List.length_append,
        List.length_singleton]
      omega
    · refine load_lt_of_update (i := i) rfl rfl ?_
      simp only [Thread.load, Stage.load, Traffic.runHere, Traffic.enter, hstage]
      omega
  | finishing job =>
    have hless : (s.enter i .idle).load < s.load := by
      refine load_lt_of_update (i := i) rfl rfl ?_
      simp only [Thread.load, Stage.load, Traffic.enter, hstage]
      omega
    refine lt_of_le_of_lt ?_ hless
    rw [load_finish]
    exact Nat.le_add_right _ _
  | looking =>
    have hdrained : s.stream.isDrained = true := beq_iff_eq.mpr (hlooking hstage)
    simp only [hdrained, if_true]
    refine load_lt_of_update (i := i) rfl rfl ?_
    simp only [Thread.load, Stage.load, Traffic.answer, Stream.takeFault, hstage]
    omega
  | asleep => exact absurd hstage hawake

/-- Unless all is done there is somebody whose turn gets the whole nearer to its end. -/
theorem exists_load_step_lt (h : s.Accounted) (hwork : ¬ s.AtRest) :
    ∃ turn, (s.step outcome turn).load < s.load := by
  by_cases hjobs : s.stream.unfinished = []
  case neg => exact ⟨.worker, load_work_lt hjobs⟩
  have hpending := h.pending
  rw [hjobs, List.length_nil, Nat.add_zero] at hpending
  by_cases hhalfway : ∃ i, (s.threads i).stage.isHalfway = true
  · -- A thread halfway through its enqueue goes on with it.
    rcases hhalfway with ⟨i, hi⟩
    have hstage : (s.threads i).stage ≠ .idle ∧ (s.threads i).stage ≠ .asleep ∧
        (s.threads i).stage ≠ .looking := by
      refine ⟨?_, ?_, ?_⟩ <;> (intro hother; rw [hother] at hi; cases hi)
    have hthrough : (s.threads i).isThrough = false :=
      Bool.of_not_eq_true (fun hdone => hstage.1 (by rw [Thread.eq_of_isThrough hdone]))
    exact ⟨.thread i, load_act_lt hthrough hstage.2.1 (fun hlooking => absurd hlooking hstage.2.2)⟩
  · -- Nobody is, so the stream is drained, and a thread that is not through is not held up.
    have hdrained : s.stream.pending = 0 := by
      rw [hpending]
      exact Nat.eq_zero_of_not_pos (mt halfway_pos_iff.mp hhalfway)
    have hthrough : ∃ i, (s.threads i).isThrough = false := by
      by_contra hall
      refine hwork ⟨fun i => ?_, hjobs⟩
      exact Bool.of_not_eq_false (fun hi => hall ⟨i, hi⟩)
    rcases hthrough with ⟨i, hi⟩
    refine ⟨.thread i, load_act_lt hi ?_ (fun _ => hdrained)⟩
    intro hasleep
    exact absurd hdrained (Nat.ne_of_gt (h.asleep i hasleep))

/-- From wherever the parties have got to, there are turns after which all is done. -/
theorem Accounted.exists_atRest (h : s.Accounted) : ∃ more, (s.run outcome more).AtRest := by
  induction hload : s.load using Nat.strong_induction_on generalizing s with
  | _ n ih =>
    by_cases hrest : s.AtRest
    · exact ⟨[], hrest⟩
    · obtain ⟨turn, hless⟩ : ∃ turn, (s.step outcome turn).load < s.load :=
        exists_load_step_lt h hrest
      rcases ih _ (hload ▸ hless) (h.move (move_step s turn)) rfl with ⟨more, hmore⟩
      exact ⟨turn :: more, hmore⟩

end Progress

end Traffic

end Emulated

end DeviceCopy
