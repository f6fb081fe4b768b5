import DeviceCopy.Proofs.Emulated.Transfers

/-!
# A worker makes no difference to one thread

A thread that uses one default client, and clones of it, sees the same whether the jobs are run by a
worker, at whatever pace, or on the thread itself as they are enqueued. For two worlds on the way
compare where their lanes are headed, `World.settled`, and what their flags hold: steps of the host
change both alike, jobs run by a worker change neither, and whenever the thread looks at memory or
takes a fault its lane has come to where it was headed.
-/

set_option autoImplicit false

namespace DeviceCopy

namespace Emulated

/-! ## Worlds with one client -/

/-- The client is the only one, and it is a default client. -/
structure World.Sole (client : Client) (w : World) : Prop where
  sound : w.Sound
  allDefault : w.AllDefault
  defaults : w.defaults.map Prod.snd = [client]
  opened : client.lane < w.lanes.size

/-- Two worlds whose lanes are headed for the same and whose flags hold the same. -/
structure World.Alike (client : Client) (w v : World) : Prop where
  settled : w.settled client.lane = v.settled client.lane
  flag : w.flagAt client.lane = v.flagAt client.lane

/-- The step concerns no other client. -/
def HostStep.IsOn (client : Client) : HostStep → Prop
  | .openDefault _ => False
  | .screen other _ | .submit other _ | .takeError other | .wait other => other = client
  | .reply _ | .tell _ | .store .. | .fetch .. => True

/-- The step shows how far the jobs have got, so it has to come after them. -/
def HostStep.comesAfterJobs : HostStep → Bool
  | .wait _ | .store .. | .fetch .. => true
  | _ => false

section Sole

variable {client : Client} {w v : World} {step : HostStep}

namespace World

theorem Sole.idle (h : w.Sole client) : ∀ other, other ≠ client.lane → w.unfinished other = [] := by
  intro other hother
  rcases Nat.lt_or_ge other w.lanes.size with hlt | hge
  · obtain ⟨entry, hentry, hlane⟩ := h.allDefault other hlt
    have hmem : entry.2 ∈ w.defaults.map Prod.snd := List.mem_map_of_mem hentry
    rw [h.defaults, List.mem_singleton] at hmem
    exact absurd (hmem ▸ hlane.symm) hother
  · exact unfinished_of_size_le hge

/-- However the default clients are listed, there is but this one. -/
theorem Sole.listed (h : w.Sole client) (listing : Listing) : listing.clients w = [client] := by
  have hperm := listing.complete w
  rw [h.defaults] at hperm
  exact List.perm_singleton.mp hperm

theorem Sole.of_sameClients (h : w.Sole client) (hsound : v.Sound) (hsame : w.SameClients v) :
    v.Sole client :=
  ⟨hsound, h.allDefault.congr hsame.size hsame.defaults, hsame.defaults ▸ h.defaults,
    hsame.size ▸ h.opened⟩

theorem Sole.work (h : w.Sole client) (lane : Nat) : (w.work lane).Sole client :=
  h.of_sameClients (h.sound.work lane) (sameClients_work w lane)

theorem Sole.progress (h : w.Sole client) : w.progress.Sole client :=
  h.of_sameClients h.sound.progress (sameClients_progress w)

theorem Sole.drain (h : w.Sole client) (lane : Nat) : (w.drain lane).Sole client :=
  h.of_sameClients (h.sound.workThrough lane _) (sameClients_workThrough w lane _)

theorem Sole.act (h : w.Sole client) (hstep : step.IsOn client) : (step.act w).2.Sole client := by
  have hopening : step.isOpening = false := by
    cases step with
    | openDefault device => cases hstep
    | _ => rfl
  have hsame := HostStep.defaults_act hopening w
  exact ⟨h.sound.act step, h.allDefault.act step, hsame.1 ▸ h.defaults, hsame.2 ▸ h.opened⟩

/-! ## Workers -/

theorem settled_store {lane : Nat} (h : w.unfinished lane = []) (m : Memory) :
    ({ w with memory := m } : World).settled lane = (m, w.faultAt lane) :=
  settled_of_idle (w := { w with memory := m }) h

/-- What the workers do makes no difference. -/
theorem Sole.alike_work (h : w.Sole client) (lane : Nat) : (w.work lane).Alike client w := by
  constructor
  · by_cases hlane : lane = client.lane
    · rw [hlane]
      exact settled_work w client.lane
    · rw [work_of_idle (h.idle lane hlane)]
  · exact (sameClients_work w lane).flagAt client.lane

theorem Sole.alike_progress (h : w.Sole client) : w.progress.Alike client w :=
  ⟨settled_progress h.idle, (sameClients_progress w).flagAt client.lane⟩

theorem alike_drain (client : Client) (w : World) : (w.drain client.lane).Alike client w :=
  ⟨settled_workThrough w client.lane _,
    (sameClients_workThrough w client.lane _).flagAt client.lane⟩

theorem Alike.symm (h : w.Alike client v) : v.Alike client w := ⟨h.settled.symm, h.flag.symm⟩

theorem Alike.trans {u : World} (h : w.Alike client v) (h' : v.Alike client u) :
    w.Alike client u :=
  ⟨h.settled.trans h'.settled, h.flag.trans h'.flag⟩

/-! ## Steps of the host -/

theorem settled_collect (hlane : client.lane < w.lanes.size) (h : w.unfinished client.lane = []) :
    (collect client w).2.settled client.lane = (w.memory, none) := by
  have hnone : (collect client w).2.unfinished client.lane = [] :=
    (unfinished_collect client w client.lane).trans h
  rw [settled_of_idle hnone]
  exact congrArg (w.memory, ·) (faultAt_putLane hlane)

theorem flagAt_collect (hlane : client.lane < w.lanes.size) :
    (collect client w).2.flagAt client.lane = w.flagAt client.lane :=
  flagAt_putLane hlane

/-- Steps in worlds that are alike are answered alike and leave worlds that are alike. -/
theorem Alike.act (h : w.Alike client v) (hw : w.Sole client) (hv : v.Sole client)
    (hstep : step.IsOn client)
    (hdrained : step.comesAfterJobs = true →
      w.unfinished client.lane = [] ∧ v.unfinished client.lane = []) :
    (step.act w).1 = (step.act v).1 ∧ (step.act w).2.Alike client (step.act v).2 := by
  have hsettled := h.settled
  cases step with
  | reply answer => exact ⟨rfl, h⟩
  | tell event =>
    refine ⟨rfl, ?_, h.flag⟩
    exact ((sameStreams_tell event w).settled _).trans
      (hsettled.trans ((sameStreams_tell event v).settled _).symm)
  | openDefault device => cases hstep
  | screen other launch =>
    obtain rfl : other = client := hstep
    refine ⟨rfl, ?_, ?_⟩
    · exact ((sameStreams_screen other launch w).settled _).trans
        (hsettled.trans ((sameStreams_screen other launch v).settled _).symm)
    · change (screen other launch w).2.flagAt other.lane =
        (screen other launch v).2.flagAt other.lane
      rw [flagAt_screen hw.opened, flagAt_screen hv.opened, h.flag]
  | submit other launch =>
    obtain rfl : other = client := hstep
    refine ⟨rfl, ?_, ?_⟩
    · change (w.submit other.lane launch).settled other.lane =
        (v.submit other.lane launch).settled other.lane
      rw [settled_submit hw.sound hw.opened, settled_submit hv.sound hv.opened, hsettled]
    · exact ((sameClients_submit w other.lane launch).flagAt _).trans
        (h.flag.trans ((sameClients_submit v other.lane launch).flagAt _).symm)
  | takeError other =>
    obtain rfl : other = client := hstep
    refine ⟨?_, ?_, ?_⟩
    · simp only [HostStep.act, takeError_eq, h.flag]
    · exact ((sameStreams_takeError other w).settled _).trans
        (hsettled.trans ((sameStreams_takeError other v).settled _).symm)
    · exact (flagAt_takeError other w).trans (flagAt_takeError other v).symm
  | wait other =>
    obtain rfl : other = client := hstep
    obtain ⟨hnone, hnone'⟩ := hdrained rfl
    rw [settled_of_idle hnone, settled_of_idle hnone'] at hsettled
    obtain ⟨hmemory, hfault⟩ := Prod.ext_iff.mp hsettled
    refine ⟨congrArg (faultAnswer other.lane) hfault, ?_, ?_⟩
    · refine (settled_collect hw.opened hnone).trans
        (Eq.trans ?_ (settled_collect hv.opened hnone').symm)
      exact congrArg (·, none) hmemory
    · exact (flagAt_collect hw.opened).trans (h.flag.trans (flagAt_collect hv.opened).symm)
  | store pointer bytes =>
    obtain ⟨hnone, hnone'⟩ := hdrained rfl
    rw [settled_of_idle hnone, settled_of_idle hnone'] at hsettled
    obtain ⟨hmemory, hfault⟩ := Prod.ext_iff.mp hsettled
    refine ⟨rfl, ?_, h.flag⟩
    refine (settled_store hnone _).trans (Eq.trans ?_ (settled_store hnone' _).symm)
    exact Prod.ext (congrArg (fun m : Memory => m.write pointer bytes) hmemory) hfault
  | fetch pointer count =>
    obtain ⟨hnone, hnone'⟩ := hdrained rfl
    rw [settled_of_idle hnone, settled_of_idle hnone'] at hsettled
    refine ⟨?_, h⟩
    exact congrArg (fun m : Memory => Except.ok (m.read pointer count)) (Prod.ext_iff.mp hsettled).1

theorem Sole.before (h : w.Sole client) (hstep : step.IsOn client) :
    (step.before w).Sole client ∧ (step.before w).Alike client w := by
  cases step with
  | wait other =>
    obtain rfl : other = client := hstep
    exact ⟨h.progress.drain _, (alike_drain other w.progress).trans h.alike_progress⟩
  | _ => exact ⟨h, rfl, rfl⟩

theorem Sole.after (h : w.Sole client) (step : HostStep) :
    (step.after w).Sole client ∧ (step.after w).Alike client w := by
  cases step with
  | submit other launch => exact ⟨h.progress, h.alike_progress⟩
  | _ => exact ⟨h, rfl, rfl⟩

/-- Taken here at once and there at the pace of the schedule, a step is answered alike. -/
theorem Alike.alone (h : w.Alike client v) (hw : w.Sole client) (hv : v.Sole client)
    (hstep : step.IsOn client) (hfree : step.isHeldUp w = false)
    (hready : step.isTransfer = true →
      w.unfinished client.lane = [] ∧ v.unfinished client.lane = []) :
    (step.act w).1 = (step.alone.perform v).1 ∧
      (step.act w).2.Alike client (step.alone.perform v).2 ∧
      (step.alone.perform v).2.Sole client := by
  obtain ⟨hbefore, halike⟩ := hv.before hstep
  have hdrained : step.comesAfterJobs = true →
      w.unfinished client.lane = [] ∧ (step.before v).unfinished client.lane = [] := by
    intro hcomes
    cases step with
    | wait other =>
      obtain rfl : other = client := hstep
      exact ⟨hw.sound.unfinished_of_free hfree, unfinished_drain _ _⟩
    | store pointer bytes => exact hready rfl
    | fetch pointer count => exact hready rfl
    | _ => cases hcomes
  obtain ⟨hanswer, hacted⟩ := (h.trans halike.symm).act hw hbefore hstep hdrained
  obtain ⟨hafter, hpaced⟩ := (hbefore.act hstep).after step
  exact ⟨hanswer, hacted.trans hpaced.symm, hafter⟩

/-! ## Lanes that stay drained -/

theorem unfinished_progress_of_idle {lane : Nat} (h : w.unfinished lane = []) :
    w.progress.unfinished lane = [] := by
  rw [unfinished_progress, h, List.drop_nil]

theorem unfinished_before {lane : Nat} (h : w.unfinished lane = []) (step : HostStep) :
    (step.before w).unfinished lane = [] := by
  cases step with
  | wait client =>
    by_cases hlane : lane = client.lane
    · rw [hlane]
      exact unfinished_drain w.progress client.lane
    · exact (unfinished_workThrough_of_ne w.progress hlane _).trans (unfinished_progress_of_idle h)
  | _ => exact h

theorem unfinished_after {lane : Nat} (h : w.unfinished lane = []) (step : HostStep) :
    (step.after w).unfinished lane = [] := by
  cases step with
  | submit client launch => exact unfinished_progress_of_idle h
  | _ => exact h

theorem Sound.before (h : w.Sound) (step : HostStep) : (step.before w).Sound := by
  cases step with
  | wait client => exact h.progress.workThrough client.lane _
  | _ => exact h

theorem Sound.free_before (h : w.Sound) (step : HostStep) :
    step.isHeldUp (step.before w) = false := by
  cases step with
  | wait client =>
    exact (h.before (.wait client)).free_of_unfinished (unfinished_drain w.progress client.lane)
  | _ => rfl

end World

theorem Poised.alone {rest : List HostStep} (h : Poised w (step :: rest)) (hsound : w.Sound) :
    Poised (step.alone.perform w).2 rest := by
  have hbefore : Poised (step.before w) (step :: rest) :=
    h.mono (fun _ hdrained => World.unfinished_before hdrained step)
  have hacted : Poised (step.act (step.before w)).2 rest :=
    hbefore.act (hsound.before step) (hsound.free_before step)
  exact hacted.mono (fun _ hdrained => World.unfinished_after hdrained step)

end Sole

/-! ## Programs -/

/-- Calls carried out one after the other at the pace of the schedule: their answers, and the world
after the last. -/
def performAll : List Op → World → List (Except Failure Bytes) × World
  | [], w => ([], w)
  | op :: rest, w =>
      let (answer, between) := op.effect.perform w
      let (answers, last) := performAll rest between
      (answer :: answers, last)

namespace Solo

def Entry.answer? : Entry → Option (Except Failure Bytes)
  | .ended answer => some answer
  | _ => none

/-- What the thread has been answered so far. -/
def answers (s : Solo) : List (Except Failure Bytes) := logOf Entry.answer? s.history

/-- What becomes of a program in the middle of a call, at the pace of the schedule. -/
def finishing (steps : List HostStep) (todo : List Op) (w : World) :
    List (Except Failure Bytes) × World :=
  match steps with
  | [] => performAll todo w
  | _ :: _ =>
      let (answer, between) := (HostStep.carryOut [] steps).perform w
      let (answers, last) := performAll todo between
      (answer :: answers, last)

/-- The run has the answers and comes to the end that the program has in another world, which is the
given one by now. -/
structure Follows (client : Client) (expected : List (Except Failure Bytes) × World) (s : Solo)
    (v : World) : Prop where
  left : s.world.Sole client
  right : v.Sole client
  alike : s.world.Alike client v
  poisedLeft : Poised s.world s.steps
  poisedRight : Poised v s.steps
  steps : ∀ step ∈ s.steps, step.IsOn client
  todo : ∀ op ∈ s.todo, ∃ asked, op = .call client asked
  expected : expected =
    (s.answers ++ (finishing s.steps s.todo v).1, (finishing s.steps s.todo v).2)

section Follows

variable {client : Client} {expected : List (Except Failure Bytes) × World} {listing : Listing}
  {s s' : Solo} {v : World}

theorem isOn_enqueueSteps (client : Client) (launch : Launch) :
    ∀ step ∈ enqueueSteps client launch, step.IsOn client := by
  rcases enqueueSteps_cases client launch with ⟨f, hsteps⟩ | hsteps | hsteps <;>
    simp [hsteps, HostStep.IsOn]

theorem isOn_transferSteps {argument : String} {host : Bytes} {pointer : Nat} {moving : HostStep}
    (hmoving : moving.IsOn client) :
    ∀ step ∈ transferSteps [client] argument host pointer moving, step.IsOn client := by
  rcases transferSteps_cases [client] argument host pointer moving with ⟨answer, hsteps⟩ | hsteps
  · simp [hsteps, HostStep.IsOn]
  · simpa [hsteps, HostStep.IsOn] using hmoving

theorem isOn_steps (client : Client) (asked : HostCall) :
    ∀ step ∈ asked.steps client [client], step.IsOn client := by
  cases asked with
  | copy kernel count src dst =>
    simp only [HostCall.steps]
    split
    · simp [HostStep.IsOn]
    · next g _ =>
      have henqueue := isOn_enqueueSteps client { kernel, geometry := g, count, src, dst }
      simpa [HostStep.IsOn, or_imp, forall_and] using henqueue
  | enqueue launch => exact isOn_enqueueSteps client launch
  | synchronize => simp [HostCall.steps, HostStep.IsOn]
  | checkLastError => simp [HostCall.steps, HostStep.IsOn]
  | copyToDevice device bytes pointer => exact isOn_transferSteps trivial
  | copyFromDevice device pointer host => exact isOn_transferSteps trivial

theorem transferSteps_ne_nil (clients : List Client) (argument : String) (host : Bytes)
    (pointer : Nat) (moving : HostStep) :
    transferSteps clients argument host pointer moving ≠ [] := by
  rcases transferSteps_cases clients argument host pointer moving with ⟨answer, hsteps⟩ | hsteps <;>
    simp [hsteps]

theorem steps_ne_nil (client : Client) (clients : List Client) (asked : HostCall) :
    asked.steps client clients ≠ [] := by
  cases asked with
  | copy kernel count src dst =>
    simp only [HostCall.steps]
    split <;> exact List.cons_ne_nil _ _
  | enqueue launch =>
    change enqueueSteps client launch ≠ []
    rcases enqueueSteps_cases client launch with ⟨f, hsteps⟩ | hsteps | hsteps <;> simp [hsteps]
  | synchronize => exact List.cons_ne_nil _ _
  | checkLastError => exact List.cons_ne_nil _ _
  | copyToDevice device bytes pointer => exact transferSteps_ne_nil _ _ _ _ _
  | copyFromDevice device pointer host => exact transferSteps_ne_nil _ _ _ _ _

/-- A call about to begin, taken apart into its steps. -/
theorem finishing_steps (client : Client) (asked : HostCall) (rest : List Op) (v : World) :
    finishing (asked.steps client (Listing.byAge.clients v)) rest v =
      performAll (.call client asked :: rest) v := by
  have heffect := perform_effect (.call client asked) v
  have hsome := steps_ne_nil client (Listing.byAge.clients v) asked
  change (HostStep.carryOut [] (asked.steps client (Listing.byAge.clients v))).perform v = _
    at heffect
  cases hsteps : asked.steps client (Listing.byAge.clients v) with
  | nil => exact absurd hsteps hsome
  | cons step steps =>
    rw [hsteps] at heffect
    simp only [finishing, performAll, heffect]

section Finishing

variable {step : HostStep} {rest : List HostStep} {todo : List Op}

/-- The last step of a call gives it its answer. -/
theorem finishing_of_over (h : stepsLeft (step.alone.perform v).1 rest = []) :
    finishing (step :: rest) todo v =
      ((step.alone.perform v).1 :: (performAll todo (step.alone.perform v).2).1,
        (performAll todo (step.alone.perform v).2).2) := by
  simp only [finishing, HostStep.carryOut, Effect.perform_bind]
  rcases hanswer : step.alone.perform v with ⟨answer | answer, between⟩
  · rfl
  · rw [hanswer] at h
    have hrest : rest = [] := h
    subst hrest
    rfl

/-- After any other step the call goes on. -/
theorem finishing_of_left (h : stepsLeft (step.alone.perform v).1 rest ≠ []) :
    finishing (step :: rest) todo v =
      finishing (stepsLeft (step.alone.perform v).1 rest) todo (step.alone.perform v).2 := by
  simp only [finishing, HostStep.carryOut, Effect.perform_bind]
  rcases hanswer : step.alone.perform v with ⟨answer | answer, between⟩
  · rw [hanswer] at h
    exact absurd rfl h
  · rw [hanswer] at h
    cases rest with
    | nil => exact absurd rfl h
    | cons next rest => rfl

end Finishing

/-- A call that begins here is carried out there. -/
theorem Follows.begin (h : s.Follows client expected v) {op : Op} {rest : List Op}
    (hidle : s.steps = []) (hnext : s.todo = op :: rest) :
    (s.begin listing op rest).Follows client expected v := by
  obtain ⟨asked, rfl⟩ := h.todo op (by simp [hnext])
  have hhere : listing.clients s.world = [client] := h.left.listed listing
  have hthere : Listing.byAge.clients v = [client] := h.right.listed .byAge
  have hsteps : (s.begin listing (.call client asked) rest).steps = asked.steps client [client] :=
    congrArg (asked.steps client) hhere
  have hanswers : (s.begin listing (.call client asked) rest).answers = s.answers := by
    simp [answers, Solo.begin, Entry.answer?]
  refine ⟨h.left, h.right, h.alike, ?_, ?_, ?_, ?_, ?_⟩
  · exact poised_steps h.left.allDefault listing (.call client asked)
  · rw [hsteps, ← hthere]
    exact poised_steps h.right.allDefault .byAge (.call client asked)
  · rw [hsteps]
    exact isOn_steps client asked
  · intro op hop
    exact h.todo op (by rw [hnext]; exact List.mem_cons_of_mem _ hop)
  · have hfinishing : finishing s.steps s.todo v =
        finishing (asked.steps client [client]) rest v := by
      rw [← hthere, finishing_steps, hidle, hnext]
      rfl
    rw [hanswers, hsteps, h.expected, hfinishing]
    rfl

theorem mem_of_mem_stepsLeft {answer : Except Failure Bytes} {step : HostStep}
    {rest : List HostStep} (h : step ∈ stepsLeft answer rest) : step ∈ rest := by
  cases answer with
  | ok bytes => exact h
  | error failure => cases h

theorem poised_stepsLeft {w : World} {rest : List HostStep} (h : Poised w rest)
    (answer : Except Failure Bytes) : Poised w (stepsLeft answer rest) := by
  cases answer with
  | ok bytes => exact h
  | error failure => exact Or.inl nofun

/-- The thread has one more answer when its call is over. -/
theorem answers_goOn (step : HostStep) (rest : List HostStep) (s : Solo) :
    (s.goOn step rest).answers = s.answers ++
      if (stepsLeft (step.act s.world).1 rest).isEmpty then [(step.act s.world).1] else [] := by
  have hquiet : ∀ entry ∈ step.entries s.world, Entry.answer? entry = none := by
    intro entry hentry
    have hnot := (HostStep.mem_entries hentry).2.2
    cases entry with
    | ended answer => exact absurd rfl (hnot answer)
    | _ => rfl
  simp only [answers, Solo.goOn, List.append_assoc]
  split
  · rw [List.singleton_append, logOf_cons, logOf_append_of_none hquiet]
    rfl
  · rw [List.nil_append, logOf_append_of_none hquiet, List.append_nil]

/-- A step taken here is taken there. -/
theorem Follows.goOn (h : s.Follows client expected v) {step : HostStep} {rest : List HostStep}
    (hnext : s.steps = step :: rest) (hfree : step.isHeldUp s.world = false) :
    (s.goOn step rest).Follows client expected (step.alone.perform v).2 := by
  have hstep : step.IsOn client := h.steps step (by simp [hnext])
  have hleft : Poised s.world (step :: rest) := hnext ▸ h.poisedLeft
  have hright : Poised v (step :: rest) := hnext ▸ h.poisedRight
  obtain ⟨hanswer, halike, hsole⟩ := h.alike.alone h.left h.right hstep hfree
    (fun htransfer => ⟨(hleft.drained htransfer).2 _, (hright.drained htransfer).2 _⟩)
  refine ⟨h.left.act hstep, hsole, halike, ?_, ?_, ?_, h.todo, ?_⟩
  · exact poised_stepsLeft (hleft.act h.left.sound hfree) _
  · exact poised_stepsLeft (hright.alone h.right.sound) _
  · intro other hother
    exact h.steps other (by rw [hnext]; exact List.mem_cons_of_mem _ (mem_of_mem_stepsLeft hother))
  · have hsteps : (s.goOn step rest).steps = stepsLeft (step.alone.perform v).1 rest := by
      rw [← hanswer]
      rfl
    have htodo : (s.goOn step rest).todo = s.todo := rfl
    rw [h.expected, answers_goOn, hsteps, htodo, hanswer, hnext]
    by_cases hover : stepsLeft (step.alone.perform v).1 rest = []
    · rw [finishing_of_over hover, hover]
      simp [finishing]
    · rw [finishing_of_left hover]
      simp [hover]

/-- A job completed here is nothing there. -/
theorem Follows.complete (h : s.Follows client expected v) {lane : Nat} {job : Launch} :
    (s.complete lane job).Follows client expected v := by
  have hanswers : (s.complete lane job).answers = s.answers := by
    simp [answers, Solo.complete, Entry.answer?]
  refine ⟨h.left.work lane, h.right, (h.left.alike_work lane).trans h.alike, ?_, h.poisedRight,
    h.steps, h.todo, ?_⟩
  · exact h.poisedLeft.mono (fun _ hdrained => World.unfinished_work_of_idle hdrained lane)
  · rw [hanswers]
    exact h.expected

theorem Follows.move (h : s.Follows client expected v) (hmove : Move listing s s') :
    ∃ v', s'.Follows client expected v' := by
  cases hmove with
  | stay => exact ⟨v, h⟩
  | begin idle next => exact ⟨v, h.begin idle next⟩
  | goOn next free => exact ⟨_, h.goOn next free⟩
  | complete next => exact ⟨v, h.complete⟩

theorem Follows.run (h : s.Follows client expected v) (turns : List Turn) :
    ∃ v', (s.run listing turns).Follows client expected v' :=
  run_induction (P := fun s => ∃ v', s.Follows client expected v')
    (fun _ _ ⟨_, hs⟩ hmove => hs.move hmove) ⟨v, h⟩ turns

theorem follows_start {w : World} (hw : w.Sole client) (hv : v.Sole client)
    (halike : w.Alike client v) (program : List HostCall) :
    (start w (program.map (.call client))).Follows client
      (performAll (program.map (.call client)) v) v := by
  refine ⟨hw, hv, halike, Or.inl nofun, Or.inl nofun, nofun, ?_, rfl⟩
  intro op hop
  obtain ⟨asked, -, rfl⟩ := List.mem_map.mp hop
  exact ⟨asked, rfl⟩

theorem Follows.answers_eq (h : s.Follows client expected v) :
    s.answers <+: expected.1 := by
  rw [h.expected]
  exact List.prefix_append _ _

/-- At the end of the program all answers are there, and the other world is where it came to. -/
theorem Follows.over (h : s.Follows client expected v) (hthrough : s.isThrough = true) :
    expected = (s.answers, v) := by
  obtain ⟨hsteps, htodo⟩ : s.steps = [] ∧ s.todo = [] := by simpa [isThrough] using hthrough
  rw [h.expected, hsteps, htodo]
  simp [finishing, performAll]

end Follows

end Solo

/-! ## The default client of a device -/

/-- A device with some memory and one default client, with or without a worker. -/
def World.opened (hasWorker : Bool) (environment : Environment) (memory : Memory)
    (device : Device) : World :=
  let w := World.initial { environment with grantsWorker := fun _ => hasWorker }
  ({ w with memory }.defaultClient device).2

/-- The client opened there. -/
def Client.first (device : Device) : Client := { lane := 0, device }

/-- A last wait is answered alike in both worlds and leaves the same memory. -/
def World.EndsAlike (client : Client) (w v : World) : Prop :=
  ((synchronize client).perform w).1 = ((synchronize client).perform v).1 ∧
    ((synchronize client).perform w).2.memory = ((synchronize client).perform v).2.memory

namespace World

variable {client : Client} {w v : World}

theorem sole_opened (hasWorker : Bool) (environment : Environment) (memory : Memory)
    (device : Device) : (opened hasWorker environment memory device).Sole (.first device) := by
  let environment := { environment with grantsWorker := fun _ => hasWorker }
  let fresh : World := { World.initial environment with memory }
  have hsound : fresh.Sound := sound_initial environment
  have hdefault : fresh.AllDefault := allDefault_initial environment
  refine ⟨hsound.defaultClient device, hdefault.defaultClient device, ?_, ?_⟩
  · cases hasWorker <;> rfl
  · cases hasWorker <;> exact Nat.one_pos

theorem alike_opened (hasWorker hasWorker' : Bool) (environment environment' : Environment)
    (memory : Memory) (device : Device) :
    (opened hasWorker environment memory device).Alike (.first device)
      (opened hasWorker' environment' memory device) := by
  cases hasWorker <;> cases hasWorker' <;> exact ⟨rfl, rfl⟩

/-- A wait finds the lane where it was headed. -/
theorem Sole.perform_synchronize (h : w.Sole client) :
    ((synchronize client).perform w).1 =
        (match (w.settled client.lane).2 with
          | none => .ok ()
          | some f => .error (.error (.backend (.streamFaulted client.lane f)))) ∧
      ((synchronize client).perform w).2.memory = (w.settled client.lane).1 := by
  rw [← settled_progress h.idle, settled_eq_drain, Emulated.perform_synchronize]
  exact ⟨rfl, rfl⟩

theorem Alike.endsAlike (h : w.Alike client v) (hw : w.Sole client) (hv : v.Sole client) :
    w.EndsAlike client v := by
  constructor
  · rw [hw.perform_synchronize.1, hv.perform_synchronize.1, h.settled]
  · rw [hw.perform_synchronize.2, hv.perform_synchronize.2, h.settled]

end World

/-- One thread uses the default client of a device. With a worker, whenever its turns come, the
answers so far are those that the same program has on a device where the jobs run on the thread; at
the end they are all of them, and a last wait is answered alike and leaves the same memory. The
program can always come to its end. Nor does it make a difference when the worker gets as far as the
schedule of the environment says. -/
theorem worker_refines_inline (listing : Listing) (environment environment' : Environment)
    (memory : Memory) (device : Device) (program : List HostCall) (turns : List Solo.Turn) :
    let client := Client.first device
    let ops := program.map (Op.call client)
    let withWorker := World.opened true environment memory device
    let s := (Solo.start withWorker ops).run listing turns
    let paced := performAll ops withWorker
    let inline := performAll ops (World.opened false environment' memory device)
    s.answers <+: inline.1 ∧
      (s.isThrough = true → s.answers = inline.1 ∧ s.world.EndsAlike client inline.2) ∧
      (∃ more, (s.run listing more).isThrough = true) ∧
      paced.1 = inline.1 ∧ paced.2.EndsAlike client inline.2 := by
  intro client ops withWorker s paced inline
  have hworker : withWorker.Sole client := World.sole_opened true environment memory device
  have hinline := World.sole_opened false environment' memory device
  have halike := World.alike_opened true false environment environment' memory device
  -- The run follows the program in both worlds, and so do its continuations.
  have hfollows : ∀ turns,
      (∃ v, ((Solo.start withWorker ops).run listing turns).Follows client inline v) ∧
        ∃ v, ((Solo.start withWorker ops).run listing turns).Follows client paced v := by
    intro turns
    exact ⟨(Solo.follows_start hworker hinline halike program).run turns,
      (Solo.follows_start hworker hworker ⟨rfl, rfl⟩ program).run turns⟩
  obtain ⟨⟨v, hv⟩, -⟩ := hfollows turns
  obtain ⟨more, hthrough⟩ : ∃ more, (s.run listing more).isThrough = true :=
    Solo.exists_through hv.left.sound
  refine ⟨hv.answers_eq, ?_, ⟨more, hthrough⟩, ?_⟩
  · intro hover
    rw [hv.over hover]
    exact ⟨rfl, hv.alike.endsAlike hv.left hv.right⟩
  · obtain ⟨⟨u, hu⟩, u', hu'⟩ := hfollows (turns ++ more)
    rw [Solo.run_append] at hu hu'
    rw [hu.over hthrough, hu'.over hthrough]
    exact ⟨rfl, (hu'.alike.symm.trans hu.alike).endsAlike hu'.right hu.right⟩

end Emulated

end DeviceCopy
