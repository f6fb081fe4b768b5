import DeviceCopy.Proofs.Emulated.Solo

/-!
# Transfers come after the jobs before them

One host thread opens default clients, enqueues copies on them and transfers bytes, and the workers
get on as they will. When a transfer moves its bytes, every job that was submitted before has been
completed, on whichever default client it was and whatever the limits of any device; and a call that
fails has moved none. What is in memory is what the completed jobs and the stored bytes have made of
it, in the order of the history.

A transfer waits for the default clients one after the other. A lane it has waited for stays
drained, since the thread submits nothing meanwhile, so at the end all of them are: `Poised`.
-/

set_option autoImplicit false

namespace DeviceCopy

namespace Emulated

/-- The step submits a job. -/
def HostStep.isSubmission : HostStep → Bool
  | .submit .. => true
  | _ => false

/-- The step may make a client. -/
def HostStep.isOpening : HostStep → Bool
  | .openDefault _ => true
  | _ => false

/-- The step moves bytes between the host and the device. -/
def HostStep.isTransfer : HostStep → Bool
  | .store .. | .fetch .. => true
  | _ => false

namespace Solo

/-! ## What a history says -/

namespace Entry

def submittedOn? (lane : Nat) : Entry → Option Launch
  | .submitted other job => if other = lane then some job else none
  | _ => none

def completedOn? (lane : Nat) : Entry → Option Launch
  | .completed other job => if other = lane then some job else none
  | _ => none

/-- Bytes were moved between the host and the device. -/
def isTransfer : Entry → Bool
  | .stored .. | .fetched .. => true
  | _ => false

def isBegan : Entry → Bool
  | .began _ => true
  | _ => false

end Entry

/-- The memory that a history makes of the one at its beginning. -/
def replay (m : Memory) : List Entry → Memory
  | [] => m
  | .completed _ job :: earlier => (job.run (replay m earlier)).1
  | .stored pointer bytes :: earlier => (replay m earlier).write pointer bytes
  | _ :: earlier => replay m earlier

/-- What has happened since the last call began. -/
def sinceBegan (history : List Entry) : List Entry := history.takeWhile fun entry => !entry.isBegan

/-- If bytes were moved here, then every job submitted before had been completed. -/
def AfterJobs (entry : Entry) (earlier : List Entry) : Prop :=
  entry.isTransfer = true → ∀ lane,
    logOf (Entry.submittedOn? lane) earlier = logOf (Entry.completedOn? lane) earlier

/-- If a call has failed here, then it has moved no bytes. -/
def FailsUntouched (entry : Entry) (earlier : List Entry) : Prop :=
  ∀ failure, entry = .ended (.error failure) →
    ∀ other ∈ sinceBegan earlier, other.isTransfer = false

theorem replay_append (m : Memory) (later earlier : List Entry) :
    replay m (later ++ earlier) = replay (replay m earlier) later := by
  induction later with
  | nil => rfl
  | cons entry rest ih =>
    cases entry <;> simp [replay, ih]

end Solo

/-! ## What a step adds to the history -/

namespace HostStep

open Solo

variable {w : World} {step : HostStep}

/-- A step tells of no call, and of a transfer just if it is one. -/
theorem mem_entries {entry : Entry} (h : entry ∈ step.entries w) :
    entry.isTransfer = step.isTransfer ∧ entry.isBegan = false ∧
      ∀ answer, entry ≠ .ended answer := by
  cases step with
  | submit client launch =>
    simp only [entries] at h
    split at h
    · simp at h
    · split at h
      · obtain rfl : entry = _ := List.mem_singleton.mp h
        exact ⟨rfl, rfl, nofun⟩
      · rcases List.mem_pair.mp h with rfl | rfl <;> exact ⟨rfl, rfl, nofun⟩
  | store pointer bytes =>
    obtain rfl : entry = _ := List.mem_singleton.mp h
    exact ⟨rfl, rfl, nofun⟩
  | fetch pointer count =>
    obtain rfl : entry = _ := List.mem_singleton.mp h
    exact ⟨rfl, rfl, nofun⟩
  | _ => simp [entries] at h

/-- What a step makes of the memory is what its entries say. -/
theorem memory_act (step : HostStep) (w : World) :
    (step.act w).2.memory = replay w.memory (step.entries w) := by
  cases step with
  | openDefault device =>
    simp only [act, entries, replay, World.defaultClient, World.newClient, World.openLane]
    cases w.defaults.lookup device.limits with
    | some client => rfl
    | none => cases w.environment.grantsWorker w.lanes.size <;> rfl
  | screen client launch => exact (sameStreams_screen client launch w).memory
  | takeError client => exact (sameStreams_takeError client w).memory
  | submit client launch =>
    simp only [act, entries]
    split
    · next hmissing => rw [World.submit_of_missing hmissing, replay]
    · next hlane =>
      have hlt := Nat.lt_of_not_le hlane
      cases hworker : (w.laneAt client.lane).stream.hasWorker with
      | true =>
        rw [World.submit_of_worker hlt hworker]
        rfl
      | false =>
        rw [World.submit_of_inline hlt hworker]
        rfl
  | _ => rfl

theorem unfinished_defaultClient (device : Device) (w : World) (lane : Nat) :
    (w.defaultClient device).2.unfinished lane = w.unfinished lane := by
  unfold World.defaultClient
  cases w.defaults.lookup device.limits with
  | some client => rfl
  | none =>
    -- A new lane has no jobs, and there was none of its number.
    let hasWorker := w.environment.grantsWorker w.lanes.size
    have hlane : (w.openLane hasWorker device).2.laneAt lane =
        (w.lanes.push { stream := .idle hasWorker, flag := .clear })[lane]?.getD .unopened := by
      cases hasWorker <;> rfl
    change ((w.openLane hasWorker device).2.laneAt lane).stream.unfinished = _
    rw [hlane, Array.getElem?_push]
    split
    · next hnew => rw [World.unfinished_of_size_le (Nat.le_of_eq hnew.symm)]; rfl
    · rfl

/-- Only a submission changes what is left on the lanes. -/
theorem unfinished_act (h : step.isSubmission = false) (w : World) (lane : Nat) :
    (step.act w).2.unfinished lane = w.unfinished lane := by
  cases step with
  | openDefault device => exact unfinished_defaultClient device w lane
  | screen client launch => exact (sameStreams_screen client launch w).unfinished lane
  | submit client launch => cases h
  | takeError client => exact (sameStreams_takeError client w).unfinished lane
  | wait client => exact unfinished_collect client w lane
  | _ => rfl

/-- The jobs a step submits are still there afterwards, unless it has completed them. -/
theorem jobs_act (h : w.Sound) (step : HostStep) (lane : Nat) :
    w.unfinished lane ++ logOf (Entry.submittedOn? lane) (step.entries w) =
      logOf (Entry.completedOn? lane) (step.entries w) ++ (step.act w).2.unfinished lane := by
  cases step with
  | submit client launch =>
    simp only [act, entries]
    split
    · next hmissing => simp [World.submit_of_missing hmissing]
    · next hlane =>
      have hlt := Nat.lt_of_not_le hlane
      by_cases hsame : client.lane = lane
      · subst hsame
        rw [World.unfinished_submit h hlt]
        cases hworker : (w.laneAt client.lane).stream.hasWorker with
        | true => simp [Entry.submittedOn?, Entry.completedOn?]
        | false =>
          have hnone : w.unfinished client.lane = [] := (h client.lane).inline hworker
          simp [Entry.submittedOn?, Entry.completedOn?, hnone]
      · rw [World.unfinished_submit_of_ne w (Ne.symm hsame)]
        split <;> simp [Entry.submittedOn?, Entry.completedOn?, hsame]
  | _ =>
    rw [unfinished_act rfl w lane]
    simp [entries, Entry.submittedOn?, Entry.completedOn?]

/-- Only asking for a default client can make one. -/
theorem defaults_act (h : step.isOpening = false) (w : World) :
    (step.act w).2.defaults = w.defaults ∧ (step.act w).2.lanes.size = w.lanes.size := by
  cases step with
  | openDefault device => cases h
  | screen client launch =>
    refine ⟨?_, (sameStreams_screen client launch w).size⟩
    cases hreport : client.rejection launch with
    | none => simp only [act, screen_of_admitted hreport]
    | some e =>
      simp only [act, screen_of_rejected hreport]
      rfl
  | submit client launch =>
    have hsame := World.sameClients_submit w client.lane launch
    exact ⟨hsame.defaults, hsame.size⟩
  | takeError client =>
    refine ⟨?_, (sameStreams_takeError client w).size⟩
    change (Emulated.takeError client w).2.defaults = w.defaults
    rw [takeError_eq]
    rfl
  | wait client => exact ⟨rfl, World.size_putLane w client.lane _⟩
  | _ => exact ⟨rfl, rfl⟩

end HostStep

/-! ## The default clients -/

namespace World

/-- Every lane is that of a default client. -/
def AllDefault (w : World) : Prop :=
  ∀ lane, lane < w.lanes.size → ∃ entry ∈ w.defaults, entry.2.lane = lane

variable {w w' : World}

theorem allDefault_initial (environment : Environment) :
    (World.initial environment).AllDefault := by
  intro lane hlane
  exact absurd hlane (Nat.not_lt_zero lane)

theorem AllDefault.congr (h : w.AllDefault) (hsize : w'.lanes.size = w.lanes.size)
    (hdefaults : w'.defaults = w.defaults) : w'.AllDefault := by
  intro lane hlane
  rw [hdefaults]
  exact h lane (hsize ▸ hlane)

theorem AllDefault.defaultClient (h : w.AllDefault) (device : Device) :
    (w.defaultClient device).2.AllDefault := by
  unfold World.defaultClient
  cases w.defaults.lookup device.limits with
  | some client => exact h
  | none =>
    intro lane hlane
    have hsize : (w.newClient device).2.lanes.size = w.lanes.size + 1 := by
      simp only [newClient, openLane]
      cases w.environment.grantsWorker w.lanes.size <;> simp [tell]
    have hdefaults : (w.newClient device).2.defaults = w.defaults := by
      simp only [newClient, openLane]
      cases w.environment.grantsWorker w.lanes.size <;> rfl
    rcases Nat.lt_or_eq_of_le (Nat.le_of_lt_succ (hsize ▸ hlane)) with hold | rfl
    · obtain ⟨entry, hentry, hlane⟩ := h lane hold
      exact ⟨entry, List.mem_append_left _ (hdefaults ▸ hentry), hlane⟩
    · exact ⟨(device.limits, (w.newClient device).1), List.mem_append_right _ (by simp), rfl⟩

theorem AllDefault.act (h : w.AllDefault) (step : HostStep) : (step.act w).2.AllDefault := by
  cases hopening : step.isOpening with
  | false =>
    have hsame := HostStep.defaults_act hopening w
    exact h.congr hsame.2 hsame.1
  | true =>
    cases step with
    | openDefault device => exact h.defaultClient device
    | _ => cases hopening

theorem unfinished_work_of_idle {other : Nat} (h : w.unfinished other = []) (lane : Nat) :
    (w.work lane).unfinished other = [] := by
  by_cases hother : other = lane
  · subst hother
    rw [unfinished_work, h, List.tail_nil]
  · rw [unfinished_congr (laneAt_work_of_ne w hother), h]

theorem AllDefault.work (h : w.AllDefault) (lane : Nat) : (w.work lane).AllDefault :=
  h.congr (sameClients_work w lane).size (sameClients_work w lane).defaults

/-- Whoever waits for all default clients waits for every lane that has jobs. -/
theorem AllDefault.listed (h : w.AllDefault) (listing : Listing) (lane : Nat) :
    w.unfinished lane = [] ∨ ∃ client ∈ listing.clients w, client.lane = lane := by
  rcases Nat.lt_or_ge lane w.lanes.size with hlt | hge
  · obtain ⟨entry, hentry, hlane⟩ := h lane hlt
    refine Or.inr ⟨entry.2, ?_, hlane⟩
    exact (listing.complete w).mem_iff.mpr (List.mem_map_of_mem hentry)
  · exact Or.inl (unfinished_of_size_le hge)

end World

/-! ## Waiting for all of them -/

/-- A transfer among the steps left is the last of them, and the others wait for every lane that has
jobs. -/
def Poised (w : World) (steps : List HostStep) : Prop :=
  (∀ step ∈ steps, step.isTransfer = false) ∨
    ∃ (clients : List Client) (moving : HostStep), steps = clients.map .wait ++ [moving] ∧
      moving.isTransfer = true ∧
      ∀ lane, w.unfinished lane = [] ∨ ∃ client ∈ clients, client.lane = lane

section Poised

variable {w w' : World} {step : HostStep} {rest : List HostStep}

theorem isTransfer_enqueueSteps (client : Client) (launch : Launch) :
    ∀ step ∈ enqueueSteps client launch, step.isTransfer = false := by
  rcases enqueueSteps_cases client launch with ⟨f, hsteps⟩ | hsteps | hsteps <;>
    simp [hsteps, HostStep.isTransfer]

theorem poised_transferSteps (h : w.AllDefault) (listing : Listing) (argument : String)
    (host : Bytes) (pointer : Nat) {moving : HostStep} (hmoving : moving.isTransfer = true) :
    Poised w (transferSteps (listing.clients w) argument host pointer moving) := by
  rcases transferSteps_cases (listing.clients w) argument host pointer moving with
    ⟨answer, hsteps⟩ | hsteps
  · exact Or.inl (by simp [hsteps, HostStep.isTransfer])
  · exact Or.inr ⟨listing.clients w, moving, hsteps, hmoving, h.listed listing⟩

theorem poised_steps (h : w.AllDefault) (listing : Listing) (op : Op) :
    Poised w (op.steps (listing.clients w)) := by
  cases op with
  | openDefault device => exact Or.inl (by simp [Op.steps, HostStep.isTransfer])
  | call client asked =>
    cases asked with
    | copy kernel count src dst =>
      refine Or.inl ?_
      simp only [Op.steps, HostCall.steps]
      split
      · simp [HostStep.isTransfer]
      · next g _ =>
        have henqueue := isTransfer_enqueueSteps client { kernel, geometry := g, count, src, dst }
        simpa [HostStep.isTransfer, or_imp, forall_and] using henqueue
    | enqueue launch => exact Or.inl (isTransfer_enqueueSteps client launch)
    | synchronize => exact Or.inl (by simp [Op.steps, HostCall.steps, HostStep.isTransfer])
    | checkLastError => exact Or.inl (by simp [Op.steps, HostCall.steps, HostStep.isTransfer])
    | copyToDevice device bytes pointer => exact poised_transferSteps h listing _ _ _ rfl
    | copyFromDevice device pointer host => exact poised_transferSteps h listing _ _ _ rfl

/-- A lane stays drained while workers run jobs. -/
theorem Poised.mono (h : Poised w rest)
    (hdrained : ∀ lane, w.unfinished lane = [] → w'.unfinished lane = []) : Poised w' rest := by
  rcases h with hnone | ⟨clients, moving, hsteps, hmoving, hlanes⟩
  · exact Or.inl hnone
  · refine Or.inr ⟨clients, moving, hsteps, hmoving, ?_⟩
    intro lane
    exact (hlanes lane).imp_left (hdrained lane)

/-- When a transfer is the next step, no lane has a job left. -/
theorem Poised.drained (h : Poised w (step :: rest)) (hstep : step.isTransfer = true) :
    rest = [] ∧ ∀ lane, w.unfinished lane = [] := by
  rcases h with hnone | ⟨clients, moving, hsteps, -, hlanes⟩
  · have hstep' := hnone step List.mem_cons_self
    rw [hstep] at hstep'
    cases hstep'
  · cases clients with
    | nil =>
      refine ⟨(List.cons.inj hsteps).2, ?_⟩
      intro lane
      exact (hlanes lane).resolve_right (by simp)
    | cons client clients =>
      obtain rfl : step = .wait client := (List.cons.inj hsteps).1
      cases hstep

/-- What is left is still poised after a step. -/
theorem Poised.act (h : Poised w (step :: rest)) (hsound : w.Sound)
    (hfree : step.isHeldUp w = false) : Poised (step.act w).2 rest := by
  rcases h with hnone | ⟨clients, moving, hsteps, hmoving, hlanes⟩
  · exact Or.inl (fun other hother => hnone other (List.mem_cons_of_mem _ hother))
  · cases clients with
    | nil =>
      obtain rfl : rest = [] := (List.cons.inj hsteps).2
      exact Or.inl nofun
    | cons client clients =>
      have hsplit : step = .wait client ∧ rest = clients.map HostStep.wait ++ [moving] :=
        List.cons.inj hsteps
      rcases hsplit with ⟨rfl, rfl⟩
      refine Or.inr ⟨clients, moving, rfl, hmoving, ?_⟩
      intro lane
      have hsame : ((HostStep.wait client).act w).2.unfinished lane = w.unfinished lane :=
        unfinished_collect client w lane
      rw [hsame]
      rcases hlanes lane with hdrained | ⟨other, hother, hlane⟩
      · exact Or.inl hdrained
      · rcases List.mem_cons.mp hother with rfl | hother
        · -- This is the lane that has just been waited for.
          exact Or.inl (hlane ▸ hsound.unfinished_of_free hfree)
        · exact Or.inr ⟨other, hother, hlane⟩

end Poised

namespace Solo

/-! ## Runs -/

/-- Every job submitted is completed or still on its lane, and the memory is what the history makes
of it. No call that goes on has moved bytes, and the steps left are poised. -/
structure Orderly (m : Memory) (s : Solo) : Prop where
  sound : s.world.Sound
  allDefault : s.world.AllDefault
  jobs : ∀ lane, logOf (Entry.submittedOn? lane) s.history =
    logOf (Entry.completedOn? lane) s.history ++ s.world.unfinished lane
  memory : s.world.memory = replay m s.history
  poised : Poised s.world s.steps
  untouched : s.steps ≠ [] → ∀ entry ∈ sinceBegan s.history, entry.isTransfer = false
  afterJobs : AtEvery AfterJobs s.history
  failures : AtEvery FailsUntouched s.history

section Orderly

variable {listing : Listing} {m : Memory} {s s' : Solo}

theorem orderly_start {w : World} (hsound : w.Sound) (hdefault : w.AllDefault)
    (hidle : ∀ lane, w.unfinished lane = []) (program : List Op) :
    (start w program).Orderly w.memory := by
  refine ⟨hsound, hdefault, ?_, rfl, Or.inl nofun, fun h => absurd rfl h, AtEvery.nil, AtEvery.nil⟩
  intro lane
  simp [start, hidle lane]

theorem sinceBegan_append {entries : List Entry} (h : ∀ entry ∈ entries, entry.isBegan = false)
    (history : List Entry) : sinceBegan (entries ++ history) = entries ++ sinceBegan history :=
  List.takeWhile_append_of_pos (by simpa using h)

theorem Orderly.begin (h : s.Orderly m) (op : Op) (rest : List Op) :
    (s.begin listing op rest).Orderly m := by
  refine ⟨h.sound, h.allDefault, ?_, h.memory, poised_steps h.allDefault listing op, ?_,
    h.afterJobs.cons nofun, h.failures.cons nofun⟩
  · intro lane
    have hjobs := h.jobs lane
    simpa [Solo.begin, Entry.submittedOn?, Entry.completedOn?] using hjobs
  · intro _ entry hentry
    simp [Solo.begin, sinceBegan, Entry.isBegan] at hentry

theorem Orderly.complete (h : s.Orderly m) {lane : Nat} {job : Launch} {rest : List Launch}
    (hnext : s.world.unfinished lane = job :: rest) : (s.complete lane job).Orderly m := by
  have hrest : (s.world.work lane).unfinished lane = rest := by
    rw [World.unfinished_work, hnext, List.tail_cons]
  have hothers : ∀ other, other ≠ lane →
      (s.world.work lane).unfinished other = s.world.unfinished other := by
    intro other hother
    exact World.unfinished_congr (World.laneAt_work_of_ne s.world hother)
  refine ⟨h.sound.work lane, h.allDefault.work lane, ?_, ?_, ?_, ?_, h.afterJobs.cons nofun,
    h.failures.cons nofun⟩
  · intro other
    have hjobs := h.jobs other
    change logOf _ (.completed lane job :: s.history) =
      logOf _ (.completed lane job :: s.history) ++ (s.world.work lane).unfinished other
    by_cases hother : other = lane
    · subst hother
      rw [hrest]
      simpa [Entry.submittedOn?, Entry.completedOn?, hnext] using hjobs
    · rw [hothers other hother]
      simpa [Entry.submittedOn?, Entry.completedOn?, Ne.symm hother] using hjobs
  · change (s.world.work lane).memory = (job.run (replay m s.history)).1
    rw [World.work_of_busy hnext, h.memory]
  · exact h.poised.mono (fun _ hdrained => World.unfinished_work_of_idle hdrained lane)
  · intro hsteps entry hentry
    rcases List.mem_cons.mp hentry with rfl | hentry
    · rfl
    · exact h.untouched hsteps entry hentry

/-- A step that fails moves no bytes. -/
theorem act_transfer_ok {step : HostStep} (h : step.isTransfer = true) (w : World) :
    ∃ bytes, (step.act w).1 = .ok bytes := by
  cases step with
  | store pointer bytes => exact ⟨[], rfl⟩
  | fetch pointer count => exact ⟨w.memory.read pointer count, rfl⟩
  | _ => cases h

/-- What has happened since the call began, with a step that moves no bytes. -/
theorem Orderly.untouched_entries (h : s.Orderly m) {step : HostStep} (hbusy : s.steps ≠ [])
    (hstep : step.isTransfer = false) :
    ∀ entry ∈ sinceBegan (step.entries s.world ++ s.history), entry.isTransfer = false := by
  rw [sinceBegan_append (fun entry hentry => (HostStep.mem_entries hentry).2.1)]
  intro entry hentry
  rcases List.mem_append.mp hentry with hentry | hentry
  · rw [(HostStep.mem_entries hentry).1, hstep]
  · exact h.untouched hbusy entry hentry

/-- A step that moves bytes finds all jobs completed. -/
theorem Orderly.afterJobs_entries (h : s.Orderly m) {step : HostStep} {rest : List HostStep}
    (hnext : s.steps = step :: rest) : AtEvery AfterJobs (step.entries s.world ++ s.history) := by
  have hpoised : Poised s.world (step :: rest) := hnext ▸ h.poised
  have hjobs : step.isTransfer = true → ∀ lane, logOf (Entry.submittedOn? lane) s.history =
      logOf (Entry.completedOn? lane) s.history := by
    intro hstep lane
    rw [h.jobs lane, (hpoised.drained hstep).2 lane, List.append_nil]
  cases step with
  | store pointer bytes => exact h.afterJobs.cons (fun _ => hjobs rfl)
  | fetch pointer count => exact h.afterJobs.cons (fun _ => hjobs rfl)
  | _ =>
    apply h.afterJobs.append
    intro entry hentry earlier htransfer
    rw [(HostStep.mem_entries hentry).1] at htransfer
    cases htransfer

theorem Orderly.goOn (h : s.Orderly m) {step : HostStep} {rest : List HostStep}
    (hnext : s.steps = step :: rest) (hfree : step.isHeldUp s.world = false) :
    (s.goOn step rest).Orderly m := by
  have hbusy : s.steps ≠ [] := by simp [hnext]
  have hpoised : Poised s.world (step :: rest) := hnext ▸ h.poised
  let answer := (step.act s.world).1
  let between := step.entries s.world ++ s.history
  -- The end of a call says nothing about jobs and memory.
  obtain ⟨ending, hending, hhistory⟩ : ∃ ending : List Entry,
      (ending = [] ∨ ending = [.ended answer] ∧ stepsLeft answer rest = []) ∧
        (s.goOn step rest).history = ending ++ between := by
    refine ⟨if (stepsLeft answer rest).isEmpty then [.ended answer] else [], ?_, ?_⟩
    · cases hleft : stepsLeft answer rest <;> simp
    · exact List.append_assoc _ _ _
  have hsilent : ∀ lane, logOf (Entry.submittedOn? lane) (ending ++ between) =
      logOf (Entry.submittedOn? lane) between ∧
        logOf (Entry.completedOn? lane) (ending ++ between) =
          logOf (Entry.completedOn? lane) between := by
    intro lane
    rcases hending with rfl | ⟨rfl, -⟩ <;> simp [Entry.submittedOn?, Entry.completedOn?]
  refine ⟨h.sound.act step, h.allDefault.act step, ?_, ?_, ?_, ?_, ?_, ?_⟩
  · intro lane
    have hjobs := HostStep.jobs_act h.sound step lane
    rw [hhistory, (hsilent lane).1, (hsilent lane).2, logOf_append, logOf_append, h.jobs lane,
      List.append_assoc, List.append_assoc]
    exact congrArg _ hjobs
  · have hmemory : replay m (ending ++ between) = replay m between := by
      rcases hending with rfl | ⟨rfl, -⟩ <;> rfl
    rw [hhistory, hmemory, replay_append, ← h.memory]
    exact HostStep.memory_act step s.world
  · change Poised (step.act s.world).2 (stepsLeft (step.act s.world).1 rest)
    cases (step.act s.world).1 with
    | ok bytes => exact hpoised.act h.sound hfree
    | error failure => exact Or.inl nofun
  · intro hgoes
    rcases hending with rfl | ⟨rfl, hover⟩
    · -- The call goes on, so this was not its last step.
      have hstep : step.isTransfer = false := by
        refine Bool.of_not_eq_true (fun htransfer => hgoes ?_)
        change stepsLeft answer rest = []
        rw [(hpoised.drained htransfer).1]
        cases answer <;> rfl
      rw [hhistory]
      exact h.untouched_entries hbusy hstep
    · exact absurd hover hgoes
  · rw [hhistory]
    rcases hending with rfl | ⟨rfl, -⟩
    · exact h.afterJobs_entries hnext
    · exact (h.afterJobs_entries hnext).cons nofun
  · rw [hhistory]
    have hbefore : AtEvery FailsUntouched between := by
      apply h.failures.append
      intro entry hentry earlier failure heq
      exact absurd heq ((HostStep.mem_entries hentry).2.2 _)
    rcases hending with rfl | ⟨rfl, -⟩
    · exact hbefore
    · apply hbefore.cons
      intro failure heq
      have hstep : step.isTransfer = false := by
        refine Bool.of_not_eq_true (fun htransfer => ?_)
        obtain ⟨bytes, hbytes⟩ := act_transfer_ok htransfer s.world
        cases hbytes.symm.trans (Entry.ended.inj heq)
      exact h.untouched_entries hbusy hstep

theorem Orderly.move (h : s.Orderly m) (hmove : Move listing s s') : s'.Orderly m := by
  cases hmove with
  | stay => exact h
  | begin idle next => exact h.begin _ _
  | goOn next free => exact h.goOn next free
  | complete next => exact h.complete next

theorem Orderly.run (h : s.Orderly m) (turns : List Turn) : (s.run listing turns).Orderly m :=
  run_induction (fun _ _ hs hmove => hs.move hmove) h turns

end Orderly

/-- On a device that nobody has used, whatever default clients the thread opens and whatever it
enqueues on them: when bytes are moved, every job submitted before on any lane has been completed; a
call that fails has moved none; and the memory is what completed jobs and stored bytes have made of
it. From wherever the thread has got to it can come to the end of its program. -/
theorem transfers_follow_jobs (listing : Listing) (environment : Environment) (program : List Op)
    (turns : List Turn) :
    let s := (start (World.initial environment) program).run listing turns
    AtEvery AfterJobs s.history ∧
      AtEvery FailsUntouched s.history ∧
      s.world.memory = replay .empty s.history ∧
      ∃ more, (s.run listing more).isThrough = true := by
  intro s
  have hsound : (World.initial environment).Sound := World.sound_initial environment
  have hidle : ∀ lane, (World.initial environment).unfinished lane = [] :=
    fun lane => World.unfinished_of_size_le (Nat.zero_le lane)
  have horderly : s.Orderly .empty :=
    (orderly_start hsound (World.allDefault_initial environment) hidle program).run turns
  exact ⟨horderly.afterJobs, horderly.failures, horderly.memory, exists_through horderly.sound⟩

/-- A transfer asked for through one client is held up by a job on another, of other limits. -/
example :
    let small := Device.ofLimits { maxThreadsPerGroup := 1, maxGroups := 1 }
    let job : Launch :=
      { kernel := .scalar .u32, geometry := ⟨1, 1, 0⟩, count := 0, src := 64, dst := 128 }
    let program : List Op :=
      [.openDefault .standard, .openDefault small, .call ⟨1, small⟩ (.enqueue job),
        .call ⟨0, .standard⟩ (.copyToDevice .standard [7] 64)]
    let host := List.replicate 12 Turn.host
    let held := (start (World.initial .prompt) program).run .byAge host
    let freed := held.run .byAge (.worker 1 :: host)
    held.history.any Entry.isTransfer = false ∧ freed.history.any Entry.isTransfer = true ∧
      freed.isThrough = true := by
  decide

end Solo

end Emulated

end DeviceCopy
