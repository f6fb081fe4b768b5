import DeviceCopy.Proofs.Emulated.EntryPoints
import Mathlib.Logic.Function.Basic

/-!
# Clones at work on one flag

Clones of a client share its lane, and with the lane the flag for launch errors. A call of an entry
point is three steps: hold the launch against the limits, which may leave a report in the flag; put
the launch on the lane; take what the flag holds. Clones on different threads take these steps in any
order.

A query hands over the latest report that nobody has taken, whoever left it, so a call can answer
with the error of another one and its own error can go elsewhere. `interleaved_calls_answer_latest`
says what holds in every order all the same: every error is the report on some rejected launch, none
is handed out twice, none is left behind when the calls are over, and a call that no flag step of
another clone comes in between answers for its own launch.
-/

set_option autoImplicit false

namespace DeviceCopy

namespace Emulated

/-- A call of an entry point. -/
structure Call where
  kernel : Kernel
  count : Nat
  src : Nat
  dst : Nat
  deriving DecidableEq, Repr

namespace Call

/-- The launch a call asks for, unless the code of the kernel gives up on it. -/
def launch? (client : Client) (call : Call) : Checked Launch := do
  let geometry ← call.kernel.geometry client.device.limits.maxGroups call.count
  let launch : Launch :=
    { kernel := call.kernel, geometry, count := call.count, src := call.src, dst := call.dst }
  match launchFault launch with
  | some f => .error f
  | none => return launch

/-- The world after a call has told what it is about to enqueue. -/
def announce (client : Client) (call : Call) (w : World) : World :=
  match call.kernel.geometry client.device.limits.maxGroups call.count with
  | .ok geometry => w.tell (copyEvent call.kernel call.count geometry)
  | .error _ => w

theorem sameStreams_announce (client : Client) (call : Call) (w : World) :
    w.SameStreams (call.announce client w) := by
  unfold announce
  cases call.kernel.geometry client.device.limits.maxGroups call.count with
  | ok geometry => exact World.sameStreams_tell _ w
  | error f => exact .refl w

theorem flagAt_announce (client : Client) (call : Call) (w : World) (lane : Nat) :
    (call.announce client w).flagAt lane = w.flagAt lane := by
  unfold announce
  cases call.kernel.geometry client.device.limits.maxGroups call.count <;> rfl

end Call

variable {client : Client} {call : Call} {launch : Launch}

theorem Call.launch?_eq_ok_iff :
    call.launch? client = .ok launch ↔
      ∃ g, call.kernel.geometry client.device.limits.maxGroups call.count = .ok g ∧
        launch = ⟨call.kernel, g, call.count, call.src, call.dst⟩ ∧ launchFault launch = none := by
  unfold launch?
  rw [Checked.bind_eq_ok_iff]
  constructor
  · rintro ⟨g, hgeometry, h⟩
    refine ⟨g, hgeometry, ?_⟩
    simp only at h
    split at h
    · cases h
    · next hfault =>
      cases h
      exact ⟨rfl, hfault⟩
  · rintro ⟨g, hgeometry, rfl, hfault⟩
    refine ⟨g, hgeometry, ?_⟩
    simp only [hfault]
    rfl

/-- A call that gives up does so before the flag is touched. -/
theorem perform_entryPoint_of_fault {f : Fault} (h : call.launch? client = .error f) (w : World) :
    (entryPoint client call.kernel call.count call.src call.dst).perform w =
      (.error (.fault f), call.announce client w) := by
  have hlimits : backend.clientLimits client = client.device.limits := rfl
  unfold Call.launch? at h
  rw [entryPoint_eq_queueAndCheck, Copy.queueAndCheck, hlimits, Call.announce]
  cases hgeometry : call.kernel.geometry client.device.limits.maxGroups call.count with
  | error other =>
    rw [hgeometry] at h
    cases h
    exact Effect.perform_bind_error (Effect.perform_giveUp f w)
  | ok g =>
    rw [hgeometry] at h
    let launch : Launch := ⟨call.kernel, g, call.count, call.src, call.dst⟩
    have hfault : launchFault launch = some f := by
      change (match launchFault launch with
        | some f => Except.error f
        | none => Except.ok launch) = Except.error f at h
      split at h
      · next other hother =>
        cases h
        exact hother
      · cases h
    have henqueue : (backend.enqueue client launch).perform (w.tell (copyEvent call.kernel call.count g)) =
        (.error (.fault f), w.tell (copyEvent call.kernel call.count g)) := by
      change (enqueue client launch).perform _ = _
      rw [enqueue, hfault, Effect.perform_giveUp]
    refine (Effect.perform_bind_ok (Effect.perform_pure g w)).trans ?_
    refine (Effect.perform_bind_ok (Effect.perform_update _ w)).trans ?_
    exact Effect.perform_bind_error henqueue

theorem perform_entryPoint_of_launch (h : call.launch? client = .ok launch) (w : World) :
    (entryPoint client call.kernel call.count call.src call.dst).perform w =
      let between := afterEnqueue client launch (call.announce client w)
      ((flagAnswer (between.flagAt client.lane)).mapError .error, (takeError client between).2) := by
  rcases Call.launch?_eq_ok_iff.mp h with ⟨g, hgeometry, rfl, hfault⟩
  rw [entryPoint_eq_queueAndCheck, perform_queueAndCheck hgeometry hfault, Call.announce, hgeometry]

/-! ## Callers and their steps -/

/-- How far a clone has got with its current call. -/
inductive Stage
  | idle
  /-- The limits admit the launch, which is still to be put on the lane. -/
  | admitted (call : Call) (launch : Launch)
  /-- Only the query for errors is left. -/
  | asking (call : Call)

/-- A clone with the calls it has not begun. -/
structure Caller where
  todo : List Call
  stage : Stage

/-- What a caller did about the flag, or that a call of its gave up before. -/
inductive FlagStep
  | screened (caller : Nat) (call : Call) (report : Option Error)
  | answered (caller : Nat) (call : Call) (answer : Except Error Unit)
  | gaveUp (caller : Nat) (call : Call) (fault : Fault)

namespace FlagStep

/-- Who took the step. -/
def caller : FlagStep → Nat
  | screened i .. => i
  | answered i .. => i
  | gaveUp i .. => i

/-- Whether the step left a report in the flag. -/
def isRejection : FlagStep → Bool
  | screened _ _ (some _) => true
  | _ => false

/-- Whether the step took what the flag held. -/
def isQuery : FlagStep → Bool
  | answered .. => true
  | _ => false

/-- Whether the step handed a report over. -/
def isFailure : FlagStep → Bool
  | answered _ _ (.error _) => true
  | _ => false

/-- What the call answers, if the step ends it. -/
def result? : FlagStep → Option (Except Failure Unit)
  | screened .. => none
  | answered _ _ answer => some (answer.mapError .error)
  | gaveUp _ _ f => some (.error (.fault f))

end FlagStep

/-- Clones of one client on a world, and what they have done so far, the latest first. -/
structure Crowd where
  world : World
  callers : Nat → Caller
  history : List FlagStep

/-- Whose turn it is: a clone's, or a worker's. -/
inductive Turn
  | caller (i : Nat)
  | worker (lane : Nat)

namespace Crowd

/-- Clones about to begin. -/
def start (w : World) (calls : Nat → List Call) : Crowd :=
  { world := w, callers := fun i => ⟨calls i, .idle⟩, history := [] }

/-- Begin a call: hold its launch against the limits. -/
def begin (client : Client) (i : Nat) (call : Call) (rest : List Call) (s : Crowd) : Crowd :=
  let w := call.announce client s.world
  match call.launch? client with
  | .error f =>
      { world := w
        callers := Function.update s.callers i ⟨rest, .idle⟩
        history := .gaveUp i call f :: s.history }
  | .ok launch =>
      let stage := if (screen client launch w).1 then Stage.admitted call launch else .asking call
      { world := (screen client launch w).2
        callers := Function.update s.callers i ⟨rest, stage⟩
        history := .screened i call (client.rejection launch) :: s.history }

/-- Put an admitted launch on the lane. -/
def push (client : Client) (i : Nat) (call : Call) (launch : Launch) (s : Crowd) : Crowd :=
  { s with
    world := (s.world.submit client.lane launch).progress
    callers := Function.update s.callers i { s.callers i with stage := .asking call } }

/-- Take what the flag holds, and end the call with it. -/
def ask (client : Client) (i : Nat) (call : Call) (s : Crowd) : Crowd :=
  { world := (takeError client s.world).2
    callers := Function.update s.callers i { s.callers i with stage := .idle }
    history := .answered i call (takeError client s.world).1 :: s.history }

/-- One turn. -/
def step (client : Client) (s : Crowd) : Turn → Crowd
  | .worker lane => { s with world := s.world.work lane }
  | .caller i =>
      match s.callers i with
      | ⟨[], .idle⟩ => s
      | ⟨call :: rest, .idle⟩ => s.begin client i call rest
      | ⟨_, .admitted call launch⟩ => s.push client i call launch
      | ⟨_, .asking call⟩ => s.ask client i call

theorem step_of_beginning {client : Client} {i : Nat} {call : Call} {rest : List Call} {s : Crowd}
    (h : s.callers i = ⟨call :: rest, .idle⟩) :
    s.step client (.caller i) = s.begin client i call rest := by
  simp [step, h]

theorem step_of_admitted {client : Client} {i : Nat} {call : Call} {launch : Launch}
    {rest : List Call} {s : Crowd} (h : s.callers i = ⟨rest, .admitted call launch⟩) :
    s.step client (.caller i) = s.push client i call launch := by
  simp [step, h]

theorem step_of_asking {client : Client} {i : Nat} {call : Call} {rest : List Call} {s : Crowd}
    (h : s.callers i = ⟨rest, .asking call⟩) :
    s.step client (.caller i) = s.ask client i call := by
  simp [step, h]

/-- Take turns in a given order. -/
def run (client : Client) (order : List Turn) (s : Crowd) : Crowd := order.foldl (step client) s

end Crowd

/-! ## What a history owes -/

/-- The latest report that no query has taken. -/
def pendingReport : List FlagStep → Option Error
  | [] => none
  | .screened _ _ (some e) :: _ => some e
  | .answered .. :: _ => none
  | .screened _ _ none :: earlier => pendingReport earlier
  | .gaveUp .. :: earlier => pendingReport earlier

/-- A call was held against the limits, with the given launch, and its caller has done nothing since
then that shows in the history. -/
def Screened (client : Client) (i : Nat) (call : Call) (launch : Launch)
    (history : List FlagStep) : Prop :=
  call.launch? client = .ok launch ∧
    ∃ between before, history = between ++ .screened i call (client.rejection launch) :: before ∧
      ∀ step ∈ between, step.caller ≠ i

/-- Whenever a call was held against the limits, the report is the one on its own launch. -/
def Honest (client : Client) (history : List FlagStep) : Prop :=
  ∀ i call report, .screened i call report ∈ history →
    ∃ launch, call.launch? client = .ok launch ∧ report = client.rejection launch

/-- Why a call answered what it did. -/
structure Explained (client : Client) (i : Nat) (call : Call) (answer : Except Error Unit)
    (earlier : List FlagStep) : Prop where
  /-- It took the latest report there was. -/
  latest : answer = flagAnswer (pendingReport earlier)
  /-- An error is the report on the launch of some call, which the limits rejected. -/
  reported : ∀ e, answer = .error e → ∃ j other launch, .screened j other (some e) ∈ earlier ∧
    other.launch? client = .ok launch ∧ client.rejection launch = some e
  /-- Its own launch had been held against the limits. Where no flag step came in between and the
  flag was empty before, it answers for that launch; and where another call did not ask in between,
  at least a rejection does not go unnoticed. -/
  own : ∃ launch between before, call.launch? client = .ok launch ∧
    earlier = between ++ .screened i call (client.rejection launch) :: before ∧
    (∀ step ∈ between, step.caller ≠ i) ∧
    ((∀ step ∈ between, step.isRejection = false ∧ step.isQuery = false) →
      pendingReport before = none → answer = flagAnswer (client.rejection launch)) ∧
    ((∀ step ∈ between, step.isQuery = false) →
      client.rejection launch ≠ none → answer ≠ .ok ())

/-- Every answer in a history is explained by what came before it. -/
def AllExplained (client : Client) (history : List FlagStep) : Prop :=
  ∀ later i call answer earlier, history = later ++ .answered i call answer :: earlier →
    Explained client i call answer earlier

section History

variable {i : Nat} {history : List FlagStep}

theorem pendingReport_append {between : List FlagStep}
    (h : ∀ step ∈ between, step.isRejection = false ∧ step.isQuery = false)
    (before : List FlagStep) : pendingReport (between ++ before) = pendingReport before := by
  induction between with
  | nil => rfl
  | cons step rest ih =>
    have hrest := ih (fun step hstep => h step (List.mem_cons_of_mem _ hstep))
    rcases h step List.mem_cons_self with ⟨hrejection, hquery⟩
    cases step with
    | screened j other report =>
      cases report with
      | none => exact hrest
      | some e => cases hrejection
    | answered j other answer => cases hquery
    | gaveUp j other f => exact hrest

theorem pendingReport_ne_none {between : List FlagStep}
    (h : ∀ step ∈ between, step.isQuery = false) {before : List FlagStep}
    (hbefore : pendingReport before ≠ none) : pendingReport (between ++ before) ≠ none := by
  induction between with
  | nil => exact hbefore
  | cons step rest ih =>
    have hrest := ih (fun step hstep => h step (List.mem_cons_of_mem _ hstep))
    have hquery := h step List.mem_cons_self
    cases step with
    | screened j other report =>
      cases report with
      | none => exact hrest
      | some e => exact Option.some_ne_none e
    | answered j other answer => cases hquery
    | gaveUp j other f => exact hrest

theorem mem_of_pendingReport {e : Error} (h : pendingReport history = some e) :
    ∃ j other, .screened j other (some e) ∈ history := by
  induction history with
  | nil => cases h
  | cons step earlier ih =>
    have hearlier : pendingReport earlier = some e →
        ∃ j other, .screened j other (some e) ∈ step :: earlier := by
      intro hpending
      rcases ih hpending with ⟨j, other, hmem⟩
      exact ⟨j, other, List.mem_cons_of_mem _ hmem⟩
    cases step with
    | screened j other report =>
      cases report with
      | none => exact hearlier h
      | some e' =>
        cases h
        exact ⟨j, other, List.mem_cons_self⟩
    | answered j other answer => cases h
    | gaveUp j other f => exact hearlier h

theorem Screened.here (h : call.launch? client = .ok launch) (before : List FlagStep) :
    Screened client i call launch (.screened i call (client.rejection launch) :: before) :=
  ⟨h, [], before, rfl, fun _ hstep => absurd hstep List.not_mem_nil⟩

theorem Screened.cons (h : Screened client i call launch history) {step : FlagStep}
    (hstep : step.caller ≠ i) : Screened client i call launch (step :: history) := by
  rcases h with ⟨hlaunch, between, before, rfl, hbetween⟩
  refine ⟨hlaunch, step :: between, before, rfl, ?_⟩
  intro other hother
  rcases List.mem_cons.mp hother with rfl | hrest
  · exact hstep
  · exact hbetween other hrest

/-- A query after a screened launch is explained by it. -/
theorem Screened.explained (h : Screened client i call launch history)
    (hhonest : Honest client history) :
    Explained client i call (flagAnswer (pendingReport history)) history := by
  rcases h with ⟨hlaunch, between, before, rfl, hbetween⟩
  refine ⟨rfl, ?_, launch, between, before, hlaunch, rfl, hbetween, ?_, ?_⟩
  · intro e he
    cases hpending : pendingReport
        (between ++ .screened i call (client.rejection launch) :: before) with
    | none =>
      rw [hpending] at he
      cases he
    | some e' =>
      rw [hpending] at he
      cases he
      rcases mem_of_pendingReport hpending with ⟨j, other, hmem⟩
      rcases hhonest j other _ hmem with ⟨theirs, htheirs, hreport⟩
      exact ⟨j, other, theirs, hmem, htheirs, hreport.symm⟩
  -- The flag was empty and nobody touched it in between: what it holds is the own report.
  · intro hquiet hempty
    have hown : pendingReport (.screened i call (client.rejection launch) :: before) =
        client.rejection launch := by
      cases client.rejection launch with
      | none => exact hempty
      | some e => rfl
    rw [pendingReport_append hquiet, hown]
  -- Nobody took the report, so at the query there is one, this or a later one.
  · intro hunasked hrejected hok
    have hpending : pendingReport
        (between ++ .screened i call (client.rejection launch) :: before) ≠ none := by
      refine pendingReport_ne_none hunasked ?_
      obtain ⟨e, he⟩ := Option.ne_none_iff_exists'.mp hrejected
      rw [he]
      exact Option.some_ne_none e
    obtain ⟨e, he⟩ := Option.ne_none_iff_exists'.mp hpending
    rw [he] at hok
    cases hok

theorem Honest.cons (h : Honest client history) {step : FlagStep}
    (hstep : ∀ i call report, step = .screened i call report →
      ∃ launch, call.launch? client = .ok launch ∧ report = client.rejection launch) :
    Honest client (step :: history) := by
  intro i call report hmem
  rcases List.mem_cons.mp hmem with hhead | htail
  · exact hstep i call report hhead.symm
  · exact h i call report htail

theorem AllExplained.cons (h : AllExplained client history) {step : FlagStep}
    (hstep : ∀ i call answer, step = .answered i call answer →
      Explained client i call answer history) : AllExplained client (step :: history) := by
  intro later i call answer earlier hsplit
  cases later with
  | nil =>
    rcases List.cons_eq_cons.mp hsplit with ⟨hhead, rfl⟩
    exact hstep i call answer hhead
  | cons first rest => exact h rest i call answer earlier (List.cons_eq_cons.mp hsplit).2

theorem AllExplained.of_cons {step : FlagStep} (h : AllExplained client (step :: history)) :
    AllExplained client history := by
  intro later i call answer earlier hsplit
  exact h (step :: later) i call answer earlier (by rw [hsplit, List.cons_append])

/-- No report is handed out twice: there are no more errors than rejections, even counting the one
still to be taken. -/
theorem AllExplained.failures_le (h : AllExplained client history) :
    history.countP FlagStep.isFailure + (pendingReport history).toList.length ≤
      history.countP FlagStep.isRejection := by
  induction history with
  | nil => exact Nat.le_refl 0
  | cons step earlier ih =>
    have hearlier := ih h.of_cons
    rw [List.countP_cons, List.countP_cons]
    cases step with
    | screened j other report =>
      cases report with
      | none => exact hearlier
      | some e => exact Nat.succ_le_succ ((Nat.le_add_right _ _).trans hearlier)
    | answered j other answer =>
      have hanswer := (h [] j other answer earlier rfl).latest
      -- An error uses up the report that was still to be taken.
      cases hpending : pendingReport earlier with
      | none =>
        rw [hpending] at hearlier hanswer
        subst hanswer
        exact hearlier
      | some e =>
        rw [hpending] at hearlier hanswer
        subst hanswer
        exact hearlier
    | gaveUp j other f => exact hearlier

end History

/-! ## The invariant of a crowd -/

/-- The stage of a clone agrees with what it has done. -/
def Stage.Matches (client : Client) (i : Nat) (history : List FlagStep) : Stage → Prop
  | idle => True
  | admitted call launch => Screened client i call launch history ∧ client.rejection launch = none
  | asking call => ∃ launch, Screened client i call launch history

/-- What every turn of a crowd preserves. -/
structure Crowd.Consistent (client : Client) (s : Crowd) : Prop where
  lane : client.lane < s.world.lanes.size
  /-- The flag holds the report that the history owes. -/
  flag : s.world.flagAt client.lane = pendingReport s.history
  stages : ∀ i, (s.callers i).stage.Matches client i s.history
  honest : Honest client s.history
  explained : AllExplained client s.history
  /-- Whoever left a report is still to ask. -/
  owed : pendingReport s.history ≠ none → ∃ i call, (s.callers i).stage = .asking call

namespace Crowd

variable {i : Nat} {rest : List Call} {s : Crowd}

theorem consistent_start {w : World} (hlane : client.lane < w.lanes.size)
    (hflag : w.flagAt client.lane = none) (calls : Nat → List Call) :
    (start w calls).Consistent client := by
  refine ⟨hlane, hflag, fun _ => trivial, fun _ _ _ h => absurd h List.not_mem_nil, ?_,
    fun h => absurd rfl h⟩
  intro later i call answer earlier hsplit
  exact absurd hsplit.symm (by simp [start])

/-- The stage of a clone keeps agreeing with the history when another one acts. -/
theorem matches_cons {stage : Stage} {j : Nat} {history : List FlagStep}
    (h : stage.Matches client j history) {step : FlagStep} (hstep : step.caller ≠ j) :
    stage.Matches client j (step :: history) := by
  cases stage with
  | idle => trivial
  | admitted call launch => exact ⟨h.1.cons hstep, h.2⟩
  | asking call =>
    rcases h with ⟨launch, hscreened⟩
    exact ⟨launch, hscreened.cons hstep⟩

theorem Consistent.work (h : s.Consistent client) (lane : Nat) :
    ({ s with world := s.world.work lane } : Crowd).Consistent client := by
  have hsame := World.sameClients_work s.world lane
  refine ⟨hsame.size ▸ h.lane, ?_, h.stages, h.honest, h.explained, h.owed⟩
  exact (hsame.flagAt client.lane).trans h.flag

/-- When a clone acts, its own stage has to be looked at and no other. -/
theorem stages_update (h : ∀ j, (s.callers j).stage.Matches client j s.history) {c : Caller}
    {step : FlagStep} (hstep : step.caller = i)
    (hc : c.stage.Matches client i (step :: s.history)) (j : Nat) :
    (Function.update s.callers i c j).stage.Matches client j (step :: s.history) := by
  by_cases hj : j = i
  · subst hj
    rw [Function.update_self]
    exact hc
  · rw [Function.update_of_ne hj]
    exact matches_cons (h j) (fun hsame => hj (hsame.symm.trans hstep))

/-- A clone that is not asking does not stand for the report that is owed. -/
theorem asking_update (h : ∃ j other, (s.callers j).stage = .asking other)
    (hi : ∀ call, (s.callers i).stage ≠ .asking call) (c : Caller) :
    ∃ j other, (Function.update s.callers i c j).stage = .asking other := by
  rcases h with ⟨j, other, hasking⟩
  have hj : j ≠ i := by
    rintro rfl
    exact hi other hasking
  exact ⟨j, other, (congrArg Caller.stage (Function.update_of_ne hj c s.callers)).trans hasking⟩

theorem begin_of_fault {f : Fault} (h : call.launch? client = .error f) :
    s.begin client i call rest =
      { world := call.announce client s.world
        callers := Function.update s.callers i ⟨rest, .idle⟩
        history := .gaveUp i call f :: s.history } := by
  simp [Crowd.begin, h]

theorem begin_of_admitted (h : call.launch? client = .ok launch)
    (hreport : client.rejection launch = none) :
    s.begin client i call rest =
      { world := call.announce client s.world
        callers := Function.update s.callers i ⟨rest, .admitted call launch⟩
        history := .screened i call none :: s.history } := by
  simp [Crowd.begin, h, screen_of_admitted hreport, hreport]

theorem begin_of_rejected {e : Error} (h : call.launch? client = .ok launch)
    (hreport : client.rejection launch = some e) :
    s.begin client i call rest =
      { world := (screen client launch (call.announce client s.world)).2
        callers := Function.update s.callers i ⟨rest, .asking call⟩
        history := .screened i call (some e) :: s.history } := by
  simp [Crowd.begin, h, screen_of_rejected hreport, hreport]

theorem Consistent.begin (h : s.Consistent client) (hidle : (s.callers i).stage = .idle)
    (call : Call) (rest : List Call) : (s.begin client i call rest).Consistent client := by
  have hannounced := Call.sameStreams_announce client call s.world
  have hlane : client.lane < (call.announce client s.world).lanes.size := hannounced.size ▸ h.lane
  have hkept : (call.announce client s.world).flagAt client.lane = pendingReport s.history :=
    (Call.flagAt_announce client call s.world client.lane).trans h.flag
  -- It was not asking, so the report that is owed is somebody else's.
  have hquiet : ∀ other, (s.callers i).stage ≠ .asking other := by
    intro other
    rw [hidle]
    exact Stage.noConfusion
  cases hlaunch : call.launch? client with
  | error f =>
    -- It gives up: the entry in the history says nothing about the flag.
    rw [begin_of_fault hlaunch]
    exact ⟨hlane, hkept, stages_update h.stages rfl trivial,
      h.honest.cons (fun _ _ _ hstep => by cases hstep),
      h.explained.cons (fun _ _ _ hstep => by cases hstep),
      fun howed => asking_update (h.owed howed) hquiet _⟩
  | ok launch =>
    have hscreened : Screened client i call launch
        (.screened i call (client.rejection launch) :: s.history) := .here hlaunch s.history
    have hown : ∀ j other report,
        FlagStep.screened i call (client.rejection launch) = .screened j other report →
          ∃ launch, other.launch? client = .ok launch ∧ report = client.rejection launch := by
      intro j other report hstep
      cases hstep
      exact ⟨launch, hlaunch, rfl⟩
    cases hreport : client.rejection launch with
    | none =>
      rw [hreport] at hscreened hown
      -- It is admitted: flag and history owe what they owed before.
      rw [begin_of_admitted hlaunch hreport]
      exact ⟨hlane, hkept, stages_update h.stages rfl ⟨hscreened, hreport⟩, h.honest.cons hown,
        h.explained.cons (fun _ _ _ hstep => by cases hstep),
        fun howed => asking_update (h.owed howed) hquiet _⟩
    | some e =>
      have hflag : (screen client launch (call.announce client s.world)).2.flagAt client.lane =
          some e := by
        rw [flagAt_screen hlane, hreport]
        rfl
      rw [hreport] at hscreened hown
      rw [begin_of_rejected hlaunch hreport]
      have hscreen := sameStreams_screen client launch (call.announce client s.world)
      refine ⟨hscreen.size ▸ hlane, hflag,
        stages_update h.stages rfl ⟨launch, hscreened⟩, h.honest.cons hown,
        h.explained.cons (fun _ _ _ hstep => by cases hstep), fun _ => ⟨i, call, ?_⟩⟩
      -- The report is its own, and it has yet to ask.
      exact congrArg Caller.stage (Function.update_self i _ s.callers)

theorem Consistent.push (h : s.Consistent client)
    (hadmitted : (s.callers i).stage = .admitted call launch) :
    (s.push client i call launch).Consistent client := by
  -- A job on the lane concerns neither the flag nor the history.
  have hsame := (World.sameClients_submit s.world client.lane launch).trans
    (World.sameClients_progress (s.world.submit client.lane launch))
  have hown := h.stages i
  rw [hadmitted] at hown
  refine ⟨hsame.size ▸ h.lane, ?_, ?_, h.honest, h.explained, ?_⟩
  · exact (hsame.flagAt client.lane).trans h.flag
  · intro j
    by_cases hj : j = i
    · subst hj
      simp only [Crowd.push, Function.update_self]
      exact ⟨launch, hown.1⟩
    · simp only [Crowd.push]
      rw [Function.update_of_ne hj]
      exact h.stages j
  · intro howed
    refine asking_update (h.owed howed) ?_ _
    intro other
    rw [hadmitted]
    exact Stage.noConfusion

theorem Consistent.ask (h : s.Consistent client)
    (hasking : (s.callers i).stage = .asking call) : (s.ask client i call).Consistent client := by
  -- The flag holds what the history owes, so that is the answer; afterwards nothing is owed.
  have hanswer : (takeError client s.world).1 = flagAnswer (pendingReport s.history) := by
    rw [takeError_eq, h.flag]
  have hown := h.stages i
  rw [hasking] at hown
  rcases hown with ⟨launch, hscreened⟩
  refine ⟨(sameStreams_takeError client s.world).size ▸ h.lane, flagAt_takeError client s.world,
    stages_update h.stages rfl trivial, h.honest.cons (fun _ _ _ hstep => by cases hstep),
    h.explained.cons ?_, fun howed => absurd rfl howed⟩
  intro j other answer hstep
  cases hstep
  rw [hanswer]
  exact hscreened.explained h.honest

theorem Consistent.step (h : s.Consistent client) (turn : Turn) :
    (s.step client turn).Consistent client := by
  cases turn with
  | worker lane => exact h.work lane
  | caller i =>
    cases hcaller : s.callers i with
    | mk todo stage =>
      have hstage : (s.callers i).stage = stage := congrArg Caller.stage hcaller
      cases stage with
      | idle =>
        cases todo with
        | nil => simpa [Crowd.step, hcaller] using h
        | cons call rest =>
          rw [step_of_beginning hcaller]
          exact h.begin hstage call rest
      | admitted call launch =>
        rw [step_of_admitted hcaller]
        exact h.push hstage
      | asking call =>
        rw [step_of_asking hcaller]
        exact h.ask hstage

theorem Consistent.run (h : s.Consistent client) (order : List Turn) :
    (s.run client order).Consistent client := by
  induction order generalizing s with
  | nil => exact h
  | cons turn rest ih => exact ih (h.step turn)

/-! ## Calls in any order -/

/-- However the steps of clones and workers come, beginning with an empty flag: every call that
answers for the flag is explained by the steps before it, there are no more errors than rejections,
and when all calls are over the flag is empty. -/
theorem interleaved_calls_answer_latest {w : World} (hlane : client.lane < w.lanes.size)
    (hflag : w.flagAt client.lane = none) (calls : Nat → List Call) (order : List Turn) :
    let s := (start w calls).run client order
    AllExplained client s.history ∧
      s.history.countP FlagStep.isFailure ≤ s.history.countP FlagStep.isRejection ∧
      ((∀ i, (s.callers i).stage = .idle) → s.world.flagAt client.lane = none) := by
  intro s
  have hconsistent : s.Consistent client := (consistent_start hlane hflag calls).run order
  refine ⟨hconsistent.explained, ?_, ?_⟩
  · exact Nat.le_trans (Nat.le_add_right _ _) hconsistent.explained.failures_le
  · intro hidle
    rw [hconsistent.flag]
    by_contra hpending
    rcases hconsistent.owed hpending with ⟨i, call, hasking⟩
    rw [hidle i] at hasking
    cases hasking

/-! ## An order in which an error changes hands -/

/-- A client of a device that runs one group at a time. -/
def narrowClient : Client := ⟨0, .ofLimits ⟨1024, 1⟩⟩

/-- The world in which that client has just been opened. -/
def narrowWorld : World := ((World.initial .prompt).openLane true narrowClient.device).2

/-- A call that needs two groups in a single pass. -/
def wideCall : Call := ⟨.blocked .singlePass 1, 512, 64, 4096⟩

/-- A call that needs one group. -/
def smallCall : Call := ⟨.scalar .f32, 4, 64, 4096⟩

/-- One clone makes the wide call, another the small one. -/
def twoCalls : Nat → List Call
  | 0 => [wideCall]
  | 1 => [smallCall]
  | _ => []

/-- The small call goes from beginning to end after the wide one has been screened. -/
def overtaking : List Turn := [.caller 0, .caller 1, .caller 1, .caller 1, .caller 0]

theorem interleaved_calls_answer_latest_overtaking :
    let s := (start narrowWorld twoCalls).run narrowClient overtaking
    narrowClient.lane < narrowWorld.lanes.size ∧ narrowWorld.flagAt narrowClient.lane = none ∧
      AllExplained narrowClient s.history ∧
      s.history.countP FlagStep.isFailure ≤ s.history.countP FlagStep.isRejection ∧
      ((∀ i, (s.callers i).stage = .idle) → s.world.flagAt narrowClient.lane = none) := by
  have hlane : narrowClient.lane < narrowWorld.lanes.size := Nat.one_pos
  have hflag : narrowWorld.flagAt narrowClient.lane = none := rfl
  exact ⟨hlane, hflag, interleaved_calls_answer_latest hlane hflag twoCalls overtaking⟩

/-- The call whose launch was admitted answers with the error of the other, whose launch was
rejected and which answers with success. -/
theorem overtaking_swaps_answers :
    narrowWorld.flagAt narrowClient.lane = none ∧
      (∃ launch, wideCall.launch? narrowClient = .ok launch ∧
        ¬ narrowClient.device.limits.Admits launch.geometry) ∧
      (∃ launch, smallCall.launch? narrowClient = .ok launch ∧
        narrowClient.device.limits.Admits launch.geometry) ∧
      ∃ e earlier, ((start narrowWorld twoCalls).run narrowClient overtaking).history =
        .answered 0 wideCall (.ok ()) :: .answered 1 smallCall (.error e) :: earlier := by
  refine ⟨rfl, ⟨_, rfl, by decide⟩, ⟨_, rfl, by decide⟩, _, _, rfl⟩

/-! ## A clone on its own -/

/-- A call whose steps nobody comes in between is the entry point carried out. -/
theorem run_alone (hcaller : s.callers i = ⟨call :: rest, .idle⟩) :
    ∃ turns,
      let result := (entryPoint client call.kernel call.count call.src call.dst).perform s.world
      let s' := s.run client (List.replicate turns (.caller i))
      s'.world = result.2 ∧ s'.callers = Function.update s.callers i ⟨rest, .idle⟩ ∧
        ∃ step earlier, s'.history = step :: earlier ∧ step.caller = i ∧
          step.result? = some result.1 := by
  have hbegin : s.step client (.caller i) = s.begin client i call rest := step_of_beginning hcaller
  cases hlaunch : call.launch? client with
  | error f =>
    have hrun : s.run client (List.replicate 1 (.caller i)) = s.begin client i call rest := hbegin
    refine ⟨1, ?_⟩
    rw [perform_entryPoint_of_fault hlaunch, hrun, begin_of_fault hlaunch]
    exact ⟨rfl, rfl, _, _, rfl, rfl, rfl⟩
  | ok launch =>
    rw [perform_entryPoint_of_launch hlaunch]
    cases hreport : client.rejection launch with
    | none =>
      -- Three turns: begin, put the job on the lane, ask.
      let begun := s.begin client i call rest
      have hfirst : begun = _ := begin_of_admitted hlaunch hreport
      have hadmitted : begun.callers i = ⟨rest, .admitted call launch⟩ := by
        rw [hfirst]
        exact Function.update_self i _ s.callers
      have hasking : (begun.push client i call launch).callers i = ⟨rest, .asking call⟩ := by
        simp [Crowd.push, hadmitted]
      have hsecond : begun.step client (.caller i) = begun.push client i call launch :=
        step_of_admitted hadmitted
      have hthird : (begun.push client i call launch).step client (.caller i) =
          (begun.push client i call launch).ask client i call := step_of_asking hasking
      have hrun : s.run client (List.replicate 3 (.caller i)) =
          (begun.push client i call launch).ask client i call := by
        calc
          s.run client (List.replicate 3 (.caller i))
              = ((s.step client (.caller i)).step client (.caller i)).step client (.caller i) := rfl
          _ = (begun.step client (.caller i)).step client (.caller i) := by rw [hbegin]
          _ = (begun.push client i call launch).step client (.caller i) := by rw [hsecond]
          _ = (begun.push client i call launch).ask client i call := hthird
      refine ⟨3, ?_⟩
      rw [hrun, hfirst, afterEnqueue_of_admitted hreport]
      refine ⟨rfl, ?_, _, _, rfl, rfl, ?_⟩
      · simp [Crowd.ask, Crowd.push]
      · simp [FlagStep.result?, Crowd.push, takeError_eq]
    | some e =>
      -- Two turns: the report is there, and only the query is left.
      let begun := s.begin client i call rest
      have hfirst : begun = _ := begin_of_rejected hlaunch hreport
      have hasking : begun.callers i = ⟨rest, .asking call⟩ := by
        rw [hfirst]
        exact Function.update_self i _ s.callers
      have hsecond : begun.step client (.caller i) = begun.ask client i call :=
        step_of_asking hasking
      have hrun : s.run client (List.replicate 2 (.caller i)) = begun.ask client i call := by
        calc
          s.run client (List.replicate 2 (.caller i))
              = (s.step client (.caller i)).step client (.caller i) := rfl
          _ = begun.step client (.caller i) := by rw [hbegin]
          _ = begun.ask client i call := hsecond
      have hafter := afterEnqueue_of_rejected hreport (call.announce client s.world)
      refine ⟨2, ?_⟩
      rw [hrun, hfirst, hafter]
      refine ⟨rfl, ?_, _, _, rfl, rfl, ?_⟩
      · simp [Crowd.ask]
      · simp [FlagStep.result?, takeError_eq]

end Crowd

end Emulated

end DeviceCopy
