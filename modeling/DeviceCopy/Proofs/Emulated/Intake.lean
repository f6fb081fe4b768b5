import DeviceCopy.Proofs.Emulated.EntryPoints
import DeviceCopy.Proofs.Emulated.Finishing
import DeviceCopy.Proofs.Launch.Intake

/-!
# Launches the emulated device takes in

What enqueueing a launch comes to on the emulated device is a matter of the launch and of the
client's limits (`Client.outcome`): the code of the kernel may insist on something the launch does
not have, the limits may reject its grid, and otherwise it is submitted. Nothing else in the world
has a say. That it has been submitted shows in what the lanes have to do (`TakesJob`). With that the
device keeps the promises of `Intake`, and an entry point does what is said there.
-/

set_option autoImplicit false

namespace DeviceCopy

namespace Emulated

variable {client : Client} {launch : Launch} {w w' : World}

/-! ## What a launch comes to -/

/-- What enqueueing a launch comes to. -/
def Client.outcome (client : Client) (launch : Launch) : Outcome Launch :=
  match launchFault launch with
  | some f => .refused (.fault f)
  | none =>
      match client.rejection launch with
      | some e => .recorded e
      | none => .submitted launch

theorem Client.outcome_eq_refused_iff {failure : Failure} :
    client.outcome launch = .refused failure ↔ ∃ f, launchFault launch = some f ∧ failure = .fault f := by
  unfold outcome
  cases launchFault launch with
  | some f => simp [eq_comm]
  | none => cases client.rejection launch <;> simp

theorem Client.outcome_eq_recorded_iff {e : Error} :
    client.outcome launch = .recorded e ↔
      launchFault launch = none ∧ client.rejection launch = some e := by
  unfold outcome
  cases launchFault launch with
  | some f => simp
  | none => cases client.rejection launch <;> simp

theorem Client.outcome_eq_submitted_iff {job : Launch} :
    client.outcome launch = .submitted job ↔
      launchFault launch = none ∧ client.rejection launch = none ∧ job = launch := by
  unfold outcome
  cases launchFault launch with
  | some f => simp
  | none => cases client.rejection launch <;> simp [eq_comm]

/-- From one world to the other the lane of a client has been given one job to do, after all that it
had left before, and no other lane has been given any. What of all this has been finished meanwhile
shows in memory and in the faults kept, and the rest is left on the lanes. The world before is taken to
be sound, as all are that a program can bring about (`World.Reachable.sound`). -/
structure TakesJob (client : Client) (job : Launch) (w w' : World) : Prop where
  sound : w.Sound → w'.Sound
  advances : w.Sound → ∃ finished, w.Advances
    (Function.update w.unfinished client.lane (w.unfinished client.lane ++ [job])) finished w'

theorem takesJob_submit (hlane : client.lane < w.lanes.size) (job : Launch) :
    TakesJob client job w (w.submit client.lane job).progress := by
  refine ⟨fun hsound => (hsound.submit client.lane job).progress, fun hsound => ?_⟩
  obtain ⟨spot, hspot⟩ := World.advances_submit hsound hlane job
  obtain ⟨later, hlater⟩ := (w.submit client.lane job).advances_progress
  exact ⟨spot ++ later, hspot.trans hlater⟩

section SameStreams

variable {job : Launch} {between : World}

/-- What leaves the streams alone before the job is put on the lane does not matter. -/
theorem TakesJob.after_sameStreams (h : TakesJob client job between w')
    (hsame : w.SameStreams between) : TakesJob client job w w' := by
  refine ⟨fun hsound => h.sound (hsame.sound hsound), fun hsound => ?_⟩
  obtain ⟨finished, hfinished⟩ := h.advances (hsame.sound hsound)
  have hunfinished : between.unfinished = w.unfinished := funext hsame.unfinished
  rw [hunfinished] at hfinished
  exact ⟨finished, hfinished.of_sameStreams hsame⟩

theorem TakesJob.then_sameStreams (h : TakesJob client job w between)
    (hsame : between.SameStreams w') : TakesJob client job w w' := by
  refine ⟨fun hsound => hsame.sound (h.sound hsound), fun hsound => ?_⟩
  obtain ⟨finished, hfinished⟩ := h.advances hsound
  exact ⟨finished ++ [], hfinished.trans hsame.advances⟩

end SameStreams

/-- The client has a lane, whose flag holds the given report. -/
def World.Shows (client : Client) (report : Option Error) (w : World) : Prop :=
  client.lane < w.lanes.size ∧ w.flagAt client.lane = report

variable {report : Option Error}

theorem World.Shows.of_sameClients (h : w.Shows client report) (hsame : w.SameClients w') :
    w'.Shows client report :=
  ⟨hsame.size ▸ h.1, (hsame.flagAt client.lane).trans h.2⟩

/-- A wait takes the fault of the lane and leaves the flag. -/
theorem World.Shows.synchronize (h : w.Shows client report) :
    ((synchronize client).perform w).2.Shows client report := by
  have hdrained : w.SameClients (w.progress.drain client.lane) :=
    (World.sameClients_progress w).trans (World.sameClients_workThrough _ client.lane _)
  have hkind : ((w.progress.drain client.lane).laneAt client.lane).stream.takeFault.2.hasWorker =
      ((w.progress.drain client.lane).laneAt client.lane).stream.hasWorker := rfl
  rw [perform_synchronize]
  exact (h.of_sameClients hdrained).of_sameClients
    (World.SameClients.putStream hkind (w.progress.drain client.lane).memory)

theorem outcome_recorded (h : w.Shows client report) {e : Error}
    (houtcome : client.outcome launch = .recorded e) :
    ∃ w', (enqueue client launch).perform w = (.ok (), w') ∧ w'.Shows client (some e) ∧
      w.SameStreams w' := by
  obtain ⟨hfault, hreport⟩ := Client.outcome_eq_recorded_iff.mp houtcome
  have hafter := afterEnqueue_of_rejected hreport w
  have hsame := sameStreams_screen client launch w
  have hflag : (screen client launch w).2.flagAt client.lane = some e := by
    rw [flagAt_screen h.1, hreport]
    rfl
  exact ⟨_, (perform_enqueue hfault w).trans (congrArg _ hafter), ⟨hsame.size ▸ h.1, hflag⟩, hsame⟩

theorem outcome_submitted (h : w.Shows client report) {job : Launch}
    (houtcome : client.outcome launch = .submitted job) :
    ∃ w', (enqueue client launch).perform w = (.ok (), w') ∧ w'.Shows client report ∧
      TakesJob client job w w' := by
  obtain ⟨hfault, hreport, rfl⟩ := Client.outcome_eq_submitted_iff.mp houtcome
  -- Neither the submission nor the workers look at flags.
  have hafter := afterEnqueue_of_admitted hreport w
  have hsame := (World.sameClients_submit w client.lane job).trans
    (World.sameClients_progress (w.submit client.lane job))
  exact ⟨_, (perform_enqueue hfault w).trans (congrArg _ hafter), h.of_sameClients hsame,
    takesJob_submit h.1 job⟩

theorem outcome_query (h : w.Shows client report) :
    ∃ w', (checkLastError client).perform w = (answerOf report, w') ∧ w'.Shows client none ∧
      w.SameStreams w' := by
  have hsame := sameStreams_takeError client w
  have hperform : (checkLastError client).perform w = (answerOf report, (takeError client w).2) := by
    have hanswer : (takeError client w).1 = flagAnswer report := by
      rw [takeError_eq, h.2]
    unfold checkLastError
    rw [Effect.perform_ofFun]
    refine Prod.ext ((congrArg (Except.mapError Failure.error) hanswer).trans ?_) rfl
    cases report <;> rfl
  exact ⟨_, hperform, ⟨hsame.size ▸ h.1, flagAt_takeError client w⟩, hsame⟩

/-- Calls lead from sound worlds to sound worlds. -/
theorem sound_call (client : Client) (call : CopyCall Device) :
    Effect.Keeps World.Sound (call.effect backend client) := by
  refine CopyCall.keeps_effect ?_ ?_ ?_ ?_ call
  · exact fun event w h => (World.sameStreams_tell event w).sound h
  · exact World.sound_enqueue client
  · exact World.sound_checkLastError client
  · exact World.sound_synchronize client

/-- How the emulated device takes in the launches of a client. It looks at nothing in the world. -/
def intake (client : Client) : Intake backend client Unit Launch where
  Poised _ := World.Shows client
  outcome _ := client.outcome
  Still := World.SameStreams
  Takes := TakesJob client
  still_refl := .refl
  still_trans h h' := h.trans h'
  still_tell := World.sameStreams_tell
  takes_told h := h.after_sameStreams (World.sameStreams_tell _ _)
  takes_still h h' := h.then_sameStreams h'
  tell _ _ h := h
  refused := by
    intro _ report launch failure w _ houtcome
    obtain ⟨f, hfault, rfl⟩ := Client.outcome_eq_refused_iff.mp houtcome
    change (enqueue client launch).perform w = _
    rw [enqueue, hfault]
    rfl
  recorded h houtcome := outcome_recorded h houtcome
  submitted h houtcome := outcome_submitted h houtcome
  query h := outcome_query h
  wait _ _ h := h.synchronize

end Emulated

end DeviceCopy
