import DeviceCopy.Proofs.Buffers.Requests

/-!
# What becomes of a launch

Enqueued, a launch is refused by the call itself, or rejected with a report in the flag of its
client, or submitted as a job. Which of them it is hangs on the launch, on the client, and on as
much of the world as the backend looks at, its *ground*; it does not hang on what the flag holds.

`Intake` is what a backend promises about this. From the promises alone it follows what an entry
point does on an empty flag (`Intake.queueAndCheck_onEmpty`), and that a client whose flag was empty
before any number of calls finds it empty after them (`Intake.poised_performAll`): whatever a call
leaves in the flag it takes out again before it ends.
-/

set_option autoImplicit false

namespace DeviceCopy

/-- What enqueueing a launch comes to. -/
inductive Outcome (Job : Type)
  /-- The call fails, and nothing has happened. -/
  | refused (failure : Failure)
  /-- The call succeeds, and the report on the launch is in the flag. -/
  | recorded (report : Error)
  /-- The call succeeds, and the job has been submitted. -/
  | submitted (job : Job)
  deriving DecidableEq, Repr

/-- What a caller gets to know who finds the flag empty and asks for errors right after: the
failure, or that the job has been submitted. -/
def Outcome.verdict {Job : Type} : Outcome Job → Except Failure Job
  | refused failure => .error failure
  | recorded report => .error (.error report)
  | submitted job => .ok job

/-! ## Entry points -/

/-- The entry points for copies between pointers. -/
inductive EntryPoint
  /-- The one that launches a given kernel. -/
  | launch (kernel : Kernel)
  /-- The one that is told the strategy. -/
  | withStrategy (strategy : Strategy) (dtype : DType)
  deriving DecidableEq, Repr

namespace EntryPoint

/-- The kernel an entry point launches, or why there is none. -/
def kernel : EntryPoint → Except Error Kernel
  | launch kernel => .ok kernel
  | withStrategy strategy dtype =>
      match strategy.kernel? dtype with
      | some kernel => .ok kernel
      | none => .error (.unsupportedDType dtype "register-blocked copy")

@[simp] theorem kernel_launch (kernel : Kernel) : (launch kernel).kernel = .ok kernel := rfl

section

variable {World Device Client : Type}

/-- What calling an entry point does. -/
def call (b : Backend World Device Client) (client : Client) (entry : EntryPoint)
    (count src dst : Nat) : Effect World Unit :=
  match entry with
  | launch (.scalar dtype) => Copy.scalar b client dtype count src dst
  | launch (.vector dtype) => Copy.vector b client dtype count src dst
  | launch (.blocked sweep factor) => Copy.blocked b client sweep factor count src dst
  | withStrategy strategy dtype => Copy.withStrategy b client strategy dtype count src dst

/-- An entry point queues the launch of its kernel and asks for errors, if it has a kernel. -/
theorem call_eq (b : Backend World Device Client) (client : Client) (entry : EntryPoint)
    (count src dst : Nat) :
    entry.call b client count src dst =
      match entry.kernel with
      | .ok kernel => Copy.queueAndCheck b client kernel count src dst
      | .error e => Effect.fail e := by
  cases entry with
  | launch kernel => cases kernel <;> rfl
  | withStrategy strategy dtype =>
    refine (Copy.withStrategy_eq b client strategy dtype count src dst).trans ?_
    simp only [kernel]
    cases strategy.kernel? dtype <;> rfl

end

end EntryPoint

/-- What calling an entry point comes to on a device that runs `maxGroups` groups, if the flag is
empty and launches come to what `outcome` says. -/
def EntryPoint.verdict {Job : Type} (maxGroups : Nat) (outcome : Launch → Outcome Job)
    (entry : EntryPoint) (count src dst : Nat) : Except Failure Job :=
  match entry.kernel with
  | .error e => .error (.error e)
  | .ok kernel =>
      match kernel.geometry maxGroups count with
      | .error f => .error (.fault f)
      | .ok geometry => (outcome { kernel, geometry, count, src, dst }).verdict

/-! ## Calls of a client -/

/-- A call that copies: an entry point, or a checked copy between buffers, with a strategy or the
one that is picked for them. -/
inductive CopyCall (Device : Type)
  | pointers (entry : EntryPoint) (count src dst : Nat)
  | buffers (strategy : Option Strategy) (src dst : Buffer Device) (count : Nat)

/-- What a call does, apart from the strategy it may answer with. -/
def CopyCall.effect {World Device Client : Type} (b : Backend World Device Client) (client : Client) :
    CopyCall Device → Effect World Unit
  | pointers entry count src dst => entry.call b client count src dst
  | buffers (some strategy) src dst count => Buffer.copyWith b client strategy src dst count
  | buffers none src dst count => discard (Buffer.copy b client src dst count)

/-- A call keeps what enqueueing a launch, asking for errors and waiting keep. -/
theorem CopyCall.keeps_effect {World Device Client : Type} {b : Backend World Device Client}
    {client : Client} {P : World → Prop} (htell : ∀ event w, P w → P (b.tell event w))
    (henqueue : ∀ launch, Effect.Keeps P (b.enqueue client launch))
    (hcheck : Effect.Keeps P (b.checkLastError client))
    (hwait : Effect.Keeps P (b.synchronize client)) (call : CopyCall Device) :
    Effect.Keeps P (call.effect b client) := by
  cases call with
  | pointers entry count src dst =>
    change Effect.Keeps P (entry.call b client count src dst)
    rw [EntryPoint.call_eq]
    cases entry.kernel with
    | ok kernel => exact Copy.keeps_queueAndCheck htell henqueue hcheck kernel count src dst
    | error e => exact .fail e
  | buffers strategy src dst count =>
    cases strategy with
    | some strategy => exact Buffer.keeps_copyWith htell henqueue hcheck hwait strategy src dst count
    | none =>
      exact .bind (Buffer.keeps_copy htell henqueue hcheck hwait src dst count) (fun _ => .pure ())

/-! ## The promises of a backend -/

/-- How a backend takes in the launches of one client. -/
structure Intake {World Device Client : Type} (b : Backend World Device Client) (client : Client)
    (Ground Job : Type) where
  /-- The client is there, the backend finds the given ground, and the flag holds the given report. -/
  Poised : Ground → Option Error → World → Prop
  outcome : Ground → Launch → Outcome Job
  /-- From one world to the other no job has been submitted. -/
  Still : World → World → Prop
  /-- From one world to the other one job has been submitted. -/
  Takes : Job → World → World → Prop
  still_refl : ∀ w, Still w w
  still_trans : ∀ {w w' w''}, Still w w' → Still w' w'' → Still w w''
  still_tell : ∀ event w, Still w (b.tell event w)
  takes_told : ∀ {event job w w'}, Takes job (b.tell event w) w' → Takes job w w'
  takes_still : ∀ {job w w' w''}, Takes job w w' → Still w' w'' → Takes job w w''
  tell : ∀ {ground report} event w, Poised ground report w → Poised ground report (b.tell event w)
  refused : ∀ {ground report launch failure w}, Poised ground report w →
    outcome ground launch = .refused failure →
    (b.enqueue client launch).perform w = (.error failure, w)
  recorded : ∀ {ground report launch e w}, Poised ground report w →
    outcome ground launch = .recorded e →
    ∃ w', (b.enqueue client launch).perform w = (.ok (), w') ∧ Poised ground (some e) w' ∧ Still w w'
  submitted : ∀ {ground report launch job w}, Poised ground report w →
    outcome ground launch = .submitted job →
    ∃ w', (b.enqueue client launch).perform w = (.ok (), w') ∧ Poised ground report w' ∧
      Takes job w w'
  query : ∀ {ground report w}, Poised ground report w →
    ∃ w', (b.checkLastError client).perform w = (answerOf report, w') ∧ Poised ground none w' ∧
      Still w w'
  wait : ∀ ground, Effect.Keeps (Poised ground none) (b.synchronize client)

namespace Intake

variable {World Device Client Ground Job : Type} {b : Backend World Device Client} {client : Client}
  {ground : Ground} {w : World} {kernel : Kernel} {count src dst : Nat}

/-- A call has come to its verdict: it failed without submitting anything, or it succeeded and
submitted its job. -/
def Answered (intake : Intake b client Ground Job) (verdict : Except Failure Job) (w : World)
    (result : Except Failure Unit × World) : Prop :=
  match verdict with
  | .error failure => result.1 = .error failure ∧ intake.Still w result.2
  | .ok job => result.1 = .ok () ∧ intake.Takes job w result.2

theorem Answered.failed {intake : Intake b client Ground Job} {verdict : Except Failure Job}
    {result : Except Failure Unit × World} (h : intake.Answered verdict w result) {failure : Failure}
    (hverdict : verdict = .error failure) : result.1 = .error failure ∧ intake.Still w result.2 := by
  subst hverdict
  exact h

theorem Answered.succeeded {intake : Intake b client Ground Job} {verdict : Except Failure Job}
    {result : Except Failure Unit × World} (h : intake.Answered verdict w result) {job : Job}
    (hverdict : verdict = .ok job) : result.1 = .ok () ∧ intake.Takes job w result.2 := by
  subst hverdict
  exact h

/-- The verdict on an entry point, given the ground. -/
def verdict (intake : Intake b client Ground Job) (ground : Ground) (entry : EntryPoint)
    (count src dst : Nat) : Except Failure Job :=
  entry.verdict (b.clientLimits client).maxGroups (intake.outcome ground) count src dst

/-- Enqueueing a launch and asking for errors brings an empty flag back to empty. -/
theorem enqueueAndQuery_onEmpty (intake : Intake b client Ground Job)
    (h : intake.Poised ground none w) (launch : Launch) :
    let result := (b.enqueue client launch >>= fun _ => b.checkLastError client).perform w
    intake.Poised ground none result.2 ∧
      intake.Answered (intake.outcome ground launch).verdict w result := by
  intro result
  cases houtcome : intake.outcome ground launch with
  | refused failure =>
    -- The call ends before the query, but it has not touched the flag either.
    have hresult : result = (.error failure, w) :=
      Effect.perform_bind_error (intake.refused h houtcome)
    rw [hresult]
    exact ⟨h, rfl, intake.still_refl w⟩
  | recorded e =>
    -- The report goes into the flag, and the query takes it out again.
    obtain ⟨between, hperform, hreport, hstill⟩ := intake.recorded h houtcome
    obtain ⟨last, hanswer, hempty, hstill'⟩ := intake.query hreport
    have hresult : result = (.error (.error e), last) :=
      (Effect.perform_bind_ok hperform).trans hanswer
    rw [hresult]
    exact ⟨hempty, rfl, intake.still_trans hstill hstill'⟩
  | submitted job =>
    -- The flag is as empty as it was, so the query has nothing to hand over.
    obtain ⟨between, hperform, hnone, htakes⟩ := intake.submitted h houtcome
    obtain ⟨last, hanswer, hempty, hstill⟩ := intake.query hnone
    have hresult : result = (.ok (), last) := (Effect.perform_bind_ok hperform).trans hanswer
    rw [hresult]
    exact ⟨hempty, rfl, intake.takes_still htakes hstill⟩

/-- What happens after an event is told is what happens from before it. -/
theorem Answered.of_told {intake : Intake b client Ground Job} {verdict : Except Failure Job}
    {event : Event} {result : Except Failure Unit × World}
    (h : intake.Answered verdict (b.tell event w) result) : intake.Answered verdict w result := by
  cases verdict with
  | error failure => exact ⟨h.1, intake.still_trans (intake.still_tell event w) h.2⟩
  | ok job => exact ⟨h.1, intake.takes_told h.2⟩

/-- On an empty flag an entry point comes to the verdict on its launch and leaves the flag empty. -/
theorem queueAndCheck_onEmpty (intake : Intake b client Ground Job)
    (h : intake.Poised ground none w) (kernel : Kernel) (count src dst : Nat) :
    let result := (Copy.queueAndCheck b client kernel count src dst).perform w
    intake.Poised ground none result.2 ∧
      intake.Answered (intake.verdict ground (.launch kernel) count src dst) w result := by
  intro result
  cases hgeometry : kernel.geometry (b.clientLimits client).maxGroups count with
  | error f =>
    -- Without a grid the call ends before anything else.
    have hverdict : intake.verdict ground (.launch kernel) count src dst = .error (.fault f) := by
      simp only [verdict, EntryPoint.verdict, EntryPoint.kernel_launch, hgeometry]
    have hresult : result = (.error (.fault f), w) := by
      simp only [result, Copy.queueAndCheck, hgeometry]
      exact Effect.perform_bind_error (Effect.perform_giveUp f w)
    rw [hverdict, hresult]
    exact ⟨h, rfl, intake.still_refl w⟩
  | ok g =>
    let launch : Launch := { kernel, geometry := g, count, src, dst }
    let event := Event.enqueueCopy b.name kernel count g
    have hverdict : intake.verdict ground (.launch kernel) count src dst =
        (intake.outcome ground launch).verdict := by
      simp only [verdict, EntryPoint.verdict, EntryPoint.kernel_launch, hgeometry, launch]
    have hresult : result =
        (b.enqueue client launch >>= fun _ => b.checkLastError client).perform (b.tell event w) := by
      simp only [result, Copy.queueAndCheck, hgeometry]
      exact (Effect.perform_bind_ok (Effect.perform_pure g w)).trans
        (Effect.perform_bind_ok (Effect.perform_update _ w))
    obtain ⟨hempty, hanswered⟩ :=
      intake.enqueueAndQuery_onEmpty (intake.tell event w h) launch
    rw [hverdict, hresult]
    exact ⟨hempty, hanswered.of_told⟩

/-- The same of every entry point, those without a kernel included. -/
theorem call_onEmpty (intake : Intake b client Ground Job) (h : intake.Poised ground none w)
    (entry : EntryPoint) (count src dst : Nat) :
    let result := (entry.call b client count src dst).perform w
    intake.Poised ground none result.2 ∧
      intake.Answered (intake.verdict ground entry count src dst) w result := by
  intro result
  have hresult : result = _ :=
    congrArg (fun e => e.perform w) (entry.call_eq b client count src dst)
  cases hkernel : entry.kernel with
  | error e =>
    -- Without a kernel the call ends at once.
    have hverdict : intake.verdict ground entry count src dst = .error (.error e) := by
      simp only [verdict, EntryPoint.verdict, hkernel]
    rw [hkernel] at hresult
    rw [hverdict, hresult]
    exact ⟨h, rfl, intake.still_refl w⟩
  | ok kernel =>
    have hverdict : intake.verdict ground entry count src dst =
        intake.verdict ground (.launch kernel) count src dst := by
      simp only [verdict, EntryPoint.verdict, hkernel, EntryPoint.kernel_launch]
    rw [hkernel] at hresult
    rw [hverdict, hresult]
    exact intake.queueAndCheck_onEmpty h kernel count src dst

/-! ## Calls in a row -/

/-- Every call of a client leaves its flag empty if it was empty. -/
theorem keeps_effect (intake : Intake b client Ground Job) (ground : Ground)
    (call : CopyCall Device) :
    Effect.Keeps (intake.Poised ground none) (call.effect b client) := by
  -- Steps in the middle of a call may well fill the flag; only whole entry points keep it empty.
  have hentry : ∀ kernel count src dst,
      Effect.Keeps (intake.Poised ground none) (Copy.queueAndCheck b client kernel count src dst) :=
    fun kernel count src dst w h => (intake.queueAndCheck_onEmpty h kernel count src dst).1
  have hwith : ∀ strategy src dst count,
      Effect.Keeps (intake.Poised ground none) (Buffer.copyWith b client strategy src dst count) :=
    Buffer.keeps_copyWith_of_entryPoints hentry (intake.wait ground)
  cases call with
  | pointers entry count src dst => exact fun w h => (intake.call_onEmpty h entry count src dst).1
  | buffers strategy src dst count =>
    cases strategy with
    | some strategy => exact hwith strategy src dst count
    | none =>
      refine .bind ?_ (fun _ => .pure _)
      exact .bind (hwith _ src dst count) (fun _ => .pure _)

/-- So do any number of them, however each of them ends. -/
theorem poised_performAll (intake : Intake b client Ground Job) (calls : List (CopyCall Device))
    (h : intake.Poised ground none w) :
    intake.Poised ground none (Effect.performAll (CopyCall.effect b client) calls w).2 :=
  Effect.keeps_performAll (intake.keeps_effect ground) calls h

end Intake

end DeviceCopy
