import DeviceCopy.Proofs.Buffers.Requests
import DeviceCopy.Proofs.Emulated.EntryPoints

/-!
# What a checked copy leaves on the lane

A checked copy is meant to return with the lane drained, and where it answers with success it does:
the wait is its last step. But the query for launch errors comes before the wait, and the flag it
asks is shared. A report that an earlier raw launch, or another clone, left there ends the call
between the two, with its own job on the lane.

`checkedCopy_leaves_work_iff` says exactly when that happens.
-/

set_option autoImplicit false

namespace DeviceCopy

namespace Emulated

variable {client : Client} {strategy : Strategy} {src dst : Buffer Device} {count : Nat}
  {kernel : Kernel} {w : World}

/-! ## The job of a checked copy -/

/-- The launch of a kernel between two buffers. -/
def bufferLaunch (client : Client) (kernel : Kernel) (src dst : Buffer Device) (count : Nat) :
    Launch :=
  kernel.launch client.device.limits.maxGroups count src.pointer dst.pointer

/-- The launch that a checked copy puts on the lane of its client: none if the request does not pass
the checks, if the strategy has no kernel for the element type, or if the limits reject the grid. -/
def copyLaunch? (client : Client) (strategy : Strategy) (src dst : Buffer Device) (count : Nat) :
    Option Launch :=
  match Buffer.copyProblem backend client strategy src dst count, strategy.kernel? src.dtype with
  | none, some kernel =>
      let launch := bufferLaunch client kernel src dst count
      if client.device.limits.Admits launch.geometry then some launch else none
  | _, _ => none

/-- A request without a problem has aligned buffers for the kernels that need them. -/
theorem launchFault_bufferLaunch (h : Buffer.Copyable backend client strategy src dst count)
    (hkernel : strategy.kernel? src.dtype = some kernel) :
    launchFault (bufferLaunch client kernel src dst count) = none := by
  refine launchFault_eq_none (Strategy.launchable_of_kernel? hkernel) ?_
  intro hwide
  exact h.aligned (Strategy.ne_scalar_of_isWide hkernel hwide)

theorem admits_of_copyLaunch? {launch : Launch}
    (h : copyLaunch? client strategy src dst count = some launch) :
    client.device.limits.Admits launch.geometry := by
  unfold copyLaunch? at h
  split at h
  · simp only [Option.ite_none_right_eq_some, Option.some.injEq] at h
    rcases h with ⟨hadmits, rfl⟩
    exact hadmits
  · cases h

/-! ## How a checked copy goes -/

/-- The world when a checked copy has asked for the last launch error. -/
def afterQuery (client : Client) (launch : Launch) (w : World) : World :=
  (takeError client
    (afterEnqueue client launch (w.tell (copyEvent launch.kernel launch.count launch.geometry)))).2

theorem perform_withStrategy (h : Buffer.Copyable backend client strategy src dst count)
    (hkernel : strategy.kernel? src.dtype = some kernel) {report : Option Error}
    (hflag : (afterEnqueue client (bufferLaunch client kernel src dst count)
      (w.tell (copyEvent kernel count (bufferLaunch client kernel src dst count).geometry))).flagAt
        client.lane = report) :
    (Copy.withStrategy backend client strategy src.dtype count src.pointer dst.pointer).perform w =
      ((flagAnswer report).mapError .error,
        afterQuery client (bufferLaunch client kernel src dst count) w) := by
  have hgeometry : kernel.geometry client.device.limits.maxGroups count = .ok _ :=
    Kernel.geometry_eq_ok (Strategy.launchable_of_kernel? hkernel)
  rw [Copy.withStrategy_eq, hkernel, ← hflag]
  exact perform_queueAndCheck hgeometry (launchFault_bufferLaunch h hkernel) w

/-- A request with a problem is answered with it, and nothing else happens. -/
theorem copyWith_of_problem {e : Error}
    (hproblem : Buffer.copyProblem backend client strategy src dst count = some e) (w : World) :
    (Buffer.copyWith backend client strategy src dst count).perform w = (.error (.error e), w) := by
  unfold Buffer.copyWith
  rw [hproblem]
  rfl

/-- A strategy without a kernel for the element type is refused, and nothing else happens. -/
theorem copyWith_of_unsupported
    (hproblem : Buffer.copyProblem backend client strategy src dst count = none)
    (hkernel : strategy.kernel? src.dtype = none) (w : World) :
    (Buffer.copyWith backend client strategy src dst count).perform w =
      (.error (.error (.unsupportedDType src.dtype "register-blocked copy")), w) := by
  have hfail : (Copy.withStrategy backend client strategy src.dtype count src.pointer
      dst.pointer).perform w =
        (.error (.error (.unsupportedDType src.dtype "register-blocked copy")), w) := by
    rw [Copy.withStrategy_eq, hkernel]
    rfl
  unfold Buffer.copyWith
  rw [hproblem]
  exact Effect.perform_bind_error hfail

/-- A copy whose grid the limits reject finds its own report in the flag and answers with it. No lane
has been touched. -/
theorem copyWith_of_rejected (hlane : client.lane < w.lanes.size)
    (hproblem : Buffer.copyProblem backend client strategy src dst count = none)
    (hkernel : strategy.kernel? src.dtype = some kernel) {e : Error}
    (hreport : client.rejection (bufferLaunch client kernel src dst count) = some e) :
    (Buffer.copyWith backend client strategy src dst count).perform w =
        (.error (.error e), afterQuery client (bufferLaunch client kernel src dst count) w) ∧
      w.SameStreams (afterQuery client (bufferLaunch client kernel src dst count) w) := by
  let launch := bufferLaunch client kernel src dst count
  let told := w.tell (copyEvent kernel count launch.geometry)
  have htold : w.SameStreams told := World.sameStreams_tell _ w
  have hafter : afterEnqueue client launch told = (screen client launch told).2 := by
    unfold afterEnqueue
    rw [hreport]
  have hflag : (afterEnqueue client launch told).flagAt client.lane = some e := by
    have hscreen : (screen client launch told).2.flagAt client.lane =
        (client.rejection launch <|> told.flagAt client.lane) :=
      flagAt_screen (htold.size ▸ hlane) launch
    rw [hafter, hscreen, hreport]
    rfl
  have hperform : (Copy.withStrategy backend client strategy src.dtype count src.pointer
      dst.pointer).perform w = (.error (.error e), afterQuery client launch w) :=
    perform_withStrategy (Buffer.copyProblem_eq_none_iff.mp hproblem) hkernel hflag
  have hscreened : told.SameStreams (afterEnqueue client launch told) := by
    rw [hafter]
    exact sameStreams_screen client launch told
  refine ⟨?_, htold.trans (hscreened.trans (sameStreams_takeError client _))⟩
  unfold Buffer.copyWith
  rw [hproblem]
  exact Effect.perform_bind_error hperform

/-- A checked copy that puts no job on the lane does not touch any lane, and answers with an
error. -/
theorem copyWith_of_no_launch (hlane : client.lane < w.lanes.size)
    (h : copyLaunch? client strategy src dst count = none) :
    w.SameStreams ((Buffer.copyWith backend client strategy src dst count).perform w).2 ∧
      ∃ e, ((Buffer.copyWith backend client strategy src dst count).perform w).1 =
        .error (.error e) := by
  unfold copyLaunch? at h
  cases hproblem : Buffer.copyProblem backend client strategy src dst count with
  | some e =>
    rw [copyWith_of_problem hproblem]
    exact ⟨.refl w, e, rfl⟩
  | none =>
    rw [hproblem] at h
    cases hkernel : strategy.kernel? src.dtype with
    | none =>
      rw [copyWith_of_unsupported hproblem hkernel]
      exact ⟨.refl w, _, rfl⟩
    | some kernel =>
      -- There is a kernel, so what kept the launch off the lane are the limits.
      have hrejected : ¬ client.device.limits.Admits
          (bufferLaunch client kernel src dst count).geometry := by
        simpa [hkernel] using h
      obtain ⟨e, hreport⟩ : ∃ e, client.rejection (bufferLaunch client kernel src dst count) =
          some e := Option.ne_none_iff_exists'.mp (mt Client.rejection_eq_none_iff.mp hrejected)
      obtain ⟨hperform, hsame⟩ := copyWith_of_rejected (w := w) hlane hproblem hkernel hreport
      rw [hperform]
      exact ⟨hsame, e, rfl⟩

/-- A checked copy that puts a job on the lane waits for it only if the flag was empty. -/
theorem copyWith_of_launch {launch : Launch}
    (h : copyLaunch? client strategy src dst count = some launch) :
    (Buffer.copyWith backend client strategy src dst count).perform w =
      match w.flagAt client.lane with
      | none => (synchronize client).perform (afterQuery client launch w)
      | some e => (.error (.error e), afterQuery client launch w) := by
  unfold copyLaunch? at h
  unfold Buffer.copyWith
  cases hproblem : Buffer.copyProblem backend client strategy src dst count with
  | some e =>
    rw [hproblem] at h
    cases h
  | none =>
    rw [hproblem] at h
    cases hkernel : strategy.kernel? src.dtype with
    | none =>
      rw [hkernel] at h
      cases h
    | some kernel =>
      have hcopyable := Buffer.copyProblem_eq_none_iff.mp hproblem
      have hboth : client.device.limits.Admits (bufferLaunch client kernel src dst count).geometry ∧
          bufferLaunch client kernel src dst count = launch := by simpa [hkernel] using h
      rcases hboth with ⟨hadmits, rfl⟩
      have hreport : client.rejection (bufferLaunch client kernel src dst count) = none :=
        Client.rejection_eq_none_iff.mpr hadmits
      -- The launch is admitted, so the query finds what the flag held at the call.
      have hflag := flagAt_afterEnqueue_of_admitted hreport
        (w.tell (copyEvent kernel count (bufferLaunch client kernel src dst count).geometry))
        client.lane
      have hperform : (Copy.withStrategy backend client strategy src.dtype count src.pointer
          dst.pointer).perform w = ((flagAnswer (w.flagAt client.lane)).mapError .error,
            afterQuery client (bufferLaunch client kernel src dst count) w) :=
        perform_withStrategy hcopyable hkernel hflag
      simp only
      cases hanswer : w.flagAt client.lane with
      | none =>
        rw [hanswer] at hperform
        have hwait : backend.synchronize client = synchronize client := rfl
        rw [Effect.perform_bind_ok hperform, hwait]
      | some e =>
        rw [hanswer] at hperform
        rw [Effect.perform_bind_error hperform]

/-- A checked copy that picks its strategy does what the copy with that strategy does, up to the
answer. -/
theorem perform_copy (client : Client) (src dst : Buffer Device) (count : Nat) (w : World) :
    (Buffer.copy backend client src dst count).perform w =
      ((((Buffer.copyWith backend client (Buffer.autoStrategy backend src dst count) src dst
          count).perform w).1.map (fun _ => Buffer.autoStrategy backend src dst count)),
        ((Buffer.copyWith backend client (Buffer.autoStrategy backend src dst count) src dst
          count).perform w).2) := by
  unfold Buffer.copy
  rw [Effect.perform_bind]
  cases (Buffer.copyWith backend client (Buffer.autoStrategy backend src dst count) src dst
      count).perform w with
  | mk answer after =>
    cases answer with
    | ok done => rfl
    | error failure => rfl

/-! ## What is left of its work -/

/-- The worker of a lane would not get as far as a job put there now. -/
def World.FallsShort (w : World) (lane : Nat) : Prop :=
  (w.laneAt lane).stream.hasWorker = true ∧
    w.environment.schedule w.moment lane (w.backlog lane + 1) ≤ w.backlog lane

instance (w : World) (lane : Nat) : Decidable (w.FallsShort lane) :=
  inferInstanceAs (Decidable (_ ∧ _))

/-- After the query the job is still there, behind what is left of the jobs before it, if the worker
has not got that far. -/
theorem unfinished_afterQuery (hsound : w.Sound) (hlane : client.lane < w.lanes.size)
    {launch : Launch} (hreport : client.rejection launch = none) :
    ∃ finished, (afterQuery client launch w).unfinished client.lane =
        (w.unfinished client.lane ++ [launch]).drop finished ∧
      (finished ≤ w.backlog client.lane ↔ w.FallsShort client.lane) := by
  let told := w.tell (copyEvent launch.kernel launch.count launch.geometry)
  have htold : w.SameStreams told := World.sameStreams_tell _ w
  have hafter : (afterQuery client launch w).unfinished client.lane =
      (told.submit client.lane launch).progress.unfinished client.lane := by
    rw [afterQuery, afterEnqueue_of_admitted hreport]
    exact (sameStreams_takeError client _).unfinished client.lane
  have hjobs : (told.submit client.lane launch).unfinished client.lane =
      if (w.laneAt client.lane).stream.hasWorker then w.unfinished client.lane ++ [launch] else [] :=
    World.unfinished_submit (htold.sound hsound) (htold.size ▸ hlane) launch
  have hmoment : (told.submit client.lane launch).moment = w.moment :=
    World.moment_submit told client.lane launch
  have hsystem : (told.submit client.lane launch).environment = w.environment :=
    (World.sameClients_submit told client.lane launch).environment
  rw [hafter, World.unfinished_progress, World.quota, hmoment, hsystem, World.backlog_eq_length,
    hjobs, World.backlog_eq_length]
  unfold World.FallsShort
  cases hworker : (w.laneAt client.lane).stream.hasWorker with
  | true =>
    refine ⟨_, rfl, ?_⟩
    rw [World.backlog_eq_length]
    simp only [if_true, List.length_append, List.length_singleton, true_and]
    omega
  | false =>
    -- Without a worker the job has been run, and there was none before it.
    refine ⟨(w.unfinished client.lane ++ [launch]).length, ?_, ?_⟩
    · simp
    · simp

/-- What a call did to the lane of its client with the launch it put there, if it put one: the lane
holds its old jobs and the new one less those finished; the new one is among the rest exactly if the
call met a report that was not its own and the worker was not fast enough; and then that report is
the answer. -/
structure Leaves {α : Type} (client : Client) (launch? : Option Launch) (w : World)
    (result : Except Failure α × World) : Prop where
  queue : ∃ finished, result.2.unfinished client.lane =
    (w.unfinished client.lane ++ launch?.toList).drop finished
  inFlight : launch?.isSome = true ∧ result.2.unfinished client.lane ≠ [] ↔
    launch?.isSome = true ∧ w.flagAt client.lane ≠ none ∧ w.FallsShort client.lane
  answer : launch?.isSome = true → ∀ e, w.flagAt client.lane = some e →
    result.1 = .error (.error e)

theorem leaves_copyWith (hsound : w.Sound) (hlane : client.lane < w.lanes.size)
    (strategy : Strategy) (src dst : Buffer Device) (count : Nat) :
    Leaves client (copyLaunch? client strategy src dst count) w
      ((Buffer.copyWith backend client strategy src dst count).perform w) := by
  cases hlaunch : copyLaunch? client strategy src dst count with
  | none =>
    -- Without a launch no lane is touched.
    have hsame := (copyWith_of_no_launch hlane hlaunch).1
    refine ⟨⟨0, ?_⟩, ?_, ?_⟩
    · rw [hsame.unfinished]
      simp
    · simp
    · simp
  | some launch =>
    have hreport : client.rejection launch = none :=
      Client.rejection_eq_none_iff.mpr (admits_of_copyLaunch? hlaunch)
    rw [copyWith_of_launch hlaunch]
    cases hflag : w.flagAt client.lane with
    | none =>
      -- With an empty flag the call gets to its wait.
      have hdrained := unfinished_synchronize client (afterQuery client launch w)
      refine ⟨⟨(w.unfinished client.lane ++ [launch]).length, ?_⟩, ?_, ?_⟩
      · rw [hdrained]
        simp
      · simp [hdrained, hflag]
      · simp [hflag]
    | some e =>
      -- A report in the flag ends the call at the query.
      rcases unfinished_afterQuery hsound hlane hreport with ⟨finished, hunfinished, hshort⟩
      refine ⟨⟨finished, hunfinished⟩, ?_, ?_⟩
      · have hleft : (afterQuery client launch w).unfinished client.lane ≠ [] ↔
            finished ≤ w.backlog client.lane := by
          rw [hunfinished, World.backlog_eq_length, ne_eq, List.drop_eq_nil_iff,
            List.length_append, List.length_singleton, Nat.not_le, Nat.lt_succ_iff]
        simp [hleft, hshort, hflag]
      · intro _ other hother
        rw [← Option.some.inj (hflag.symm.trans hother)]

/-- Whatever a program has done before, a checked copy returns with its own job on the lane exactly
if it put one there, the flag held a report when it was called, and the worker does not get as far as
its job. It then answers with that report. In every other case all its work is finished. -/
theorem checkedCopy_leaves_work_iff (hreachable : World.Reachable w)
    (hlane : client.lane < w.lanes.size) (src dst : Buffer Device) (count : Nat) :
    (∀ strategy, Leaves client (copyLaunch? client strategy src dst count) w
      ((Buffer.copyWith backend client strategy src dst count).perform w)) ∧
    Leaves client (copyLaunch? client (Buffer.autoStrategy backend src dst count) src dst count) w
      ((Buffer.copy backend client src dst count).perform w) := by
  have hwith := fun strategy => leaves_copyWith hreachable.sound hlane strategy src dst count
  refine ⟨hwith, ?_⟩
  have hauto := hwith (Buffer.autoStrategy backend src dst count)
  rw [perform_copy]
  refine ⟨hauto.queue, hauto.inFlight, ?_⟩
  intro hlaunch e he
  exact congrArg (Except.map fun _ => Buffer.autoStrategy backend src dst count)
    (hauto.answer hlaunch e he)

/-! ## A copy that returns too early -/

/-- A system on which no worker acts unless the host waits for it. -/
def Environment.unhurried : Environment := { Environment.prompt with schedule := fun _ _ _ => 0 }

/-- A client, two allocations of four floats, and a raw launch on an empty grid, whose rejection
nobody has asked for. -/
def afterRawLaunch : World :=
  let w := ((World.initial .unhurried).openLane true .standard).2
  let w := ((allocate 16).perform w).2
  let w := ((allocate 16).perform w).2
  ((enqueue ⟨0, .standard⟩ ⟨.scalar .f32, ⟨0, 64, 0⟩, 4, 64, 128⟩).perform w).2

theorem reachable_afterRawLaunch : World.Reachable afterRawLaunch := by
  have hopened := World.Reachable.next (.initial .unhurried) (.openLane true .standard _)
  have hfirst := hopened.next (.allocate 16 _)
  have hsecond := hfirst.next (.allocate 16 _)
  exact hsecond.next (.enqueue ⟨0, .standard⟩ ⟨.scalar .f32, ⟨0, 64, 0⟩, 4, 64, 128⟩ _)

/-- The four floats of each allocation. -/
def firstFloats : Buffer Device := ⟨64, 4, .f32, .standard⟩

def secondFloats : Buffer Device := ⟨128, 4, .f32, .standard⟩

theorem checkedCopy_leaves_work_iff_afterRawLaunch :
    World.Reachable afterRawLaunch ∧ 0 < afterRawLaunch.lanes.size ∧
      Leaves ⟨0, .standard⟩
        (copyLaunch? ⟨0, .standard⟩ (Buffer.autoStrategy backend firstFloats secondFloats 4)
          firstFloats secondFloats 4)
        afterRawLaunch
        ((Buffer.copy backend ⟨0, .standard⟩ firstFloats secondFloats 4).perform afterRawLaunch) := by
  have hlane : 0 < afterRawLaunch.lanes.size := by decide
  exact ⟨reachable_afterRawLaunch, hlane,
    (checkedCopy_leaves_work_iff reachable_afterRawLaunch hlane firstFloats secondFloats 4).2⟩

/-- The copy answers with the report on the raw launch while its own job is still on the lane. -/
theorem copyWith_returns_in_flight :
    World.Reachable afterRawLaunch ∧
      (copyLaunch? ⟨0, .standard⟩ .scalar firstFloats secondFloats 4).isSome = true ∧
      (∃ e, ((Buffer.copyWith backend ⟨0, .standard⟩ .scalar firstFloats secondFloats 4).perform
        afterRawLaunch).1 = .error (.error e)) ∧
      ((Buffer.copyWith backend ⟨0, .standard⟩ .scalar firstFloats secondFloats 4).perform
        afterRawLaunch).2.unfinished 0 ≠ [] := by
  let client : Client := ⟨0, .standard⟩
  have hlane : client.lane < afterRawLaunch.lanes.size := by decide
  have hlaunch : (copyLaunch? client .scalar firstFloats secondFloats 4).isSome = true := by decide
  have hflag : ∃ e, afterRawLaunch.flagAt client.lane = some e := ⟨_, rfl⟩
  have hshort : afterRawLaunch.FallsShort client.lane := by decide
  have hleaves :=
    leaves_copyWith reachable_afterRawLaunch.sound hlane .scalar firstFloats secondFloats 4
  rcases hflag with ⟨e, he⟩
  have hpending : afterRawLaunch.flagAt client.lane ≠ none := by
    rw [he]
    exact Option.some_ne_none e
  exact ⟨reachable_afterRawLaunch, hlaunch, ⟨e, hleaves.answer hlaunch e he⟩,
    (hleaves.inFlight.mpr ⟨hlaunch, hpending, hshort⟩).2⟩

end Emulated

end DeviceCopy
