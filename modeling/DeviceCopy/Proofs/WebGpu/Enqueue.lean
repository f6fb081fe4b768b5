import DeviceCopy.Proofs.Launch.Intake
import DeviceCopy.Proofs.WebGpu.Requests

/-!
# What becomes of a launch on a WebGPU device

Five things can keep a launch from being submitted, and they are looked at in a fixed order: a
kernel without slots, more units than shaders can index, a grid outside the limits, a source and a
destination that are not registered. `Client.outcome` is the first that applies.

All of them but the grid end the call with an error and leave the world as it was. The grid leaves a
report in the flag of the client, in place of whatever was there, and nothing else. Only a launch
that passes them all is submitted, and only then is a pipeline built: `enqueue_outcome`.
-/

set_option autoImplicit false

namespace DeviceCopy

namespace WebGpu

/-! ## The first thing that keeps a launch from being submitted -/

/-- A buffer is registered under the handle. The null handle names none. -/
def Registry.Registered (r : Registry) (handle : Nat) : Prop :=
  handle ≠ 0 ∧ handle ∈ r.buffers.map Prod.fst

instance (r : Registry) (handle : Nat) : Decidable (r.Registered handle) :=
  inferInstanceAs (Decidable (_ ∧ _))

theorem Registry.isSome_find?_iff {r : Registry} {handle : Nat} :
    (r.find? handle).isSome = true ↔ r.Registered handle := by
  unfold find? Registered
  by_cases hnull : handle = 0
  · simp [hnull]
  · rw [if_neg hnull, List.lookup_isSome_iff, List.mem_map]
    constructor
    · rintro ⟨entry, hentry, hkey⟩
      exact ⟨hnull, entry, hentry, (beq_iff_eq.mp hkey).symm⟩
    · rintro ⟨-, entry, hentry, rfl⟩
      exact ⟨entry, hentry, beq_self_eq_true entry.1⟩

/-- 32-bit units in one element as far as the shader of a kernel is concerned. -/
def shaderUnits : Kernel → Nat
  | .scalar dtype | .vector dtype => dtype.size / 4
  | .blocked .. => 1

theorem kernelUnits_eq_shaderUnits (kernel : Kernel) : kernelUnits kernel = shaderUnits kernel := by
  cases kernel with
  | scalar dtype => rfl
  | vector dtype => rfl
  | blocked sweep factor => exact (by decide : DType.f32.units = 1)

/-- What enqueueing a launch comes to while the given buffers are registered: the first of these
that applies. -/
def Client.outcome (client : Client) (registry : Registry) (launch : Launch) : Outcome Submission :=
  if ¬ launch.kernel.HasSlots then
    .refused (.error
      (.backendLimitation "wgpu" "register-blocked copy" "blocking factor must be positive"))
  else if 2 ^ 32 - 1 < launch.count * shaderUnits launch.kernel then
    .refused (.error (.backendLimitation "wgpu" (operationName launch.kernel)
      s!"{launch.count} elements exceed 32-bit shader indexing"))
  else if ¬ client.limits.Admits launch.geometry then
    .recorded (.launchFailed "wgpu" launch.kernel.name
      (client.limits.violation launch.geometry).message)
  else if ¬ registry.Registered launch.src then
    .refused (.error (.invalidArgument "src" (.unregistered launch.src)))
  else if ¬ registry.Registered launch.dst then
    .refused (.error (.invalidArgument "dst" (.unregistered launch.dst)))
  else
    .submitted
      { label := launch.kernel.name, src := launch.src, dst := launch.dst
        dispatches := dispatches launch.kernel launch.geometry.groups launch.count }

variable {client : Client} {launch : Launch} {w w' : World}

theorem handleProblem_eq (w : World) (argument : String) (handle : Nat) :
    w.handleProblem argument handle =
      if w.registry.Registered handle then none
      else some (.invalidArgument argument (.unregistered handle)) := by
  unfold World.handleProblem
  simp only [Registry.isSome_find?_iff]

theorem Client.rejection_eq (client : Client) (launch : Launch) :
    client.rejection launch =
      if client.limits.Admits launch.geometry then none
      else some (.launchFailed "wgpu" launch.kernel.name
        (client.limits.violation launch.geometry).message) :=
  launchRejection_eq _ _ _ _

/-- A recorded report is the one on the grid. -/
theorem Client.rejection_of_recorded {registry : Registry} {e : Error}
    (h : client.outcome registry launch = .recorded e) : client.rejection launch = some e := by
  unfold outcome at h
  rw [client.rejection_eq]
  -- Of the five conditions only the one on the grid records anything.
  split_ifs at h with _ _ hadmits
  rw [if_neg hadmits]
  exact congrArg some (Outcome.recorded.inj h)

/-- Enqueueing a launch does what its outcome says. -/
theorem perform_enqueue_eq (client : Client) (launch : Launch) (w : World) :
    (enqueue client launch).perform w =
      match client.outcome w.registry launch with
      | .refused failure => (.error failure, w)
      | .recorded _ => (.ok (), (screen client launch w).2)
      | .submitted s => (.ok (), submit client.queue s w) := by
  -- Without dispatches the call ends before it has looked at anything in the world.
  have hrefused : ∀ e, plan launch.kernel launch.geometry launch.count = .error e →
      (enqueue client launch).perform w = (.error (.error e), w) := by
    intro e hplan
    unfold enqueue
    rw [hplan]
    exact Effect.perform_bind_error (Effect.perform_fail e w)
  -- Now the conditions one after the other, in the order in which they are looked at.
  unfold Client.outcome
  by_cases hslots : launch.kernel.HasSlots
  · rw [if_neg (not_not.mpr hslots)]
    by_cases hcount : launch.count * kernelUnits launch.kernel < word32Limit
    · -- There are dispatches, so what is left are the limits and the two handles.
      have hfits : ¬ 2 ^ 32 - 1 < launch.count * shaderUnits launch.kernel := by
        rw [← kernelUnits_eq_shaderUnits]
        exact Nat.not_lt.mpr (Nat.le_of_lt_succ hcount)
      rw [if_neg hfits, perform_enqueue (plan_of_addressable hslots hcount launch.geometry),
        Client.rejection_eq]
      by_cases hadmits : client.limits.Admits launch.geometry
      · rw [if_pos hadmits, if_neg (not_not.mpr hadmits), handleProblem_eq, handleProblem_eq]
        by_cases hsrc : w.registry.Registered launch.src
        · rw [if_pos hsrc, if_neg (not_not.mpr hsrc), Option.none_or]
          by_cases hdst : w.registry.Registered launch.dst
          · rw [if_pos hdst, if_neg (not_not.mpr hdst)]
          · rw [if_neg hdst, if_pos hdst]
        · rw [if_neg hsrc, if_pos hsrc, Option.some_or]
      · rw [if_neg hadmits, if_pos hadmits]
    · have hover : 2 ^ 32 - 1 < launch.count * shaderUnits launch.kernel := by
        rw [← kernelUnits_eq_shaderUnits]
        exact Nat.lt_of_not_le fun hle => hcount (Nat.lt_succ_of_le hle)
      rw [if_pos hover]
      exact hrefused _ (plan_of_not_addressable hslots hcount launch.geometry)
  · rw [if_pos hslots]
    exact hrefused _ (plan_of_no_slots hslots launch.geometry launch.count)

/-! ## What is left of it in the world -/

/-- Nothing has been submitted or compiled from one world to the other; adapters, default clients
and buffers are the same. -/
structure World.SameWork (w w' : World) : Prop where
  outline : w.SameOutline w'
  registry : w'.registry = w.registry
  submissions : ∀ queue, w'.submissionsAt queue = w.submissionsAt queue
  pipelines : ∀ queue, w'.pipelinesAt queue = w.pipelinesAt queue

theorem sameWork_screen {e : Error} (h : client.rejection launch = some e) (w : World) :
    w.SameWork (screen client launch w).2 :=
  ⟨World.sameOutline_screen client launch w, World.registry_screen client launch w,
    submissionsAt_screen h w, pipelinesAt_screen h w⟩

/-- Enqueueing a launch comes to the first thing that applies. Refused, it has failed and the world
is the one before. Rejected by the limits, it succeeds and its report is in the flag of the client,
in place of any other; all other flags are as before, and nothing has been submitted or compiled.
Only otherwise is something submitted, which is one submission to the queue of the client, and then
no flag has changed. The buffers are never touched. -/
theorem enqueue_outcome (hqueue : client.queue < w.queues.size) (launch : Launch) :
    let result := (enqueue client launch).perform w
    match client.outcome w.registry launch with
    | .refused failure => result = (.error failure, w)
    | .recorded report =>
        result.1 = .ok () ∧ w.SameWork result.2 ∧ result.2.flagAt client.queue = some report ∧
          ∀ other, other ≠ client.queue → result.2.flagAt other = w.flagAt other
    | .submitted s =>
        result.1 = .ok () ∧ result.2.registry = w.registry ∧
          (∀ queue, result.2.flagAt queue = w.flagAt queue) ∧
          result.2.submissionsAt client.queue = s :: w.submissionsAt client.queue ∧
          ∀ other, other ≠ client.queue → result.2.submissionsAt other = w.submissionsAt other := by
  intro result
  have hperform : result = _ := perform_enqueue_eq client launch w
  cases houtcome : client.outcome w.registry launch with
  | refused failure =>
    rw [houtcome] at hperform
    exact hperform
  | recorded e =>
    rw [houtcome] at hperform
    have hreport : client.rejection launch = some e := Client.rejection_of_recorded houtcome
    rw [hperform]
    exact ⟨rfl, sameWork_screen hreport w, flagAt_screen hqueue hreport,
      fun other hother => flagAt_screen_of_ne hreport w hother⟩
  | submitted s =>
    rw [houtcome] at hperform
    rw [hperform]
    exact ⟨rfl, World.registry_submit client.queue s w, flagAt_submit client.queue s w,
      submissionsAt_submit hqueue s, fun other hother => submissionsAt_submit_of_ne hother s w⟩

/-- An empty grid between two handles nobody has registered: the grid is looked at first. -/
theorem enqueue_outcome_empty_grid :
    let opened := (World.initial (fun _ => .noop) 1).newClient (.ofIndex 0)
    let result := (enqueue opened.1 ⟨.scalar .f32, ⟨0, 64, 0⟩, 4, 7, 8⟩).perform opened.2
    opened.1.queue < opened.2.queues.size ∧ result.1 = .ok () ∧
      (result.2.flagAt opened.1.queue).isSome = true ∧ result.2.submissionsAt opened.1.queue = [] := by
  intro opened result
  let launch : Launch := ⟨.scalar .f32, ⟨0, 64, 0⟩, 4, 7, 8⟩
  have hqueue : opened.1.queue < opened.2.queues.size := by decide
  have hsettled := enqueue_outcome hqueue launch
  have houtcome : opened.1.outcome opened.2.registry launch = .recorded _ := rfl
  simp only [houtcome] at hsettled
  obtain ⟨hanswer, hsame, hreport, -⟩ := hsettled
  exact ⟨hqueue, hanswer, Option.isSome_iff_exists.mpr ⟨_, hreport⟩, hsame.submissions _⟩

/-! ## The promises of the backend -/

/-- The client has a queue, its flag holds the given report, the given buffers are registered. -/
def World.Shows (client : Client) (registry : Registry) (report : Option Error) (w : World) : Prop :=
  client.queue < w.queues.size ∧ w.registry = registry ∧ w.flagAt client.queue = report

/-- Nothing has been submitted from one world to the other. -/
def World.SameSubmissions (w w' : World) : Prop :=
  ∀ queue, w'.submissionsAt queue = w.submissionsAt queue

/-- From one world to the other one submission has been made, to the queue of the client. -/
def TakesSubmission (client : Client) (s : Submission) (w w' : World) : Prop :=
  w'.submissionsAt client.queue = s :: w.submissionsAt client.queue ∧
    ∀ other, other ≠ client.queue → w'.submissionsAt other = w.submissionsAt other

theorem TakesSubmission.of_same {s : Submission} {w'' : World} (h : TakesSubmission client s w w')
    (hsame : w'.SameSubmissions w'') : TakesSubmission client s w w'' :=
  ⟨(hsame client.queue).trans h.1, fun other hother => (hsame other).trans (h.2 other hother)⟩

variable {registry : Registry} {report : Option Error}

theorem outcome_recorded (h : w.Shows client registry report) {e : Error}
    (houtcome : client.outcome registry launch = .recorded e) :
    ∃ w', (enqueue client launch).perform w = (.ok (), w') ∧ w'.Shows client registry (some e) ∧
      w.SameSubmissions w' := by
  obtain ⟨hqueue, rfl, -⟩ := h
  have hperform := perform_enqueue_eq client launch w
  rw [houtcome] at hperform
  have hreport : client.rejection launch = some e := Client.rejection_of_recorded houtcome
  have hsize := (World.sameOutline_screen client launch w).size
  exact ⟨_, hperform, ⟨hsize ▸ hqueue, World.registry_screen client launch w,
    flagAt_screen hqueue hreport⟩, submissionsAt_screen hreport w⟩

theorem outcome_submitted (h : w.Shows client registry report) {s : Submission}
    (houtcome : client.outcome registry launch = .submitted s) :
    ∃ w', (enqueue client launch).perform w = (.ok (), w') ∧ w'.Shows client registry report ∧
      TakesSubmission client s w w' := by
  obtain ⟨hqueue, rfl, hflag⟩ := h
  have hperform := perform_enqueue_eq client launch w
  rw [houtcome] at hperform
  have hsize := (World.sameOutline_submit client.queue s w).size
  exact ⟨_, hperform, ⟨hsize ▸ hqueue, World.registry_submit client.queue s w,
    (flagAt_submit client.queue s w client.queue).trans hflag⟩, submissionsAt_submit hqueue s,
    fun other hother => submissionsAt_submit_of_ne hother s w⟩

theorem outcome_query (h : w.Shows client registry report) :
    ∃ w', (checkLastError client).perform w = (answerOf report, w') ∧
      w'.Shows client registry none ∧ w.SameSubmissions w' := by
  obtain ⟨hqueue, hregistry, hflag⟩ := h
  have hsize := (World.sameOutline_takeError client w).size
  have hanswer : ((checkLastError client).perform w).1 = answerOf report :=
    (perform_checkLastError client w).trans (congrArg answerOf hflag)
  exact ⟨(takeError client w).2, Prod.ext hanswer rfl,
    ⟨hsize ▸ hqueue, (World.registry_takeError client w).trans hregistry, flagAt_takeError client w⟩,
    submissionsAt_takeError client w⟩

/-- How a WebGPU device takes in the launches of a client. It looks at the registered buffers. -/
def intake (client : Client) : Intake backend client Registry Submission where
  Poised := World.Shows client
  outcome := client.outcome
  Still := World.SameSubmissions
  Takes := TakesSubmission client
  still_refl _ _ := rfl
  still_trans h h' queue := (h' queue).trans (h queue)
  still_tell _ _ _ := rfl
  takes_told h := h
  takes_still h h' := h.of_same h'
  tell _ _ h := h
  refused := by
    rintro registry report launch failure w ⟨-, rfl, -⟩ houtcome
    have hperform := perform_enqueue_eq client launch w
    rw [houtcome] at hperform
    exact hperform
  recorded h houtcome := outcome_recorded h houtcome
  submitted h houtcome := outcome_submitted h houtcome
  query h := outcome_query h
  wait _ _ h := h

end WebGpu

end DeviceCopy
