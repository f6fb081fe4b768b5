import Mathlib.Data.List.Basic
import DeviceCopy.WebGpu.Backend

/-!
# What the queues of WebGPU clients hold

A queue has a flag for launch errors, the pipelines built for it and what has been submitted to it.
Every step of a launch changes the one queue of its client, and one of the three: building a
pipeline, submitting, recording a report and taking it each leave the other two alone, and all other
queues.
-/

set_option autoImplicit false

namespace DeviceCopy

namespace WebGpu

/-- The report on a launch that the limits of a client reject. -/
def Client.rejection (client : Client) (launch : Launch) : Option Error :=
  launchRejection backendName launch.kernel.name client.limits launch.geometry

/-- The launch error kept for a queue. -/
def Queue.report (q : Queue) : Option Error := q.flag.pending

namespace World

/-- The launch error kept for a queue. -/
def flagAt (w : World) (queue : Nat) : Option Error := w.queues[queue]?.bind (fun q => q.flag.pending)

/-- Everything submitted to a queue, the latest first. -/
def submissionsAt (w : World) (queue : Nat) : List Submission :=
  (w.queues[queue]?.map Queue.submissions).getD []

/-- What has been compiled for a queue. -/
def pipelinesAt (w : World) (queue : Nat) : PipelineCache :=
  (w.queues[queue]?.map Queue.pipelines).getD .empty

variable {w w' : World} {queue other : Nat} {change : Queue → Queue} {α : Type}

theorem flagAt_eq (w : World) (queue : Nat) :
    w.flagAt queue = (w.queues[queue]?.map Queue.report).getD none := by
  unfold flagAt
  cases w.queues[queue]? <;> rfl

/-! ## Changes of one queue -/

/-- What a change does not touch is as it was in every queue. -/
theorem look_modify (look : Queue → α) (hqueues : w'.queues = w.queues.modify queue change)
    (hlook : ∀ q, look (change q) = look q) (other : Nat) :
    w'.queues[other]?.map look = w.queues[other]?.map look := by
  rw [hqueues, Array.getElem?_modify]
  -- The queue asked about is the one that is changed, or it is not.
  by_cases hother : queue = other
  · rw [if_pos hother, Option.map_map]
    exact congrArg (fun f => w.queues[other]?.map f) (funext hlook)
  · rw [if_neg hother]

/-- No other queue is touched. -/
theorem look_modify_of_ne (look : Queue → α) (hqueues : w'.queues = w.queues.modify queue change)
    (hother : other ≠ queue) : w'.queues[other]?.map look = w.queues[other]?.map look := by
  rw [hqueues, Array.getElem?_modify, if_neg hother.symm]

/-- The one that is changed has been changed. -/
theorem look_modify_self (look : Queue → α) (hqueues : w'.queues = w.queues.modify queue change) :
    w'.queues[queue]?.map look = w.queues[queue]?.map fun q => look (change q) := by
  rw [hqueues, Array.getElem?_modify, if_pos rfl, Option.map_map]
  rfl

end World

/-- Putting back a queue that has been found is changing it. -/
theorem setIfInBounds_eq_modify {queues : Array Queue} {queue : Nat} {q : Queue}
    (h : queues[queue]? = some q) (change : Queue → Queue) :
    queues.setIfInBounds queue (change q) = queues.modify queue change := by
  apply Array.ext_getElem?
  intro other
  rw [Array.getElem?_modify, Array.getElem?_setIfInBounds]
  by_cases hother : queue = other
  · subst hother
    obtain ⟨hsize, rfl⟩ := Array.getElem?_eq_some_iff.mp h
    simp [hsize]
  · rw [if_neg hother, if_neg hother]

theorem modify_of_missing {queues : Array Queue} {queue : Nat} (h : queues[queue]? = none)
    (change : Queue → Queue) : queues.modify queue change = queues := by
  apply Array.ext_getElem?
  intro other
  rw [Array.getElem?_modify]
  by_cases hother : queue = other
  · subst hother
    rw [if_pos rfl, h]
    rfl
  · rw [if_neg hother]

/-! ## The steps of a launch -/

section Steps

variable {client : Client} {launch : Launch} {w : World} {α : Type}

/-- Pipelines are built for the queue of the client. -/
theorem queues_requirePipeline (queue : Nat) (d : Dispatch) (w : World) :
    (requirePipeline queue d w).queues = w.queues.modify queue (fun q =>
      { q with
        pipelines := (q.pipelines.pipeline { shader := d.shader, entryPoint := d.entryPoint }).2 }) := by
  unfold requirePipeline
  cases hqueue : w.queues[queue]? with
  | none => exact (modify_of_missing hqueue _).symm
  | some q =>
    refine Eq.trans ?_ (setIfInBounds_eq_modify hqueue fun q =>
      { q with
        pipelines := (q.pipelines.pipeline { shader := d.shader, entryPoint := d.entryPoint }).2 })
    simp only
    split
    · rfl
    · rfl

/-- Building pipelines touches nothing else of any queue. -/
theorem look_foldl_requirePipeline (look : Queue → α)
    (hlook : ∀ q pipelines, look { q with pipelines } = look q) (queue : Nat)
    (dispatches : List Dispatch) (w : World) (other : Nat) :
    (dispatches.foldl (fun w d => requirePipeline queue d w) w).queues[other]?.map look =
      w.queues[other]?.map look := by
  induction dispatches generalizing w with
  | nil => rfl
  | cons d rest ih =>
    have hfirst : (requirePipeline queue d w).queues[other]?.map look = w.queues[other]?.map look :=
      World.look_modify look (queues_requirePipeline queue d w) (fun q => hlook q _) other
    exact (ih _).trans hfirst

/-- Once the pipelines are there the submission is added to the queue of the client. -/
theorem queues_submit (queue : Nat) (s : Submission) (w : World) :
    (submit queue s w).queues =
      (s.dispatches.foldl (fun w d => requirePipeline queue d w) w).queues.modify queue
        (fun q => { q with submissions := s :: q.submissions }) := rfl

theorem queues_screen {e : Error} (h : client.rejection launch = some e) (w : World) :
    (screen client launch w).2.queues =
      w.queues.modify client.queue (fun q => { q with flag := q.flag.record e }) := by
  unfold Client.rejection at h
  unfold screen
  rw [h]
  rfl

theorem queues_takeError (client : Client) (w : World) :
    (takeError client w).2.queues =
      w.queues.modify client.queue (fun q => { q with flag := .clear }) := by
  unfold takeError
  cases hqueue : w.queues[client.queue]? with
  | none => exact (modify_of_missing hqueue _).symm
  | some q =>
    have hclear : q.flag.take.2 = .clear := by
      unfold ErrorFlag.take
      cases q.flag.pending <;> rfl
    refine Eq.trans ?_ (setIfInBounds_eq_modify hqueue fun q => { q with flag := .clear })
    simp only [hclear]

/-! ### Flags -/

/-- A submission leaves every flag as it was. -/
theorem flagAt_submit (queue : Nat) (s : Submission) (w : World) (other : Nat) :
    (submit queue s w).flagAt other = w.flagAt other := by
  have hpushed := World.look_modify Queue.report (queues_submit queue s w) (fun _ => rfl) other
  have hbuilt := look_foldl_requirePipeline Queue.report (fun _ _ => rfl) queue s.dispatches w other
  rw [World.flagAt_eq, World.flagAt_eq, hpushed, hbuilt]

/-- A rejected launch leaves its report in the flag, whatever was there. -/
theorem flagAt_screen (hqueue : client.queue < w.queues.size) {e : Error}
    (h : client.rejection launch = some e) :
    (screen client launch w).2.flagAt client.queue = some e := by
  rw [World.flagAt_eq, World.look_modify_self Queue.report (queues_screen h w),
    Array.getElem?_eq_getElem hqueue]
  rfl

theorem flagAt_screen_of_ne {e : Error} (h : client.rejection launch = some e) (w : World)
    {other : Nat} (hother : other ≠ client.queue) :
    (screen client launch w).2.flagAt other = w.flagAt other := by
  rw [World.flagAt_eq, World.flagAt_eq,
    World.look_modify_of_ne Queue.report (queues_screen h w) hother]

/-- A query leaves an empty flag behind. -/
theorem flagAt_takeError (client : Client) (w : World) :
    (takeError client w).2.flagAt client.queue = none := by
  rw [World.flagAt_eq, World.look_modify_self Queue.report (queues_takeError client w)]
  cases w.queues[client.queue]? <;> rfl

/-! ### Submissions and pipelines -/

/-- A submission is the latest of its queue. -/
theorem submissionsAt_submit {queue : Nat} (hqueue : queue < w.queues.size) (s : Submission) :
    (submit queue s w).submissionsAt queue = s :: w.submissionsAt queue := by
  -- The pipelines come first, and building them does not show in the submissions.
  have hpushed := World.look_modify_self Queue.submissions (queues_submit queue s w)
  have hbuilt := look_foldl_requirePipeline (fun q => s :: q.submissions) (fun _ _ => rfl) queue
    s.dispatches w queue
  unfold World.submissionsAt
  rw [hpushed, hbuilt, Array.getElem?_eq_getElem hqueue]
  rfl

/-- Nothing has been submitted to the others. -/
theorem submissionsAt_submit_of_ne {queue other : Nat} (hother : other ≠ queue) (s : Submission)
    (w : World) : (submit queue s w).submissionsAt other = w.submissionsAt other := by
  have hpushed := World.look_modify_of_ne Queue.submissions (queues_submit queue s w) hother
  have hbuilt := look_foldl_requirePipeline Queue.submissions (fun _ _ => rfl) queue s.dispatches w
    other
  unfold World.submissionsAt
  rw [hpushed, hbuilt]

theorem submissionsAt_screen {e : Error} (h : client.rejection launch = some e) (w : World)
    (queue : Nat) : (screen client launch w).2.submissionsAt queue = w.submissionsAt queue := by
  unfold World.submissionsAt
  rw [World.look_modify Queue.submissions (queues_screen h w) (fun _ => rfl)]

theorem submissionsAt_takeError (client : Client) (w : World) (queue : Nat) :
    (takeError client w).2.submissionsAt queue = w.submissionsAt queue := by
  unfold World.submissionsAt
  rw [World.look_modify Queue.submissions (queues_takeError client w) (fun _ => rfl)]

theorem pipelinesAt_screen {e : Error} (h : client.rejection launch = some e) (w : World)
    (queue : Nat) : (screen client launch w).2.pipelinesAt queue = w.pipelinesAt queue := by
  unfold World.pipelinesAt
  rw [World.look_modify Queue.pipelines (queues_screen h w) (fun _ => rfl)]

end Steps

end WebGpu

end DeviceCopy
