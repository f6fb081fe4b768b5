import DeviceCopy.Proofs.Emulated.Intake
import DeviceCopy.Proofs.WebGpu.Enqueue

/-!
# Flags between calls

A launch error waits in the flag of its client, and a call that came upon another one's report would
answer for what it has not done. Entry points and checked copies never leave anything there, whether
they succeed, answer with an error or give up. So as long as a client and its clones make such calls
only, one after the other, each of them answers for itself alone: `calls_leave_flags_empty`, on both
backends.
-/

set_option autoImplicit false

namespace DeviceCopy

open Effect (performAll)

namespace Emulated

variable {client : Client} {w : World}

/-- Nothing of earlier calls shows. The flag of the client is empty and asking for errors answers
that there is none. An entry point comes to a verdict that its arguments and the limits of the
client decide: if that is a failure then the call ends with it and no job has been put on any
stream, and if not then the call succeeds and one job has been put on the client's lane: it is left
there behind all others, unless it has been finished like all before it. -/
structure World.Clean (client : Client) (w : World) : Prop where
  flag : w.flagAt client.lane = none
  query : ((checkLastError client).perform w).1 = .ok ()
  call : ∀ (entry : EntryPoint) (count src dst : Nat),
    let result := (entry.call backend client count src dst).perform w
    match entry.verdict client.device.limits.maxGroups client.outcome count src dst with
    | .error failure => result.1 = .error failure ∧ w.SameStreams result.2
    | .ok job => result.1 = .ok () ∧ TakesJob client job w result.2

theorem World.Shows.clean (h : w.Shows client none) : w.Clean client := by
  have hpoised : (intake client).Poised () none w := h
  obtain ⟨last, hquery, -⟩ := (intake client).query hpoised
  refine ⟨h.2, congrArg Prod.fst hquery, fun entry count src dst => ?_⟩
  have hanswered := ((intake client).call_onEmpty hpoised entry count src dst).2
  cases hverdict : entry.verdict client.device.limits.maxGroups client.outcome count src dst with
  | error failure => exact hanswered.failed hverdict
  | ok job => exact hanswered.succeeded hverdict

end Emulated

namespace WebGpu

variable {client : Client} {registry : Registry} {w : World}

/-- Nothing of earlier calls shows, except in what is registered: the same for WebGPU devices, where
the verdict takes the registered buffers to decide as well, and a call that succeeds has made one
submission to the client's queue. -/
structure World.Clean (client : Client) (registry : Registry) (w : World) : Prop where
  flag : w.flagAt client.queue = none
  query : ((checkLastError client).perform w).1 = .ok ()
  call : ∀ (entry : EntryPoint) (count src dst : Nat),
    let result := (entry.call backend client count src dst).perform w
    match entry.verdict client.device.limits.maxGroups (client.outcome registry) count src dst with
    | .error failure => result.1 = .error failure ∧ w.SameSubmissions result.2
    | .ok s => result.1 = .ok () ∧ TakesSubmission client s w result.2

theorem World.Shows.clean (h : w.Shows client registry none) : w.Clean client registry := by
  have hpoised : (intake client).Poised registry none w := h
  obtain ⟨last, hquery, -⟩ := (intake client).query hpoised
  refine ⟨h.2.2, congrArg Prod.fst hquery, fun entry count src dst => ?_⟩
  have hanswered := ((intake client).call_onEmpty hpoised entry count src dst).2
  cases hverdict : entry.verdict client.device.limits.maxGroups (client.outcome registry) count src
    dst with
  | error failure => exact hanswered.failed hverdict
  | ok s => exact hanswered.succeeded hverdict

end WebGpu

/-- A client whose flag is empty and its clones call entry points and checked copies, any number of
them, one after the other and with whatever arguments. However these have ended, the flag is empty
afterwards, and the next call is not told apart from a first one. On the emulated device it finds a
sound world if there was one to begin with, on WebGPU devices the buffers registered that were
registered to begin with. -/
theorem calls_leave_flags_empty :
    (∀ (client : Emulated.Client) (w : Emulated.World),
      client.lane < w.lanes.size → w.flagAt client.lane = none →
      ∀ calls : List (CopyCall Emulated.Device),
        let after := (performAll (CopyCall.effect Emulated.backend client) calls w).2
        after.Clean client ∧ (w.Sound → after.Sound)) ∧
    (∀ (client : WebGpu.Client) (w : WebGpu.World),
      client.queue < w.queues.size → w.flagAt client.queue = none →
      ∀ calls : List (CopyCall WebGpu.Device),
        (performAll (CopyCall.effect WebGpu.backend client) calls w).2.Clean client w.registry) := by
  refine ⟨?_, ?_⟩
  · intro client w hlane hflag calls
    have hshows : (Emulated.intake client).Poised () none w := ⟨hlane, hflag⟩
    exact ⟨((Emulated.intake client).poised_performAll calls hshows).clean,
      Effect.keeps_performAll (Emulated.sound_call client) calls⟩
  · intro client w hqueue hflag calls
    have hshows : (WebGpu.intake client).Poised w.registry none w := ⟨hqueue, rfl, hflag⟩
    exact ((WebGpu.intake client).poised_performAll calls hshows).clean

/-- A single pass over more floats than two groups reach and a vector copy off the boundary do not
show in the copy after them, nor do a null handle and too many elements on a WebGPU device in the
query. -/
theorem calls_leave_flags_empty_after_failures :
    let device := Emulated.Device.ofLimits { maxThreadsPerGroup := 64, maxGroups := 2 }
    let client : Emulated.Client := { lane := 0, device }
    let w := ((Emulated.World.initial .prompt).openLane true device).2
    let failures : List (CopyCall Emulated.Device) :=
      [.pointers (.launch (.blocked .singlePass 2)) 1025 64 8192,
        .pointers (.launch (.vector .f32)) 8 3 8192]
    let before := (performAll (CopyCall.effect Emulated.backend client) failures w).2
    let opened := (WebGpu.World.initial (fun _ => .noop) 1).newClient (.ofIndex 0)
    let failures' : List (CopyCall WebGpu.Device) :=
      [.pointers (.launch (.scalar .f32)) 4 0 8, .pointers (.launch (.scalar .f64)) (2 ^ 32) 7 8]
    let before' := (performAll (CopyCall.effect WebGpu.backend opened.1) failures' opened.2).2
    (client.lane < w.lanes.size ∧ w.flagAt client.lane = none) ∧
      before.flagAt client.lane = none ∧
      (((EntryPoint.launch (.blocked .singlePass 2)).call Emulated.backend client 1024 64 8192).perform
        before).1 = .ok () ∧
      (opened.1.queue < opened.2.queues.size ∧ opened.2.flagAt opened.1.queue = none) ∧
      ((WebGpu.checkLastError opened.1).perform before').1 = .ok () := by
  intro device client w failures before opened failures' before'
  have hlane : client.lane < w.lanes.size := Nat.one_pos
  have hflag : w.flagAt client.lane = none := rfl
  have hqueue : opened.1.queue < opened.2.queues.size := by decide
  have hflag' : opened.2.flagAt opened.1.queue = none := rfl
  have hclean : before.Clean client := (calls_leave_flags_empty.1 client w hlane hflag failures).1
  have hclean' : before'.Clean opened.1 opened.2.registry :=
    calls_leave_flags_empty.2 opened.1 opened.2 hqueue hflag' failures'
  have hcopied := hclean.call (.launch (.blocked .singlePass 2)) 1024 64 8192
  have hverdict : (EntryPoint.launch (.blocked .singlePass 2)).verdict
      client.device.limits.maxGroups client.outcome 1024 64 8192 = .ok _ := rfl
  rw [hverdict] at hcopied
  exact ⟨⟨hlane, hflag⟩, hclean.flag, hcopied.1, ⟨hqueue, hflag'⟩, hclean'.query⟩

end DeviceCopy
