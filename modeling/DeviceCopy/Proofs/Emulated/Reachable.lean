import DeviceCopy.Proofs.Buffers.Requests
import DeviceCopy.Proofs.Emulated.HostSteps

/-!
# Worlds a program can bring about

A program opens and closes clients, allocates, transfers, enqueues launches, asks for errors and
waits, in any order and with any arguments; between any two of these steps a worker may run a job.
`World.Reachable` is what comes of it. The checked copies and the copy entry points are made of
these steps, so they lead from reachable worlds to reachable worlds. Every reachable world is sound.
-/

set_option autoImplicit false

namespace DeviceCopy

namespace Emulated

namespace World

/-- One step of a program on the emulated device, or of one of its workers. -/
inductive Step : World → World → Prop
  | openLane (hasWorker : Bool) (device : Device) (w : World) :
      Step w (w.openLane hasWorker device).2
  | defaultClient (device : Device) (w : World) : Step w (w.defaultClient device).2
  | closeLane (lane : Nat) (w : World) : Step w (w.closeLane lane)
  | work (lane : Nat) (w : World) : Step w (w.work lane)
  | tell (event : Event) (w : World) : Step w (w.tell event)
  | allocate (size : Nat) (w : World) : Step w ((allocate size).perform w).2
  | deallocate (pointer size : Nat) (w : World) : Step w (deallocate pointer size w)
  | enqueue (client : Client) (launch : Launch) (w : World) :
      Step w ((enqueue client launch).perform w).2
  | checkLastError (client : Client) (w : World) : Step w ((checkLastError client).perform w).2
  | synchronize (client : Client) (w : World) : Step w ((synchronize client).perform w).2
  | copyToDevice (bytes : Bytes) (pointer : Nat) (w : World) :
      Step w ((copyToDevice bytes pointer).perform w).2
  | copyFromDevice (pointer : Nat) (host : Bytes) (w : World) :
      Step w ((copyFromDevice pointer host).perform w).2

/-- What a program can bring about on a device that nobody has used. -/
inductive Reachable : World → Prop
  | initial (environment : Environment) : Reachable (.initial environment)
  | next {w w' : World} : Reachable w → Step w w' → Reachable w'

/-! ## Calls made of steps -/

theorem Reachable.copyWith (client : Client) (strategy : Strategy) (src dst : Buffer Device)
    (count : Nat) : Effect.Keeps Reachable (Buffer.copyWith backend client strategy src dst count) :=
  Buffer.keeps_copyWith (fun event w h => h.next (.tell event w))
    (fun launch w h => h.next (.enqueue client launch w)) (fun w h => h.next (.checkLastError client w))
    (fun w h => h.next (.synchronize client w)) strategy src dst count

theorem Reachable.copy (client : Client) (src dst : Buffer Device) (count : Nat) :
    Effect.Keeps Reachable (Buffer.copy backend client src dst count) :=
  Buffer.keeps_copy (fun event w h => h.next (.tell event w))
    (fun launch w h => h.next (.enqueue client launch w)) (fun w h => h.next (.checkLastError client w))
    (fun w h => h.next (.synchronize client w)) src dst count

/-! ## Reachable worlds are sound -/

variable {w : World}

theorem sound_initial (environment : Environment) : (World.initial environment).Sound := by
  intro lane
  rw [laneAt_of_size_le (Nat.zero_le lane)]
  exact Stream.sound_idle false

theorem laneAt_openLane (hasWorker : Bool) (device : Device) (w : World) (lane : Nat) :
    (w.openLane hasWorker device).2.laneAt lane =
      if lane = w.lanes.size then { stream := .idle hasWorker, flag := .clear } else w.laneAt lane := by
  -- Telling about a missing worker does not touch the lanes.
  have hlane : (w.openLane hasWorker device).2.laneAt lane =
      (w.lanes.push { stream := .idle hasWorker, flag := .clear })[lane]?.getD .unopened := by
    cases hasWorker <;> rfl
  rw [hlane, Array.getElem?_push]
  split
  · rfl
  · rfl

theorem Sound.openLane (h : w.Sound) (hasWorker : Bool) (device : Device) :
    (w.openLane hasWorker device).2.Sound := by
  intro lane
  rw [laneAt_openLane]
  split
  · exact Stream.sound_idle hasWorker
  · exact h lane

theorem Sound.defaultClient (h : w.Sound) (device : Device) : (w.defaultClient device).2.Sound := by
  unfold World.defaultClient
  cases w.defaults.lookup device.limits with
  | some client => exact h
  | none => exact h.openLane _ device

theorem sound_enqueue (client : Client) (launch : Launch) :
    Effect.Keeps Sound (enqueue client launch) := by
  unfold Emulated.enqueue
  cases launchFault launch with
  | some f => exact .giveUp f
  | none =>
    refine .update ?_
    intro w h
    cases hreport : client.rejection launch with
    | none =>
      rw [screen_of_admitted hreport]
      exact (h.submit client.lane launch).progress
    | some e =>
      have hscreened := (sameStreams_screen client launch w).sound h
      rw [screen_of_rejected hreport] at hscreened ⊢
      exact hscreened

theorem sound_checkLastError (client : Client) : Effect.Keeps Sound (checkLastError client) :=
  fun w h => (sameStreams_takeError client w).sound h

theorem sound_synchronize (client : Client) : Effect.Keeps Sound (synchronize client) := by
  intro w h
  have hdrained : (w.progress.drain client.lane).Sound := h.progress.workThrough client.lane _
  rw [perform_synchronize]
  intro other
  by_cases hother : other = client.lane
  · subst hother
    rcases Nat.lt_or_ge client.lane (w.progress.drain client.lane).lanes.size with hlt | hge
    · -- Taking the fault leaves the jobs and their number alone.
      rw [laneAt_putLane hlt]
      exact ⟨(hdrained client.lane).accounted, (hdrained client.lane).inline⟩
    · rw [laneAt_of_size_le (by simpa using hge)]
      exact Stream.sound_idle false
  · rw [laneAt_putLane_of_ne hother]
    exact hdrained other

theorem sound_drainDefaults : Effect.Keeps Sound drainDefaults := by
  unfold drainDefaults
  refine .bind (.inspect World.defaults) ?_
  intro defaults
  refine .forM ?_ defaults
  intro entry
  exact sound_synchronize entry.2

theorem sound_copyToDevice (bytes : Bytes) (pointer : Nat) :
    Effect.Keeps Sound (copyToDevice bytes pointer) := by
  unfold copyToDevice
  split
  · exact .pure ()
  · split
    · exact .fail _
    · exact .bind sound_drainDefaults (fun _ => .update (fun _ h => h))

theorem sound_copyFromDevice (pointer : Nat) (host : Bytes) :
    Effect.Keeps Sound (copyFromDevice pointer host) := by
  unfold copyFromDevice
  split
  · exact .pure host
  · split
    · exact .fail _
    · exact .bind sound_drainDefaults (fun _ => .inspect _)

theorem sound_allocate (size : Nat) : Effect.Keeps Sound (allocate size) := by
  intro w h
  unfold allocate
  rw [Effect.perform_ofFun]
  split
  · exact h
  · split
    · exact h
    · cases w.environment.place w.heap size with
      | none => exact h
      | some address => exact h

theorem Sound.deallocate (h : w.Sound) (pointer size : Nat) : (deallocate pointer size w).Sound := by
  unfold Emulated.deallocate
  split
  · exact h
  · split
    · exact h
    · exact h

theorem Sound.step {w' : World} (h : w.Sound) (hstep : Step w w') : w'.Sound := by
  cases hstep with
  | openLane hasWorker device => exact h.openLane hasWorker device
  | defaultClient device => exact h.defaultClient device
  | closeLane lane => exact h.workThrough lane _
  | work lane => exact h.work lane
  | tell event => exact h
  | allocate size => exact sound_allocate size w h
  | deallocate pointer size => exact h.deallocate pointer size
  | enqueue client launch => exact sound_enqueue client launch w h
  | checkLastError client => exact sound_checkLastError client w h
  | synchronize client => exact sound_synchronize client w h
  | copyToDevice bytes pointer => exact sound_copyToDevice bytes pointer w h
  | copyFromDevice pointer host => exact sound_copyFromDevice pointer host w h

/-- Whatever a program does, every counted job is on its lane or finished, and no lane without a
worker has a job left. -/
theorem Reachable.sound (h : Reachable w) : w.Sound := by
  induction h with
  | initial environment => exact sound_initial environment
  | next _ hstep ih => exact ih.step hstep

end World

end Emulated

end DeviceCopy
