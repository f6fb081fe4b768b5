import DeviceCopy.Proofs.Buffers.Overlap
import DeviceCopy.Proofs.Emulated.Housing

/-!
# Overlapping buffers on the emulated device

Flags hold reports of rejected launches and nothing else, so a checked copy that gets past the checks
on its buffers never answers with an error about an argument.

`Attained` is what a program comes to that makes buffers, shares them and copies between them, while
others use the device for whatever they like, as long as they leave its buffers in use.
-/

set_option autoImplicit false

namespace DeviceCopy

namespace Emulated

namespace World

variable {w w' : World}

/-! ## Reports in flags -/

/-- The flags of all lanes hold nothing but reports of rejected launches. -/
def Honest (w : World) : Prop := ∀ lane, (w.laneAt lane).flag.Honest

theorem honest_initial (environment : Environment) : (World.initial environment).Honest := by
  intro lane
  rw [laneAt_of_size_le (Nat.zero_le lane)]
  exact ErrorFlag.honest_clear

theorem Honest.of_flags (h : w.Honest) (hflag : ∀ lane, (w'.laneAt lane).flag = (w.laneAt lane).flag) :
    w'.Honest := by
  intro lane
  rw [hflag lane]
  exact h lane

theorem Honest.putLane (h : w.Honest) {l : Lane} (hflag : l.flag.Honest) (lane : Nat) :
    (w.putLane lane l).Honest := by
  intro other
  by_cases hother : other = lane
  · subst hother
    rcases Nat.lt_or_ge other w.lanes.size with hlt | hge
    · rw [laneAt_putLane hlt]
      exact hflag
    · rw [laneAt_of_size_le (by simpa using hge)]
      exact ErrorFlag.honest_clear
  · rw [laneAt_putLane_of_ne hother]
    exact h other

theorem Honest.putStream (h : w.Honest) (lane : Nat) (stream : Stream Launch Fault) :
    (w.putLane lane { w.laneAt lane with stream }).Honest := by
  let l : Lane := { w.laneAt lane with stream }
  have hflag : l.flag.Honest := h lane
  exact h.putLane hflag lane

theorem Honest.openLane (h : w.Honest) (hasWorker : Bool) (device : Device) :
    (w.openLane hasWorker device).2.Honest := by
  intro lane
  rw [laneAt_openLane]
  split
  · exact ErrorFlag.honest_clear
  · exact h lane

theorem Honest.defaultClient (h : w.Honest) (device : Device) : (w.defaultClient device).2.Honest := by
  unfold World.defaultClient
  cases w.defaults.lookup device.limits with
  | some client => exact h
  | none => exact h.openLane _ device

theorem Honest.screen (h : w.Honest) (client : Client) (launch : Launch) :
    (screen client launch w).2.Honest := by
  cases hreport : client.rejection launch with
  | none =>
    rw [screen_of_admitted hreport]
    exact h
  | some e =>
    rw [screen_of_rejected hreport]
    exact h.putLane (ErrorFlag.honest_record hreport (w.laneAt client.lane).flag) client.lane

theorem honest_enqueue (client : Client) (launch : Launch) : Effect.Keeps Honest (enqueue client launch) := by
  unfold Emulated.enqueue
  cases launchFault launch with
  | some f => exact .giveUp f
  | none =>
    refine .update (fun w h => ?_)
    cases hreport : client.rejection launch with
    | none =>
      rw [screen_of_admitted hreport]
      have hsubmitted := (sameClients_submit w client.lane launch).trans (sameClients_progress _)
      exact h.of_flags hsubmitted.flag
    | some e =>
      have hscreened := h.screen client launch
      rw [screen_of_rejected hreport] at hscreened ⊢
      exact hscreened

theorem honest_checkLastError (client : Client) : Effect.Keeps Honest (checkLastError client) := by
  intro w h
  have htaken : (takeError client w).2.Honest := by
    rw [takeError_eq]
    exact h.putLane ErrorFlag.honest_clear client.lane
  exact htaken

theorem honest_synchronize (client : Client) : Effect.Keeps Honest (synchronize client) := by
  intro w h
  have hdrained : (w.progress.drain client.lane).Honest :=
    h.of_flags ((sameClients_progress w).trans (sameClients_workThrough w.progress _ _)).flag
  rw [perform_synchronize]
  exact hdrained.putStream client.lane _

theorem honest_drainDefaults : Effect.Keeps Honest drainDefaults := by
  unfold drainDefaults
  refine .bind (.inspect World.defaults) ?_
  intro defaults
  refine .forM ?_ defaults
  intro entry
  exact honest_synchronize entry.2

theorem honest_copyToDevice (bytes : Bytes) (pointer : Nat) :
    Effect.Keeps Honest (copyToDevice bytes pointer) := by
  unfold Emulated.copyToDevice
  split
  · exact .pure ()
  · split
    · exact .fail _
    · exact .bind honest_drainDefaults (fun _ => .update (fun _ h => h))

theorem honest_copyFromDevice (pointer : Nat) (host : Bytes) :
    Effect.Keeps Honest (copyFromDevice pointer host) := by
  unfold Emulated.copyFromDevice
  split
  · exact .pure host
  · split
    · exact .fail _
    · exact .bind honest_drainDefaults (fun _ => .inspect _)

theorem Honest.of_lanes_eq (h : w.Honest) (hlanes : w'.lanes = w.lanes) : w'.Honest := by
  refine h.of_flags (fun lane => ?_)
  unfold laneAt
  rw [hlanes]

theorem honest_allocate (size : Nat) : Effect.Keeps Honest (allocate size) :=
  fun w h => h.of_lanes_eq (allocate_outline size w).2.1

theorem Honest.deallocate (h : w.Honest) (pointer size : Nat) : (deallocate pointer size w).Honest :=
  h.of_lanes_eq (deallocate_outline pointer size w).2.1

theorem Honest.step (h : w.Honest) (hstep : Step w w') : w'.Honest := by
  cases hstep with
  | openLane hasWorker device => exact h.openLane hasWorker device
  | defaultClient device => exact h.defaultClient device
  | closeLane lane => exact h.of_flags (sameClients_workThrough w lane _).flag
  | work lane => exact h.of_flags (sameClients_work w lane).flag
  | tell event => exact h
  | allocate size => exact honest_allocate size w h
  | deallocate pointer size => exact h.deallocate pointer size
  | enqueue client launch => exact honest_enqueue client launch w h
  | checkLastError client => exact honest_checkLastError client w h
  | synchronize client => exact honest_synchronize client w h
  | copyToDevice bytes pointer => exact honest_copyToDevice bytes pointer w h
  | copyFromDevice pointer host => exact honest_copyFromDevice pointer host w h

/-! ## Blocks that others use -/

theorem Lawful.step (h : w.Lawful) (hstep : Step w w') : w'.Lawful := by
  rcases hstep.outline_cases with hsame | ⟨hasWorker, device, rfl⟩ | ⟨device, rfl⟩ | ⟨size, rfl⟩ |
    ⟨pointer, size, rfl⟩
  · exact (hsame.lawful h).1
  · obtain ⟨-, henvironment, hheap, -, -⟩ := openLane_outline hasWorker device w
    exact ⟨hheap ▸ h.heap, henvironment ▸ h.place⟩
  · obtain ⟨henvironment, hheap⟩ := defaultClient_outline device w
    exact ⟨hheap ▸ h.heap, henvironment ▸ h.place⟩
  · have henvironment := (allocate_outline size w).1
    exact ⟨heapSound_allocate h.heap h.place size, henvironment ▸ h.place⟩
  · exact (housing_deallocate h).1

end World

/-! ## Errors about arguments -/

section Failing

variable {client : Client}

theorem failsAs_enqueue (launch : Launch) :
    Effect.FailsAs World.Honest Failure.NotArgument (enqueue client launch) := by
  intro w h
  refine ⟨World.honest_enqueue client launch w h, fun failure hfailure => ?_⟩
  unfold enqueue at hfailure
  cases hfault : launchFault launch with
  | some f =>
    rw [hfault] at hfailure
    cases hfailure
    exact nofun
  | none =>
    rw [hfault] at hfailure
    cases hfailure

theorem failsAs_checkLastError :
    Effect.FailsAs World.Honest Failure.NotArgument (checkLastError client) := by
  intro w h
  refine ⟨World.honest_checkLastError client w h, fun failure hfailure => ?_⟩
  have hanswer : ((checkLastError client).perform w).1 =
      (flagAnswer (w.flagAt client.lane)).mapError .error := by
    unfold checkLastError
    rw [Effect.perform_ofFun, takeError_eq]
  rw [hanswer] at hfailure
  cases hflag : w.flagAt client.lane with
  | none =>
    rw [hflag] at hfailure
    cases hfailure
  | some e =>
    rw [hflag] at hfailure
    cases hfailure
    exact Failure.notArgument_of_isLaunchFailure (h client.lane e hflag)

theorem failsAs_synchronize : Effect.FailsAs World.Honest Failure.NotArgument (synchronize client) := by
  intro w h
  refine ⟨World.honest_synchronize client w h, fun failure hfailure => ?_⟩
  rw [perform_synchronize] at hfailure
  simp only at hfailure
  split at hfailure
  · cases hfailure
  · cases hfailure
    exact nofun

end Failing

/-! ## Requests and copies -/

theorem honest_request {rooms : Nat} {e e' : Estate World Device} {request : BufferRequest Device}
    {answer : Except Failure BufferAnswer} (hhouses : housing.Houses (rooms + request.making) e)
    (hstep : Estate.Step backend e request answer e') (h : e.world.Honest) : e'.world.Honest := by
  refine hhouses.step_keeps (fun _ => World.honest_allocate) (fun _ => World.honest_copyToDevice)
    (fun _ => World.honest_copyFromDevice) ?_ hstep h
  intro w buffer _ hw
  unfold Buffer.release
  split
  · exact hw
  · exact hw.deallocate _ _

theorem honest_copyWith (client : Client) (strategy : Strategy) (src dst : Buffer Device)
    (count : Nat) :
    Effect.Keeps World.Honest (Buffer.copyWith backend client strategy src dst count) := by
  refine Buffer.keeps_copyWith ?_ ?_ ?_ ?_ strategy src dst count
  · exact fun event _ hw => hw
  · exact World.honest_enqueue client
  · exact World.honest_checkLastError client
  · exact World.honest_synchronize client

/-- A copy leaves all blocks where they are. -/
theorem sameOutline_copyWith (client : Client) (strategy : Strategy) (src dst : Buffer Device)
    (count : Nat) (w : World) :
    w.SameOutline ((Buffer.copyWith backend client strategy src dst count).perform w).2 := by
  have hkept : Effect.Keeps (w.SameOutline ·)
      (Buffer.copyWith backend client strategy src dst count) := by
    refine Buffer.keeps_copyWith ?_ ?_ ?_ ?_ strategy src dst count
    · exact fun event _ hw => hw.trans ⟨rfl, rfl, rfl, rfl⟩
    · exact World.sameOutline_enqueue client
    · exact World.sameOutline_checkLastError client
    · exact World.sameOutline_synchronize client
  exact hkept w (.refl w)

/-! ## What a program comes to -/

/-- What a program comes to with requests on buffers and copies between them, on a system that places
memory lawfully, beside anything else that leaves its buffers in use. -/
inductive Attained : Holdings World Device → Prop
  | start {environment : Environment} (hlawful : environment.place.Lawful) :
      Attained (.initial (.initial environment))
  | request {h : Holdings World Device} (request : BufferRequest Device) (hbefore : Attained h) :
      Attained ((request.carryOut backend).perform h).2
  | copied {h : Holdings World Device} (client : Client) (strategy : Strategy)
      (src dst : Buffer Device) (count : Nat) (hbefore : Attained h) :
      Attained (h.inWorld
        ((Buffer.copyWith backend client strategy src dst count).perform h.workspace.world).2)
  | beside {h : Holdings World Device} {w' : World} (hbefore : Attained h)
      (hstep : World.Step h.workspace.world w')
      (hheld : ∀ id buffer, h.owned id = some buffer → w'.Holds buffer) : Attained (h.inWorld w')

namespace Attained

variable {h : Holdings World Device}

/-- The counts of handles are right, buffers are apart, and flags hold reports of launches. -/
theorem sound (hattained : Attained h) :
    h.Tallied ∧ housing.Houses 0 h.estate ∧ h.workspace.world.Honest := by
  induction hattained with
  | @start environment hlawful =>
    have hstart : (World.initial environment).Lawful := ⟨Heap.sound_empty, hlawful⟩
    exact ⟨Holdings.tallied_initial _, .initial hstart, World.honest_initial environment⟩
  | @request h request _ ih =>
    obtain ⟨htallied, hhouses, hhonest⟩ := ih
    obtain ⟨hstep, htallied'⟩ := htallied.step backend request
    have hroom : housing.Houses (0 + request.making) h.estate :=
      ⟨hhouses.ready, hhouses.holds, hhouses.separate⟩
    exact ⟨htallied', hroom.step hstep, honest_request hroom hstep hhonest⟩
  | @copied h client strategy src dst count _ ih =>
    obtain ⟨htallied, hhouses, hhonest⟩ := ih
    have houtline := sameOutline_copyWith client strategy src dst count h.workspace.world
    have hhonest' := honest_copyWith client strategy src dst count h.workspace.world hhonest
    exact ⟨htallied.of_world _, hhouses.of_spares (houtline.lawful hhouses.ready) _, hhonest'⟩
  | @beside h w' _ hstep hheld ih =>
    obtain ⟨htallied, hhouses, hhonest⟩ := ih
    have hlawful : w'.Lawful := World.Lawful.step hhouses.ready hstep
    exact ⟨htallied.of_world _, hhouses.of_held hlawful hheld _, hhonest.step hstep⟩

theorem program (hattained : Attained h) (requests : List (BufferRequest Device)) :
    Attained (Effect.performAll (BufferRequest.carryOut backend) requests h).2 := by
  induction requests generalizing h with
  | nil => exact hattained
  | cons request rest ih => exact ih (hattained.request request)

/-- The byte at an offset from an address. -/
def byteAt (address offset : Nat) : Nat := address + offset

theorem tellsApart (hattained : Attained h) : h.TellsApart backend byteAt := by
  intro first second src dst hfirst hsecond
  obtain ⟨-, hhouses, hhonest⟩ := hattained.sound
  refine hhouses.toldApart hfirst hsecond ?_ ?_ ?_
  · intro w p n p' n' hlawful hstored hstored' hne i hi j hj heq
    have happart := hstored.apart hstored' hlawful.heap hne
    unfold byteAt at heq
    rcases happart with hbefore | hafter
    · simp only at hbefore
      omega
    · simp only at hafter
      omega
  · exact fun hlawful hstored => hstored.aligned hlawful.heap
  · intro client strategy count argument problem _ hanswer
    refine Buffer.copyWith_argument (P := World.Honest) ?_ ?_ ?_ ?_ (fun _ => hhonest) hanswer
    · exact fun event w hw => hw
    · exact fun launch _ _ => failsAs_enqueue launch
    · exact failsAs_checkLastError
    · exact failsAs_synchronize

end Attained

end Emulated

end DeviceCopy
