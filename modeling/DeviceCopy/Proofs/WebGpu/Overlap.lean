import DeviceCopy.Proofs.Buffers.Overlap
import DeviceCopy.Proofs.WebGpu.Housing

/-!
# Overlapping buffers on WebGPU devices

Flags hold reports of rejected launches and nothing else, and a buffer with elements is registered.
So a checked copy that gets past the checks on its buffers never answers with an error about an
argument.

`Attained` is what a program comes to that makes buffers, shares them and copies between them, while
others use the devices for whatever they like, as long as they leave its buffers in use. It counts
the allocations, as handles come from a counter that must not come round.
-/

set_option autoImplicit false

namespace DeviceCopy

namespace WebGpu

namespace World

variable {w w' : World}

/-! ## Reports in flags -/

/-- The flags of all queues hold nothing but reports of rejected launches. -/
def Honest (w : World) : Prop :=
  ∀ (queue : Nat) (q : Queue), w.queues[queue]? = some q → q.flag.Honest

theorem honest_initial (adapterAt : Nat → Adapter) (firstHandle : Nat) :
    (World.initial adapterAt firstHandle).Honest := by
  intro queue q hq
  cases hq

theorem Honest.putQueue (h : w.Honest) {q : Queue} (hflag : q.flag.Honest) (queue : Nat) :
    ({ w with queues := w.queues.setIfInBounds queue q } : World).Honest := by
  intro other found hfound
  simp only [Array.getElem?_setIfInBounds] at hfound
  split at hfound
  · split at hfound
    · cases hfound
      exact hflag
    · cases hfound
  · exact h other found hfound

theorem Honest.alterQueue (h : w.Honest) {f : Queue → Queue} (hf : ∀ q, q.flag.Honest → (f q).flag.Honest)
    (queue : Nat) : (w.alterQueue queue f).Honest := by
  intro other found hfound
  unfold World.alterQueue at hfound
  rw [Array.getElem?_modify] at hfound
  split at hfound
  · obtain ⟨q, hq, rfl⟩ := Option.map_eq_some_iff.mp hfound
    exact hf q (h _ q hq)
  · exact h other found hfound

theorem Honest.newClient (h : w.Honest) (device : Device) : (w.newClient device).2.Honest := by
  intro queue q hq
  have hpushed : (w.queues.push { flag := .clear, pipelines := .empty, submissions := [] })[queue]? =
    some q := hq
  rw [Array.getElem?_push] at hpushed
  split at hpushed
  · cases hpushed
    exact ErrorFlag.honest_clear
  · exact h queue q hpushed

theorem Honest.defaultClient (h : w.Honest) (device : Device) : (w.defaultClient device).2.Honest := by
  have hopened := h.newClient device
  unfold World.defaultClient
  cases w.defaults.lookup device.index with
  | some client => exact h
  | none => exact hopened

theorem Honest.requirePipeline (h : w.Honest) (queue : Nat) (d : Dispatch) :
    (requirePipeline queue d w).Honest := by
  unfold WebGpu.requirePipeline
  cases hqueue : w.queues[queue]? with
  | none => exact h
  | some q =>
    let key : PipelineKey := { shader := d.shader, entryPoint := d.entryPoint }
    have hput := h.putQueue (q := { q with pipelines := (q.pipelines.pipeline key).2 })
      (h queue q hqueue) queue
    cases hcompiled : (q.pipelines.pipeline key).1.2 with
    | true =>
      simp only [key] at hcompiled
      simp only [hcompiled]
      exact hput
    | false =>
      simp only [key] at hcompiled
      simp only [hcompiled]
      exact hput

theorem Honest.submit (h : w.Honest) (queue : Nat) (s : Submission) : (submit queue s w).Honest := by
  have hprepared : (s.dispatches.foldl (fun w d => WebGpu.requirePipeline queue d w) w).Honest := by
    induction s.dispatches generalizing w with
    | nil => exact h
    | cons d rest ih => exact ih (h.requirePipeline queue d)
  exact hprepared.alterQueue (f := fun q => { q with submissions := s :: q.submissions })
    (fun q hq => hq) queue

theorem Honest.screen (h : w.Honest) (client : Client) (launch : Launch) :
    (screen client launch w).2.Honest := by
  unfold WebGpu.screen
  split
  · exact h
  · next e hreport =>
    exact h.alterQueue (fun q _ => ErrorFlag.honest_record hreport q.flag) client.queue

theorem Honest.takeError (h : w.Honest) (client : Client) : (takeError client w).2.Honest := by
  unfold WebGpu.takeError
  cases hqueue : w.queues[client.queue]? with
  | none => exact h
  | some q =>
    have hclear : q.flag.take.2 = .clear := by
      unfold ErrorFlag.take
      cases q.flag.pending with
      | none => rfl
      | some e => rfl
    have hflag : ({ q with flag := q.flag.take.2 } : Queue).flag.Honest := by
      rw [hclear]
      exact ErrorFlag.honest_clear
    exact h.putQueue hflag client.queue

theorem Honest.step (h : w.Honest) (hstep : Step w w') : w'.Honest := by
  refine hstep.keeps ?_ ?_ ?_ ?_ ?_ ?_ ?_ h
  · exact fun client launch v hv => hv.screen client launch
  · exact fun queue s v hv => hv.submit queue s
  · exact fun v registry hv => hv
  · exact fun device v hv => hv.defaultClient device
  · exact fun device v hv => hv.newClient device
  · exact fun event v hv => hv
  · exact fun client v hv => hv.takeError client

end World

/-! ## Errors about arguments -/

section Failing

variable {client : Client} {src dst : Nat} {w w' : World}

/-- Two handles are known and flags hold reports of launches, so a launch between the handles meets
no error about an argument. -/
structure World.Clear (src dst : Nat) (w : World) : Prop where
  honest : w.Honest
  src : (w.registry.find? src).isSome = true
  dst : (w.registry.find? dst).isSome = true

theorem World.Clear.of_registry_eq (h : w.Clear src dst) (hhonest : w'.Honest)
    (hregistry : w'.registry = w.registry) : w'.Clear src dst :=
  ⟨hhonest, hregistry ▸ h.src, hregistry ▸ h.dst⟩

theorem clear_enqueue (launch : Launch) : Effect.Keeps (World.Clear src dst) (enqueue client launch) := by
  refine World.keeps_enqueue ?_ ?_ client launch
  · exact fun client launch v hv =>
      hv.of_registry_eq (hv.honest.screen client launch) (World.registry_screen client launch v)
  · exact fun queue s v hv =>
      hv.of_registry_eq (hv.honest.submit queue s) (World.registry_submit queue s v)

/-- A launch that no shader can be made for, or that shaders cannot index, is refused as such. -/
theorem plan_notArgument {kernel : Kernel} {geometry : Geometry} {count : Nat} {e : Error}
    (h : plan kernel geometry count = .error e) : (Failure.error e).NotArgument := by
  have hlimitation : ∃ operation detail, e = .backendLimitation backendName operation detail := by
    unfold plan at h
    cases hsupported : checkSupported kernel with
    | error e' =>
      rw [hsupported] at h
      cases h
      unfold checkSupported at hsupported
      split at hsupported
      · cases hsupported
        exact ⟨_, _, rfl⟩
      · cases hsupported
    | ok _ =>
      cases haddressable : checkAddressable kernel count with
      | error e' =>
        rw [hsupported, haddressable] at h
        cases h
        unfold checkAddressable at haddressable
        split at haddressable
        · cases haddressable
        · cases haddressable
          exact ⟨_, _, rfl⟩
      | ok _ =>
        rw [hsupported, haddressable] at h
        cases h
  obtain ⟨operation, detail, rfl⟩ := hlimitation
  exact nofun

theorem failsAs_enqueue {launch : Launch} (hsrc : launch.src = src) (hdst : launch.dst = dst) :
    Effect.FailsAs (World.Clear src dst) Failure.NotArgument (enqueue client launch) := by
  intro w h
  refine ⟨clear_enqueue launch w h, fun failure hfailure => ?_⟩
  cases hplan : plan launch.kernel launch.geometry launch.count with
  | error e =>
    have hrefused : (enqueue client launch).perform w = (.error (.error e), w) := by
      unfold enqueue
      rw [hplan]
      exact Effect.perform_bind_error (Effect.perform_fail e w)
    rw [hrefused] at hfailure
    cases hfailure
    exact plan_notArgument hplan
  | ok dispatches =>
    have hsrcKnown : w.handleProblem "src" launch.src = none := by
      rw [hsrc]
      exact if_pos h.src
    have hdstKnown : w.handleProblem "dst" launch.dst = none := by
      rw [hdst]
      exact if_pos h.dst
    rw [perform_enqueue hplan, hsrcKnown, hdstKnown] at hfailure
    cases hreport : client.rejection launch with
    | some report =>
      rw [hreport] at hfailure
      cases hfailure
    | none =>
      rw [hreport] at hfailure
      cases hfailure

theorem failsAs_checkLastError :
    Effect.FailsAs (World.Clear src dst) Failure.NotArgument (checkLastError client) := by
  intro w h
  have hkept : (takeError client w).2.Clear src dst :=
    h.of_registry_eq (h.honest.takeError client) (World.registry_takeError client w)
  refine ⟨hkept, fun failure hfailure => ?_⟩
  rw [perform_checkLastError] at hfailure
  cases hflag : w.flagAt client.queue with
  | none =>
    rw [hflag] at hfailure
    cases hfailure
  | some e =>
    rw [hflag] at hfailure
    cases hfailure
    obtain ⟨q, hq, hpending⟩ := Option.bind_eq_some_iff.mp hflag
    exact Failure.notArgument_of_isLaunchFailure (h.honest client.queue q hq e hpending)

end Failing

/-! ## Requests and copies -/

section Using

variable {w : World}

theorem honest_request {rooms : Nat} {e e' : Estate World Device} {request : BufferRequest Device}
    {answer : Except Failure BufferAnswer} (hhouses : housing.Houses (rooms + request.making) e)
    (hstep : Estate.Step backend e request answer e') (h : e.world.Honest) : e'.world.Honest := by
  have hregistry : ∀ (w : World) (registry : Registry), w.Honest →
      ({ w with registry } : World).Honest := fun _ _ hw => hw
  have hclient : ∀ (device : Device) (w : World), w.Honest → (w.defaultClient device).2.Honest :=
    fun device _ hw => hw.defaultClient device
  refine hhouses.step_keeps (World.keeps_allocateOn hregistry hclient)
    (World.keeps_copyToDevice hregistry hclient) (World.keeps_copyFromDevice hclient) ?_ hstep h
  intro w buffer _ hw
  unfold Buffer.release
  split
  · exact hw
  · exact World.keeps_deallocateOn hregistry hclient (fun _ _ hv => hv) buffer.device _ hw

/-- A copy leaves the registry alone. -/
theorem keeps_copyWith (client : Client) (strategy : Strategy) (src dst : Buffer Device) (count : Nat) :
    Effect.Keeps (fun w' => w'.Honest ∧ w'.registry = w.registry)
      (Buffer.copyWith backend client strategy src dst count) := by
  refine Buffer.keeps_copyWith ?_ ?_ ?_ ?_ strategy src dst count
  · exact fun event _ hw => hw
  · refine World.keeps_enqueue ?_ ?_ client
    · exact fun client launch v hv =>
        ⟨hv.1.screen client launch, (World.registry_screen client launch v).trans hv.2⟩
    · exact fun queue s v hv =>
        ⟨hv.1.submit queue s, (World.registry_submit queue s v).trans hv.2⟩
  · exact fun v hv => ⟨hv.1.takeError client, (World.registry_takeError client v).trans hv.2⟩
  · exact .pure ()

end Using

/-! ## What a program comes to -/

/-- What a program comes to with requests on buffers and copies between them, beside anything else
that leaves its buffers in use, and with how many allocations in all. -/
inductive Attained : (allocations : Nat) → Holdings World Device → Prop
  | start (adapterAt : Nat → Adapter) : Attained 0 (.initial (.initial adapterAt 1))
  | request {n : Nat} {h : Holdings World Device} (request : BufferRequest Device)
      (hbefore : Attained n h) :
      Attained (n + request.making) ((request.carryOut backend).perform h).2
  | copied {n : Nat} {h : Holdings World Device} (client : Client) (strategy : Strategy)
      (src dst : Buffer Device) (count : Nat) (hbefore : Attained n h) :
      Attained n (h.inWorld
        ((Buffer.copyWith backend client strategy src dst count).perform h.workspace.world).2)
  | beside {n : Nat} {h : Holdings World Device} {w' : World} (hbefore : Attained n h)
      (hstep : World.Step h.workspace.world w')
      (hnext : w'.registry.next = h.workspace.world.registry.next)
      (hheld : ∀ id buffer, h.owned id = some buffer → housing.Holds w' buffer) :
      Attained n (h.inWorld w')
  | allocatedBeside {n : Nat} {h : Holdings World Device} (device : Device) (size : Nat)
      (hbefore : Attained n h) :
      Attained (n + 1) (h.inWorld ((allocateOn device size).perform h.workspace.world).2)

namespace Attained

variable {n : Nat} {h : Holdings World Device}

/-- The counts of handles are right, buffers are apart, and flags hold reports of launches, as long as
the counter of handles does not come round. -/
theorem sound (hattained : Attained n h) : ∀ rooms, n + rooms + 1 < wordLimit →
    h.Tallied ∧ housing.Houses rooms h.estate ∧ h.workspace.world.Honest := by
  induction hattained with
  | start adapterAt =>
    intro rooms hroom
    have hready : (World.initial adapterAt 1).Ready rooms := by
      refine ⟨Nat.one_pos, ?_⟩
      change 1 + rooms < wordLimit
      omega
    exact ⟨Holdings.tallied_initial _, .initial hready, World.honest_initial adapterAt 1⟩
  | @request n h request _ ih =>
    intro rooms hroom
    obtain ⟨htallied, hhouses, hhonest⟩ := ih (rooms + request.making) (by omega)
    obtain ⟨hstep, htallied'⟩ := htallied.step backend request
    exact ⟨htallied', hhouses.step hstep, honest_request hhouses hstep hhonest⟩
  | @copied n h client strategy src dst count _ ih =>
    intro rooms hroom
    obtain ⟨htallied, hhouses, hhonest⟩ := ih rooms hroom
    obtain ⟨hhonest', hregistry⟩ :=
      keeps_copyWith client strategy src dst count h.workspace.world ⟨hhonest, rfl⟩
    have hspares : housing.Spares rooms h.workspace.world
        ((Buffer.copyWith backend client strategy src dst count).perform h.workspace.world).2 := by
      refine ⟨World.Ready.of_next_eq hhouses.ready (congrArg Registry.next hregistry), ?_⟩
      intro p m hstored
      change Registry.Stored _ p m
      rw [hregistry]
      exact hstored
    exact ⟨htallied.of_world _, hhouses.of_spares hspares _, hhonest'⟩
  | @beside n h w' _ hstep hnext hheld ih =>
    intro rooms hroom
    obtain ⟨htallied, hhouses, hhonest⟩ := ih rooms hroom
    have hready : w'.Ready rooms := World.Ready.of_next_eq hhouses.ready hnext
    exact ⟨htallied.of_world _, hhouses.of_held hready hheld _, hhonest.step hstep⟩
  | @allocatedBeside n h device size _ ih =>
    intro rooms hroom
    obtain ⟨htallied, hhouses, hhonest⟩ := ih (rooms + 1) (by omega)
    have hspares : housing.Spares rooms h.workspace.world
        ((allocateOn device size).perform h.workspace.world).2 := by
      cases hallocate : (allocateOn device size).perform h.workspace.world with
      | mk answer between =>
        cases answer with
        | ok handle =>
          obtain ⟨hready, -, hkept⟩ := housing.allocate_ok hhouses.ready hallocate
          exact ⟨hready, fun p m hstored => (hkept p m hstored).2⟩
        | error failure => exact housing.allocate_error hhouses.ready hallocate
    have hhonest' : ((allocateOn device size).perform h.workspace.world).2.Honest :=
      World.keeps_allocateOn (fun _ _ hw => hw) (fun device _ hw => hw.defaultClient device) device size
        _ hhonest
    exact ⟨htallied.of_world _, hhouses.of_spares hspares _, hhonest'⟩

theorem program (hattained : Attained n h) (requests : List (BufferRequest Device)) :
    Attained (n + (requests.map BufferRequest.making).sum)
      (Effect.performAll (BufferRequest.carryOut backend) requests h).2 := by
  induction requests generalizing n h with
  | nil => exact hattained
  | cons request rest ih =>
    have hrest := ih (hattained.request request)
    rw [Nat.add_assoc] at hrest
    exact hrest

/-- The byte at an offset in the buffer under a handle. -/
def byteUnder (handle offset : Nat) : Nat × Nat := (handle, offset)

theorem tellsApart (hattained : Attained n h) (hroom : n + 1 < wordLimit) :
    h.TellsApart backend byteUnder := by
  intro first second src dst hfirst hsecond
  obtain ⟨-, hhouses, hhonest⟩ := hattained.sound 0 hroom
  refine hhouses.toldApart hfirst hsecond ?_ ?_ ?_
  · exact fun _ _ _ hne i _ j _ heq => hne (congrArg Prod.fst heq)
  · exact fun _ _ => rfl
  · intro client strategy count argument problem hcount hanswer
    refine Buffer.copyWith_argument (P := World.Clear src.pointer dst.pointer) ?_ ?_ ?_ ?_ ?_ hanswer
    · exact fun event w hw => hw.of_registry_eq hw.honest rfl
    · exact fun launch hsrc hdst => failsAs_enqueue hsrc hdst
    · exact failsAs_checkLastError
    · exact .pure ()
    · intro hproblem
      have hcopyable := Buffer.copyProblem_eq_none_iff.mp hproblem
      obtain ⟨id, -, howned⟩ := Option.bind_eq_some_iff.mp hfirst
      obtain ⟨id', -, howned'⟩ := Option.bind_eq_some_iff.mp hsecond
      have hknown : ∀ {buffer : Buffer Device}, count ≤ buffer.length →
          housing.Holds h.workspace.world buffer →
            (h.workspace.world.registry.find? buffer.pointer).isSome = true := by
        intro buffer hlength hholds
        have hsize : 0 < buffer.sizeInBytes :=
          Nat.mul_pos (Nat.lt_of_lt_of_le hcount hlength) (DType.size_pos _)
        have hstored : h.workspace.world.registry.Stored buffer.pointer buffer.sizeInBytes := hholds
        obtain ⟨found, hfound, -⟩ := hstored.exists_buffer (hstored.handle_ne_zero hsize)
        rw [hfound]
        rfl
      exact ⟨hhonest, hknown hcopyable.srcLength (hhouses.holds howned),
        hknown hcopyable.dstLength (hhouses.holds howned')⟩

end Attained

end WebGpu

end DeviceCopy
