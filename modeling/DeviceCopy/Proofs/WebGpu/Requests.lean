import DeviceCopy.Proofs.Buffers.Requests
import DeviceCopy.Proofs.Effects
import DeviceCopy.Proofs.WebGpu.Queues
import DeviceCopy.Proofs.WebGpu.Storage

/-!
# Checked copies on WebGPU devices

With an empty flag a checked copy answers with the first reason to refuse it, or with success:
`refusal?` goes through the checks on the buffers, the strategies, the limits and the two handles in
the order in which they count, for copies that shaders can index.

A client that was opened on a device knows its adapter, and the limits it holds launches against are
those of the adapter. `World.Reachable` is what a program can bring about; its default clients are in
order (`World.DefaultsOpen`).
-/

set_option autoImplicit false

namespace DeviceCopy

namespace WebGpu

namespace World

variable {w w' : World}

/-! ## Clients -/

/-- Every default client has a queue and is held to the limits of its adapter. -/
structure DefaultsOpen (w : World) : Prop where
  queue : ∀ entry ∈ w.defaults, entry.2.queue < w.queues.size
  device : ∀ entry ∈ w.defaults,
    entry.2.device = { index := entry.1, adapter := some (w.adapterAt entry.1) }
  limits : ∀ entry ∈ w.defaults, entry.2.limits = (w.adapterAt entry.1).limits.launchLimits

/-- Two worlds with the same adapters, as many queues and the same default clients. -/
structure SameOutline (w w' : World) : Prop where
  adapterAt : w'.adapterAt = w.adapterAt
  size : w'.queues.size = w.queues.size
  defaults : w'.defaults = w.defaults

theorem SameOutline.refl (w : World) : w.SameOutline w := ⟨rfl, rfl, rfl⟩

theorem SameOutline.trans {w'' : World} (h : w.SameOutline w') (h' : w'.SameOutline w'') :
    w.SameOutline w'' :=
  ⟨h'.adapterAt.trans h.adapterAt, h'.size.trans h.size, h'.defaults.trans h.defaults⟩

theorem DefaultsOpen.of_sameOutline (h : w.DefaultsOpen) (hsame : w.SameOutline w') :
    w'.DefaultsOpen := by
  refine ⟨?_, ?_, ?_⟩
  · rw [hsame.defaults, hsame.size]
    exact h.queue
  · rw [hsame.defaults, hsame.adapterAt]
    exact h.device
  · rw [hsame.defaults, hsame.adapterAt]
    exact h.limits

/-- What can be said of the default client of a device. -/
theorem DefaultsOpen.defaultClient (h : w.DefaultsOpen) (device : Device) :
    (w.defaultClient device).2.DefaultsOpen ∧
      (device.index, (w.defaultClient device).1) ∈ (w.defaultClient device).2.defaults ∧
      (w.defaultClient device).2.adapterAt = w.adapterAt := by
  unfold World.defaultClient
  cases hlookup : w.defaults.lookup device.index with
  | some client => exact ⟨h, Table.mem_of_lookup hlookup, rfl⟩
  | none =>
    refine ⟨⟨?_, ?_, ?_⟩, List.mem_append_right _ List.mem_cons_self, rfl⟩
    · intro entry hentry
      change entry.2.queue < (w.queues.push _).size
      rw [Array.size_push]
      rcases List.mem_append.mp hentry with hold | hnew
      · exact Nat.lt_succ_of_lt (h.queue entry hold)
      · rw [List.mem_singleton.mp hnew]
        exact Nat.lt_succ_self _
    · intro entry hentry
      rcases List.mem_append.mp hentry with hold | hnew
      · exact h.device entry hold
      · rw [List.mem_singleton.mp hnew]
        rfl
    · intro entry hentry
      rcases List.mem_append.mp hentry with hold | hnew
      · exact h.limits entry hold
      · rw [List.mem_singleton.mp hnew]
        rfl

/-- A default client stays one. -/
theorem mem_defaultClient {entry : Nat × Client} (h : entry ∈ w.defaults) (device : Device) :
    entry ∈ (w.defaultClient device).2.defaults := by
  unfold World.defaultClient
  cases w.defaults.lookup device.index with
  | some client => exact h
  | none => exact List.mem_append_left _ h

theorem DefaultsOpen.newClient (h : w.DefaultsOpen) (device : Device) :
    (w.newClient device).2.DefaultsOpen := by
  refine ⟨?_, h.device, h.limits⟩
  intro entry hentry
  change entry.2.queue < (w.queues.push _).size
  rw [Array.size_push]
  exact Nat.lt_succ_of_lt (h.queue entry hentry)

/-! ## Steps that keep the outline -/

theorem sameOutline_requirePipeline (queue : Nat) (d : Dispatch) (w : World) :
    w.SameOutline (requirePipeline queue d w) := by
  unfold requirePipeline
  cases w.queues[queue]? with
  | none => exact .refl w
  | some q =>
    let key : PipelineKey := { shader := d.shader, entryPoint := d.entryPoint }
    cases hcompiled : (q.pipelines.pipeline key).1.2 with
    | true =>
      simp only [key] at hcompiled
      simp only [hcompiled]
      exact ⟨rfl, Array.size_setIfInBounds, rfl⟩
    | false =>
      simp only [key] at hcompiled
      simp only [hcompiled]
      exact ⟨rfl, Array.size_setIfInBounds, rfl⟩

theorem sameOutline_foldl_requirePipeline (queue : Nat) (dispatches : List Dispatch) (w : World) :
    w.SameOutline (dispatches.foldl (fun w d => requirePipeline queue d w) w) := by
  induction dispatches generalizing w with
  | nil => exact .refl w
  | cons d rest ih => exact (sameOutline_requirePipeline queue d w).trans (ih _)

theorem sameOutline_submit (queue : Nat) (s : Submission) (w : World) :
    w.SameOutline (submit queue s w) :=
  (sameOutline_foldl_requirePipeline queue s.dispatches w).trans ⟨rfl, Array.size_modify, rfl⟩

theorem sameOutline_screen (client : Client) (launch : Launch) (w : World) :
    w.SameOutline (screen client launch w).2 := by
  unfold screen
  split
  · exact .refl w
  · exact ⟨rfl, Array.size_modify, rfl⟩

theorem sameOutline_takeError (client : Client) (w : World) :
    w.SameOutline (takeError client w).2 := by
  unfold takeError
  cases w.queues[client.queue]? with
  | none => exact .refl w
  | some q => exact ⟨rfl, Array.size_setIfInBounds, rfl⟩

/-! ## Steps that leave the registry -/

theorem registry_screen (client : Client) (launch : Launch) (w : World) :
    (screen client launch w).2.registry = w.registry := by
  unfold screen
  split
  · rfl
  · rfl

theorem registry_requirePipeline (queue : Nat) (d : Dispatch) (w : World) :
    (requirePipeline queue d w).registry = w.registry := by
  unfold requirePipeline
  cases w.queues[queue]? with
  | none => rfl
  | some q =>
    simp only
    split
    · rfl
    · rfl

theorem registry_submit (queue : Nat) (s : Submission) (w : World) :
    (submit queue s w).registry = w.registry := by
  have hprepared : (s.dispatches.foldl (fun w d => requirePipeline queue d w) w).registry =
      w.registry := by
    induction s.dispatches generalizing w with
    | nil => rfl
    | cons d rest ih => exact (ih _).trans (registry_requirePipeline queue d w)
  exact hprepared

theorem registry_takeError (client : Client) (w : World) :
    (takeError client w).2.registry = w.registry := by
  unfold takeError
  cases w.queues[client.queue]? with
  | none => rfl
  | some q => rfl

/-! ## Worlds a program can bring about -/

/-- One step of a program on WebGPU devices. -/
inductive Step : World → World → Prop
  | newClient (device : Device) (w : World) : Step w (w.newClient device).2
  | defaultClient (device : Device) (w : World) : Step w (w.defaultClient device).2
  | tell (event : Event) (w : World) : Step w (w.tell event)
  | allocate (size : Nat) (w : World) : Step w ((allocate size).perform w).2
  | deallocate (handle : Nat) (w : World) : Step w (deallocate handle w)
  | enqueue (client : Client) (launch : Launch) (w : World) :
      Step w ((enqueue client launch).perform w).2
  | checkLastError (client : Client) (w : World) : Step w ((checkLastError client).perform w).2
  | copyToDevice (device : Device) (bytes : Bytes) (handle : Nat) (w : World) :
      Step w ((copyToDevice device bytes handle).perform w).2
  | copyFromDevice (device : Device) (handle : Nat) (host : Bytes) (w : World) :
      Step w ((copyFromDevice device handle host).perform w).2

/-- What a program can bring about on adapters that nobody has used. -/
inductive Reachable : World → Prop
  | initial (adapterAt : Nat → Adapter) (firstHandle : Nat) :
      Reachable (.initial adapterAt firstHandle)
  | next {w w' : World} : Reachable w → Step w w' → Reachable w'

section Keeping

/-! Requests for memory touch the registry and may open a client, and nothing else. -/

variable {P : World → Prop}
  (hregistry : ∀ (w : World) (registry : Registry), P w → P { w with registry })
  (hclient : ∀ (device : Device) (w : World), P w → P (w.defaultClient device).2)

theorem keeps_requireBuffer (argument : String) (handle : Nat) :
    Effect.Keeps P (requireBuffer argument handle) := by
  intro w h
  unfold requireBuffer
  rw [Effect.perform_ofFun]
  cases w.registry.find? handle with
  | none => exact h
  | some buffer => exact h

include hregistry

theorem keeps_allocate (size : Nat) : Effect.Keeps P (allocate size) := by
  unfold WebGpu.allocate
  split
  · exact .pure 0
  · exact .bind (.checked _) (fun _ => .bind (.checked _) (fun _ =>
      .updateGet (fun w h => hregistry w _ h)))

include hclient

theorem keeps_allocateOn (device : Device) (size : Nat) :
    Effect.Keeps P (allocateOn device size) := by
  unfold allocateOn
  split
  · exact .pure 0
  · exact .bind (.update (hclient device)) (fun _ => keeps_allocate hregistry size)

theorem keeps_deallocateOn (htell : ∀ (event : Event) (w : World), P w → P (w.tell event))
    (device : Device) (handle : Nat) (h : P w) : P (deallocateOn device handle w) := by
  unfold deallocateOn WebGpu.deallocate
  split
  · exact h
  · have hopened := hregistry _ ((w.defaultClient device).2.registry.remove handle) (hclient device w h)
    cases (w.defaultClient device).2.registry.contains handle with
    | true => exact hopened
    | false => exact htell _ _ hopened

theorem keeps_copyToDevice (device : Device) (bytes : Bytes) (handle : Nat) :
    Effect.Keeps P (copyToDevice device bytes handle) := by
  unfold WebGpu.copyToDevice
  split
  · exact .pure ()
  · exact .bind (.update (hclient device)) (fun _ =>
      .bind (.bind (keeps_requireBuffer "dst" handle) (fun _ => .pure _)) (fun _ =>
        .update (fun w h => hregistry w _ h)))

end Keeping

theorem keeps_copyFromDevice {P : World → Prop}
    (hclient : ∀ (device : Device) (w : World), P w → P (w.defaultClient device).2)
    (device : Device) (handle : Nat) (host : Bytes) :
    Effect.Keeps P (copyFromDevice device handle host) := by
  unfold WebGpu.copyFromDevice
  split
  · exact .pure host
  · exact .bind (.update (hclient device)) (fun _ =>
      .bind (keeps_requireBuffer "src" handle) (fun _ => .pure _))

section Steps

variable {P : World → Prop}
  (hscreen : ∀ (client : Client) (launch : Launch) (w : World), P w → P (screen client launch w).2)
  (hsubmit : ∀ (queue : Nat) (s : Submission) (w : World), P w → P (submit queue s w))

include hscreen hsubmit

theorem keeps_enqueue (client : Client) (launch : Launch) :
    Effect.Keeps P (enqueue client launch) := by
  refine .bind (.answer _) (fun dispatches =>
    .bind (.updateGet (hscreen client launch)) (fun admitted => ?_))
  cases admitted with
  | false => exact .pure ()
  | true =>
    refine .bind (.bind (keeps_requireBuffer "src" launch.src) (fun _ => .pure _)) (fun _ =>
      .bind (.bind (keeps_requireBuffer "dst" launch.dst) (fun _ => .pure _)) (fun _ => .update ?_))
    exact hsubmit _ _

/-- What every part of a step keeps, steps keep. -/
theorem Step.keeps (hregistry : ∀ (w : World) (registry : Registry), P w → P { w with registry })
    (hclient : ∀ (device : Device) (w : World), P w → P (w.defaultClient device).2)
    (hopen : ∀ (device : Device) (w : World), P w → P (w.newClient device).2)
    (htell : ∀ (event : Event) (w : World), P w → P (w.tell event))
    (htake : ∀ (client : Client) (w : World), P w → P (takeError client w).2)
    (hstep : Step w w') (h : P w) : P w' := by
  cases hstep with
  | newClient device => exact hopen device w h
  | defaultClient device => exact hclient device w h
  | tell event => exact htell event w h
  | allocate size => exact keeps_allocate hregistry size w h
  | deallocate handle =>
    unfold WebGpu.deallocate
    split
    · exact h
    · cases w.registry.contains handle with
      | true => exact hregistry _ _ h
      | false => exact htell _ _ (hregistry _ _ h)
  | enqueue client launch => exact keeps_enqueue hscreen hsubmit client launch w h
  | checkLastError client => exact htake client w h
  | copyToDevice device bytes handle =>
    exact keeps_copyToDevice hregistry hclient device bytes handle w h
  | copyFromDevice device handle host => exact keeps_copyFromDevice hclient device handle host w h

end Steps

/-- Only opening clients touches the default clients. -/
theorem DefaultsOpen.step (h : w.DefaultsOpen) (hstep : Step w w') : w'.DefaultsOpen := by
  refine hstep.keeps ?_ ?_ ?_ ?_ ?_ ?_ ?_ h
  · exact fun client launch v hv => hv.of_sameOutline (sameOutline_screen client launch v)
  · exact fun queue s v hv => hv.of_sameOutline (sameOutline_submit queue s v)
  · exact fun v registry hv => hv.of_sameOutline ⟨rfl, rfl, rfl⟩
  · exact fun device v hv => (hv.defaultClient device).1
  · exact fun device v hv => hv.newClient device
  · exact fun event v hv => hv.of_sameOutline ⟨rfl, rfl, rfl⟩
  · exact fun client v hv => hv.of_sameOutline (sameOutline_takeError client v)

theorem Reachable.defaultsOpen (h : Reachable w) : w.DefaultsOpen := by
  induction h with
  | initial adapterAt firstHandle =>
    exact ⟨fun _ h => absurd h List.not_mem_nil, fun _ h => absurd h List.not_mem_nil,
      fun _ h => absurd h List.not_mem_nil⟩
  | next _ hstep ih => exact ih.step hstep

end World

/-! ## Which launches have dispatches -/

section Plans

variable {kernel : Kernel} {count : Nat}

/-- A kernel without slots has no dispatches, whatever it is to copy. -/
theorem plan_of_no_slots (h : ¬ kernel.HasSlots) (g : Geometry) (count : Nat) :
    plan kernel g count =
      .error (.backendLimitation "wgpu" "register-blocked copy" "blocking factor must be positive") := by
  cases kernel with
  | scalar dtype => exact absurd trivial h
  | vector dtype => exact absurd trivial h
  | blocked sweep factor =>
    obtain rfl : factor = 0 := Nat.eq_zero_of_not_pos h
    rfl

theorem checkSupported_of_hasSlots (h : kernel.HasSlots) : checkSupported kernel = .ok () := by
  cases kernel with
  | scalar dtype => rfl
  | vector dtype => rfl
  | blocked sweep factor =>
    obtain ⟨slots, rfl⟩ : ∃ slots, factor = slots + 1 := Nat.exists_eq_add_one.mpr h
    rfl

/-- Nor have copies of more units than shaders can index. -/
theorem plan_of_not_addressable (hslots : kernel.HasSlots)
    (hcount : ¬ count * kernelUnits kernel < word32Limit) (g : Geometry) :
    plan kernel g count =
      .error (.backendLimitation "wgpu" (operationName kernel)
        s!"{count} elements exceed 32-bit shader indexing") := by
  unfold plan checkAddressable
  rw [checkSupported_of_hasSlots hslots, if_neg hcount]
  rfl

/-- All others do. -/
theorem plan_of_addressable (hslots : kernel.HasSlots)
    (hcount : count * kernelUnits kernel < word32Limit) (g : Geometry) :
    plan kernel g count = .ok (dispatches kernel g.groups count) := by
  unfold plan checkAddressable
  rw [checkSupported_of_hasSlots hslots, if_pos hcount]
  rfl

end Plans

/-! ## How a launch is answered -/

section Launches

variable {client : Client} {kernel : Kernel} {launch : Launch} {w : World}

/-- What is wrong with a handle that an argument names, if anything is. -/
def World.handleProblem (w : World) (argument : String) (handle : Nat) : Option Error :=
  if (w.registry.find? handle).isSome then none
  else some (.invalidArgument argument (.unregistered handle))

theorem perform_checkLastError (client : Client) (w : World) :
    ((checkLastError client).perform w).1 = answerOf (w.flagAt client.queue) := by
  unfold checkLastError takeError World.flagAt
  rw [Effect.perform_ofFun]
  cases w.queues[client.queue]? with
  | none => rfl
  | some q =>
    simp only [ErrorFlag.take, Option.bind_some]
    cases q.flag.pending with
    | none => rfl
    | some e => rfl

theorem perform_lookup (argument : String) (handle : Nat) (w : World) :
    (discard (requireBuffer argument handle)).perform w =
      match w.handleProblem argument handle with
      | some e => (.error (.error e), w)
      | none => (.ok (), w) := by
  cases hfound : w.registry.find? handle with
  | none =>
    have hproblem : w.handleProblem argument handle =
        some (.invalidArgument argument (.unregistered handle)) := by
      simp [World.handleProblem, hfound]
    rw [hproblem]
    exact Effect.perform_bind_error (perform_requireBuffer_none hfound argument)
  | some buffer =>
    have hproblem : w.handleProblem argument handle = none := by simp [World.handleProblem, hfound]
    rw [hproblem]
    exact Effect.perform_bind_ok (perform_requireBuffer hfound argument)

/-- Both handles are looked up once a launch is admitted, and only then is it submitted. -/
theorem perform_enqueue {dispatches : List Dispatch}
    (hplan : plan launch.kernel launch.geometry launch.count = .ok dispatches) (w : World) :
    (enqueue client launch).perform w =
      match client.rejection launch with
      | some _ => (.ok (), (screen client launch w).2)
      | none =>
          match (w.handleProblem "src" launch.src).or (w.handleProblem "dst" launch.dst) with
          | some e => (.error (.error e), w)
          | none => (.ok (), submit client.queue
              { label := launch.kernel.name, src := launch.src, dst := launch.dst, dispatches } w) := by
  unfold enqueue
  rw [hplan]
  refine (Effect.perform_bind_ok (Effect.perform_pure dispatches w)).trans ?_
  cases hreport : client.rejection launch with
  | some e =>
    have hscreen : (Effect.updateGet (screen client launch)).perform w =
        (.ok false, (screen client launch w).2) := by
      unfold Client.rejection at hreport
      simp only [Effect.perform_updateGet, screen, hreport]
    exact Effect.perform_bind_ok hscreen
  | none =>
    have hscreen : (Effect.updateGet (screen client launch)).perform w = (.ok true, w) := by
      unfold Client.rejection at hreport
      simp only [Effect.perform_updateGet, screen, hreport]
    refine (Effect.perform_bind_ok hscreen).trans ?_
    simp only [if_true]
    have hsrc := perform_lookup "src" launch.src w
    have hdst := perform_lookup "dst" launch.dst w
    cases hsrcProblem : w.handleProblem "src" launch.src with
    | some e =>
      rw [hsrcProblem] at hsrc
      exact Effect.perform_bind_error hsrc
    | none =>
      rw [hsrcProblem] at hsrc
      rw [Effect.perform_bind_ok hsrc, Option.none_or]
      cases hdstProblem : w.handleProblem "dst" launch.dst with
      | some e =>
        rw [hdstProblem] at hdst
        exact Effect.perform_bind_error hdst
      | none =>
        rw [hdstProblem] at hdst
        exact Effect.perform_bind_ok hdst

end Launches

/-! ## How a checked copy is answered -/

section Copies

variable {client : Client} {strategy : Strategy} {src dst : Buffer Device} {count : Nat}
  {kernel : Kernel} {w : World}

/-- The launch of a kernel between two buffers. -/
def bufferLaunch (client : Client) (kernel : Kernel) (src dst : Buffer Device) (count : Nat) :
    Launch :=
  kernel.launch (backend.clientLimits client).maxGroups count src.pointer dst.pointer

/-- The first reason to refuse a checked copy, if there is one. Handles come last. -/
def refusal? (w : World) (client : Client) (strategy : Strategy) (src dst : Buffer Device)
    (count : Nat) : Option Error :=
  match Buffer.copyProblem backend client strategy src dst count with
  | some e => some e
  | none =>
      match strategy.kernel? src.dtype with
      | none => some (.unsupportedDType src.dtype "register-blocked copy")
      | some kernel =>
          (client.rejection (bufferLaunch client kernel src dst count)).or
            ((w.handleProblem "src" src.pointer).or (w.handleProblem "dst" dst.pointer))

/-- What shaders can index passes the checks that come before everything else. -/
theorem plan_eq_ok (hkernel : strategy.kernel? src.dtype = some (strategy.kernel src.dtype))
    (hcount : count * src.dtype.units < word32Limit) (g : Geometry) :
    plan (strategy.kernel src.dtype) g count =
      .ok (dispatches (strategy.kernel src.dtype) g.groups count) := by
  have hunits : kernelUnits (strategy.kernel src.dtype) = src.dtype.units :=
    congrArg DType.units (Strategy.dtype_kernel hkernel)
  exact plan_of_addressable (Strategy.launchable_of_kernel? hkernel).hasSlots (hunits ▸ hcount) g

/-- With an empty flag the entry point of a kernel answers with what the limits or the handles have
against its launch. -/
theorem answer_queueAndCheck (hqueue : client.queue < w.queues.size)
    (hflag : w.flagAt client.queue = none)
    (hkernel : strategy.kernel? src.dtype = some (strategy.kernel src.dtype))
    (hcount : count * src.dtype.units < word32Limit) :
    let launch := bufferLaunch client (strategy.kernel src.dtype) src dst count
    ((Copy.queueAndCheck backend client (strategy.kernel src.dtype) count src.pointer
        dst.pointer).perform w).1 =
      answerOf ((client.rejection launch).or
        ((w.handleProblem "src" src.pointer).or (w.handleProblem "dst" dst.pointer))) := by
  intro launch
  let told := w.tell (.enqueueCopy backendName launch.kernel count launch.geometry)
  have hgeometry : (strategy.kernel src.dtype).geometry (backend.clientLimits client).maxGroups count =
      .ok launch.geometry := Kernel.geometry_eq_ok (Strategy.launchable_of_kernel? hkernel)
  have hplan : plan launch.kernel launch.geometry launch.count = .ok _ :=
    plan_eq_ok hkernel hcount launch.geometry
  have henqueue : (enqueue client launch).perform told = _ := perform_enqueue hplan told
  have hentry : (Copy.queueAndCheck backend client (strategy.kernel src.dtype) count src.pointer
      dst.pointer).perform w =
      (enqueue client launch >>= fun _ => checkLastError client).perform told := by
    unfold Copy.queueAndCheck
    rw [hgeometry]
    exact (Effect.perform_bind_ok (Effect.perform_pure _ w)).trans
      (Effect.perform_bind_ok (Effect.perform_update _ w))
  rw [hentry]
  cases hreport : client.rejection launch with
  | some e =>
    -- The report goes into the flag and the query takes it out again.
    have hqueue' : client.queue < told.queues.size := hqueue
    have hrecorded : (screen client launch told).2.flagAt client.queue = some e :=
      flagAt_screen hqueue' hreport
    rw [hreport] at henqueue
    rw [Effect.perform_bind_ok henqueue, perform_checkLastError, hrecorded]
    rfl
  | none =>
    rw [hreport] at henqueue
    rw [Option.none_or]
    have htold : (told.handleProblem "src" launch.src).or (told.handleProblem "dst" launch.dst) =
        (w.handleProblem "src" src.pointer).or (w.handleProblem "dst" dst.pointer) := rfl
    rw [htold] at henqueue
    cases hhandles : (w.handleProblem "src" src.pointer).or (w.handleProblem "dst" dst.pointer) with
    | some e =>
      rw [hhandles] at henqueue
      exact congrArg Prod.fst (Effect.perform_bind_error henqueue)
    | none =>
      rw [hhandles] at henqueue
      have hclear : told.flagAt client.queue = none := hflag
      rw [Effect.perform_bind_ok henqueue, perform_checkLastError, flagAt_submit, hclear]

/-- A checked copy that shaders can index is answered with the first reason to refuse it. -/
theorem answer_copyWith (hqueue : client.queue < w.queues.size)
    (hflag : w.flagAt client.queue = none) (hcount : count * src.dtype.units < word32Limit) :
    ((Buffer.copyWith backend client strategy src dst count).perform w).1 =
      answerOf (refusal? w client strategy src dst count) := by
  unfold Buffer.copyWith refusal?
  cases hproblem : Buffer.copyProblem backend client strategy src dst count with
  | some e => rfl
  | none =>
    rw [Copy.withStrategy_eq]
    have hkernel := strategy.kernel?_eq src.dtype
    split at hkernel
    · rw [hkernel]
      exact congrArg Prod.fst (Effect.perform_bind_error (Effect.perform_fail _ w))
    · rw [hkernel]
      have hanswer : ((Copy.queueAndCheck backend client (strategy.kernel src.dtype) count src.pointer
          dst.pointer).perform w).1 = _ := answer_queueAndCheck hqueue hflag hkernel hcount
      -- The wait that follows has nothing to wait for.
      have hwait : ∀ e : Effect World Unit,
          ((e >>= fun _ => backend.synchronize client).perform w).1 = (e.perform w).1 := by
        intro e
        rw [Effect.perform_bind]
        cases e.perform w with
        | mk answer between =>
          cases answer with
          | ok _ => rfl
          | error failure => rfl
      exact (hwait _).trans hanswer

end Copies

end WebGpu

end DeviceCopy
