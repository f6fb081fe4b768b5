import DeviceCopy.Proofs.Emulated.CopyOutcome
import DeviceCopy.Proofs.WebGpu.Requests

/-!
# One request on two backends

The same two buffers are made on the emulated device and on a WebGPU device with the same limits, and
the same checked copy is asked for. Dtypes, lengths, strategies and grids are looked at by code that
knows no backend, so nearly always both devices copy or both refuse for the same sort of reason.

They part over buffers of no elements: those have no memory, and where the emulated device has nothing
to copy the WebGPU device looks for the buffer under the null handle (`fresh_copies_agree_iff`).
-/

set_option autoImplicit false

namespace DeviceCopy

namespace BufferPlan

variable {World Device Client : Type}

/-- Two buffers on one device, one made after the other. -/
def makeBoth (b : Backend World Device Client) (device : Device) (first second : BufferPlan) :
    Effect World (Buffer Device × Buffer Device) := do
  let src ← first.make b device
  let dst ← second.make b device
  return (src, dst)

/-- What making a buffer keeps holds between the two and after both. -/
theorem perform_makeBoth {b : Backend World Device Client} {device : Device} {P : World → Prop}
    (hkeeps : ∀ plan : BufferPlan, Effect.Keeps P (plan.make b device)) {first second : BufferPlan}
    {src dst : Buffer Device} {w w' : World} (hstart : P w)
    (h : (makeBoth b device first second).perform w = (.ok (src, dst), w')) :
    ∃ between, (P between ∧ (first.make b device).perform w = (.ok src, between)) ∧
      P w' ∧ (second.make b device).perform between = (.ok dst, w') := by
  have hbetween := hkeeps first w hstart
  unfold makeBoth at h
  cases hfirst : (first.make b device).perform w with
  | mk answer between =>
    rw [hfirst] at hbetween
    have hlast := hkeeps second between hbetween
    cases answer with
    | error failure =>
      rw [Effect.perform_bind_error hfirst] at h
      cases h
    | ok src' =>
      rw [Effect.perform_bind_ok hfirst] at h
      cases hsecond : (second.make b device).perform between with
      | mk answer' last =>
        rw [hsecond] at hlast
        cases answer' with
        | error failure =>
          rw [Effect.perform_bind_error hsecond] at h
          cases h
        | ok dst' =>
          rw [Effect.perform_bind_ok hsecond] at h
          cases h
          exact ⟨between, ⟨hbetween, rfl⟩, hlast, hsecond⟩

end BufferPlan

/-! ## Requests that differ in the backend only -/

/-- Two answers of one sort: success, or errors of one kind. -/
def SameSort : Except Failure Unit → Except Failure Unit → Prop
  | .ok _, .ok _ => True
  | .error (.error e), .error (.error e') => e.kind = e'.kind
  | _, _ => False

/-- A WebGPU device refuses what the emulated device does, for the same sort of reason, and beyond
that only what is wrong with the handles. -/
theorem refusals_agree {client : Emulated.Client} {gpu : WebGpu.Client}
    {src dst : Buffer Emulated.Device} {src' dst' : Buffer WebGpu.Device} {w : WebGpu.World}
    (hplaced : Buffer.WellPlaced Emulated.backend client false src dst)
    (hplaced' : Buffer.WellPlaced WebGpu.backend gpu false src' dst')
    (hlimits : gpu.limits = client.device.limits)
    (hlimits' : WebGpu.backend.clientLimits gpu = client.device.limits)
    (hsrc : src'.dtype = src.dtype ∧ src'.length = src.length)
    (hdst : dst'.dtype = dst.dtype ∧ dst'.length = dst.length) (strategy : Strategy) (count : Nat) :
    match Emulated.refusal? client strategy src dst count with
    | some e => ∃ e', WebGpu.refusal? w gpu strategy src' dst' count = some e' ∧ e.kind = e'.kind
    | none => WebGpu.refusal? w gpu strategy src' dst' count =
        (w.handleProblem "src" src'.pointer).or (w.handleProblem "dst" dst'.pointer) := by
  rw [Emulated.refusal?_eq, WebGpu.refusal?, hplaced.copyProblem_eq, hplaced'.copyProblem_eq, hsrc.1,
    hsrc.2, hdst.1, hdst.2]
  cases hshape : Buffer.shapeProblem false src.dtype dst.dtype src.length dst.length count with
  | some e => exact ⟨e, rfl, rfl⟩
  | none =>
    cases hkernel : strategy.kernel? src.dtype with
    | none => exact ⟨_, rfl, rfl⟩
    | some kernel =>
      -- The same grid is held against the same limits.
      let g := kernel.grid client.device.limits.maxGroups count
      have hreport : client.rejection (Emulated.bufferLaunch client kernel src dst count) =
          launchRejection Emulated.backendName kernel.name client.device.limits g := rfl
      have hreport' : gpu.rejection (WebGpu.bufferLaunch gpu kernel src' dst' count) =
          launchRejection WebGpu.backendName kernel.name client.device.limits g := by
        unfold WebGpu.Client.rejection WebGpu.bufferLaunch
        rw [hlimits, hlimits']
        rfl
      simp only [hreport, hreport']
      unfold launchRejection
      cases client.device.limits.check g with
      | ok _ => rfl
      | error e => exact ⟨_, rfl, rfl⟩

/-! ## Fresh buffers on the emulated device -/

namespace Emulated

/-- A world that a program can bring about, where memory is placed lawfully and a default client is
open. -/
structure World.Serves (entry : Limits × Client) (w : World) : Prop where
  reachable : World.Reachable w
  lawful : w.environment.place.Lawful
  opened : entry ∈ w.defaults

section Serving

variable {entry : Limits × Client} {w w' : World} {device : Device} {first second : BufferPlan}
  {src dst : Buffer Device}

theorem World.Serves.of_outline (h : w.Serves entry) (hreachable : World.Reachable w')
    (henvironment : w'.environment = w.environment) (hdefaults : w'.defaults = w.defaults) :
    w'.Serves entry where
  reachable := hreachable
  lawful := by
    rw [henvironment]
    exact h.lawful
  opened := by
    rw [hdefaults]
    exact h.opened

theorem World.Serves.defaultClient (hreachable : World.Reachable w)
    (hlawful : w.environment.place.Lawful) (device : Device) :
    (w.defaultClient device).2.Serves (device.limits, (w.defaultClient device).1) where
  reachable := hreachable.next (.defaultClient device w)
  lawful := by
    rw [(World.defaultClient_outline device w).1]
    exact hlawful
  opened := (hreachable.defaultsOpen.defaultClient device).2

theorem World.keeps_make (entry : Limits × Client) (device : Device) (plan : BufferPlan) :
    Effect.Keeps (World.Serves entry) (plan.make backend device) := by
  refine BufferPlan.keeps_make ?_ ?_ ?_ device plan
  · intro _ size w h
    obtain ⟨henvironment, -, hdefaults⟩ := World.allocate_outline size w
    exact h.of_outline (h.reachable.next (.allocate size w)) henvironment hdefaults
  · intro _ bytes pointer w h
    have hsame := World.sameOutline_copyToDevice bytes pointer w (.refl w)
    exact h.of_outline (h.reachable.next (.copyToDevice bytes pointer w)) hsame.environment
      hsame.defaults
  · intro _ pointer size w h
    obtain ⟨henvironment, -, hdefaults⟩ := World.deallocate_outline pointer size w
    exact h.of_outline (h.reachable.next (.deallocate pointer size w)) henvironment hdefaults

/-- Two buffers made for the default client of a device are held, well placed and within reach of the
client. -/
theorem placed_fresh (hreachable : World.Reachable w) (hlawful : w.environment.place.Lawful)
    (h : (BufferPlan.makeBoth backend device first second).perform (w.defaultClient device).2 =
      (.ok (src, dst), w')) :
    let client := (w.defaultClient device).1
    World.Reachable w' ∧ w'.heap.Sound ∧ client.lane < w'.lanes.size ∧
      client.device.limits = device.limits ∧ w'.Holds src ∧ w'.Holds dst ∧
      (src.dtype = first.contents.dtype ∧ src.length = first.contents.length) ∧
      (dst.dtype = second.contents.dtype ∧ dst.length = second.contents.length) ∧
      Buffer.WellPlaced backend client false src dst := by
  intro client
  have hstart := World.Serves.defaultClient hreachable hlawful device
  obtain ⟨between, ⟨hbetween, hfirst⟩, hafter, hsecond⟩ :=
    BufferPlan.perform_makeBoth (World.keeps_make _ device) hstart h
  have hopen := hafter.reachable.defaultsOpen
  have hheap := hafter.reachable.heapSound hafter.lawful
  have hsrc := World.made_plan (hstart.reachable.heapSound hstart.lawful) hstart.lawful hfirst
  have hdst :=
    World.made_plan (hbetween.reachable.heapSound hbetween.lawful) hbetween.lawful hsecond
  obtain ⟨hholds, hapart⟩ := hdst.others src hsrc.holds
  have hplaced : Buffer.WellPlaced backend client false src dst :=
    ⟨rfl, rfl, hholds.aligned hheap, hdst.holds.aligned hheap,
      Buffer.same_iff_of_separate (hholds.pointer_eq_zero_iff hheap) nofun (fun _ => hapart)⟩
  exact ⟨hafter.reachable, hheap, hopen.lane _ hafter.opened, hopen.limits _ hafter.opened, hholds,
    hdst.holds, ⟨hsrc.dtype, hsrc.length⟩, ⟨hdst.dtype, hdst.length⟩, hplaced⟩

end Serving

end Emulated

/-! ## Fresh buffers on a WebGPU device -/

namespace WebGpu

/-- A world where default clients are in order, one of them is open, and the adapters are those that
there were. -/
structure World.Serves (adapterAt : Nat → Adapter) (entry : Nat × Client) (w : World) : Prop where
  defaultsOpen : w.DefaultsOpen
  adapters : w.adapterAt = adapterAt
  opened : entry ∈ w.defaults

section Serving

variable {adapterAt : Nat → Adapter} {entry : Nat × Client} {w w' : World} {device : Device}
  {first second : BufferPlan} {src dst : Buffer Device}

theorem World.Serves.of_sameOutline (h : w.Serves adapterAt entry) (hsame : w.SameOutline w') :
    w'.Serves adapterAt entry where
  defaultsOpen := h.defaultsOpen.of_sameOutline hsame
  adapters := hsame.adapterAt.trans h.adapters
  opened := by
    rw [hsame.defaults]
    exact h.opened

theorem World.keeps_make (adapterAt : Nat → Adapter) (entry : Nat × Client) (device : Device)
    (plan : BufferPlan) : Effect.Keeps (World.Serves adapterAt entry) (plan.make backend device) := by
  have hregistry : ∀ (w : World) (registry : Registry), w.Serves adapterAt entry →
      World.Serves adapterAt entry { w with registry } :=
    fun _ _ h => h.of_sameOutline ⟨rfl, rfl, rfl⟩
  have hclient : ∀ (device : Device) (w : World), w.Serves adapterAt entry →
      (w.defaultClient device).2.Serves adapterAt entry := by
    intro device w h
    obtain ⟨hopen, -, hadapters⟩ := h.defaultsOpen.defaultClient device
    exact ⟨hopen, hadapters.trans h.adapters, w.mem_defaultClient h.opened device⟩
  refine BufferPlan.keeps_make ?_ ?_ ?_ device plan
  · exact fun device size => keeps_allocateOn hregistry hclient device size
  · exact fun device bytes handle => keeps_copyToDevice hregistry hclient device bytes handle
  · intro device handle size w h
    exact keeps_deallocateOn hregistry hclient (fun _ _ h => h.of_sameOutline ⟨rfl, rfl, rfl⟩) device
      handle h

/-- Two buffers made for the default client of a device are registered under two handles, unless they
are empty, and the client keeps to the limits of its adapter. -/
theorem placed_fresh (hreachable : World.Reachable w) (hroom : w.Ready 2)
    (h : (BufferPlan.makeBoth backend device first second).perform (w.defaultClient device).2 =
      (.ok (src, dst), w')) :
    let client := (w.defaultClient device).1
    client.queue < w'.queues.size ∧
      client.limits = (w.adapterAt device.index).limits.launchLimits ∧
      backend.clientLimits client = (w.adapterAt device.index).limits.launchLimits ∧
      storage.Holds w' src ∧ storage.Holds w' dst ∧
      (src.dtype = first.contents.dtype ∧ src.length = first.contents.length) ∧
      (dst.dtype = second.contents.dtype ∧ dst.length = second.contents.length) ∧
      Buffer.WellPlaced backend client false src dst := by
  intro client
  obtain ⟨hopen, hentry, hadapters⟩ := hreachable.defaultsOpen.defaultClient device
  have hstart : (w.defaultClient device).2.Serves w.adapterAt (device.index, client) :=
    ⟨hopen, hadapters, hentry⟩
  have hready : storage.Ready 2 (w.defaultClient device).2 :=
    hroom.of_next_eq (congrArg Registry.next (registry_defaultClient device w))
  obtain ⟨between, ⟨-, hfirst⟩, hafter, hsecond⟩ :=
    BufferPlan.perform_makeBoth (World.keeps_make _ _ device) hstart h
  have hmadeSrc := BufferPlan.makes hready device first
  rw [hfirst] at hmadeSrc
  obtain ⟨⟨hdtype, hlength, hhome⟩, hready', hholds, -⟩ := hmadeSrc
  have hmadeDst := BufferPlan.makes hready' device second
  rw [hsecond] at hmadeDst
  obtain ⟨⟨hdtype', hlength', hhome'⟩, hready'', hholds', -, hkept, hapart⟩ := hmadeDst
  have hsrc := (hkept src hholds).1
  have hdevice : client.device =
      { index := device.index, adapter := some (w'.adapterAt device.index) } :=
    hafter.defaultsOpen.device _ hafter.opened
  have hown : client.limits = (w.adapterAt device.index).limits.launchLimits := by
    rw [← hafter.adapters]
    exact hafter.defaultsOpen.limits _ hafter.opened
  have hstated : backend.clientLimits client = (w.adapterAt device.index).limits.launchLimits := by
    change client.device.limits = _
    rw [hdevice, hafter.adapters]
    rfl
  have hindex : client.device.index = device.index := by rw [hdevice]
  have hplaced : Buffer.WellPlaced backend client false src dst :=
    ⟨hindex.trans (congrArg Device.index hhome).symm,
      hindex.trans (congrArg Device.index hhome').symm, rfl, rfl,
      Buffer.same_iff_of_separate (storage.pointer_eq_zero_iff hready'' hsrc) nofun
        (fun _ => hapart src hholds)⟩
  exact ⟨hafter.defaultsOpen.queue _ hafter.opened, hown, hstated, hsrc, hholds', ⟨hdtype, hlength⟩,
    ⟨hdtype', hlength'⟩, hplaced⟩

end Serving

/-- The handle of a buffer is in order unless the buffer is empty. -/
theorem handleProblem_of_holds {w : World} {buffer : Buffer Device} (h : storage.Holds w buffer)
    (argument : String) :
    w.handleProblem argument buffer.pointer =
      if buffer.length = 0 then some (.invalidArgument argument (.unregistered 0)) else none := by
  have hnull : buffer.pointer = 0 ↔ buffer.length = 0 := by
    rw [Registry.Stored.handle_eq_zero_iff h, Buffer.sizeInBytes, Nat.mul_eq_zero]
    have hsize := buffer.dtype.size_pos
    omega
  split
  · next hempty =>
    rw [hnull.mpr hempty]
    rfl
  · next hlength =>
    obtain ⟨found, hfound, -⟩ := Registry.Stored.exists_buffer h (mt hnull.mp hlength)
    unfold World.handleProblem
    rw [hfound]
    rfl

end WebGpu

/-! ## The comparison -/

section Comparison

variable {w w' : Emulated.World} {v v' : WebGpu.World} {device : Emulated.Device}
  {adapter : WebGpu.Device} {first second : BufferPlan} {src dst : Buffer Emulated.Device}
  {src' dst' : Buffer WebGpu.Device}

/-- For fresh buffers and default clients, under equal limits, the two devices answer the same checked
copy alike, except where the emulated device copies nothing between buffers of which one is empty:
then the WebGPU device reports that there is no buffer under the null handle. -/
theorem fresh_copies_agree_iff (hreachable : Emulated.World.Reachable w)
    (hlawful : w.environment.place.Lawful) (hreachable' : WebGpu.World.Reachable v)
    (hroom : v.Ready 2)
    (hlimits : (v.adapterAt adapter.index).limits.launchLimits = device.limits)
    (hmade : (BufferPlan.makeBoth Emulated.backend device first second).perform
      (w.defaultClient device).2 = (.ok (src, dst), w'))
    (hmade' : (BufferPlan.makeBoth WebGpu.backend adapter first second).perform
      (v.defaultClient adapter).2 = (.ok (src', dst'), v'))
    (hflag : w'.flagAt (w.defaultClient device).1.lane = none)
    (hfault : (w'.settled (w.defaultClient device).1.lane).2 = none)
    (hflag' : v'.flagAt (v.defaultClient adapter).1.queue = none)
    (strategy : Strategy) (count : Nat)
    (hcount : count * first.contents.dtype.units ≤ 2 ^ 32 - 1) :
    let answer := ((Buffer.copyWith Emulated.backend (w.defaultClient device).1 strategy src dst
      count).perform w').1
    let answer' := ((Buffer.copyWith WebGpu.backend (v.defaultClient adapter).1 strategy src' dst'
      count).perform v').1
    let anyEmpty := first.contents.length = 0 ∨ second.contents.length = 0
    (SameSort answer answer' ↔ ¬ (answer = .ok () ∧ anyEmpty)) ∧
      (answer = .ok () → anyEmpty →
        answer' = .error (.error (.invalidArgument
          (if first.contents.length = 0 then "src" else "dst") (.unregistered 0)))) := by
  intro answer answer' anyEmpty
  obtain ⟨hafter, hheap, hlane, hheld, hsrc, hdst, hshape, hshape₂, hplaced⟩ :=
    Emulated.placed_fresh hreachable hlawful hmade
  obtain ⟨hqueue, hown, hstated, hsrc', hdst', hshape', hshape₂', hplaced'⟩ :=
    WebGpu.placed_fresh hreachable' hroom hmade'
  have hunits : count * src'.dtype.units < WebGpu.word32Limit := by
    rw [hshape'.1]
    exact Nat.lt_of_le_of_lt hcount (by decide)
  have hagree := refusals_agree (w := v') hplaced hplaced' (hown.trans (hlimits.trans hheld.symm))
    (hstated.trans (hlimits.trans hheld.symm))
    ⟨hshape'.1.trans hshape.1.symm, hshape'.2.trans hshape.2.symm⟩
    ⟨hshape₂'.1.trans hshape₂.1.symm, hshape₂'.2.trans hshape₂.2.symm⟩ strategy count
  have hanswer : answer = answerOf _ :=
    Emulated.answer_copyWith hafter.sound hheap hlane hflag hfault hsrc hdst
  have hanswer' : answer' = answerOf _ := WebGpu.answer_copyWith hqueue hflag' hunits
  rw [hanswer, hanswer']
  cases hrefusal : Emulated.refusal? (w.defaultClient device).1 strategy src dst count with
  | some e =>
    rw [hrefusal] at hagree
    obtain ⟨e', he', hkind⟩ := hagree
    rw [he']
    exact ⟨iff_of_true hkind (fun h => nomatch h.1), fun h => nomatch h⟩
  | none =>
    rw [hrefusal] at hagree
    rw [hagree, WebGpu.handleProblem_of_holds hsrc', WebGpu.handleProblem_of_holds hdst', hshape'.2,
      hshape₂'.2]
    by_cases hfirst : first.contents.length = 0
    · simp [hfirst, anyEmpty, answerOf, SameSort]
    · by_cases hsecond : second.contents.length = 0
      · simp [hfirst, hsecond, anyEmpty, answerOf, SameSort]
      · simp [hfirst, hsecond, anyEmpty, answerOf, SameSort]

end Comparison

/-! ## Runs on an adapter that accepts everything -/

/-- An emulated device with the limits of an adapter that accepts everything. -/
def noopDevice : Emulated.Device := .ofLimits WebGpu.Adapter.noop.limits.launchLimits

/-- Two buffers made on an emulated device that nobody has used, with what is left. -/
def emulatedRun (first second : BufferPlan) :
    Except Failure (Buffer Emulated.Device × Buffer Emulated.Device) × Emulated.World :=
  (BufferPlan.makeBoth Emulated.backend noopDevice first second).perform
    ((Emulated.World.initial .prompt).defaultClient noopDevice).2

/-- Two buffers made on an adapter that nobody has used, with what is left. -/
def webGpuRun (first second : BufferPlan) :
    Except Failure (Buffer WebGpu.Device × Buffer WebGpu.Device) × WebGpu.World :=
  (BufferPlan.makeBoth WebGpu.backend (.ofIndex 0) first second).perform
    ((WebGpu.World.initial (fun _ => .noop) 1).defaultClient (.ofIndex 0)).2

theorem fresh_copies_agree_floats :
    let src : Buffer Emulated.Device := ⟨64, 4, .f32, noopDevice⟩
    let dst : Buffer Emulated.Device := ⟨128, 4, .f32, noopDevice⟩
    let src' : Buffer WebGpu.Device := ⟨1, 4, .f32, .ofIndex 0⟩
    let dst' : Buffer WebGpu.Device := ⟨2, 4, .f32, .ofIndex 0⟩
    let w := (emulatedRun (.zeros .f32 4) (.zeros .f32 4)).2
    let v := (webGpuRun (.zeros .f32 4) (.zeros .f32 4)).2
    SameSort
      ((Buffer.copyWith Emulated.backend ⟨0, noopDevice⟩ .blocked src dst 4).perform w).1
      ((Buffer.copyWith WebGpu.backend ⟨0, ⟨0, some .noop⟩, noopDevice.limits⟩ .blocked src' dst'
        4).perform v).1 := by
  intro src dst src' dst' w v
  have hmade : emulatedRun (.zeros .f32 4) (.zeros .f32 4) = (.ok (src, dst), w) := rfl
  have hmade' : webGpuRun (.zeros .f32 4) (.zeros .f32 4) = (.ok (src', dst'), v) := rfl
  have hcompared := fresh_copies_agree_iff (.initial .prompt) Placement.ascending_lawful
    (.initial (fun _ => .noop) 1) ⟨Nat.one_pos, by decide⟩ rfl hmade hmade' rfl rfl rfl .blocked 4
    (by decide)
  refine hcompared.1.mpr ?_
  rintro ⟨-, hempty | hempty⟩
  · cases hempty
  · cases hempty

/-- The emulated device copies nothing between two empty buffers. The WebGPU device refuses to, as
there is no buffer under the null handle. -/
theorem empty_copies_differ :
    let src : Buffer Emulated.Device := ⟨0, 0, .f32, noopDevice⟩
    let src' : Buffer WebGpu.Device := ⟨0, 0, .f32, .ofIndex 0⟩
    let run := emulatedRun (.zeros .f32 0) (.zeros .f32 0)
    let run' := webGpuRun (.zeros .f32 0) (.zeros .f32 0)
    let client := ((Emulated.World.initial .prompt).defaultClient noopDevice).1
    let gpu := ((WebGpu.World.initial (fun _ => .noop) 1).defaultClient (.ofIndex 0)).1
    let answer := ((Buffer.copyWith Emulated.backend client .scalar src src 0).perform run.2).1
    let answer' := ((Buffer.copyWith WebGpu.backend gpu .scalar src' src' 0).perform run'.2).1
    (run.1 = .ok (src, src) ∧ run.2.flagAt client.lane = none ∧ (run.2.settled client.lane).2 = none) ∧
    (run'.1 = .ok (src', src') ∧ run'.2.flagAt gpu.queue = none) ∧
    client.device.limits = gpu.limits ∧ answer = .ok () ∧
    answer' = .error (.error (.invalidArgument "src" (.unregistered 0))) ∧ ¬ SameSort answer answer' :=
  ⟨⟨rfl, rfl, rfl⟩, ⟨rfl, rfl⟩, rfl, rfl, rfl, fun h => h⟩

end DeviceCopy
