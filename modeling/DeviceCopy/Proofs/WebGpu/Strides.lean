import DeviceCopy.Proofs.Launch.Bounds
import DeviceCopy.Proofs.WebGpu.Coverage
import DeviceCopy.Proofs.WebGpu.ShaderLoops

/-!
# Strides of submitted dispatches

A thread of a dispatch begins at an index of its own and steps on by the size of the grid; a shader
computes both in 32 bits. The grid of an entry point covers the copy with less than one group to
spare, so both nearly always fit. They do not where the count is so close to the largest 32-bit
number that covering it takes all of the 32-bit numbers: then the stride is zero, and the loops of
the scalar shader never end. `strides_fit_iff` says for which copies that is, on which devices, and
what holds of all others.
-/

set_option autoImplicit false

namespace DeviceCopy

/-! ## Grids of shaders -/

namespace Kernel

/-- How much one group adds to the stride: elements or wide words, whichever the shader counts. -/
def groupStride : Kernel → Nat
  | scalar _ | vector _ => 64
  | blocked _ factor => factor * 64

/-- The stride of the shader does not fit into 32 bits, on a device that runs `maxGroups` groups. -/
def StrideOverruns (maxGroups n : Nat) : Kernel → Prop
  | scalar dtype => dtype.size = 4 ∧ 2 ^ 32 - 64 < n ∧ 2 ^ 26 ≤ maxGroups
  | vector _ => False
  | blocked _ factor => 2 ^ 26 ≤ factor

/-- The first index of some thread does not fit into 32 bits. The threads that move what is past the
last whole word begin there, and the grid has threads for the whole copy. -/
def FirstOverruns (maxGroups n : Nat) : Kernel → Prop
  | vector dtype => ¬ dtype.lanes ∣ n ∧
      2 ^ 32 < n / dtype.lanes * dtype.lanes + (vector dtype).gridGroups maxGroups n * 64
  | _ => False

variable {kernel : Kernel} {dtype : DType} {sweep : Sweep} {factor maxGroups n : Nat}

theorem groupStride_pos (h : kernel.HasSlots) : 0 < kernel.groupStride := by
  cases kernel with
  | scalar dtype => exact Nat.zero_lt_succ 63
  | vector dtype => exact Nat.zero_lt_succ 63
  | blocked sweep factor => exact Nat.mul_pos h (by decide)

theorem gridGroups_scalar (dtype : DType) (maxGroups n : Nat) :
    (scalar dtype).gridGroups maxGroups n = min (max ((n + 63) / 64) 1) (max maxGroups 1) := rfl

/-- Elements are words in pairs or fours, so the grid of a vector copy is small. -/
theorem gridGroups_vector_mul_lt (h : n * WebGpu.shaderUnits (vector dtype) < 2 ^ 32) :
    (vector dtype).gridGroups maxGroups n * 64 < 2 ^ 32 := by
  have hcover : coveringGroups n (64 * dtype.lanes) * (64 * dtype.lanes) ≤ n + 64 * dtype.lanes :=
    coveringGroups_mul_le _ _
  have hle : (vector dtype).gridGroups maxGroups n ≤ coveringGroups n (64 * dtype.lanes) :=
    gridGroups_le _ _ _
  have hlanes : dtype.lanes = 2 ∨ dtype.lanes = 4 := by cases dtype <;> decide
  have hcount : n < 2 ^ 32 := WebGpu.count_lt_of_addressable h
  rcases hlanes with htwo | hfour
  · rw [htwo] at hcover hle
    omega
  · rw [hfour] at hcover hle
    omega

/-- The grid of a staged copy takes more than one group only as long as the groups are small. -/
theorem gridGroups_blocked_mul_lt_iff (hfactor : 0 < factor) (hcount : n < 2 ^ 32) :
    (blocked sweep factor).gridGroups maxGroups n * (factor * 64) < 2 ^ 32 ↔ factor < 2 ^ 26 := by
  have hpos := gridGroups_pos maxGroups n (blocked sweep factor)
  have hle := gridGroups_le maxGroups n (blocked sweep factor)
  rw [groupElements_blocked] at hle
  generalize (blocked sweep factor).gridGroups maxGroups n = groups at hpos hle
  constructor
  · intro hlt
    have hone : 1 * (factor * 64) ≤ groups * (factor * 64) := Nat.mul_le_mul_right _ hpos
    omega
  · intro hsmall
    by_cases hsingle : groups = 1
    · rw [hsingle]
      omega
    · -- All groups but one are full, so two or more take no more than twice the copy.
      have htwo : 2 * (256 * factor) ≤ groups * (256 * factor) := Nat.mul_le_mul_right _ (by omega)
      have hcover : groups * (256 * factor) ≤ n + 256 * factor :=
        (Nat.mul_le_mul_right _ hle).trans (coveringGroups_mul_le _ _)
      have hwords : groups * (256 * factor) = 4 * (groups * (factor * 64)) := by ring
      omega

/-- A grid never has more groups than there are 32-bit numbers. -/
theorem gridGroups_lt (hk : kernel.Launchable) (hcount : n < 2 ^ 32) :
    kernel.gridGroups maxGroups n < 2 ^ 32 := by
  have hpos := gridGroups_pos maxGroups n kernel
  have hwide : 64 ≤ kernel.groupElements := Nat.le_mul_of_pos_right 64 hk.stepElements_pos
  have hcover : kernel.gridGroups maxGroups n * kernel.groupElements ≤ n + kernel.groupElements :=
    (Nat.mul_le_mul_right _ (gridGroups_le maxGroups n kernel)).trans (coveringGroups_mul_le _ _)
  obtain ⟨before, hbefore⟩ := Nat.exists_eq_add_one.mpr hpos
  rw [hbefore, Nat.succ_mul] at hcover
  have hsparse : before * 64 ≤ before * kernel.groupElements := Nat.mul_le_mul_left _ hwide
  omega

/-- Which strides fit. -/
theorem gridGroups_mul_groupStride_lt_iff (hslots : kernel.HasSlots)
    (hcount : n * WebGpu.shaderUnits kernel < 2 ^ 32) :
    kernel.gridGroups maxGroups n * kernel.groupStride < 2 ^ 32 ↔
      ¬ kernel.StrideOverruns maxGroups n := by
  cases kernel with
  | scalar dtype =>
    have hgrid := gridGroups_scalar dtype maxGroups n
    have hsize : dtype.size = 4 ∨ dtype.size = 8 := by cases dtype <;> decide
    have hunits : WebGpu.shaderUnits (scalar dtype) = dtype.size / 4 := rfl
    have hstride : (scalar dtype).groupStride = 64 := rfl
    rw [hunits] at hcount
    rw [hgrid, hstride, StrideOverruns]
    rcases hsize with hfour | height
    · rw [hfour] at hcount ⊢
      omega
    · rw [height] at hcount ⊢
      omega
  | vector dtype => exact iff_of_true (gridGroups_vector_mul_lt hcount) id
  | blocked sweep factor =>
    have hone : WebGpu.shaderUnits (blocked sweep factor) = 1 := rfl
    rw [hone, Nat.mul_one] at hcount
    exact (gridGroups_blocked_mul_lt_iff hslots hcount).trans Nat.not_le.symm

/-- Where the stride of a scalar copy does not fit, it is too large by one. -/
theorem gridGroups_of_strideOverruns (hcount : n * WebGpu.shaderUnits (scalar dtype) < 2 ^ 32)
    (h : (scalar dtype).StrideOverruns maxGroups n) :
    (scalar dtype).gridGroups maxGroups n * 64 = 2 ^ 32 := by
  have hgrid := gridGroups_scalar dtype maxGroups n
  have hbelow : n < 2 ^ 32 := WebGpu.count_lt_of_addressable hcount
  obtain ⟨-, hlarge, hgroups⟩ := h
  rw [hgrid]
  omega

end Kernel

namespace WebGpu

/-! ## What threads compute -/

namespace Shader

/-- By how much a thread steps on, on so many groups. -/
def stride (groups : Nat) : Shader → Nat
  | scalar | vector => groups * 64
  | blocked factor => factor * groups * 64

/-- Where the thread in a given lane of a given group begins, if the dispatch begins at `start`. -/
def firstIndex (start group lane : Nat) : Shader → Nat
  | scalar => start + (group * 64 + lane)
  | vector => group * 64 + lane
  | blocked factor => lane + factor * group * 64

/-- What the loop of a thread runs up to. Staged copies count whole words. -/
def loopBound (count : Nat) : Shader → Nat
  | scalar | vector => count
  | blocked _ => count / 4

variable {kernel : Kernel} {shader : Shader} {count : Nat}

theorem stride_eq (h : shader ∈ shadersFor kernel count) (groups : Nat) :
    shader.stride groups = groups * kernel.groupStride := by
  cases kernel with
  | scalar dtype => rw [List.mem_singleton.mp h]; rfl
  | blocked sweep factor =>
    obtain rfl : shader = blocked factor := List.mem_singleton.mp h
    change factor * groups * 64 = groups * (factor * 64)
    ring
  | vector dtype =>
    -- The second shader of a vector copy steps on as the first one does.
    simp only [shadersFor] at h
    split at h
    · rw [List.mem_singleton.mp h]; rfl
    · rcases List.mem_pair.mp h with rfl | rfl
      · rfl
      · rfl

/-- The last thread of the last group begins last. -/
theorem firstIndex_le {start group lane groups : Nat} (hgroup : group < groups)
    (hlane : lane < 64) :
    shader.firstIndex start group lane ≤ shader.firstIndex start (groups - 1) 63 := by
  have hbefore : group ≤ groups - 1 := Nat.le_sub_one_of_lt hgroup
  cases shader with
  | scalar => simp only [firstIndex]; omega
  | vector => simp only [firstIndex]; omega
  | blocked factor =>
    have hsteps : factor * group * 64 ≤ factor * (groups - 1) * 64 :=
      Nat.mul_le_mul_right _ (Nat.mul_le_mul_left _ hbefore)
    simp only [firstIndex]
    omega

end Shader

namespace Dispatch

/-- By how much the threads of a dispatch step on. -/
def stride (d : Dispatch) : Nat := d.shader.stride d.groups

/-- Where the thread in a given lane of a given group begins. -/
def firstIndex (d : Dispatch) (group lane : Nat) : Nat :=
  d.shader.firstIndex d.params.start group lane

/-- The loop of that thread, as its shader computes it in 32 bits. A single pass uses no more of it
than the first index. -/
def run (d : Dispatch) (group lane : Nat) : IndexRun :=
  match d.shader with
  | .scalar =>
      { first := .ofNat d.params.start + (.ofNat group * 64 + .ofNat lane)
        stride := .ofNat d.groups * 64, bound := .ofNat d.params.count }
  | .vector =>
      { first := .ofNat group * 64 + .ofNat lane
        stride := .ofNat d.groups * 64, bound := .ofNat d.params.count }
  | .blocked factor =>
      { first := .ofNat lane + .ofNat factor * .ofNat group * 64
        stride := .ofNat factor * .ofNat d.groups * 64, bound := .ofNat d.params.count / 4 }

variable {d : Dispatch}

/-- What a shader computes is what there is to compute, cut to 32 bits. -/
theorem run_eq (hcount : d.params.count < word32Limit) (group lane : Nat) :
    d.run group lane =
      { first := .ofNat (d.firstIndex group lane), stride := .ofNat d.stride
        bound := .ofNat (d.shader.loopBound d.params.count) } := by
  unfold run firstIndex stride
  cases d.shader with
  | scalar => simp only [Shader.firstIndex, Shader.stride, UInt32.ofNat_add, UInt32.ofNat_mul]; rfl
  | vector => simp only [Shader.firstIndex, Shader.stride, UInt32.ofNat_add, UInt32.ofNat_mul]; rfl
  | blocked factor =>
    have hquarter : UInt32.ofNat (d.params.count / 4) = UInt32.ofNat d.params.count / 4 :=
      UInt32.ofNat_div hcount (by decide)
    simp only [Shader.firstIndex, Shader.stride, Shader.loopBound, UInt32.ofNat_add,
      UInt32.ofNat_mul, hquarter]
    rfl

/-- A positive stride that fits into 32 bits brings every loop to an end, by steps of its size. -/
theorem run_of_stride_lt (hcount : d.params.count < word32Limit) (hpos : 0 < d.stride)
    (hfits : d.stride < 2 ^ 32) (group lane : Nat) :
    (d.run group lane).stride ≠ 0 ∧ (d.run group lane).Ends ∧
      ∀ round i, (d.run group lane).index round = some i →
        i.toNat = (d.run group lane).first.toNat + round * d.stride := by
  have hstride : (d.run group lane).stride.toNat = d.stride := by
    rw [run_eq hcount]
    exact UInt32.toNat_ofNat_of_lt' hfits
  have hnonzero : (d.run group lane).stride ≠ 0 := by
    intro hzero
    rw [hzero] at hstride
    exact Nat.ne_of_gt hpos hstride.symm
  refine ⟨hnonzero, IndexRun.ends_iff.mpr (Or.inr hnonzero), fun round i hi => ?_⟩
  rw [← hstride]
  exact (IndexRun.index_eq_some_iff.mp hi).1

/-- With a stride of all 32-bit numbers, no thread that has something to do comes to an end. -/
theorem not_ends_of_stride_eq (hcount : d.params.count < word32Limit) (hstride : d.stride = 2 ^ 32)
    {group lane : Nat} (hfirst : d.firstIndex group lane < d.shader.loopBound d.params.count) :
    (d.run group lane).stride = 0 ∧ ¬ (d.run group lane).Ends := by
  have hbound : d.shader.loopBound d.params.count < 2 ^ 32 := by
    cases d.shader with
    | scalar => exact hcount
    | vector => exact hcount
    | blocked factor => exact Nat.lt_of_le_of_lt (Nat.div_le_self _ 4) hcount
  have hzero : (d.run group lane).stride = 0 := by
    rw [run_eq hcount, hstride]
    rfl
  have hbelow : (d.run group lane).first < (d.run group lane).bound := by
    rw [run_eq hcount, UInt32.lt_iff_toNat_lt]
    simp only
    rw [UInt32.toNat_ofNat_of_lt' (Nat.lt_trans hfirst hbound), UInt32.toNat_ofNat_of_lt' hbound]
    exact hfirst
  refine ⟨hzero, fun hends => ?_⟩
  rcases IndexRun.ends_iff.mp hends with hpast | hnonzero
  · exact hpast hbelow
  · exact hnonzero hzero

end Dispatch

/-! ## The dispatches of a launch on its own grid -/

section Grids

variable {kernel : Kernel} {maxGroups count groups : Nat} {shader : Shader} {d : Dispatch}

theorem shader_mem_shadersFor (h : d ∈ dispatches kernel groups count) :
    d.shader ∈ shadersFor kernel count := by
  rw [← shaders_dispatches kernel groups count]
  exact List.mem_map_of_mem h

theorem exists_mem_dispatches (h : shader ∈ shadersFor kernel count) (groups : Nat) :
    ∃ d ∈ dispatches kernel groups count, d.shader = shader := by
  rw [← shaders_dispatches kernel groups count] at h
  exact List.mem_map.mp h

theorem shadersFor_ne_nil (kernel : Kernel) (count : Nat) : shadersFor kernel count ≠ [] := by
  cases kernel with
  | scalar dtype => exact List.cons_ne_nil _ _
  | blocked sweep factor => exact List.cons_ne_nil _ _
  | vector dtype =>
    simp only [shadersFor]
    split
    · exact List.cons_ne_nil _ _
    · exact List.cons_ne_nil _ _

/-- The dispatches all step on by the size of the grid. -/
theorem stride_of_mem (h : d ∈ dispatches kernel groups count)
    (hd : d.Lossless kernel groups count) :
    d.stride = groups * kernel.groupStride := by
  unfold Dispatch.stride
  rw [hd.groups]
  exact Shader.stride_eq (shader_mem_shadersFor h) groups

/-- The strides of all dispatches fit if the size of the grid does. -/
theorem stride_dispatches_lt_iff
    (h : ∀ d ∈ dispatches kernel groups count, d.Lossless kernel groups count) :
    (∀ d ∈ dispatches kernel groups count, d.stride < 2 ^ 32) ↔
      groups * kernel.groupStride < 2 ^ 32 := by
  constructor
  · intro hall
    -- There is a dispatch to ask.
    obtain ⟨shader, hshader⟩ := List.exists_mem_of_ne_nil _ (shadersFor_ne_nil kernel count)
    obtain ⟨d, hd, -⟩ := exists_mem_dispatches hshader groups
    exact stride_of_mem hd (h d hd) ▸ hall d hd
  · intro hlt d hd
    exact stride_of_mem hd (h d hd) ▸ hlt

/-- All threads begin in 32 bits if the last thread of each shader does. -/
theorem firstIndex_dispatches_lt_iff (hpos : 0 < groups)
    (h : ∀ d ∈ dispatches kernel groups count, d.Lossless kernel groups count) :
    (∀ d ∈ dispatches kernel groups count, ∀ group < d.groups, ∀ lane < 64,
      d.firstIndex group lane < 2 ^ 32) ↔
      ∀ shader ∈ shadersFor kernel count,
        shader.firstIndex (shader.firstElement kernel count) (groups - 1) 63 < 2 ^ 32 := by
  have hfirst : ∀ d ∈ dispatches kernel groups count, ∀ group lane, d.firstIndex group lane =
      d.shader.firstIndex (d.shader.firstElement kernel count) group lane := by
    intro d hd group lane
    unfold Dispatch.firstIndex
    rw [(h d hd).first]
  constructor
  · intro hall shader hshader
    obtain ⟨d, hd, rfl⟩ := exists_mem_dispatches hshader groups
    have hlast : groups - 1 < d.groups := (h d hd).groups.symm ▸ Nat.sub_one_lt_of_lt hpos
    exact hfirst d hd (groups - 1) 63 ▸ hall d hd (groups - 1) hlast 63 (by decide)
  · intro hall d hd group hgroup lane hlane
    rw [hfirst d hd]
    exact Nat.lt_of_le_of_lt (Shader.firstIndex_le ((h d hd).groups ▸ hgroup) hlane)
      (hall d.shader (shader_mem_shadersFor hd))

/-- Which first indices fit. -/
theorem firstIndex_lt_iff (hslots : kernel.HasSlots)
    (hcount : count * shaderUnits kernel < word32Limit) :
    (∀ shader ∈ shadersFor kernel count,
      shader.firstIndex (shader.firstElement kernel count)
        (kernel.gridGroups maxGroups count - 1) 63 < 2 ^ 32) ↔
      ¬ kernel.FirstOverruns maxGroups count := by
  have hpos : 0 < kernel.gridGroups maxGroups count := Kernel.gridGroups_pos _ _ _
  have hbelow : count < 2 ^ 32 := count_lt_of_addressable hcount
  cases kernel with
  | scalar dtype =>
    -- The grid has no more threads than there are 32-bit numbers.
    have hgrid := Kernel.gridGroups_scalar dtype maxGroups count
    refine iff_of_true (fun shader hshader => ?_) id
    rw [List.mem_singleton.mp hshader]
    change 0 + (((Kernel.scalar dtype).gridGroups maxGroups count - 1) * 64 + 63) < 2 ^ 32
    rw [hgrid]
    omega
  | blocked sweep factor =>
    -- The groups before the last one are full.
    have hfull : (Kernel.blocked sweep factor).gridGroups maxGroups count * (256 * factor) ≤
        count + 256 * factor := by
      have hle := Kernel.gridGroups_le maxGroups count (Kernel.blocked sweep factor)
      rw [Kernel.groupElements_blocked] at hle
      exact (Nat.mul_le_mul_right _ hle).trans (coveringGroups_mul_le _ _)
    refine iff_of_true (fun shader hshader => ?_) id
    rw [List.mem_singleton.mp hshader]
    obtain ⟨before, hbefore⟩ := Nat.exists_eq_add_one.mpr hpos
    rw [hbefore, Nat.succ_mul] at hfull
    rw [hbefore, Nat.add_sub_cancel]
    change 63 + factor * before * 64 < 2 ^ 32
    have hwords : before * (256 * factor) = 4 * (factor * before * 64) := by ring
    omega
  | vector dtype =>
    have hgrid : (Kernel.vector dtype).gridGroups maxGroups count * 64 < 2 ^ 32 :=
      Kernel.gridGroups_vector_mul_lt hcount
    generalize hgroups : (Kernel.vector dtype).gridGroups maxGroups count = groups at hpos hgrid ⊢
    have hwords : Shader.vector.firstIndex 0 (groups - 1) 63 < 2 ^ 32 := by
      change (groups - 1) * 64 + 63 < 2 ^ 32
      omega
    simp only [shadersFor, Kernel.FirstOverruns, hgroups]
    by_cases hlanes : dtype.lanes ∣ count
    · rw [if_pos hlanes]
      refine iff_of_true (fun shader hshader => ?_) fun h => h.1 hlanes
      rw [List.mem_singleton.mp hshader]
      exact hwords
    · -- The elements past the last word are moved by as many threads as the words are.
      have htail : Shader.scalar.firstIndex (Shader.scalar.firstElement (.vector dtype) count)
          (groups - 1) 63 = count / dtype.lanes * dtype.lanes + ((groups - 1) * 64 + 63) := rfl
      rw [if_neg hlanes]
      simp only [List.mem_cons, List.not_mem_nil, or_false, forall_eq_or_imp, forall_eq, htail,
        hlanes, not_false_eq_true, true_and]
      refine ⟨fun h => ?_, fun h => ⟨hwords, ?_⟩⟩
      · have := h.2
        omega
      · omega

end Grids

/-! ## Entry points -/

section EntryPoints

variable {client : Client} {kernel : Kernel} {count src dst : Nat} {w : World} {s : Submission}

/-- Asking for errors submits nothing. -/
theorem submissionsAt_enqueueAndQuery (launch : Launch) (w : World) (queue : Nat) :
    ((enqueue client launch >>= fun _ => checkLastError client).perform w).2.submissionsAt queue =
      ((enqueue client launch).perform w).2.submissionsAt queue := by
  rw [Effect.perform_bind]
  cases (enqueue client launch).perform w with
  | mk answer between =>
    cases answer with
    | ok _ => exact submissionsAt_takeError client between queue
    | error failure => rfl

/-- What an entry point has submitted are the dispatches of its kernel on its own grid. -/
theorem dispatches_of_entryPoint (hqueue : client.queue < w.queues.size)
    (h : (((EntryPoint.launch kernel).call backend client count src dst).perform w).2.submissionsAt
      client.queue = s :: w.submissionsAt client.queue) :
    kernel.Launchable ∧ count * shaderUnits kernel < word32Limit ∧
      s.dispatches =
        dispatches kernel (kernel.gridGroups client.device.limits.maxGroups count) count := by
  rw [EntryPoint.call_eq, EntryPoint.kernel_launch] at h
  simp only [Copy.queueAndCheck] at h
  cases hgeometry : kernel.geometry (backend.clientLimits client).maxGroups count with
  | error f =>
    rw [hgeometry] at h
    exact absurd h (List.cons_ne_self s _).symm
  | ok g =>
    have hk : kernel.Launchable := Kernel.launchable_of_geometry hgeometry
    obtain rfl : kernel.grid client.device.limits.maxGroups count = g :=
      Except.ok.inj ((Kernel.geometry_eq_ok hk).symm.trans hgeometry)
    let launch := kernel.launch client.device.limits.maxGroups count src dst
    let told := w.tell (.enqueueCopy backendName kernel count launch.geometry)
    rw [hgeometry] at h
    have hsubmitted : ((enqueue client launch).perform told).2.submissionsAt client.queue =
        s :: told.submissionsAt client.queue :=
      (submissionsAt_enqueueAndQuery launch told client.queue).symm.trans h
    have houtcome : client.outcome told.registry launch = .submitted s :=
      outcome_of_submissionsAt hqueue hsubmitted
    obtain ⟨⟨-, hcount, -⟩, -, rfl⟩ := Client.outcome_eq_submitted_iff.mp houtcome
    exact ⟨hk, hcount, rfl⟩

/-- What an entry point has submitted steps on in 32 bits just if the copy is not one that overruns
them, and begins in 32 bits just if the elements past its last word do not. Where the strides fit,
every loop steps on by the size of the grid, never wraps, and comes to an end. Where that of a
scalar copy does not fit it is zero, and no thread with an element to move comes to an end. -/
theorem strides_fit_iff (hqueue : client.queue < w.queues.size) (kernel : Kernel)
    (count src dst : Nat)
    (h : (((EntryPoint.launch kernel).call backend client count src dst).perform w).2.submissionsAt
      client.queue = s :: w.submissionsAt client.queue) :
    let maxGroups := client.device.limits.maxGroups
    ((∀ d ∈ s.dispatches, d.stride < 2 ^ 32) ↔ ¬ kernel.StrideOverruns maxGroups count) ∧
      ((∀ d ∈ s.dispatches, ∀ group < d.groups, ∀ lane < 64, d.firstIndex group lane < 2 ^ 32) ↔
        ¬ kernel.FirstOverruns maxGroups count) ∧
      (¬ kernel.StrideOverruns maxGroups count → ∀ d ∈ s.dispatches, ∀ group lane,
        (d.run group lane).stride ≠ 0 ∧ (d.run group lane).Ends ∧
          ∀ round i, (d.run group lane).index round = some i →
            i.toNat = (d.run group lane).first.toNat + round * d.stride) ∧
      ∀ dtype, kernel = .scalar dtype → kernel.StrideOverruns maxGroups count →
        ∀ d ∈ s.dispatches, ∀ group lane, d.firstIndex group lane < count →
          (d.run group lane).stride = 0 ∧ ¬ (d.run group lane).Ends := by
  intro maxGroups
  obtain ⟨hk, hcount, hdispatches⟩ := dispatches_of_entryPoint hqueue h
  rw [hdispatches]
  have hbelow : count < 2 ^ 32 := count_lt_of_addressable hcount
  let groups := kernel.gridGroups maxGroups count
  have hpos : 0 < groups := Kernel.gridGroups_pos _ _ _
  have hgroups : groups < 2 ^ 32 := Kernel.gridGroups_lt hk hbelow
  have hlossless : ∀ d ∈ dispatches kernel groups count, d.Lossless kernel groups count :=
    fun d => lossless_dispatches hgroups hbelow
  have hstride : ∀ d ∈ dispatches kernel groups count, d.stride = groups * kernel.groupStride :=
    fun d hd => stride_of_mem hd (hlossless d hd)
  have hparams : ∀ d ∈ dispatches kernel groups count, d.params.count < word32Limit := by
    intro d hd
    rw [(hlossless d hd).bound]
    exact Nat.lt_of_le_of_lt (Shader.bound_le _ _ _) hbelow
  have hfits : groups * kernel.groupStride < 2 ^ 32 ↔ ¬ kernel.StrideOverruns maxGroups count :=
    Kernel.gridGroups_mul_groupStride_lt_iff hk.hasSlots hcount
  refine ⟨?_, ?_, ?_, ?_⟩
  · exact (stride_dispatches_lt_iff hlossless).trans hfits
  · exact (firstIndex_dispatches_lt_iff hpos hlossless).trans (firstIndex_lt_iff hk.hasSlots hcount)
  · intro hnot d hd group lane
    have hstrideOf := hstride d hd
    have hpositive : 0 < groups * kernel.groupStride :=
      Nat.mul_pos hpos (Kernel.groupStride_pos hk.hasSlots)
    exact Dispatch.run_of_stride_lt (hparams d hd) (hstrideOf ▸ hpositive)
      (hstrideOf ▸ hfits.mpr hnot) group lane
  · rintro dtype rfl hoverruns d hd group lane hfirst
    have hall : d.stride = 2 ^ 32 :=
      (hstride d hd).trans (Kernel.gridGroups_of_strideOverruns hcount hoverruns)
    have hshader : d.shader ∈ [.scalar] := shader_mem_shadersFor hd
    refine Dispatch.not_ends_of_stride_eq (hparams d hd) hall ?_
    rw [(hlossless d hd).bound, List.mem_singleton.mp hshader]
    exact hfirst

/-- On an empty flag an entry point whose launch comes to a submission succeeds and makes it. -/
theorem entryPoint_submits (hqueue : client.queue < w.queues.size)
    (hflag : w.flagAt client.queue = none) (hk : kernel.Launchable)
    (houtcome : client.outcome w.registry
      (kernel.launch client.device.limits.maxGroups count src dst) = .submitted s) :
    let result := ((EntryPoint.launch kernel).call backend client count src dst).perform w
    result.1 = .ok () ∧
      result.2.submissionsAt client.queue = s :: w.submissionsAt client.queue := by
  intro result
  have hpoised : (intake client).Poised w.registry none w := ⟨hqueue, rfl, hflag⟩
  have hgeometry : kernel.geometry (backend.clientLimits client).maxGroups count = .ok _ :=
    Kernel.geometry_eq_ok hk
  have hverdict : (intake client).verdict w.registry (.launch kernel) count src dst = .ok s := by
    have hjob : (client.outcome w.registry
        (kernel.launch client.device.limits.maxGroups count src dst)).verdict = .ok s :=
      congrArg Outcome.verdict houtcome
    simp only [Intake.verdict, EntryPoint.verdict, EntryPoint.kernel_launch, hgeometry]
    exact hjob
  have hanswered := ((intake client).call_onEmpty hpoised (.launch kernel) count src dst).2
  obtain ⟨hok, htakes⟩ := hanswered.succeeded hverdict
  exact ⟨hok, htakes.1⟩

/-- An adapter with room for buffers of as many bytes as any copy can address. -/
def Adapter.spacious : Adapter :=
  { Adapter.noop with limits := { Adapter.noop.limits with maxBufferSize := 2 ^ 34 } }

/-- A client on such an adapter, and a world with two buffers of that size. -/
def World.spacious : Client × World :=
  let opened := (World.initial (fun _ => .spacious) 1).newClient (.ofIndex 0)
  (opened.1, ((allocate (2 ^ 34)).perform ((allocate (2 ^ 34)).perform opened.2).2).2)

/-- The longest scalar copy whose stride fits: one group fewer than would take all numbers. -/
theorem strides_fit_iff_longest :
    let client := World.spacious.1
    let w := World.spacious.2
    let kernel := Kernel.scalar .i32
    let d : Dispatch := ⟨.scalar, "scalar_copy", 2 ^ 26 - 1, ⟨2 ^ 32 - 64, 1, 0⟩⟩
    let s : Submission := ⟨kernel.name, 1, 2, [d]⟩
    client.queue < w.queues.size ∧
      (((EntryPoint.launch kernel).call backend client (2 ^ 32 - 64) 1 2).perform w).2.submissionsAt
        client.queue = s :: w.submissionsAt client.queue ∧
      d.stride < 2 ^ 32 ∧ (d.run 0 0).Ends := by
  intro client w kernel d s
  have hqueue : client.queue < w.queues.size := Nat.one_pos
  have houtcome : client.outcome w.registry
      (kernel.launch client.device.limits.maxGroups (2 ^ 32 - 64) 1 2) = .submitted s :=
    Client.outcome_eq_submitted_iff.mpr (by decide +kernel)
  have hk : kernel.Launchable := trivial
  have hsubmitted := (entryPoint_submits hqueue rfl hk houtcome).2
  obtain ⟨hstrides, -, hloops, -⟩ := strides_fit_iff hqueue kernel (2 ^ 32 - 64) 1 2 hsubmitted
  have hnot : ¬ kernel.StrideOverruns client.device.limits.maxGroups (2 ^ 32 - 64) := by
    rintro ⟨-, hlarge, -⟩
    exact Nat.lt_irrefl _ hlarge
  exact ⟨hqueue, hsubmitted, hstrides.mpr hnot d List.mem_cons_self,
    (hloops hnot d List.mem_cons_self 0 0).2.1⟩

/-- The longest scalar copy that can be addressed at all is submitted with a stride of zero, and the
first thread of the grid never comes to an end. -/
theorem longest_scalar_copy_hangs :
    let client := World.spacious.1
    let w := World.spacious.2
    let result :=
      ((EntryPoint.launch (.scalar .i32)).call backend client (2 ^ 32 - 1) 1 2).perform w
    result.1 = .ok () ∧ ∃ s d, result.2.submissionsAt client.queue = [s] ∧ s.dispatches = [d] ∧
      d.groups * 64 = 2 ^ 32 ∧ (d.run 0 0).stride = 0 ∧ ¬ (d.run 0 0).Ends := by
  intro client w result
  let d : Dispatch := ⟨.scalar, "scalar_copy", 2 ^ 26, ⟨2 ^ 32 - 1, 1, 0⟩⟩
  let s : Submission := ⟨(Kernel.scalar .i32).name, 1, 2, [d]⟩
  have hqueue : client.queue < w.queues.size := Nat.one_pos
  have houtcome : client.outcome w.registry ((Kernel.scalar .i32).launch
      client.device.limits.maxGroups (2 ^ 32 - 1) 1 2) = .submitted s :=
    Client.outcome_eq_submitted_iff.mpr (by decide +kernel)
  have hk : (Kernel.scalar .i32).Launchable := trivial
  obtain ⟨hok, hsubmitted⟩ := entryPoint_submits hqueue rfl hk houtcome
  have hcount : d.params.count < word32Limit := by decide
  have hstride : d.stride = 2 ^ 32 := by decide
  have hfirst : d.firstIndex 0 0 < d.shader.loopBound d.params.count := by decide
  exact ⟨hok, s, d, hsubmitted, rfl, hstride, Dispatch.not_ends_of_stride_eq hcount hstride hfirst⟩

end EntryPoints

end WebGpu

end DeviceCopy
