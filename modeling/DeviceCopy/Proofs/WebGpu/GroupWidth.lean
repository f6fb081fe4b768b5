import DeviceCopy.Proofs.WebGpu.Strides

/-!
# The width of groups

A launch asks for a number of groups of some width. A WebGPU device takes the number from the launch,
but the width of its groups stands in the source of the shaders: the width that was asked for is held
against the limits and then forgotten. A single pass over a copy therefore leaves nothing out just if
groups of the fixed width are enough of them (`Dispatch.covers_iff`), and a launch may be given more or
fewer threads than it asked for (`launch_runs_fixed_width`).
-/

set_option autoImplicit false

namespace DeviceCopy

namespace WebGpu

/-! ## What a single pass moves -/

/-- The test that a shader makes before it moves a word, in 32 bits and as it is meant. -/
theorem reaches_iff {base words offset : Nat} (hbase : base < word32Limit)
    (hwords : words < word32Limit) (hoffset : offset < word32Limit) :
    (UInt32.ofNat base < .ofNat words ∧ UInt32.ofNat offset < .ofNat words - .ofNat base) ↔
      base + offset < words := by
  have hfirst : (UInt32.ofNat base).toNat = base := UInt32.toNat_ofNat_of_lt' hbase
  have hlast : (UInt32.ofNat words).toNat = words := UInt32.toNat_ofNat_of_lt' hwords
  rcases Nat.lt_or_ge base words with hbelow | hpast
  · have hle : UInt32.ofNat base ≤ .ofNat words := by
      rw [UInt32.le_iff_toNat_le, hfirst, hlast]
      exact Nat.le_of_lt hbelow
    rw [UInt32.lt_iff_toNat_lt, UInt32.lt_iff_toNat_lt, UInt32.toNat_sub_of_le _ _ hle, hfirst, hlast,
      UInt32.toNat_ofNat_of_lt' hoffset]
    omega
  · refine iff_of_false (fun h => ?_) (by omega)
    have hlt := UInt32.lt_iff_toNat_lt.mp h.1
    rw [hfirst, hlast] at hlt
    exact Nat.not_lt.mpr hpast hlt

/-- Words that a thread of a shader stages before it stores them. -/
def Shader.slots : Shader → Nat
  | blocked factor => factor
  | scalar | vector => 1

namespace Dispatch

/-- The source of the shader has the entry point of the dispatch, for groups of so many threads. -/
def HasWidth (d : Dispatch) (width : Nat) : Prop :=
  ∃ tree parameters body, d.shader.source = Source.printAll 0 tree ∧
    [.line s!"@compute @workgroup_size({width})", .function d.entryPoint parameters body] <:+: tree

/-- The word that a thread of a single pass moves in one of its slots, computed in 32 bits. The slot is
left out if what remains past the first index of the thread does not reach so far. -/
def stagedWord (d : Dispatch) (group lane slot : Nat) : Option UInt32 :=
  let base := (d.run group lane).first
  let words := (d.run group lane).bound
  let offset := .ofNat slot * 64
  if base < words ∧ offset < words - base then some (base + offset) else none

/-- Every whole word of the copy is moved by some thread. -/
def Covers (d : Dispatch) : Prop :=
  ∀ word < d.params.count / 4,
    ∃ group < d.groups, ∃ lane < Shader.workgroupWidth, ∃ slot < d.shader.slots,
      d.stagedWord group lane slot = some (.ofNat word)

variable {d : Dispatch} {factor group lane slot : Nat}

/-- As long as first index and offset fit into 32 bits, the word is the one at their sum. -/
theorem stagedWord_eq_some_iff (hshader : d.shader = .blocked factor)
    (hcount : d.params.count < word32Limit) (hbase : d.firstIndex group lane < word32Limit)
    (hoffset : slot * 64 < word32Limit) {word : Nat} (hword : word < d.params.count / 4) :
    d.stagedWord group lane slot = some (.ofNat word) ↔
      d.firstIndex group lane + slot * 64 = word := by
  have hwords : d.params.count / 4 < word32Limit := Nat.lt_of_le_of_lt (Nat.div_le_self _ 4) hcount
  have hrun := run_eq hcount group lane
  rw [hshader] at hrun
  have hslot : UInt32.ofNat slot * 64 = .ofNat (slot * 64) := (UInt32.ofNat_mul slot 64).symm
  unfold stagedWord
  simp only [hrun, hslot, Shader.loopBound, reaches_iff hbase hwords hoffset]
  by_cases hfits : d.firstIndex group lane + slot * 64 < d.params.count / 4
  · rw [if_pos hfits, ← UInt32.ofNat_add, Option.some_inj, ← UInt32.toNat_inj,
      UInt32.toNat_ofNat_of_lt' (Nat.lt_trans hfits hwords),
      UInt32.toNat_ofNat_of_lt' (Nat.lt_trans hword hwords)]
  · rw [if_neg hfits]
    exact iff_of_false (Option.some_ne_none _).symm (fun h => hfits (h ▸ hword))

theorem firstIndex_blocked (hshader : d.shader = .blocked factor) (group lane : Nat) :
    d.firstIndex group lane = lane + factor * group * 64 := by
  unfold firstIndex
  rw [hshader]
  rfl

/-- A single pass leaves no word out just if there are enough slots, 64 threads to a group. -/
theorem covers_iff (hshader : d.shader = .blocked factor) (hcount : d.params.count < word32Limit)
    (hfactor : 0 < factor) :
    d.Covers ↔ d.params.count / 4 ≤ factor * d.groups * 64 := by
  have hwidth : Shader.workgroupWidth = 64 := rfl
  have hslots : d.shader.slots = factor := by rw [hshader]; rfl
  constructor
  · -- The word behind the last slot of the last thread is not moved.
    intro hcovers
    refine Nat.le_of_not_lt (fun hmore => ?_)
    obtain ⟨group, hgroup, lane, hlane, slot, hslot, hstaged⟩ := hcovers _ hmore
    rw [hslots] at hslot
    rw [hwidth] at hlane
    have hlast : factor * (group + 1) ≤ factor * d.groups := Nat.mul_le_mul_left _ hgroup
    rw [Nat.mul_succ] at hlast
    have hfirst := firstIndex_blocked hshader group lane
    have hlimit : word32Limit = 2 ^ 32 := rfl
    rw [stagedWord_eq_some_iff hshader hcount (by omega) (by omega) hmore] at hstaged
    omega
  · -- A word is in the group that its share of the words falls to, in one lane of one slot there.
    intro henough word hword
    have hpos : 0 < factor * 64 := Nat.mul_pos hfactor (by decide)
    have hsplit : factor * 64 * (word / (factor * 64)) + word % (factor * 64) = word :=
      Nat.div_add_mod _ _
    have hrest : word % (factor * 64) < factor * 64 := Nat.mod_lt _ hpos
    have hgroup : word / (factor * 64) < d.groups := by
      rw [Nat.div_lt_iff_lt_mul hpos]
      calc word < d.params.count / 4 := hword
        _ ≤ factor * d.groups * 64 := henough
        _ = d.groups * (factor * 64) := by ring
    generalize word / (factor * 64) = group at hsplit hgroup
    generalize word % (factor * 64) = rest at hsplit hrest
    have hfirst : d.firstIndex group (rest % 64) + rest / 64 * 64 = word := by
      rw [firstIndex_blocked hshader, ← hsplit]
      have hbefore : factor * group * 64 = factor * 64 * group := by ring
      omega
    refine ⟨group, hgroup, rest % 64, Nat.mod_lt _ (by decide), rest / 64, ?_, ?_⟩
    · rw [hslots]
      omega
    · rw [stagedWord_eq_some_iff hshader hcount (by omega) (by omega) hword]
      exact hfirst

end Dispatch

/-- Whatever a launch asks for, every entry point is written for groups of 64 threads. -/
theorem hasWidth_of_mem {kernel : Kernel} {groups count : Nat} {d : Dispatch}
    (h : d ∈ dispatches kernel groups count) : d.HasWidth 64 := by
  have hscalar : ∀ groups params, Dispatch.HasWidth ⟨.scalar, "scalar_copy", groups, params⟩ 64 :=
    fun _ _ => ⟨_, _, _, rfl, (List.suffix_append _ _).isInfix⟩
  cases kernel with
  | scalar dtype =>
    rw [List.mem_singleton.mp h]
    exact hscalar _ _
  | vector dtype =>
    rcases List.mem_cons.mp h with rfl | htail
    · exact ⟨_, _, _, rfl, (List.suffix_append _ _).isInfix⟩
    · split at htail
      · rw [List.mem_singleton.mp htail]
        exact hscalar _ _
      · exact absurd htail List.not_mem_nil
  | blocked sweep factor =>
    rw [List.mem_singleton.mp h]
    cases sweep with
    | singlePass =>
      have hfirst : ∀ before entry gap rest : List Source, entry <:+: before ++ entry ++ gap ++ rest :=
        fun before entry gap rest => ⟨before, gap ++ rest, by simp⟩
      -- The other entry point of the module follows.
      exact ⟨_, _, _, rfl, hfirst _ _ _ _⟩
    | gridStride => exact ⟨_, _, _, rfl, (List.suffix_append _ _).isInfix⟩

/-! ## What a launch is given -/

section Launches

variable {client : Client} {w : World}

theorem submits_of_outcome (hqueue : client.queue < w.queues.size) {launch : Launch} {s : Submission}
    (h : client.outcome w.registry launch = .submitted s) :
    ((enqueue client launch).perform w).1 = .ok () ∧
      ((enqueue client launch).perform w).2.submissionsAt client.queue =
        s :: w.submissionsAt client.queue := by
  have hperform := perform_enqueue_eq client launch w
  rw [h] at hperform
  rw [hperform]
  exact ⟨rfl, submissionsAt_submit hqueue s⟩

/-- An admissible launch between registered buffers is submitted, with the number of groups that it asks
for and in groups of 64 threads whatever it asks for. A single pass with so many groups leaves out no
word just if groups of 64 threads are enough, so it does all that a grid covers whose groups are no
wider than that. -/
theorem launch_runs_fixed_width {adapter : Adapter}
    (hlimits : client.limits = adapter.limits.launchLimits) (hnarrow : adapter.limits.Narrow)
    (hqueue : client.queue < w.queues.size) (launch : Launch) (hslots : launch.kernel.HasSlots)
    (haddressable : launch.count * shaderUnits launch.kernel < 2 ^ 32)
    (hadmits : client.limits.Admits launch.geometry) (hsrc : w.registry.Registered launch.src)
    (hdst : w.registry.Registered launch.dst) :
    let result := (enqueue client launch).perform w
    let g := launch.geometry
    ∃ s, (result.1 = .ok () ∧
        result.2.submissionsAt client.queue = s :: w.submissionsAt client.queue) ∧
      (∀ d ∈ s.dispatches, d.groups = g.groups ∧ d.HasWidth 64) ∧
      ∀ factor, launch.kernel = .blocked .singlePass factor →
        ∃ d, s.dispatches = [d] ∧ d.params.count = launch.count ∧
          (d.Covers ↔ launch.count / 4 ≤ factor * g.groups * 64) ∧
          (launch.count / 4 ≤ factor * g.groups * g.threadsPerGroup → g.threadsPerGroup ≤ 64 →
            d.Covers) := by
  intro result g
  let s : Submission :=
    { label := launch.kernel.name, src := launch.src, dst := launch.dst
      dispatches := dispatches launch.kernel g.groups launch.count }
  have houtcome : client.outcome w.registry launch = .submitted s :=
    Client.outcome_eq_submitted_iff.mpr ⟨⟨hslots, haddressable, hadmits⟩, ⟨hsrc, hdst⟩, rfl⟩
  have hgroups : g.groups < word32Limit := groups_lt_of_admits hnarrow (hlimits ▸ hadmits)
  have hcount : launch.count < word32Limit := count_lt_of_addressable haddressable
  have hlossless : ∀ d ∈ s.dispatches, d.Lossless launch.kernel g.groups launch.count :=
    fun d => lossless_dispatches hgroups hcount
  refine ⟨s, submits_of_outcome hqueue houtcome,
    fun d hd => ⟨(hlossless d hd).groups, hasWidth_of_mem hd⟩, ?_⟩
  intro factor hkernel
  obtain ⟨d, hsingle, hshader⟩ : ∃ d, s.dispatches = [d] ∧ d.shader = .blocked factor := by
    change ∃ d, dispatches launch.kernel g.groups launch.count = [d] ∧ d.shader = .blocked factor
    rw [hkernel]
    exact ⟨_, rfl, rfl⟩
  have hd := hlossless d (hsingle ▸ List.mem_cons_self)
  have hwhole : d.params.count = launch.count := by
    rw [hd.bound, hshader]
    rfl
  have hfactor : 0 < factor := by
    rw [hkernel] at hslots
    exact hslots
  have hcovers : d.Covers ↔ launch.count / 4 ≤ factor * g.groups * 64 := by
    rw [Dispatch.covers_iff hshader (hwhole ▸ hcount) hfactor, hwhole, hd.groups]
  refine ⟨d, hsingle, hwhole, hcovers, fun hasked hnarrower => hcovers.mpr ?_⟩
  calc launch.count / 4 ≤ factor * g.groups * g.threadsPerGroup := hasked
    _ ≤ factor * g.groups * 64 := Nat.mul_le_mul_left _ hnarrower

/-- Two groups of 32 threads are asked for and two of 64 are run, with room for 256 words where 128
were asked for. -/
theorem launch_runs_fixed_width_half :
    let opened := (World.initial (fun _ => .noop) 1).newClient (.ofIndex 0)
    let w := ((allocate 2048).perform ((allocate 2048).perform opened.2).2).2
    let launch : Launch := ⟨.blocked .singlePass 2, ⟨2, 32, 0⟩, 512, 1, 2⟩
    opened.1.limits.Admits launch.geometry ∧
      ∃ s d, ((enqueue opened.1 launch).perform w).2.submissionsAt opened.1.queue = [s] ∧
        s.dispatches = [d] ∧ d.HasWidth 64 ∧ d.Covers := by
  intro opened w launch
  have hlimits : opened.1.limits = Adapter.noop.limits.launchLimits := rfl
  have hqueue : opened.1.queue < w.queues.size := Nat.one_pos
  have hadmits : opened.1.limits.Admits launch.geometry := by decide +kernel
  obtain ⟨s, ⟨-, hsubmitted⟩, hwidth, hsingle⟩ :=
    launch_runs_fixed_width hlimits (by decide) hqueue launch (by decide) (by decide) hadmits
      (by decide +kernel) (by decide +kernel)
  obtain ⟨d, hd, -, -, hcovers⟩ := hsingle 2 rfl
  exact ⟨hadmits, s, d, hsubmitted, hd, (hwidth d (hd ▸ List.mem_cons_self)).2,
    hcovers (by decide) (by decide)⟩

/-- One group of 256 threads is enough for 256 words, is admitted and is run with 64 threads, which are
not enough. One group of a single thread is run with 64 as well. -/
theorem asked_width_is_not_run :
    let opened := (World.initial (fun _ => .noop) 1).newClient (.ofIndex 0)
    let w := ((allocate 4096).perform ((allocate 4096).perform opened.2).2).2
    let wide : Launch := ⟨.blocked .singlePass 1, ⟨1, 256, 0⟩, 1024, 1, 2⟩
    let narrow : Launch := ⟨.blocked .singlePass 1, ⟨1, 1, 0⟩, 4, 1, 2⟩
    (opened.1.limits.Admits wide.geometry ∧ 1024 / 4 ≤ 1 * 1 * 256 ∧
      ∃ s d, ((enqueue opened.1 wide).perform w).1 = .ok () ∧
        ((enqueue opened.1 wide).perform w).2.submissionsAt opened.1.queue = [s] ∧
        s.dispatches = [d] ∧ ¬ 1024 / 4 ≤ 1 * d.groups * 64 ∧ ¬ d.Covers) ∧
    (opened.1.limits.Admits narrow.geometry ∧
      ∃ s d, ((enqueue opened.1 narrow).perform w).1 = .ok () ∧
        ((enqueue opened.1 narrow).perform w).2.submissionsAt opened.1.queue = [s] ∧
        s.dispatches = [d] ∧ d.HasWidth 64 ∧ ¬ 64 ≤ narrow.geometry.threadsPerGroup) := by
  intro opened w wide narrow
  have hqueue : opened.1.queue < w.queues.size := Nat.one_pos
  let d : Dispatch := ⟨.blocked 1, "blocked_copy", 1, ⟨1024, 1, 0⟩⟩
  let d' : Dispatch := ⟨.blocked 1, "blocked_copy", 1, ⟨4, 1, 0⟩⟩
  have hwide : opened.1.outcome w.registry wide = .submitted ⟨wide.kernel.name, 1, 2, [d]⟩ :=
    Client.outcome_eq_submitted_iff.mpr (by decide +kernel)
  have hnarrow : opened.1.outcome w.registry narrow = .submitted ⟨narrow.kernel.name, 1, 2, [d']⟩ :=
    Client.outcome_eq_submitted_iff.mpr (by decide +kernel)
  obtain ⟨hwideOk, hwideSubmitted⟩ := submits_of_outcome hqueue hwide
  obtain ⟨hnarrowOk, hnarrowSubmitted⟩ := submits_of_outcome hqueue hnarrow
  have huncovered : ¬ d.Covers := by
    rw [Dispatch.covers_iff rfl (by decide) Nat.one_pos]
    decide
  have hplanned : d' ∈ dispatches (.blocked .singlePass 1) 1 4 := List.mem_singleton.mpr rfl
  exact ⟨⟨by decide +kernel, by decide, _, d, hwideOk, hwideSubmitted, rfl, by decide, huncovered⟩,
    by decide +kernel, _, d', hnarrowOk, hnarrowSubmitted, rfl, hasWidth_of_mem hplanned, by decide⟩

end Launches

end WebGpu

end DeviceCopy
