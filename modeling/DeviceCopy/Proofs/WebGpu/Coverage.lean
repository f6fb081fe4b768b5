import Mathlib.Data.Finset.Interval
import Mathlib.Order.Interval.Finset.Nat
import DeviceCopy.Proofs.WebGpu.Enqueue

/-!
# How dispatches share out a copy

Shaders count in 32 bits, and everything a dispatch tells them is cut to 32 bits before anyone has
looked at the limits. Only what has then been submitted is known to have lost nothing: counts passed
the check on addressable units, and the number of groups passed the limits, which an adapter states
in 32 bits itself (`lossless_dispatches`).

Each shader has its share of the copy. The shares of the shaders a copy takes are disjoint and leave
nothing out, and a wide copy takes a second shader only where some elements are past its last whole
word (`submission_partitions`).
-/

set_option autoImplicit false

namespace DeviceCopy

namespace WebGpu

/-! ## Shaders and their shares -/

/-- The shaders that a copy of so many elements takes, in order. -/
def shadersFor (kernel : Kernel) (count : Nat) : List Shader :=
  match kernel with
  | .scalar _ => [.scalar]
  | .vector dtype => if dtype.lanes ∣ count then [.vector] else [.vector, .scalar]
  | .blocked _ factor => [.blocked factor]

namespace Shader

/-- First element that a shader moves in a copy. The scalar shader of a wide copy begins past its
last whole word. -/
def firstElement (kernel : Kernel) (count : Nat) : Shader → Nat
  | scalar =>
      match kernel with
      | .vector dtype => count / dtype.lanes * dtype.lanes
      | _ => 0
  | _ => 0

/-- What a shader counts up to in a copy: wide words, where it moves those, or elements. -/
def bound (kernel : Kernel) (count : Nat) : Shader → Nat
  | vector => count / kernel.dtype.lanes
  | _ => count

theorem bound_le (kernel : Kernel) (count : Nat) (shader : Shader) :
    shader.bound kernel count ≤ count := by
  cases shader with
  | scalar => exact Nat.le_refl count
  | vector => exact Nat.div_le_self _ _
  | blocked factor => exact Nat.le_refl count

/-- Elements that a shader moves, from the first on up to a bound in its own units. -/
def elements (dtype : DType) (first bound : Nat) : Shader → Finset Nat
  | scalar => Finset.Ico first bound
  | vector => Finset.range (bound * dtype.lanes)
  | blocked _ => Finset.range bound

/-- Elements that a shader is to move in a copy. -/
def share (kernel : Kernel) (count : Nat) (shader : Shader) : Finset Nat :=
  shader.elements kernel.dtype (shader.firstElement kernel count) (shader.bound kernel count)

variable {kernel : Kernel} {count : Nat}

/-- No two shaders of a copy move the same element. -/
theorem pairwise_share (kernel : Kernel) (count : Nat) :
    (shadersFor kernel count).Pairwise fun shader other =>
      Disjoint (shader.share kernel count) (other.share kernel count) := by
  cases kernel with
  | scalar dtype => exact List.pairwise_singleton _ _
  | blocked sweep factor => exact List.pairwise_singleton _ _
  | vector dtype =>
    simp only [shadersFor]
    split
    · exact List.pairwise_singleton _ _
    · -- The words end where the elements past them begin.
      refine List.pairwise_pair.mpr (Finset.disjoint_left.mpr fun i hword htail => ?_)
      have hbelow : i < count / dtype.lanes * dtype.lanes := Finset.mem_range.mp hword
      have habove : count / dtype.lanes * dtype.lanes ≤ i := (Finset.mem_Ico.mp htail).1
      exact Nat.not_lt.mpr habove hbelow

/-- Together they move all elements of the copy and no others. -/
theorem exists_mem_share_iff (kernel : Kernel) (count i : Nat) :
    (∃ shader ∈ shadersFor kernel count, i ∈ shader.share kernel count) ↔ i < count := by
  cases kernel with
  | scalar dtype =>
    have hshare : i ∈ scalar.share (.scalar dtype) count ↔ 0 ≤ i ∧ i < count := Finset.mem_Ico
    simp only [shadersFor, List.mem_singleton, exists_eq_left, hshare, Nat.zero_le, true_and]
  | blocked sweep factor =>
    have hshare : i ∈ (blocked factor).share (.blocked sweep factor) count ↔ i < count :=
      Finset.mem_range
    simp only [shadersFor, List.mem_singleton, exists_eq_left, hshare]
  | vector dtype =>
    have hword : i ∈ vector.share (.vector dtype) count ↔ i < count / dtype.lanes * dtype.lanes :=
      Finset.mem_range
    have htail : i ∈ scalar.share (.vector dtype) count ↔
        count / dtype.lanes * dtype.lanes ≤ i ∧ i < count := Finset.mem_Ico
    have hwhole : count / dtype.lanes * dtype.lanes ≤ count := Nat.div_mul_le_self _ _
    simp only [shadersFor]
    by_cases hlanes : dtype.lanes ∣ count
    · -- All elements are in whole words.
      rw [if_pos hlanes]
      simp only [List.mem_singleton, exists_eq_left, hword, Nat.div_mul_cancel hlanes]
    · rw [if_neg hlanes]
      simp only [List.mem_cons, List.not_mem_nil, or_false, exists_eq_or_imp, exists_eq_left, hword,
        htail]
      omega

/-- Past the last whole word there is less than a word. -/
theorem card_share_scalar_le (dtype : DType) (count : Nat) :
    (scalar.share (.vector dtype) count).card ≤ dtype.lanes - 1 := by
  have hrest : count % dtype.lanes < dtype.lanes := Nat.mod_lt _ dtype.lanes_pos
  have hdivided : dtype.lanes * (count / dtype.lanes) + count % dtype.lanes = count :=
    Nat.div_add_mod _ _
  calc
    (scalar.share (.vector dtype) count).card
        = count - count / dtype.lanes * dtype.lanes := Nat.card_Ico _ _
    _ = count % dtype.lanes := by
          rw [Nat.mul_comm]
          omega
    _ ≤ dtype.lanes - 1 := by omega

end Shader

/-! ## Numbers cut to 32 bits -/

theorem low32_of_lt {n : Nat} (h : n < word32Limit) : low32 n = n := Nat.mod_eq_of_lt h

theorem shaderUnits_pos (kernel : Kernel) : 0 < shaderUnits kernel := by
  cases kernel with
  | scalar dtype => cases dtype <;> decide
  | vector dtype => cases dtype <;> decide
  | blocked sweep factor => exact Nat.one_pos

/-- Elements that can be addressed are in particular no more than shaders can count. -/
theorem count_lt_of_addressable {kernel : Kernel} {count : Nat}
    (h : count * shaderUnits kernel < word32Limit) : count < word32Limit :=
  Nat.lt_of_le_of_lt (Nat.le_mul_of_pos_right count (shaderUnits_pos kernel)) h

/-- A dispatch says what its shader has to be told about a copy on so many groups, with nothing cut
off. -/
structure Dispatch.Lossless (kernel : Kernel) (groups count : Nat) (d : Dispatch) : Prop where
  groups : d.groups = groups
  units : d.params.units = shaderUnits kernel
  bound : d.params.count = d.shader.bound kernel count
  first : d.params.start = d.shader.firstElement kernel count

/-- Elements that a dispatch of a copy moves. -/
def Dispatch.elements (dtype : DType) (d : Dispatch) : Finset Nat :=
  d.shader.elements dtype d.params.start d.params.count

section Dispatches

variable {kernel : Kernel} {groups count : Nat} {d : Dispatch}

theorem Dispatch.Lossless.elements_eq (h : d.Lossless kernel groups count) :
    d.elements kernel.dtype = d.shader.share kernel count := by
  unfold Dispatch.elements Shader.share
  rw [h.bound, h.first]

theorem lossless_dispatches (hgroups : groups < word32Limit) (hcount : count < word32Limit)
    (h : d ∈ dispatches kernel groups count) : d.Lossless kernel groups count := by
  have hunits := kernelUnits_eq_shaderUnits kernel
  cases kernel with
  | scalar dtype =>
    rw [List.mem_singleton.mp h]
    exact ⟨low32_of_lt hgroups, hunits, low32_of_lt hcount, rfl⟩
  | blocked sweep factor =>
    rw [List.mem_singleton.mp h]
    exact ⟨low32_of_lt hgroups, hunits, low32_of_lt hcount, rfl⟩
  | vector dtype =>
    have hwords : count / dtype.lanes < word32Limit :=
      Nat.lt_of_le_of_lt (Nat.div_le_self _ _) hcount
    have hwhole : count / dtype.lanes * dtype.lanes < word32Limit :=
      Nat.lt_of_le_of_lt (Nat.div_mul_le_self _ _) hcount
    rcases List.mem_cons.mp h with rfl | htail
    · exact ⟨low32_of_lt hgroups, hunits, low32_of_lt hwords, rfl⟩
    · -- The elements past the last word, if there are any.
      split at htail
      · rw [List.mem_singleton.mp htail]
        exact ⟨low32_of_lt hgroups, hunits, low32_of_lt hcount, low32_of_lt hwhole⟩
      · exact absurd htail List.not_mem_nil

theorem lanes_dvd_iff (dtype : DType) (count : Nat) :
    dtype.lanes ∣ count ↔ ¬ count / dtype.lanes * dtype.lanes < count := by
  have hle : count / dtype.lanes * dtype.lanes ≤ count := Nat.div_mul_le_self _ _
  constructor
  · intro h
    rw [Nat.div_mul_cancel h]
    exact Nat.lt_irrefl count
  · intro h
    exact ⟨count / dtype.lanes, by rw [Nat.mul_comm]; omega⟩

theorem shaders_dispatches (kernel : Kernel) (groups count : Nat) :
    (dispatches kernel groups count).map Dispatch.shader = shadersFor kernel count := by
  cases kernel with
  | scalar dtype => rfl
  | blocked sweep factor => rfl
  | vector dtype =>
    have hlanes := lanes_dvd_iff dtype count
    simp only [dispatches, shadersFor]
    by_cases hrest : count / dtype.lanes * dtype.lanes < count
    · rw [if_neg fun hdvd => hlanes.mp hdvd hrest]
      simp only [if_pos hrest, List.map_cons, List.map_nil]
    · rw [if_pos (hlanes.mpr hrest)]
      simp only [if_neg hrest, List.map_cons, List.map_nil]

end Dispatches

/-! ## What has been submitted -/

section Submissions

variable {client : Client} {launch : Launch} {w : World} {s : Submission}

/-- Where enqueueing a launch has submitted something, that is what the launch came to. -/
theorem outcome_of_submissionsAt (hqueue : client.queue < w.queues.size)
    (h : ((enqueue client launch).perform w).2.submissionsAt client.queue =
      s :: w.submissionsAt client.queue) :
    client.outcome w.registry launch = .submitted s := by
  have hperform := perform_enqueue_eq client launch w
  have hgrown : w.submissionsAt client.queue ≠ s :: w.submissionsAt client.queue :=
    (List.cons_ne_self s _).symm
  cases houtcome : client.outcome w.registry launch with
  | refused failure =>
    rw [houtcome] at hperform
    rw [hperform] at h
    exact absurd h hgrown
  | recorded e =>
    rw [houtcome] at hperform
    rw [hperform] at h
    have hsame := submissionsAt_screen (Client.rejection_of_recorded houtcome) w client.queue
    exact absurd (hsame.symm.trans h) hgrown
  | submitted submission =>
    rw [houtcome] at hperform
    rw [hperform] at h
    have hsame := (submissionsAt_submit hqueue submission).symm.trans h
    exact congrArg Outcome.submitted (List.cons.inj hsame).1

/-- What is submitted is what has passed all the checks. -/
theorem Client.outcome_eq_submitted_iff {registry : Registry} :
    client.outcome registry launch = .submitted s ↔
      (launch.kernel.HasSlots ∧ launch.count * shaderUnits launch.kernel < word32Limit ∧
        client.limits.Admits launch.geometry) ∧
      (registry.Registered launch.src ∧ registry.Registered launch.dst) ∧
      s = { label := launch.kernel.name, src := launch.src, dst := launch.dst
            dispatches := dispatches launch.kernel launch.geometry.groups launch.count } := by
  unfold outcome
  constructor
  · intro h
    split_ifs at h with hslots hcount hadmits hsrc hdst
    exact ⟨⟨hslots, Nat.lt_succ_of_le (Nat.le_of_not_lt hcount), hadmits⟩, ⟨hsrc, hdst⟩,
      (Outcome.submitted.inj h).symm⟩
  · rintro ⟨⟨hslots, hcount, hadmits⟩, ⟨hsrc, hdst⟩, rfl⟩
    have hsmall : ¬ 2 ^ 32 - 1 < launch.count * shaderUnits launch.kernel :=
      Nat.not_lt.mpr (Nat.le_of_lt_succ hcount)
    rw [if_neg (not_not.mpr hslots), if_neg hsmall, if_neg (not_not.mpr hadmits),
      if_neg (not_not.mpr hsrc), if_neg (not_not.mpr hdst)]

/-- Adapters state the number of groups in 32 bits. -/
def AdapterLimits.Narrow (l : AdapterLimits) : Prop := l.maxWorkgroupsPerDimension < word32Limit

instance (l : AdapterLimits) : Decidable l.Narrow := inferInstanceAs (Decidable (_ < _))

theorem groups_lt_of_admits {l : AdapterLimits} (hnarrow : l.Narrow) {g : Geometry}
    (h : l.launchLimits.Admits g) : g.groups < word32Limit :=
  Nat.lt_of_le_of_lt h.2.2 hnarrow

/-- If enqueueing a launch has submitted anything, then shaders can address all of its units, and
the dispatches have lost nothing in the numbers cut to 32 bits. No two of them move the same
element, and together they move the elements of the copy and no others. There is a second one, for
less than a wide word, just for those vector copies whose elements do not fill whole words. -/
theorem submission_partitions {adapter : Adapter}
    (hlimits : client.limits = adapter.limits.launchLimits)
    (hnarrow : adapter.limits.Narrow) (hqueue : client.queue < w.queues.size) (launch : Launch)
    (h : ((enqueue client launch).perform w).2.submissionsAt client.queue =
      s :: w.submissionsAt client.queue) :
    launch.count * shaderUnits launch.kernel < 2 ^ 32 ∧
      (∀ d ∈ s.dispatches, d.Lossless launch.kernel launch.geometry.groups launch.count) ∧
      s.dispatches.Pairwise (fun d other =>
        Disjoint (d.elements launch.kernel.dtype) (other.elements launch.kernel.dtype)) ∧
      (∀ i, (∃ d ∈ s.dispatches, i ∈ d.elements launch.kernel.dtype) ↔ i < launch.count) ∧
      s.dispatches.map Dispatch.shader = shadersFor launch.kernel launch.count ∧
      ∀ dtype, launch.kernel = .vector dtype → ∀ d ∈ s.dispatches, d.shader = .scalar →
        (d.elements dtype).card ≤ dtype.lanes - 1 := by
  obtain ⟨⟨-, hcount, hadmits⟩, -, rfl⟩ :=
    Client.outcome_eq_submitted_iff.mp (outcome_of_submissionsAt hqueue h)
  rw [hlimits] at hadmits
  have hlossless : ∀ d ∈ dispatches launch.kernel launch.geometry.groups launch.count,
      d.Lossless launch.kernel launch.geometry.groups launch.count :=
    fun d => lossless_dispatches (groups_lt_of_admits hnarrow hadmits)
      (count_lt_of_addressable hcount)
  have hshaders := shaders_dispatches launch.kernel launch.geometry.groups launch.count
  -- Every dispatch moves the share of its shader, so it is the shaders that share out the copy.
  have helements : ∀ d ∈ dispatches launch.kernel launch.geometry.groups launch.count,
      d.elements launch.kernel.dtype = d.shader.share launch.kernel launch.count :=
    fun d hd => (hlossless d hd).elements_eq
  refine ⟨hcount, hlossless, ?_, fun i => ?_, hshaders, ?_⟩
  · have hapart := Shader.pairwise_share launch.kernel launch.count
    rw [← hshaders, List.pairwise_map] at hapart
    refine hapart.imp_of_mem fun {d other} hd hother hdisjoint => ?_
    rw [helements d hd, helements other hother]
    exact hdisjoint
  · rw [← Shader.exists_mem_share_iff launch.kernel launch.count i, ← hshaders]
    constructor
    · rintro ⟨d, hd, hi⟩
      exact ⟨d.shader, List.mem_map_of_mem hd, helements d hd ▸ hi⟩
    · rintro ⟨shader, hshader, hi⟩
      obtain ⟨d, hd, rfl⟩ := List.mem_map.mp hshader
      exact ⟨d, hd, (helements d hd).symm ▸ hi⟩
  · intro dtype hkernel d hd hscalar
    have hshare := helements d hd
    rw [hkernel, hscalar] at hshare
    calc
      (d.elements dtype).card = (Shader.scalar.share (.vector dtype) launch.count).card :=
        congrArg Finset.card hshare
      _ ≤ dtype.lanes - 1 := Shader.card_share_scalar_le dtype launch.count

/-- Five 64-bit elements between two buffers: two words, and one element in a dispatch of its
own. -/
theorem submission_partitions_odd_tail :
    let opened := (World.initial (fun _ => .noop) 1).newClient (.ofIndex 0)
    let w := ((allocate 40).perform ((allocate 40).perform opened.2).2).2
    let launch : Launch := ⟨.vector .i64, ⟨1, 64, 0⟩, 5, 1, 2⟩
    let words : Dispatch := ⟨.vector, "vector_copy", 1, ⟨2, 2, 0⟩⟩
    let tail : Dispatch := ⟨.scalar, "scalar_copy", 1, ⟨5, 2, 4⟩⟩
    let s : Submission := ⟨launch.kernel.name, 1, 2, [words, tail]⟩
    opened.1.limits = Adapter.noop.limits.launchLimits ∧ Adapter.noop.limits.Narrow ∧
      opened.1.queue < w.queues.size ∧
      ((enqueue opened.1 launch).perform w).2.submissionsAt opened.1.queue =
        s :: w.submissionsAt opened.1.queue ∧
      Disjoint (words.elements .i64) (tail.elements .i64) ∧
      (∀ i, (i ∈ words.elements .i64 ∨ i ∈ tail.elements .i64) ↔ i < 5) ∧
      (tail.elements .i64).card ≤ 1 := by
  intro opened w launch words tail s
  have hlimits : opened.1.limits = Adapter.noop.limits.launchLimits := rfl
  have hnarrow : Adapter.noop.limits.Narrow := by decide
  have hqueue : opened.1.queue < w.queues.size := Nat.one_pos
  have hsubmitted : ((enqueue opened.1 launch).perform w).2.submissionsAt opened.1.queue =
      s :: w.submissionsAt opened.1.queue := by
    have houtcome : opened.1.outcome w.registry launch = .submitted s :=
      Client.outcome_eq_submitted_iff.mpr (by decide +kernel)
    have hperform := perform_enqueue_eq opened.1 launch w
    rw [houtcome] at hperform
    rw [hperform]
    exact submissionsAt_submit hqueue s
  obtain ⟨-, -, hapart, hcover, -, hrest⟩ :=
    submission_partitions hlimits hnarrow hqueue launch hsubmitted
  refine ⟨hlimits, hnarrow, hqueue, hsubmitted,
    (List.pairwise_cons.mp hapart).1 tail List.mem_cons_self, fun i => ?_,
    hrest .i64 rfl tail (List.mem_cons_of_mem _ List.mem_cons_self) rfl⟩
  have hi := hcover i
  simp only [s, List.mem_cons, List.not_mem_nil, or_false, exists_eq_or_imp, exists_eq_left] at hi
  exact hi

end Submissions

end WebGpu

end DeviceCopy
