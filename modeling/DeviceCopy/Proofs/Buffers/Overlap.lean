import DeviceCopy.ErrorFlag
import DeviceCopy.Proofs.Buffers.Housing
import DeviceCopy.Proofs.Buffers.Requests

/-!
# Overlapping buffers

Where a byte at a pointer lies is up to the backend. If memory in use is apart, buffers with bytes
meet exactly if they are at one pointer, and then they are one buffer. So a checked copy, which
compares pointers, refuses exactly the pairs that overlap, of those that pass its earlier checks.
-/

set_option autoImplicit false

namespace DeviceCopy

variable {World Device Client Location : Type}

/-- A byte among the first ones of a buffer is a byte among the first ones of another. -/
def Buffer.Meets (locate : (pointer offset : Nat) → Location) (src : Buffer Device) (srcBytes : Nat)
    (dst : Buffer Device) (dstBytes : Nat) : Prop :=
  ∃ i < srcBytes, ∃ j < dstBytes, locate src.pointer i = locate dst.pointer j

/-- What a checked copy looks at before it looks for an overlap. -/
structure Buffer.PassesEarlier (b : Backend World Device Client) (client : Client)
    (src dst : Buffer Device) (count : Nat) : Prop where
  dtype : src.dtype = dst.dtype
  srcDevice : b.deviceId (b.clientDevice client) = b.deviceId src.device
  dstDevice : b.deviceId (b.clientDevice client) = b.deviceId dst.device
  srcLength : count ≤ src.length
  dstLength : count ≤ dst.length

/-- A failure that is not about an argument. -/
def Failure.NotArgument (failure : Failure) : Prop :=
  ∀ argument problem, failure ≠ .error (.invalidArgument argument problem)

/-! ## Reports in flags -/

namespace ErrorFlag

/-- A flag holds nothing but the report of a rejected launch. -/
def Honest (flag : ErrorFlag) : Prop := ∀ e, flag.pending = some e → e.isLaunchFailure = true

theorem honest_clear : clear.Honest := nofun

theorem honest_record {backend kernel : String} {limits : Limits} {g : Geometry} {e : Error}
    (h : launchRejection backend kernel limits g = some e) (flag : ErrorFlag) :
    (flag.record e).Honest := by
  intro report hreport
  cases hreport
  rw [launchRejection_eq] at h
  split at h
  · cases h
  · cases h
    rfl

end ErrorFlag

theorem Failure.notArgument_of_isLaunchFailure {e : Error} (h : e.isLaunchFailure = true) :
    (Failure.error e).NotArgument := by
  rintro argument problem heq
  cases heq
  cases h

/-! ## What a checked copy refuses -/

section Copies

variable {b : Backend World Device Client} {client : Client} {strategy : Strategy}
  {src dst : Buffer Device} {count : Nat}

/-- The only fault that a checked copy finds with an argument is an overlap, and it finds it once all
that is looked at earlier is in order. -/
theorem Buffer.copyProblem_argument {argument : String} {problem : ArgumentProblem}
    (h : copyProblem b client strategy src dst count = some (.invalidArgument argument problem)) :
    PassesEarlier b client src dst count ∧ 0 < count ∧ src.pointer = dst.pointer := by
  unfold copyProblem at h
  simp only at h
  split at h
  · cases h
  · next hdtype =>
    split at h
    · cases h
    · next hplace =>
      rw [not_or, not_ne_iff, not_ne_iff] at hplace
      split at h
      · cases h
      · next hsrc =>
        split at h
        · cases h
        · next hdst =>
          split at h
          · next hsame =>
            exact ⟨⟨not_ne_iff.mp hdtype, hplace.1, hplace.2, Nat.le_of_not_lt hsrc,
              Nat.le_of_not_lt hdst⟩, hsame⟩
          · -- Only the alignment is looked at after that.
            split at h
            · cases h
            · split at h
              · cases h
              · cases h

theorem Buffer.copyProblem_of_overlap (h : PassesEarlier b client src dst count) (hcount : 0 < count)
    (hsame : src.pointer = dst.pointer) :
    copyProblem b client strategy src dst count = some (.invalidArgument "dst" .overlap) := by
  have hplace : ¬ (b.deviceId (b.clientDevice client) ≠ b.deviceId src.device ∨
      b.deviceId (b.clientDevice client) ≠ b.deviceId dst.device) := by
    simp [h.srcDevice.symm, h.dstDevice.symm]
  unfold copyProblem
  simp only [h.dtype, ne_eq, not_true_eq_false, if_false, if_neg hplace, h.srcLength.not_gt,
    h.dstLength.not_gt, if_pos (And.intro hcount hsame)]

variable {P : World → Prop} (htell : ∀ event w, P w → P (b.tell event w))
  (henqueue : ∀ launch : Launch, launch.src = src.pointer → launch.dst = dst.pointer →
    Effect.FailsAs P Failure.NotArgument (b.enqueue client launch))
  (hcheck : Effect.FailsAs P Failure.NotArgument (b.checkLastError client))

include htell henqueue hcheck

/-- Past the checks on the buffers no argument is found fault with, if the backend finds none. -/
theorem Buffer.copyWith_argument (hwait : Effect.FailsAs P Failure.NotArgument (b.synchronize client))
    {w : World} (hw : copyProblem b client strategy src dst count = none → P w) {argument : String}
    {problem : ArgumentProblem}
    (h : ((copyWith b client strategy src dst count).perform w).1 =
      .error (.error (.invalidArgument argument problem))) :
    copyProblem b client strategy src dst count = some (.invalidArgument argument problem) := by
  unfold copyWith at h
  cases hproblem : copyProblem b client strategy src dst count with
  | some e =>
    rw [hproblem] at h
    cases h
    rfl
  | none =>
    have hentry : ∀ kernel, Effect.FailsAs P Failure.NotArgument
        (Copy.queueAndCheck b client kernel count src.pointer dst.pointer) := by
      intro kernel
      refine .bind ?_ (fun _ => .bind (.update (htell _)) (fun _ =>
        .bind (henqueue _ rfl rfl) (fun _ => hcheck)))
      cases kernel.geometry (b.clientLimits client).maxGroups count with
      | ok geometry => exact .pure geometry
      | error fault => exact .giveUp nofun
    have hcopy : Effect.FailsAs P Failure.NotArgument
        (Copy.withStrategy b client strategy src.dtype count src.pointer dst.pointer) := by
      rw [Copy.withStrategy_eq]
      cases strategy.kernel? src.dtype with
      | none => exact .fail nofun
      | some kernel => exact hentry kernel
    rw [hproblem] at h
    exact absurd rfl ((hcopy.bind (fun _ => hwait) w (hw hproblem)).2 _ h argument problem)

end Copies

/-! ## Buffers told apart -/

/-- Holdings in another world. -/
def Holdings.inWorld (h : Holdings World Device) (w : World) : Holdings World Device :=
  { h with workspace := { h.workspace with world := w } }

/-- For the buffers behind two handles the pointers tell whether their memory meets, a checked copy
refuses a pair over an argument exactly if it overlaps, and the wide kernels may be launched on
them. -/
structure Holdings.ToldApart (b : Backend World Device Client)
    (locate : (pointer offset : Nat) → Location) (h : Holdings World Device) (first second : Nat)
    (src dst : Buffer Device) : Prop where
  meets_iff : ∀ {count}, 0 < count → count ≤ src.length → count ≤ dst.length →
    (src.Meets locate (count * src.dtype.size) dst (count * dst.dtype.size) ↔
      src.pointer = dst.pointer)
  meets_whole_iff : 0 < src.length → 0 < dst.length →
    (src.Meets locate src.sizeInBytes dst dst.sizeInBytes ↔ src.pointer = dst.pointer)
  clone_iff : 0 < src.length → 0 < dst.length →
    (src.pointer = dst.pointer ↔ h.handles.target first = h.handles.target second)
  refused_iff : ∀ (client : Client) (strategy : Strategy) {count}, 0 < count →
    ((∃ argument problem,
        ((Buffer.copyWith b client strategy src dst count).perform h.workspace.world).1 =
          .error (.error (.invalidArgument argument problem))) ↔
      Buffer.PassesEarlier b client src dst count ∧
        src.Meets locate (count * src.dtype.size) dst (count * dst.dtype.size))
  refusal : ∀ (client : Client) (strategy : Strategy) {count}, 0 < count →
    Buffer.PassesEarlier b client src dst count →
    src.Meets locate (count * src.dtype.size) dst (count * dst.dtype.size) →
      (Buffer.copyWith b client strategy src dst count).perform h.workspace.world =
        (.error (.error (.invalidArgument "dst" .overlap)), h.workspace.world)
  srcAligned : b.wideAligned src.pointer = true
  dstAligned : b.wideAligned dst.pointer = true

/-- Any two buffers behind handles are told apart. -/
def Holdings.TellsApart (b : Backend World Device Client)
    (locate : (pointer offset : Nat) → Location) (h : Holdings World Device) : Prop :=
  ∀ first second src dst, h.buffer? first = some src → h.buffer? second = some dst →
    h.ToldApart b locate first second src dst

section ToldApart

variable {b : Backend World Device Client} {s : Housing b} {rooms : Nat}
  {locate : (pointer offset : Nat) → Location} {h : Holdings World Device} {first second : Nat}
  {src dst : Buffer Device}

theorem Housing.Houses.toldApart (hhouses : s.Houses rooms h.estate) (hfirst : h.buffer? first = some src)
    (hsecond : h.buffer? second = some dst)
    (happart : ∀ {w p n p' n'}, s.Ready rooms w → s.Stored w p n → s.Stored w p' n' → p ≠ p' →
      ∀ i < n, ∀ j < n', locate p i ≠ locate p' j)
    (haligned : ∀ {w p n}, s.Ready rooms w → s.Stored w p n → b.wideAligned p = true)
    (hargument : ∀ client strategy count argument problem, 0 < count →
      ((Buffer.copyWith b client strategy src dst count).perform h.workspace.world).1 =
        .error (.error (.invalidArgument argument problem)) →
      Buffer.copyProblem b client strategy src dst count = some (.invalidArgument argument problem)) :
    h.ToldApart b locate first second src dst := by
  obtain ⟨id, htarget, howned⟩ := Option.bind_eq_some_iff.mp hfirst
  obtain ⟨id', htarget', howned'⟩ := Option.bind_eq_some_iff.mp hsecond
  have hsrc : s.Holds h.workspace.world src := hhouses.holds howned
  have hdst : s.Holds h.workspace.world dst := hhouses.holds howned'
  have hmeets : ∀ {srcBytes dstBytes}, 0 < srcBytes → srcBytes ≤ src.sizeInBytes → 0 < dstBytes →
      dstBytes ≤ dst.sizeInBytes →
        (src.Meets locate srcBytes dst dstBytes ↔ src.pointer = dst.pointer) := by
    intro srcBytes dstBytes hpos hle hpos' hle'
    constructor
    · rintro ⟨i, hi, j, hj, hbyte⟩
      by_contra hne
      exact happart hhouses.ready hsrc hdst hne i (Nat.lt_of_lt_of_le hi hle) j
        (Nat.lt_of_lt_of_le hj hle') hbyte
    · intro hsame
      exact ⟨0, hpos, 0, hpos', by rw [hsame]⟩
  have hsize : ∀ {buffer : Buffer Device}, 0 < buffer.length → 0 < buffer.sizeInBytes :=
    fun hlength => Nat.mul_pos hlength (DType.size_pos _)
  have hcounted : ∀ {count}, 0 < count → count ≤ src.length → count ≤ dst.length →
      (src.Meets locate (count * src.dtype.size) dst (count * dst.dtype.size) ↔
        src.pointer = dst.pointer) := fun hpos hle hle' =>
    hmeets (Nat.mul_pos hpos (DType.size_pos _)) (Nat.mul_le_mul_right _ hle)
      (Nat.mul_pos hpos (DType.size_pos _)) (Nat.mul_le_mul_right _ hle')
  have hrefusal : ∀ (client : Client) (strategy : Strategy) {count}, 0 < count →
      Buffer.PassesEarlier b client src dst count →
      src.Meets locate (count * src.dtype.size) dst (count * dst.dtype.size) →
        (Buffer.copyWith b client strategy src dst count).perform h.workspace.world =
          (.error (.error (.invalidArgument "dst" .overlap)), h.workspace.world) := by
    intro client strategy count hpos hearlier hmeet
    have hsame := (hcounted hpos hearlier.srcLength hearlier.dstLength).mp hmeet
    unfold Buffer.copyWith
    rw [Buffer.copyProblem_of_overlap hearlier hpos hsame]
    rfl
  refine ⟨hcounted, ?_, ?_, ?_, hrefusal, haligned hhouses.ready hsrc, haligned hhouses.ready hdst⟩
  · exact fun hpos hpos' =>
      hmeets (hsize hpos) (Nat.le_refl _) (hsize hpos') (Nat.le_refl _)
  · intro _ hpos'
    rw [hhouses.pointer_eq_iff howned howned' (hsize hpos'), htarget, htarget', Option.some_inj]
  · intro client strategy count hpos
    constructor
    · rintro ⟨argument, problem, hanswer⟩
      have hproblem := hargument client strategy count argument problem hpos hanswer
      obtain ⟨hearlier, -, hsame⟩ := Buffer.copyProblem_argument hproblem
      exact ⟨hearlier, (hcounted hpos hearlier.srcLength hearlier.dstLength).mpr hsame⟩
    · rintro ⟨hearlier, hmeet⟩
      exact ⟨_, _, congrArg Prod.fst (hrefusal client strategy hpos hearlier hmeet)⟩

end ToldApart

end DeviceCopy
