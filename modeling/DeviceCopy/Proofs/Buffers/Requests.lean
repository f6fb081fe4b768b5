import DeviceCopy.Buffer.Copy
import DeviceCopy.Proofs.Effects
import DeviceCopy.Proofs.Launch.Bounds

/-!
# Requests for a checked copy

What can be said about a checked copy without knowing the backend: which kernel a strategy launches,
when the limits admit its grid, what it means that nothing is wrong with the buffers, and what the
copy keeps of the world.
-/

set_option autoImplicit false

namespace DeviceCopy

/-! ## Kernels of the strategies -/

/-- The kernel of a strategy for an element type, if it has one. -/
def Strategy.kernel? (strategy : Strategy) (dtype : DType) : Option Kernel :=
  match strategy with
  | .scalar => some (.scalar dtype)
  | .vector => some (.vector dtype)
  | .blocked => if dtype = .f32 then some (.blocked .singlePass defaultBlockingFactor) else none

theorem Strategy.launchable_of_kernel? {strategy : Strategy} {dtype : DType} {kernel : Kernel}
    (h : strategy.kernel? dtype = some kernel) : kernel.Launchable := by
  cases strategy with
  | scalar =>
    cases h
    trivial
  | vector =>
    cases h
    trivial
  | blocked =>
    simp only [kernel?] at h
    split at h
    · cases h
      decide
    · cases h

theorem Strategy.ne_scalar_of_isWide {strategy : Strategy} {dtype : DType} {kernel : Kernel}
    (h : strategy.kernel? dtype = some kernel) (hwide : kernel.isWide = true) :
    strategy ≠ .scalar := by
  rintro rfl
  cases h
  cases hwide

/-- The kernel a strategy launches, for element types that it serves. -/
def Strategy.kernel (strategy : Strategy) (dtype : DType) : Kernel :=
  match strategy with
  | .scalar => .scalar dtype
  | .vector => .vector dtype
  | .blocked => .blocked .singlePass defaultBlockingFactor

theorem Strategy.kernel?_eq (strategy : Strategy) (dtype : DType) :
    strategy.kernel? dtype =
      if strategy = .blocked ∧ dtype ≠ .f32 then none else some (strategy.kernel dtype) := by
  cases strategy with
  | scalar => rfl
  | vector => rfl
  | blocked =>
    by_cases h : dtype = .f32
    · simp [kernel?, kernel, h]
    · simp [kernel?, h]

/-- A strategy moves elements of the type it is asked to. -/
theorem Strategy.dtype_kernel {strategy : Strategy} {dtype : DType}
    (h : strategy.kernel? dtype = some (strategy.kernel dtype)) :
    (strategy.kernel dtype).dtype = dtype := by
  cases strategy with
  | scalar => rfl
  | vector => rfl
  | blocked =>
    rw [kernel?_eq] at h
    simpa [eq_comm, Kernel.dtype, kernel] using h

/-- The grid of a strategy is outside the limits if groups are too wide, if no group at all is
accepted, or if it may not be cut down to what is. -/
theorem Limits.admits_grid_iff (l : Limits) (strategy : Strategy) (dtype : DType) (count : Nat) :
    l.Admits ((strategy.kernel dtype).grid l.maxGroups count) ↔
      ¬ (l.maxThreadsPerGroup < 64 ∨ l.maxGroups = 0 ∨
        strategy = .blocked ∧ l.maxGroups < max 1 ((count + 511) / 512)) := by
  rw [Kernel.admits_grid_iff_not_exceeds]
  cases strategy with
  | scalar => simp [Strategy.kernel, Kernel.Exceeds]
  | vector => simp [Strategy.kernel, Kernel.Exceeds]
  | blocked =>
    have hexceeds : (Strategy.blocked.kernel dtype).Exceeds l count ↔
        l.maxThreadsPerGroup < 64 ∨ l.maxGroups < max 1 ((count + 511) / 512) := Iff.rfl
    rw [hexceeds]
    simp only [true_and]
    omega

/-! ## Requests without a problem -/

/-- The answer to a request that is refused for a reason, or not at all. -/
def answerOf : Option Error → Except Failure Unit
  | none => .ok ()
  | some e => .error (.error e)

namespace Buffer

section

variable {World Device Client : Type} {b : Backend World Device Client} {client : Client}
  {strategy : Strategy} {src dst : Buffer Device} {count : Nat}

/-- What a checked copy asks of its buffers. -/
structure Copyable (b : Backend World Device Client) (client : Client) (strategy : Strategy)
    (src dst : Buffer Device) (count : Nat) : Prop where
  dtype : src.dtype = dst.dtype
  srcDevice : b.deviceId (b.clientDevice client) = b.deviceId src.device
  dstDevice : b.deviceId (b.clientDevice client) = b.deviceId dst.device
  srcLength : count ≤ src.length
  dstLength : count ≤ dst.length
  distinct : 0 < count → src.pointer ≠ dst.pointer
  aligned : strategy ≠ .scalar → b.wideAligned src.pointer = true ∧ b.wideAligned dst.pointer = true

theorem copyProblem_eq_none_iff :
    copyProblem b client strategy src dst count = none ↔
      Copyable b client strategy src dst count := by
  unfold copyProblem
  constructor
  · intro h
    simp only [ite_eq_iff, reduceCtorEq, and_false, false_or, not_or, not_lt, Decidable.not_not,
      bne_iff_ne, Bool.and_eq_true, Bool.not_eq_true', ne_eq, not_and] at h
    rcases h with ⟨hdtype, ⟨hsrc, hdst⟩, hsrcLength, hdstLength, hdistinct, hsrcAligned,
      hdstAligned, -⟩
    exact ⟨hdtype, hsrc, hdst, hsrcLength, hdstLength, hdistinct,
      fun hwide => ⟨by simpa using hsrcAligned hwide, by simpa using hdstAligned hwide⟩⟩
  · intro h
    have hplace : ¬ (b.deviceId (b.clientDevice client) ≠ b.deviceId src.device ∨
        b.deviceId (b.clientDevice client) ≠ b.deviceId dst.device) := by
      simp [h.srcDevice.symm, h.dstDevice.symm]
    have hdistinct : ¬ (0 < count ∧ src.pointer = dst.pointer) :=
      fun hsame => h.distinct hsame.1 hsame.2
    simp only [h.dtype, ne_eq, not_true_eq_false, if_false, if_neg hplace, h.srcLength.not_gt,
      h.dstLength.not_gt, if_neg hdistinct]
    cases hwide : (strategy != .scalar) with
    | false => simp
    | true => simp [h.aligned (by simpa using hwide)]

end

/-- What is wrong with a request to copy as far as types, lengths and distinctness go. -/
def shapeProblem (same : Bool) (srcDType dstDType : DType) (srcLength dstLength count : Nat) :
    Option Error :=
  if srcDType ≠ dstDType then some (.dtypeMismatch srcDType dstDType)
  else if srcLength < count then some (.bufferTooSmall count srcLength)
  else if dstLength < count then some (.bufferTooSmall count dstLength)
  else if 0 < count ∧ same then some (.invalidArgument "dst" .overlap)
  else none

/-- Two buffers, or one buffer twice, that a backend has placed well, on the device of a client. -/
structure WellPlaced {World Device Client : Type} (b : Backend World Device Client) (client : Client)
    (same : Bool) (src dst : Buffer Device) : Prop where
  srcDevice : b.deviceId (b.clientDevice client) = b.deviceId src.device
  dstDevice : b.deviceId (b.clientDevice client) = b.deviceId dst.device
  srcAligned : b.wideAligned src.pointer = true
  dstAligned : b.wideAligned dst.pointer = true
  same_iff : 0 < src.sizeInBytes → (src.pointer = dst.pointer ↔ same = true)

/-- Buffers with bytes are one buffer if they have one pointer, as other buffers share only the null
pointer. -/
theorem same_iff_of_separate {Device : Type} {same : Bool} {src dst : Buffer Device}
    (hnull : src.pointer = 0 ↔ src.sizeInBytes = 0) (hsame : same = true → src.pointer = dst.pointer)
    (hseparate : same = false → src.pointer = dst.pointer → src.pointer = 0)
    (hsize : 0 < src.sizeInBytes) : src.pointer = dst.pointer ↔ same = true := by
  refine ⟨fun hpointer => ?_, hsame⟩
  by_contra hother
  have hempty := hnull.mp (hseparate (Bool.eq_false_iff.mpr hother) hpointer)
  omega

/-- Of buffers that are well placed only types, lengths and distinctness can be wrong. -/
theorem WellPlaced.copyProblem_eq {World Device Client : Type} {b : Backend World Device Client}
    {client : Client} {same : Bool} {src dst : Buffer Device} (h : WellPlaced b client same src dst)
    (strategy : Strategy) (count : Nat) :
    copyProblem b client strategy src dst count =
      shapeProblem same src.dtype dst.dtype src.length dst.length count := by
  have hhome : ¬ (b.deviceId (b.clientDevice client) ≠ b.deviceId src.device ∨
      b.deviceId (b.clientDevice client) ≠ b.deviceId dst.device) := by
    simp [h.srcDevice.symm, h.dstDevice.symm]
  unfold copyProblem shapeProblem
  simp only [if_neg hhome, h.srcAligned, h.dstAligned, Bool.not_true, Bool.and_false,
    Bool.false_eq_true, if_false]
  split
  · rfl
  · split
    · rfl
    · next hlength =>
      have hsame : (0 < count ∧ src.pointer = dst.pointer) ↔ (0 < count ∧ same = true) :=
        and_congr_right fun hpos =>
          h.same_iff (Nat.mul_pos (hpos.trans_le (Nat.le_of_not_lt hlength)) src.dtype.size_pos)
      simp only [hsame]

end Buffer

/-- Past the checks on its buffers a copy is one entry point, if the strategy has a kernel. -/
theorem Copy.withStrategy_eq {World Device Client : Type} (b : Backend World Device Client)
    (client : Client) (strategy : Strategy) (dtype : DType) (count from_ to_ : Nat) :
    Copy.withStrategy b client strategy dtype count from_ to_ =
      match strategy.kernel? dtype with
      | some kernel => Copy.queueAndCheck b client kernel count from_ to_
      | none => Effect.fail (.unsupportedDType dtype "register-blocked copy") := by
  cases strategy with
  | scalar => rfl
  | vector => rfl
  | blocked =>
    simp only [Copy.withStrategy, Strategy.kernel?]
    split
    · rfl
    · rfl

/-! ## What a checked copy keeps -/

section Keeping

variable {World Device Client : Type} {b : Backend World Device Client} {client : Client}
  {P : World → Prop}

/-- A checked copy keeps what the entry points and the wait keep. -/
theorem Buffer.keeps_copyWith_of_entryPoints
    (hentry : ∀ kernel count src dst, Effect.Keeps P (Copy.queueAndCheck b client kernel count src dst))
    (hwait : Effect.Keeps P (b.synchronize client)) (strategy : Strategy) (src dst : Buffer Device)
    (count : Nat) : Effect.Keeps P (Buffer.copyWith b client strategy src dst count) := by
  unfold Buffer.copyWith
  cases Buffer.copyProblem b client strategy src dst count with
  | some e => exact .fail e
  | none =>
    refine .bind ?_ (fun _ => hwait)
    rw [Copy.withStrategy_eq]
    cases strategy.kernel? src.dtype with
    | none => exact .fail _
    | some kernel => exact hentry kernel _ _ _

variable (htell : ∀ event w, P w → P (b.tell event w))
  (henqueue : ∀ launch, Effect.Keeps P (b.enqueue client launch))
  (hcheck : Effect.Keeps P (b.checkLastError client))

include htell henqueue hcheck

theorem Copy.keeps_queueAndCheck (kernel : Kernel) (count src dst : Nat) :
    Effect.Keeps P (Copy.queueAndCheck b client kernel count src dst) :=
  .bind (.checked _) (fun _ =>
    .bind (.update (htell _)) (fun _ => .bind (henqueue _) (fun _ => hcheck)))

theorem Buffer.keeps_copyWith (hwait : Effect.Keeps P (b.synchronize client)) (strategy : Strategy)
    (src dst : Buffer Device) (count : Nat) :
    Effect.Keeps P (Buffer.copyWith b client strategy src dst count) :=
  Buffer.keeps_copyWith_of_entryPoints (Copy.keeps_queueAndCheck htell henqueue hcheck) hwait strategy
    src dst count

theorem Buffer.keeps_copy (hwait : Effect.Keeps P (b.synchronize client)) (src dst : Buffer Device)
    (count : Nat) : Effect.Keeps P (Buffer.copy b client src dst count) :=
  .bind (Buffer.keeps_copyWith htell henqueue hcheck hwait _ src dst count) (fun _ => .pure _)

end Keeping

end DeviceCopy
