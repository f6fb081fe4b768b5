import DeviceCopy.Proofs.Emulated.CheckedCopy
import DeviceCopy.Proofs.Emulated.Elsewhere

/-!
# How a checked copy ends

For an idle client with an empty flag and no fault on its lane, and two buffers that are held, there
is nothing left to chance: `refusals` lists the reasons to refuse a checked copy in the order in
which they count, the call answers with the first that applies, and if none does it copies
(`checkedCopy_outcome`). A refusal leaves every lane, the memory and the empty flag as they were.

Other clients may be at work on other memory meanwhile. What the call guarantees about memory, it
guarantees where no job that is left on another lane writes.
-/

set_option autoImplicit false

namespace DeviceCopy

/-- Whether an address belongs to a block. -/
def Block.Contains (block : Block) (a : Nat) : Prop :=
  block.address ≤ a ∧ a < block.address + block.size

instance (block : Block) (a : Nat) : Decidable (block.Contains a) :=
  inferInstanceAs (Decidable (_ ∧ _))

namespace Emulated

variable {client : Client} {strategy : Strategy} {src dst : Buffer Device} {count : Nat}
  {kernel : Kernel} {launch : Launch} {w : World} {region : Nat → Prop}

/-! ## Reasons to refuse a copy -/

/-- The report on a strategy whose grid the device of a client rejects. -/
def launchReport (client : Client) (strategy : Strategy) (dtype : DType) (count : Nat) : Error :=
  let limits := client.device.limits
  let kernel := strategy.kernel dtype
  .launchFailed backendName kernel.name (limits.violation (kernel.grid limits.maxGroups count)).message

/-- Every reason to refuse a checked copy, in the order in which they count, with whether it
applies. -/
def refusals (client : Client) (strategy : Strategy) (src dst : Buffer Device) (count : Nat) :
    List (Bool × Error) :=
  let limits := client.device.limits
  let elsewhere := client.device.id ≠ src.device.id ∨ client.device.id ≠ dst.device.id
  let misplaced (buffer : Buffer Device) : Prop :=
    strategy ≠ .scalar ∧ buffer.pointer % wideWordBytes ≠ 0
  [(decide (src.dtype ≠ dst.dtype), .dtypeMismatch src.dtype dst.dtype),
   (decide elsewhere, .deviceMismatch),
   (decide (src.length < count), .bufferTooSmall count src.length),
   (decide (dst.length < count), .bufferTooSmall count dst.length),
   (decide (0 < count ∧ src.pointer = dst.pointer), .invalidArgument "dst" .overlap),
   (decide (misplaced src), .misaligned src.pointer wideWordBytes),
   (decide (misplaced dst), .misaligned dst.pointer wideWordBytes),
   (decide (strategy = .blocked ∧ src.dtype ≠ .f32),
     .unsupportedDType src.dtype "register-blocked copy"),
   (decide (limits.maxThreadsPerGroup < 64 ∨ limits.maxGroups = 0 ∨
       strategy = .blocked ∧ limits.maxGroups < max 1 ((count + 511) / 512)),
     launchReport client strategy src.dtype count)]

/-- The first reason to refuse a checked copy, if there is one. -/
def refusal? (client : Client) (strategy : Strategy) (src dst : Buffer Device) (count : Nat) :
    Option Error :=
  (refusals client strategy src dst count).lookup true

theorem lookup_true_cons (applies : Bool) (e : Error) (rest : List (Bool × Error)) :
    List.lookup true ((applies, e) :: rest) = if applies then some e else rest.lookup true := by
  cases applies with
  | true => rfl
  | false => rfl

theorem rejection_bufferLaunch (client : Client) (strategy : Strategy) (src dst : Buffer Device)
    (count : Nat) :
    client.rejection (bufferLaunch client (strategy.kernel src.dtype) src dst count) =
      if client.device.limits.Admits
          ((strategy.kernel src.dtype).grid client.device.limits.maxGroups count) then none
      else some (launchReport client strategy src.dtype count) :=
  launchRejection_eq _ _ _ _

/-- Reasons that lie in the request come first, then those that lie in the strategy and the
limits. -/
theorem refusal?_eq (client : Client) (strategy : Strategy) (src dst : Buffer Device) (count : Nat) :
    refusal? client strategy src dst count =
      match Buffer.copyProblem backend client strategy src dst count with
      | some e => some e
      | none =>
          match strategy.kernel? src.dtype with
          | none => some (.unsupportedDType src.dtype "register-blocked copy")
          | some kernel => client.rejection (bufferLaunch client kernel src dst count) := by
  have hplace : ∀ device : Device,
      backend.deviceId (backend.clientDevice client) ≠ backend.deviceId device ↔
        client.device.id ≠ device.id := fun _ => Iff.rfl
  have haligned : ∀ buffer : Buffer Device,
      ((strategy != .scalar && !backend.wideAligned buffer.pointer) = true) ↔
        strategy ≠ .scalar ∧ buffer.pointer % wideWordBytes ≠ 0 := by
    intro buffer
    change (strategy != .scalar && !isWideAligned buffer.pointer) = true ↔ _
    simp [isWideAligned]
  rw [Strategy.kernel?_eq]
  simp only [refusal?, refusals, lookup_true_cons, decide_eq_true_eq, List.lookup_nil,
    Buffer.copyProblem, hplace, haligned]
  -- Both sides now ask the same questions in the same order, up to the last one.
  split
  · rfl
  · split
    · rfl
    · split
      · rfl
      · split
        · rfl
        · split
          · rfl
          · split
            · rfl
            · split
              · rfl
              · split
                · rfl
                · simp only [rejection_bufferLaunch, Limits.admits_grid_iff, ite_not]

/-- The strategy picked for a copy is a wide one only between aligned buffers, and the staged one
only for floats. -/
theorem autoStrategy_fits (src dst : Buffer Device) (count : Nat) :
    (Buffer.autoStrategy backend src dst count ≠ .scalar →
      src.pointer % wideWordBytes = 0 ∧ dst.pointer % wideWordBytes = 0) ∧
    (Buffer.autoStrategy backend src dst count = .blocked → src.dtype = .f32) := by
  constructor
  · intro hauto
    by_contra hoff
    refine hauto ?_
    have hnot : (backend.wideAligned src.pointer && backend.wideAligned dst.pointer) = false := by
      change (isWideAligned src.pointer && isWideAligned dst.pointer) = false
      simpa [isWideAligned] using hoff
    simp [Buffer.autoStrategy, Strategy.auto, hnot]
  · intro hauto
    simp only [Buffer.autoStrategy, Strategy.auto] at hauto
    split at hauto
    · cases hauto
    · split at hauto
      · next hfloat => exact hfloat
      · cases hauto

/-- The strategy picked for a copy is never the reason to refuse it. -/
theorem refusal?_auto {e : Error}
    (h : refusal? client (Buffer.autoStrategy backend src dst count) src dst count = some e) :
    e.kind ≠ "Misaligned" ∧ e.kind ≠ "UnsupportedDType" := by
  obtain ⟨hwide, hfloat⟩ := autoStrategy_fits src dst count
  have hsrc : ¬ (Buffer.autoStrategy backend src dst count ≠ .scalar ∧
      src.pointer % wideWordBytes ≠ 0) := fun hoff => hoff.2 (hwide hoff.1).1
  have hdst : ¬ (Buffer.autoStrategy backend src dst count ≠ .scalar ∧
      dst.pointer % wideWordBytes ≠ 0) := fun hoff => hoff.2 (hwide hoff.1).2
  have hdtype : ¬ (Buffer.autoStrategy backend src dst count = .blocked ∧ src.dtype ≠ .f32) :=
    fun hoff => hoff.2 (hfloat hoff.1)
  simp only [refusal?, refusals, lookup_true_cons, hsrc, hdst, hdtype, decide_false,
    Bool.false_eq_true, if_false, List.lookup_nil, ite_eq_iff, Option.some.injEq, reduceCtorEq,
    and_false, or_false] at h
  rcases h with ⟨-, rfl⟩ | ⟨-, ⟨-, rfl⟩ | ⟨-, ⟨-, rfl⟩ | ⟨-, ⟨-, rfl⟩ | ⟨-, ⟨-, rfl⟩ | ⟨-, -, rfl⟩⟩⟩⟩⟩
  all_goals exact ⟨by simp [Error.kind, launchReport], by simp [Error.kind, launchReport]⟩

/-- A copy that nothing speaks against puts the job of its strategy on the lane. -/
theorem copyLaunch?_of_accepted (h : refusal? client strategy src dst count = none) :
    Buffer.Copyable backend client strategy src dst count ∧
      strategy.kernel? src.dtype = some (strategy.kernel src.dtype) ∧
      copyLaunch? client strategy src dst count =
        some (bufferLaunch client (strategy.kernel src.dtype) src dst count) := by
  rw [refusal?_eq] at h
  cases hproblem : Buffer.copyProblem backend client strategy src dst count with
  | some e =>
    rw [hproblem] at h
    cases h
  | none =>
    rw [hproblem] at h
    have hkernel := strategy.kernel?_eq src.dtype
    split at hkernel
    · rw [hkernel] at h
      cases h
    · rw [hkernel] at h
      refine ⟨Buffer.copyProblem_eq_none_iff.mp hproblem, hkernel, ?_⟩
      unfold copyLaunch?
      rw [hproblem, hkernel]
      exact if_pos (Client.rejection_eq_none_iff.mp h)

theorem refusal?_of_launch (h : copyLaunch? client strategy src dst count = some launch) :
    refusal? client strategy src dst count = none := by
  rw [refusal?_eq]
  unfold copyLaunch? at h
  cases hproblem : Buffer.copyProblem backend client strategy src dst count with
  | some e =>
    rw [hproblem] at h
    cases h
  | none =>
    rw [hproblem] at h
    cases hkernel : strategy.kernel? src.dtype with
    | none =>
      rw [hkernel] at h
      cases h
    | some kernel =>
      rw [hkernel] at h
      have hadmits : client.device.limits.Admits (bufferLaunch client kernel src dst count).geometry :=
        (Option.ite_none_right_eq_some.mp h).1
      exact Client.rejection_eq_none_iff.mpr hadmits

/-- With an empty flag a refused copy answers with the first reason and does not touch any lane. -/
theorem copyWith_of_refused (hlane : client.lane < w.lanes.size)
    (hflag : w.flagAt client.lane = none) {e : Error}
    (h : refusal? client strategy src dst count = some e) :
    ((Buffer.copyWith backend client strategy src dst count).perform w).1 = .error (.error e) ∧
      w.SameStreams ((Buffer.copyWith backend client strategy src dst count).perform w).2 ∧
      ((Buffer.copyWith backend client strategy src dst count).perform w).2.flagAt
        client.lane = none := by
  rw [refusal?_eq] at h
  cases hproblem : Buffer.copyProblem backend client strategy src dst count with
  | some problem =>
    rw [hproblem] at h
    cases h
    rw [copyWith_of_problem hproblem]
    exact ⟨rfl, .refl w, hflag⟩
  | none =>
    rw [hproblem] at h
    cases hkernel : strategy.kernel? src.dtype with
    | none =>
      rw [hkernel] at h
      cases h
      rw [copyWith_of_unsupported hproblem hkernel]
      exact ⟨rfl, .refl w, hflag⟩
    | some kernel =>
      rw [hkernel] at h
      obtain ⟨hperform, hsame⟩ := copyWith_of_rejected (w := w) hlane hproblem hkernel h
      rw [hperform]
      exact ⟨rfl, hsame, flagAt_takeError client _⟩

/-! ## The lane after the query -/

/-- Once its job has been put on the lane, a copy is on its way to what the job makes of where the
lane was headed. -/
theorem settled_afterQuery (hsound : w.Sound) (hlane : client.lane < w.lanes.size)
    (hreport : client.rejection launch = none) (hcalm : w.Calm client.lane region)
    (hstays : launch.StaysIn region) :
    ((afterQuery client launch w).progress.settled client.lane).1.AgreeOn region
        (launch.run (w.settled client.lane).1).1 ∧
      ((afterQuery client launch w).progress.settled client.lane).2 =
        ((w.settled client.lane).2 <|> (launch.run w.memory).2) := by
  let told := w.tell (copyEvent launch.kernel launch.count launch.geometry)
  let submitted := told.submit client.lane launch
  have htold : w.SameStreams told := World.sameStreams_tell _ w
  have hafter : submitted.progress.SameStreams (afterQuery client launch w) := by
    unfold afterQuery
    rw [afterEnqueue_of_admitted hreport]
    exact sameStreams_takeError client _
  have hsettled : submitted.settled client.lane =
      ((launch.run (w.settled client.lane).1).1,
        (w.settled client.lane).2 <|> (launch.run (w.settled client.lane).1).2) := by
    rw [World.settled_submit (htold.sound hsound) (htold.size ▸ hlane), htold.settled]
  -- Submitting and taking the flag leave it as calm as it was.
  have hcalm' : submitted.Calm client.lane region := by
    refine ⟨?_, ?_⟩
    · intro a ha other hother job hjob
      rw [World.unfinished_submit_of_ne told hother launch, htold.unfinished] at hjob
      exact hcalm.others a ha other hother job hjob
    · intro job hjob
      rw [World.unfinished_submit (htold.sound hsound) (htold.size ▸ hlane), htold.unfinished] at hjob
      split at hjob
      · rcases List.mem_append.mp hjob with hold | hnew
        · exact hcalm.own job hold
        · rw [List.mem_singleton.mp hnew]
          exact hstays
      · cases hjob
  have hcalm'' : (afterQuery client launch w).Calm client.lane region := by
    refine hcalm'.of_subset ?_
    intro other
    rw [hafter.unfinished, World.unfinished_progress]
    exact List.drop_subset _ _
  have hcourse : (afterQuery client launch w).progress.SameCourse client.lane region submitted :=
    hcalm''.progress.trans
      ((World.SameCourse.of_settled_eq (hafter.settled client.lane)).trans hcalm'.progress)
  refine ⟨?_, ?_⟩
  · intro a ha
    exact (hcourse.memory a ha).trans (congrArg (fun s => s.1.get a) hsettled)
  · rw [hcourse.fault, hsettled, launch.fault_run _ w.memory]

/-- An accepted copy with an empty flag waits for its job and answers with the fault its lane ends
in. -/
theorem copyWith_settles (hsound : w.Sound) (hlane : client.lane < w.lanes.size)
    (hlaunch : copyLaunch? client strategy src dst count = some launch)
    (hflag : w.flagAt client.lane = none) (hcalm : w.Calm client.lane region)
    (hstays : launch.StaysIn region) :
    ((Buffer.copyWith backend client strategy src dst count).perform w).1 =
        waitAnswer client.lane ((w.settled client.lane).2 <|> (launch.run w.memory).2) ∧
      ((Buffer.copyWith backend client strategy src dst count).perform w).2.memory.AgreeOn region
        (launch.run (w.settled client.lane).1).1 ∧
      ((Buffer.copyWith backend client strategy src dst count).perform w).2.unfinished
        client.lane = [] ∧
      ((Buffer.copyWith backend client strategy src dst count).perform w).2.faultAt
        client.lane = none ∧
      ((Buffer.copyWith backend client strategy src dst count).perform w).2.flagAt
        client.lane = none := by
  have hreport : client.rejection launch = none :=
    Client.rejection_eq_none_iff.mpr (admits_of_copyLaunch? hlaunch)
  have hsize : client.lane < (afterQuery client launch w).lanes.size := by
    have hquery : (afterQuery client launch w).lanes.size =
        (afterEnqueue client launch
          (w.tell (copyEvent launch.kernel launch.count launch.geometry))).lanes.size :=
      (sameStreams_takeError client _).size
    rw [hquery, afterEnqueue_of_admitted hreport, (World.sameClients_progress _).size,
      (World.sameClients_submit _ _ _).size]
    exact hlane
  have hclear : (afterQuery client launch w).flagAt client.lane = none := by
    unfold afterQuery
    exact flagAt_takeError client _
  have hperform : (Buffer.copyWith backend client strategy src dst count).perform w =
      (synchronize client).perform (afterQuery client launch w) := by
    rw [copyWith_of_launch hlaunch, hflag]
  obtain ⟨hagree, hsame⟩ := settled_afterQuery hsound hlane hreport hcalm hstays
  rw [hperform]
  generalize afterQuery client launch w = v at hsize hclear hagree hsame ⊢
  obtain ⟨hanswer, hmemory, hfault, hkept⟩ := synchronize_settles hsize
  refine ⟨?_, ?_, unfinished_synchronize client v, hfault, ?_⟩
  · rw [hanswer, hsame]
  · rw [hmemory]
    exact hagree
  · rw [hkept, hclear]

/-! ## The copy between two buffers -/

/-- Between buffers that are held, the job of a request without a problem copies and does not
fault. -/
theorem run_bufferLaunch (hheap : w.heap.Sound) (hsrc : w.Holds src) (hdst : w.Holds dst)
    (hcopyable : Buffer.Copyable backend client strategy src dst count)
    (hkernel : strategy.kernel? src.dtype = some (strategy.kernel src.dtype)) (m : Memory) :
    ((bufferLaunch client (strategy.kernel src.dtype) src dst count).run m).2 = none ∧
      m.Copied ((bufferLaunch client (strategy.kernel src.dtype) src dst count).run m).1 src.pointer
        dst.pointer (count * src.dtype.size) := by
  have hdtype : (strategy.kernel src.dtype).dtype = src.dtype := Strategy.dtype_kernel hkernel
  have hfits : count * src.dtype.size ≤ src.sizeInBytes := Nat.mul_le_mul_right _ hcopyable.srcLength
  have hfits' : count * src.dtype.size ≤ dst.sizeInBytes := by
    rw [hcopyable.dtype]
    exact Nat.mul_le_mul_right _ hcopyable.dstLength
  have hsize : count * src.dtype.size ≤ 2 ^ 63 - 1 :=
    (hfits.trans (hsrc.size_le hheap)).trans (by decide)
  have hapart : Block.Apart ⟨src.pointer, count * src.dtype.size⟩
      ⟨dst.pointer, count * src.dtype.size⟩ := by
    rcases Nat.eq_zero_or_pos count with rfl | hpos
    · -- Nothing is copied, so whatever the addresses are the ranges are apart.
      rw [Nat.zero_mul]
      exact Nat.le_total _ _
    · exact (hsrc.apart hdst hheap (hcopyable.distinct hpos)).mono hfits hfits'
  have hruns : ∀ size, (strategy.kernel src.dtype).dtype.size = size → count * size ≤ 2 ^ 63 - 1 →
      Block.Apart ⟨src.pointer, count * size⟩ ⟨dst.pointer, count * size⟩ →
      ((bufferLaunch client (strategy.kernel src.dtype) src dst count).run m).2 = none ∧
        m.Copied ((bufferLaunch client (strategy.kernel src.dtype) src dst count).run m).1
          src.pointer dst.pointer (count * size) := by
    rintro size rfl hsize hapart
    exact Launch.run_grid (Strategy.launchable_of_kernel? hkernel) hsize hapart m
  exact hruns _ (congrArg DType.size hdtype) hsize hapart

/-- With an empty flag and no fault on the way, a checked copy is answered with the first reason to
refuse it, or with success, whatever is going on in memory. -/
theorem answer_copyWith (hsound : w.Sound) (hheap : w.heap.Sound)
    (hlane : client.lane < w.lanes.size) (hflag : w.flagAt client.lane = none)
    (hfault : (w.settled client.lane).2 = none) (hsrc : w.Holds src) (hdst : w.Holds dst) :
    ((Buffer.copyWith backend client strategy src dst count).perform w).1 =
      answerOf (refusal? client strategy src dst count) := by
  cases hrefusal : refusal? client strategy src dst count with
  | some e => exact (copyWith_of_refused hlane hflag hrefusal).1
  | none =>
    obtain ⟨hcopyable, hkernel, hlaunch⟩ := copyLaunch?_of_accepted hrefusal
    have hnone := (run_bufferLaunch hheap hsrc hdst hcopyable hkernel w.memory).1
    -- No address is looked at, so no job has to be known.
    have hanswer := (copyWith_settles hsound hlane hlaunch hflag (w.calm_nowhere client.lane)
      (fun _ _ _ _ ha => ha.elim)).1
    rw [hanswer, hfault, hnone]
    rfl

/-- A job that copies from a region looks at nothing outside it. -/
theorem staysIn_of_copied {from_ to_ size : Nat}
    (hruns : ∀ m : Memory, m.Copied (launch.run m).1 from_ to_ size)
    (hregion : ∀ a, Block.Contains ⟨from_, size⟩ a → region a) : launch.StaysIn region := by
  intro m m' hagree a ha
  rw [hruns m a, hruns m' a]
  split
  · next hinside => exact hagree _ (hregion _ ⟨Nat.le_add_right _ _, by simp only; omega⟩)
  · exact hagree a ha

/-- How a checked copy ends for which there is a first reason to refuse it, or none. Refused, it
answers with the reason and has put no job on any lane. Otherwise it answers with its value, nothing
is left on the lane, and memory is as before with the elements copied, wherever no job that was left
on another lane writes. -/
def Ends {α : Type} (client : Client) (src dst : Buffer Device) (count : Nat) (value : α) (w : World)
    (result : Except Failure α × World) : Option Error → Prop
  | some e =>
      result.1 = .error (.error e) ∧ w.SameStreams result.2 ∧ result.2.flagAt client.lane = none
  | none =>
      result.1 = .ok value ∧
      (∀ a, w.Quiet client.lane a →
        result.2.memory.get a =
          if Block.Contains ⟨dst.pointer, count * src.dtype.size⟩ a then
            w.memory.get (src.pointer + (a - dst.pointer))
          else w.memory.get a) ∧
      result.2.unfinished client.lane = [] ∧ result.2.faultAt client.lane = none ∧
      result.2.flagAt client.lane = none

theorem ends_copyWith (hsound : w.Sound) (hheap : w.heap.Sound) (hlane : client.lane < w.lanes.size)
    (hidle : w.unfinished client.lane = []) (hfault : w.faultAt client.lane = none)
    (hflag : w.flagAt client.lane = none) (hsrc : w.Holds src) (hdst : w.Holds dst)
    (hquiet : ∀ a, src.block.Contains a → w.Quiet client.lane a) (strategy : Strategy)
    (count : Nat) :
    Ends client src dst count () w
      ((Buffer.copyWith backend client strategy src dst count).perform w)
      (refusal? client strategy src dst count) := by
  cases hrefusal : refusal? client strategy src dst count with
  | some e => exact copyWith_of_refused hlane hflag hrefusal
  | none =>
    obtain ⟨hcopyable, hkernel, hlaunch⟩ := copyLaunch?_of_accepted hrefusal
    have hruns := run_bufferLaunch hheap hsrc hdst hcopyable hkernel
    -- The region to look at is where no other lane writes.
    have hstays : (bufferLaunch client (strategy.kernel src.dtype) src dst count).StaysIn
        (w.Quiet client.lane) := by
      refine staysIn_of_copied (fun m => (hruns m).2) ?_
      intro a ha
      refine hquiet a ⟨ha.1, Nat.lt_of_lt_of_le ha.2 ?_⟩
      exact Nat.add_le_add_left (Nat.mul_le_mul_right _ hcopyable.srcLength) _
    have hcalm : w.Calm client.lane (w.Quiet client.lane) := by
      refine ⟨fun a ha => ha, ?_⟩
      rw [hidle]
      exact fun job hjob => absurd hjob List.not_mem_nil
    obtain ⟨hanswer, hmemory, hleft, hnone, hclear⟩ :=
      copyWith_settles hsound hlane hlaunch hflag hcalm hstays
    rw [World.settled_of_idle hidle] at hanswer hmemory
    rw [hfault, (hruns w.memory).1] at hanswer
    refine ⟨hanswer, ?_, hleft, hnone, hclear⟩
    intro a ha
    exact (hmemory a ha).trans ((hruns w.memory).2 a)

theorem ends_copy (hsound : w.Sound) (hheap : w.heap.Sound) (hlane : client.lane < w.lanes.size)
    (hidle : w.unfinished client.lane = []) (hfault : w.faultAt client.lane = none)
    (hflag : w.flagAt client.lane = none) (hsrc : w.Holds src) (hdst : w.Holds dst)
    (hquiet : ∀ a, src.block.Contains a → w.Quiet client.lane a) (count : Nat) :
    Ends client src dst count (Buffer.autoStrategy backend src dst count) w
      ((Buffer.copy backend client src dst count).perform w)
      (refusal? client (Buffer.autoStrategy backend src dst count) src dst count) := by
  have hends := ends_copyWith hsound hheap hlane hidle hfault hflag hsrc hdst hquiet
    (Buffer.autoStrategy backend src dst count) count
  rw [perform_copy]
  cases hrefusal : refusal? client (Buffer.autoStrategy backend src dst count) src dst count with
  | some e =>
    rw [hrefusal] at hends
    obtain ⟨hanswer, hsame, hclear⟩ := hends
    exact ⟨congrArg (Except.map _) hanswer, hsame, hclear⟩
  | none =>
    rw [hrefusal] at hends
    obtain ⟨hanswer, hmemory, hrest⟩ := hends
    exact ⟨congrArg (Except.map _) hanswer, hmemory, hrest⟩

/-- Whatever its strategy, a checked copy on an idle client answers with the first reason to refuse
it and has then done nothing, or it copies. So does one that picks its strategy, which it answers
with; that strategy is itself never the reason. -/
theorem checkedCopy_outcome (hreachable : World.Reachable w)
    (hlawful : w.environment.place.Lawful) (hlane : client.lane < w.lanes.size)
    (hidle : w.unfinished client.lane = []) (hfault : w.faultAt client.lane = none)
    (hflag : w.flagAt client.lane = none) (hsrc : w.Holds src) (hdst : w.Holds dst)
    (hquiet : ∀ a, src.block.Contains a ∨ dst.block.Contains a → w.Quiet client.lane a)
    (count : Nat) :
    (∀ strategy, Ends client src dst count () w
      ((Buffer.copyWith backend client strategy src dst count).perform w)
      (refusal? client strategy src dst count)) ∧
    Ends client src dst count (Buffer.autoStrategy backend src dst count) w
      ((Buffer.copy backend client src dst count).perform w)
      (refusal? client (Buffer.autoStrategy backend src dst count) src dst count) ∧
    ∀ e, refusal? client (Buffer.autoStrategy backend src dst count) src dst count = some e →
      e.kind ≠ "Misaligned" ∧ e.kind ≠ "UnsupportedDType" := by
  have hheap := hreachable.heapSound hlawful
  have hquiet' : ∀ a, src.block.Contains a → w.Quiet client.lane a :=
    fun a ha => hquiet a (Or.inl ha)
  refine ⟨?_, ?_, fun e he => refusal?_auto he⟩
  · intro strategy
    exact ends_copyWith hreachable.sound hheap hlane hidle hfault hflag hsrc hdst hquiet' strategy
      count
  · exact ends_copy hreachable.sound hheap hlane hidle hfault hflag hsrc hdst hquiet' count

/-- Two clients and four allocations of four floats. The second client has a job on its lane that
copies between the last two. -/
def besideOther : World :=
  let w := ((World.initial .unhurried).openLane true .standard).2
  let w := (w.openLane true .standard).2
  let w := ((allocate 16).perform w).2
  let w := ((allocate 16).perform w).2
  let w := ((allocate 16).perform w).2
  let w := ((allocate 16).perform w).2
  ((enqueue ⟨1, .standard⟩ ⟨.scalar .f32, ⟨1, 64, 0⟩, 4, 192, 256⟩).perform w).2

theorem reachable_besideOther : World.Reachable besideOther := by
  have hclients := (World.Reachable.next (.initial .unhurried) (.openLane true .standard _)).next
    (.openLane true .standard _)
  have hfirst := (hclients.next (.allocate 16 _)).next (.allocate 16 _)
  have hsecond := (hfirst.next (.allocate 16 _)).next (.allocate 16 _)
  exact hsecond.next (.enqueue ⟨1, .standard⟩ ⟨.scalar .f32, ⟨1, 64, 0⟩, 4, 192, 256⟩ _)

/-- The job of the second client does not write to the floats of the first two allocations. -/
theorem quiet_besideOther {a : Nat}
    (ha : firstFloats.block.Contains a ∨ secondFloats.block.Contains a) :
    besideOther.Quiet 0 a := by
  have hbelow : a < 192 := by
    rcases ha with hin | hin
    · exact hin.2.trans (by decide)
    · exact hin.2.trans (by decide)
  intro other hother job hjob
  obtain rfl | htwo : other = 1 ∨ 2 ≤ other := by omega
  · have honly : besideOther.unfinished 1 = [⟨.scalar .f32, ⟨1, 64, 0⟩, 4, 192, 256⟩] := rfl
    rw [honly, List.mem_singleton] at hjob
    subst hjob
    refine Launch.spares_of_outside (by decide) ?_
    simp only
    omega
  · rw [World.unfinished_of_size_le htwo] at hjob
    cases hjob

theorem checkedCopy_outcome_besideOther :
    World.Reachable besideOther ∧ besideOther.environment.place.Lawful ∧
      besideOther.unfinished 1 ≠ [] ∧
      Ends ⟨0, .standard⟩ firstFloats secondFloats 3 .scalar besideOther
        ((Buffer.copy backend ⟨0, .standard⟩ firstFloats secondFloats 3).perform besideOther)
        none := by
  have hlawful : besideOther.environment.place.Lawful := Placement.ascending_lawful
  let client : Client := ⟨0, .standard⟩
  have hlane : client.lane < besideOther.lanes.size := by decide
  have hsrc : besideOther.Holds firstFloats := by decide
  have hdst : besideOther.Holds secondFloats := by decide
  have houtcome := checkedCopy_outcome reachable_besideOther hlawful hlane rfl rfl rfl hsrc hdst
    (fun a ha => quiet_besideOther ha) 3
  exact ⟨reachable_besideOther, hlawful, by decide, houtcome.2.1⟩

end Emulated

end DeviceCopy
