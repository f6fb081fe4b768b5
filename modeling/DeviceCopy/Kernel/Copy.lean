import DeviceCopy.Kernel.Program
import DeviceCopy.Kernel.Thread
import DeviceCopy.Launch.Strategy

/-!
# Copy kernels

The four programs a thread can run in a copy launch, each a function of the element count and the
thread's place in the grid. In all of them the threads of the grid share out the indices of the copy
without agreeing on anything: a thread finds its own indices by arithmetic on its coordinates. The
arithmetic is checked at every step that could leave the word range.
-/

set_option autoImplicit false

namespace DeviceCopy

namespace Kernel

/-- Elements one at a time: thread `r` moves elements `r`, `r + T`, `r + 2 T`, …, where `T` is the
size of the grid. -/
def scalarProgram (dtype : DType) (n : Nat) (t : Thread) : Program :=
  .ofChecked do
    let stride ← t.total
    let rank ← t.rank
    return .loop rank stride n (.moveSpan dtype.size)

/-- Whole wide words first, then the elements past the last whole word, both grid-stride. -/
def vectorProgram (dtype : DType) (n : Nat) (t : Thread) : Program :=
  .ofChecked do
    let rank ← t.rank
    let stride ← t.total
    let words := n / dtype.lanes
    let remainder : Program := .ofChecked do
      let first ← Checked.mul words dtype.lanes
      let start ← Checked.add first rank
      return .loop start stride n (.moveSpan dtype.size)
    return (Program.loop rank stride words (.moveSpan wideWordBytes)).andThen remainder

/-! ## Staging -/

/-- The slots of a staged step whose word lies below the bound. With a positive lane stride slot `s`
lies at least `s` words past the base, so no slot beyond `words - base` needs a look. -/
def stagedSlots (factor base laneStride words : Nat) : List Nat :=
  (List.range (min factor (words - base))).filter (fun slot => base + slot * laneStride < words)

/-- The fault of computing the word index of every slot, if there is one. The indices grow with the
slot, so the last slot decides whether one occurs and the first that leaves the word range decides
which: the product leaves it, or only the sum does. -/
def stageFault (factor base laneStride : Nat) : Option Fault :=
  if factor = 0 ∨ base + (factor - 1) * laneStride < wordLimit then none
  else
    let first := (wordLimit - base + laneStride - 1) / laneStride
    if first * laneStride < wordLimit then some .addOverflow else some .multiplyOverflow

def slotWord (base laneStride slot : Nat) : Checked Nat := do
  Checked.add base (← Checked.mul slot laneStride)

/-- The fault of a checked computation, if it ended in one. -/
def faultOf : Checked Nat → Option Fault
  | .ok _ => none
  | .error f => some f

theorem faultOf_slotWord (base laneStride slot : Nat) :
    faultOf (slotWord base laneStride slot) =
      if base + slot * laneStride < wordLimit then none
      else if slot * laneStride < wordLimit then some .addOverflow
      else some .multiplyOverflow := by
  unfold slotWord
  by_cases hmul : slot * laneStride < wordLimit
  · rw [Checked.mul_of_lt hmul]
    by_cases hadd : base + slot * laneStride < wordLimit
    · simp [Checked.add, hadd, faultOf, bind, Except.bind]
    · simp [Checked.add, hadd, hmul, faultOf, bind, Except.bind]
  · have hadd : ¬ base + slot * laneStride < wordLimit := by omega
    simp [Checked.mul, hmul, hadd, faultOf, bind, Except.bind]

/-- No slot is left out: the slots of a step are all those whose word lies below the bound. -/
theorem stagedSlots_eq_filter {laneStride : Nat} (factor base words : Nat) (hs : 0 < laneStride) :
    stagedSlots factor base laneStride words =
      (List.range factor).filter (fun slot => base + slot * laneStride < words) := by
  unfold stagedSlots
  -- Split the slots where the definition stops looking.
  obtain ⟨rest, hrest⟩ : ∃ rest, factor = min factor (words - base) + rest :=
    ⟨factor - min factor (words - base), by omega⟩
  have hbeyond : ((List.range rest).map (min factor (words - base) + ·)).filter
      (fun slot => base + slot * laneStride < words) = [] := by
    rw [List.filter_eq_nil_iff]
    intro slot hslot
    obtain ⟨i, hi, rfl⟩ := List.mem_map.mp hslot
    have hlt : i < rest := List.mem_range.mp hi
    have hle : min factor (words - base) + i ≤ (min factor (words - base) + i) * laneStride :=
      Nat.le_mul_of_pos_right _ hs
    -- Such a slot lies at least `words - base` words past the base.
    simp only [decide_eq_true_eq]
    omega
  conv => rhs; rw [hrest, List.range_add, List.filter_append, hbeyond, List.append_nil]

/-- The fault of a step is the first that computing the slots in order runs into. -/
theorem stageFault_eq_findSome? {factor base laneStride : Nat} (hbase : base < wordLimit) :
    stageFault factor base laneStride =
      (List.range factor).findSome? (fun slot => faultOf (slotWord base laneStride slot)) := by
  unfold stageFault
  by_cases hsafe : factor = 0 ∨ base + (factor - 1) * laneStride < wordLimit
  · -- The last slot is inside the word range, so all are.
    rw [if_pos hsafe, eq_comm, List.findSome?_eq_none_iff]
    intro slot hslot
    have hlt : slot < factor := List.mem_range.mp hslot
    have hle : slot * laneStride ≤ (factor - 1) * laneStride :=
      Nat.mul_le_mul_right _ (by omega)
    rw [faultOf_slotWord, if_pos (by omega)]
  · rw [if_neg hsafe]
    have hpos : 0 < factor := by omega
    have hover : wordLimit ≤ base + (factor - 1) * laneStride := by omega
    have hstride : 0 < laneStride := by
      rcases Nat.eq_zero_or_pos laneStride with rfl | h
      · rw [Nat.mul_zero] at hover
        omega
      · exact h
    -- `first` is the first slot whose word is outside: it reaches past the range, no earlier one
    -- does, and it is a slot of the step.
    let first := (wordLimit - base + laneStride - 1) / laneStride
    have hfirst : first = (wordLimit - base + laneStride - 1) / laneStride := rfl
    have hreach : wordLimit - base ≤ first * laneStride := by
      have hdiv := Nat.div_add_mod (wordLimit - base + laneStride - 1) laneStride
      have hmod := Nat.mod_lt (wordLimit - base + laneStride - 1) hstride
      rw [← hfirst, Nat.mul_comm] at hdiv
      omega
    have hbefore : ∀ slot, slot < first → base + slot * laneStride < wordLimit := by
      intro slot hslot
      have hle : (slot + 1) * laneStride ≤ wordLimit - base + laneStride - 1 :=
        (Nat.le_div_iff_mul_le hstride).mp (by omega)
      rw [Nat.succ_mul] at hle
      omega
    have hwithin : first < factor := by
      rcases Nat.lt_or_ge (factor - 1) first with h | h
      · have := hbefore _ h
        omega
      · omega
    obtain ⟨rest, hrest⟩ : ∃ rest, factor = first + 1 + rest := ⟨factor - (first + 1), by omega⟩
    have hnone : (List.range first).findSome? (fun slot => faultOf (slotWord base laneStride slot)) =
        none := by
      rw [List.findSome?_eq_none_iff]
      intro slot hslot
      rw [faultOf_slotWord, if_pos (hbefore slot (List.mem_range.mp hslot))]
    -- The search passes over the slots before it and stops there.
    rw [← hfirst, hrest, List.range_add, List.findSome?_append, List.range_succ,
      List.findSome?_append, hnone]
    simp only [List.findSome?_cons, List.findSome?_nil, Option.none_or, faultOf_slotWord]
    rw [if_neg (by omega : ¬ base + first * laneStride < wordLimit)]
    split <;> rfl

/-- One staged step: load the wide word of every slot, and only then store them all. A fault strikes
among the loads, before anything is stored. -/
def stage (factor base laneStride words : Nat) : Program :=
  let slots := stagedSlots factor base laneStride words
  -- Slots of neighbouring threads are neighbours in memory; slots of one thread are a group apart.
  let span slot : Span := { width := wideWordBytes, index := base + slot * laneStride }
  let loads := slots.map (fun slot => Action.load slot (span slot))
  let stores := slots.map (fun slot => Action.store slot (span slot))
  match stageFault factor base laneStride with
  | some f => { actions := loads, fault := some f }
  | none => { actions := loads ++ stores, fault := none }

/-- Elements past the last whole wide word of an `f32` copy. The first thread of the grid moves them
all. -/
def floatTail (n : Nat) (t : Thread) : Program :=
  .ofChecked do
    let rank ← t.rank
    let first := n / floatLanes * floatLanes
    -- There are at most three such elements, too few to share out.
    if rank = 0 then
      return .sequence ((List.range' first (n - first)).map (.moveSpan DType.f32.size))
    else
      return .done

/-- Staged copy in which every thread makes one step. -/
def singlePassProgram (factor n : Nat) (t : Thread) : Program :=
  let words : Program := .ofChecked do
    let base ← t.blockBase factor
    return stage factor base t.groupWidth (n / floatLanes)
  words.andThen (floatTail n t)

/-- Staged copy in which every thread steps on by `factor` grid sizes until it is past the last
word. -/
def gridStrideProgram (factor n : Nat) (t : Thread) : Program :=
  let words : Program := .ofChecked do
    let total ← t.total
    let step ← Checked.mul factor total
    let base ← t.blockBase factor
    -- Only whole words are staged.
    let bound := n / floatLanes
    return .loop base step bound (fun start => stage factor start t.groupWidth bound)
  words.andThen (floatTail n t)

end Kernel

/-! ## Kernels by name -/

/-- The kernels a backend can be asked to launch. -/
inductive Kernel
  | scalar (dtype : DType)
  | vector (dtype : DType)
  | blocked (sweep : Sweep) (factor : Nat)
  deriving DecidableEq, Repr

namespace Kernel

def name : Kernel → String
  | scalar dtype => s!"scalar_copy_{dtype.shortName}"
  | vector dtype => s!"vector_copy_{dtype.shortName}"
  | blocked sweep factor => s!"{sweep.name}_copy_k{factor}_{DType.f32.shortName}"

def dtype : Kernel → DType
  | scalar dtype => dtype
  | vector dtype => dtype
  | blocked .. => .f32

/-- Whether the kernel moves wide words and so needs aligned buffers. -/
def isWide : Kernel → Bool
  | scalar _ => false
  | vector _ => true
  | blocked .. => true

/-- What one thread does in a launch of the kernel over `n` elements. -/
def program (kernel : Kernel) (n : Nat) (t : Thread) : Program :=
  match kernel with
  | scalar dtype => scalarProgram dtype n t
  | vector dtype => vectorProgram dtype n t
  | blocked .singlePass factor => singlePassProgram factor n t
  | blocked .gridStride factor => gridStrideProgram factor n t

/-- Elements one thread-step of the kernel covers. -/
def granularity : Kernel → Checked Nat
  | scalar dtype => Strategy.scalar.granularity dtype 1
  | vector dtype => Strategy.vector.granularity dtype 1
  | blocked _ factor => Strategy.blocked.granularity .f32 factor

/-- Most groups a launch of the kernel asks for on a device with the given group limit, if there is
a bound at all. A single pass has none: on fewer groups it would copy less. -/
def groupCap (maxGroups : Nat) : Kernel → Option Nat
  | scalar _ => some maxGroups
  | vector _ => some maxGroups
  | blocked .gridStride _ => some (min loopedGroupCap maxGroups)
  | blocked .singlePass _ => none

/-- The grid for a launch over `n` elements on a device with the given group limit. -/
def geometry (kernel : Kernel) (maxGroups n : Nat) : Checked Geometry := do
  let covering ← Geometry.forCount n (← kernel.granularity)
  match kernel.groupCap maxGroups with
  | some limit => return covering.capped limit
  | none => return covering

end Kernel

end DeviceCopy
