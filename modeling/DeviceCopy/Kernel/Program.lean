import DeviceCopy.Checked
import DeviceCopy.Memory

/-!
# Thread programs

What one thread does in a launch: a list of loads from the source and stores to the destination,
perhaps cut short by a fault. Loads fill the thread's own registers, stores empty them into memory,
and nothing else is shared, so an interleaving of several threads is an interleaving of these lists.
Spans are counted from the start of the buffer; the two buffer addresses enter only when an action
is carried out.
-/

set_option autoImplicit false

namespace DeviceCopy

/-- The `index`-th run of `width` bytes of a buffer. -/
structure Span where
  width : Nat
  index : Nat
  deriving DecidableEq, Repr

/-- Distance of a span from the start of the buffer, in bytes. -/
def Span.offset (s : Span) : Nat := s.index * s.width

/-- One access of a thread to shared memory. -/
inductive Action
  /-- Read a span of the source into a register. -/
  | load (slot : Nat) (span : Span)
  /-- Write a register to a span of the destination. -/
  | store (slot : Nat) (span : Span)
  deriving DecidableEq, Repr

/-- Private registers of one thread, empty until they are loaded. -/
abbrev Registers := Paged Bytes []

/-- Carry out one access of a thread, for a copy from `src` to `dst`. -/
def Action.apply (src dst : Nat) : Action → Registers × Memory → Registers × Memory
  | .load slot span, (r, m) => (r.set slot (m.read (src + span.offset) span.width), m)
  | .store slot span, (r, m) => (r, m.write (dst + span.offset) (r.get slot))

/-- What one thread does: its accesses in order, and the fault that ends it, if any. -/
structure Program where
  actions : List Action
  fault : Option Fault
  deriving DecidableEq, Repr

namespace Program

def done : Program := { actions := [], fault := none }

def giveUp (f : Fault) : Program := { actions := [], fault := some f }

def ofActions (actions : List Action) : Program := { actions, fault := none }

/-- One program, then another unless the first gave up. -/
def andThen (p q : Program) : Program :=
  match p.fault with
  | some _ => p
  | none => { actions := p.actions ++ q.actions, fault := q.fault }

/-- Programs one after another, up to the first that gives up. -/
def sequence : List Program → Program
  | [] => done
  | p :: rest => p.andThen (sequence rest)

/-- A program whose parameters are computed first and may fault. -/
def ofChecked : Checked Program → Program
  | .ok p => p
  | .error f => giveUp f

/-- Move one span through register zero. -/
def moveSpan (width index : Nat) : Program :=
  ofActions [.load 0 { width, index }, .store 0 { width, index }]

/-- Carry out the accesses of a thread from some registers and memory. -/
def exec (p : Program) (src dst : Nat) (state : Registers × Memory) : Registers × Memory :=
  p.actions.foldl (fun state action => action.apply src dst state) state

/-- Carry out the accesses of a thread that starts with empty registers. -/
def run (p : Program) (src dst : Nat) (m : Memory) : Memory :=
  (p.exec src dst (Paged.empty, m)).2

end Program

/-! ## Strided loops -/

/-- Number of values `start, start + stride, …` below a bound. -/
def strideCount (start stride bound : Nat) : Nat := (bound - start + stride - 1) / stride

/-- The values `start, start + stride, …` below a bound. -/
def strided (start stride bound : Nat) : List Nat :=
  List.range' start (strideCount start stride bound) stride

/-- A loop over `start, start + stride, …` below a bound. The index is stepped once more after the
last round, and that step faults if it leaves the word range. -/
def Program.loop (start stride bound : Nat) (body : Nat → Program) : Program :=
  let rounds := sequence ((strided start stride bound).map body)
  let count := strideCount start stride bound
  rounds.andThen
    (if count = 0 ∨ start + count * stride < wordLimit then done else giveUp .addOverflow)

theorem strideCount_eq_zero {start stride bound : Nat} (h : bound ≤ start) :
    strideCount start stride bound = 0 := by
  unfold strideCount
  have hsub : bound - start = 0 := by omega
  rw [hsub, Nat.zero_add]
  rcases Nat.eq_zero_or_pos stride with rfl | hs
  · rfl
  · exact Nat.div_eq_of_lt (by omega)

theorem strideCount_of_lt {start stride bound : Nat} (hs : 0 < stride) (h : start < bound) :
    strideCount start stride bound = strideCount (start + stride) stride bound + 1 := by
  unfold strideCount
  rcases Nat.lt_or_ge (start + stride) bound with hlt | hge
  · -- At least one more round follows.
    have hsplit : bound - start + stride - 1 = (bound - (start + stride) + stride - 1) + stride := by
      omega
    rw [hsplit, Nat.add_div_right _ hs]
  · -- This round is the last.
    have hzero : bound - (start + stride) = 0 := by omega
    rw [hzero, Nat.zero_add, Nat.div_eq_of_lt (by omega : stride - 1 < stride), Nat.zero_add]
    have hsplit : bound - start + stride - 1 = (bound - start - 1) + stride := by omega
    rw [hsplit, Nat.add_div_right _ hs, Nat.div_eq_of_lt (by omega)]

/-- The strided indices follow the loop: test the bound, take the index, step. -/
theorem strided_unfold {start stride bound : Nat} (hs : 0 < stride) :
    strided start stride bound =
      if start < bound then start :: strided (start + stride) stride bound else [] := by
  unfold strided
  split
  · next h => rw [strideCount_of_lt hs h, List.range'_succ]
  · next h => rw [strideCount_eq_zero (by omega)]; rfl

theorem mem_strided {start stride bound i : Nat} (h : i ∈ strided start stride bound) :
    ∃ round, round < strideCount start stride bound ∧ i = start + round * stride := by
  unfold strided at h
  obtain ⟨round, hround, rfl⟩ := List.mem_range'.mp h
  exact ⟨round, hround, by rw [Nat.mul_comm]⟩

theorem lt_of_mem_strided {start stride bound i : Nat} (hs : 0 < stride)
    (h : i ∈ strided start stride bound) : i < bound := by
  obtain ⟨round, hround, rfl⟩ := mem_strided h
  unfold strideCount at hround
  have hle : (round + 1) * stride ≤ bound - start + stride - 1 :=
    (Nat.le_div_iff_mul_le hs).mp hround
  rw [Nat.succ_mul] at hle
  omega

/-! ## Programs one after another -/

namespace Program

@[simp] theorem done_andThen (p : Program) : done.andThen p = p := by
  cases p with
  | mk actions fault => rfl

@[simp] theorem andThen_done (p : Program) : p.andThen done = p := by
  cases p with
  | mk actions fault =>
    cases fault with
    | none => simp [andThen, done]
    | some f => rfl

@[simp] theorem giveUp_andThen (f : Fault) (p : Program) : (giveUp f).andThen p = giveUp f := rfl

theorem andThen_assoc (p q r : Program) : (p.andThen q).andThen r = p.andThen (q.andThen r) := by
  obtain ⟨pa, pf⟩ := p
  obtain ⟨qa, qf⟩ := q
  obtain ⟨ra, rf⟩ := r
  cases pf with
  | some f => rfl
  | none =>
    cases qf with
    | some f => rfl
    | none => simp [andThen]

theorem exec_andThen {p : Program} (h : p.fault = none) (q : Program) (src dst : Nat)
    (state : Registers × Memory) :
    (p.andThen q).exec src dst state = q.exec src dst (p.exec src dst state) := by
  simp [andThen, h, exec, List.foldl_append]

/-- Moving a span leaves what the source held there in the destination, whatever the registers. -/
theorem exec_moveSpan (width index src dst : Nat) (r : Registers) (m : Memory) :
    ((moveSpan width index).exec src dst (r, m)).2 =
      m.write (dst + index * width) (m.read (src + index * width) width) := by
  simp [moveSpan, ofActions, exec, Action.apply, Span.offset]

/-- A loop whose bound is a word does what it says: test the bound, carry out a round, step the
index, and go on unless the step faults. -/
theorem loop_unfold {start stride bound : Nat} (body : Nat → Program) (hs : 0 < stride)
    (hb : bound ≤ wordLimit) :
    loop start stride bound body =
      if start < bound then
        (body start).andThen
          (ofChecked ((Checked.add start stride).map (fun next => loop next stride bound body)))
      else done := by
  by_cases hlt : start < bound
  · have hcount := strideCount_of_lt hs hlt
    have hrounds : strided start stride bound = start :: strided (start + stride) stride bound := by
      rw [strided_unfold hs, if_pos hlt]
    rw [if_pos hlt]
    conv => lhs; unfold loop
    simp only [hrounds, List.map_cons, sequence, andThen_assoc, hcount]
    congr 1
    have hshift : start + (strideCount (start + stride) stride bound + 1) * stride =
        start + stride + strideCount (start + stride) stride bound * stride := by
      rw [Nat.succ_mul]
      omega
    by_cases hstep : start + stride < wordLimit
    · -- The step stays in range, and the fault of the last step is the same on both sides.
      rw [Checked.add_of_lt hstep, Except.map, ofChecked, loop, hshift]
      congr 1
      rcases Nat.eq_zero_or_pos (strideCount (start + stride) stride bound) with hzero | hpos
      · simp [hzero, hstep]
      · have hne : strideCount (start + stride) stride bound ≠ 0 := by omega
        simp [hne]
    · -- The step leaves the range. The bound is a word, so this was the last round.
      have hzero : strideCount (start + stride) stride bound = 0 :=
        strideCount_eq_zero (by omega)
      have hempty : strided (start + stride) stride bound = [] := by
        rw [strided, hzero]
        rfl
      have hfault : Checked.add start stride = .error .addOverflow := by
        rw [Checked.add, if_neg hstep]
      rw [hempty, hzero, hfault, Except.map, ofChecked]
      simp only [List.map_nil, sequence, done_andThen, Nat.zero_add, Nat.one_mul]
      rw [if_neg (by omega)]
  · -- No round at all, and no step after it.
    have hzero : strideCount start stride bound = 0 := strideCount_eq_zero (by omega)
    have hempty : strided start stride bound = [] := by
      rw [strided, hzero]
      rfl
    rw [if_neg hlt, loop, hempty, hzero]
    simp [sequence]

end Program

end DeviceCopy
