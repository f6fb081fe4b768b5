import DeviceCopy.Kernel.Copy
import DeviceCopy.Proofs.Kernel.Programs

/-!
# Loops that end

A thread program is a finite list of accesses by construction, loops included. `Code` is what a thread
is told to do, with every grid-stride loop as a loop: test the bound, carry out a round, step the
index. `Code.Ends` carries it out, and nothing says beforehand that it ends; a loop that does not step
never does (`not_ends_of_standing`).

For a thread of a grid with threads in it every loop steps, so the code of the kernels ends, in the
program that the kernels are given by (`Kernel.ends_code`). It returns or it gives up over a sum or a
product that leaves the word range (`Kernel.onlyOverflows_program`).
-/

set_option autoImplicit false

namespace DeviceCopy

/-- What a thread is told to do, up to where it gives up. -/
inductive Code
  | straight (p : Program)
  | seq (first second : Code)
  | loop (start stride bound : Nat) (body : Nat → Program)

namespace Code

def ofChecked : Checked Code → Code
  | .ok c => c
  | .error f => .straight (.giveUp f)

/-- Code comes to an end, having done what a program says. -/
inductive Ends : Code → Program → Prop
  | straight (p : Program) : Ends (.straight p) p
  | stopped {first second : Code} {p : Program} {f : Fault} (hfirst : Ends first p)
      (hfault : p.fault = some f) : Ends (.seq first second) p
  | seq {first second : Code} {p q : Program} (hfirst : Ends first p) (hfault : p.fault = none)
      (hsecond : Ends second q) : Ends (.seq first second) (p.andThen q)
  | past {start stride bound : Nat} {body : Nat → Program} (hpast : bound ≤ start) :
      Ends (.loop start stride bound body) .done
  | faulted {start stride bound : Nat} {body : Nat → Program} {f : Fault} (hbelow : start < bound)
      (hfault : (body start).fault = some f) : Ends (.loop start stride bound body) (body start)
  | overflow {start stride bound : Nat} {body : Nat → Program} (hbelow : start < bound)
      (hfault : (body start).fault = none) (hstep : wordLimit ≤ start + stride) :
      Ends (.loop start stride bound body) ((body start).andThen (.giveUp .addOverflow))
  | round {start stride bound : Nat} {body : Nat → Program} {p : Program} (hbelow : start < bound)
      (hfault : (body start).fault = none) (hstep : start + stride < wordLimit)
      (hrest : Ends (.loop (start + stride) stride bound body) p) :
      Ends (.loop start stride bound body) ((body start).andThen p)

variable {c : Code} {p q : Program} {start stride bound : Nat} {body : Nat → Program}

/-- Code ends in one way at most. -/
theorem Ends.unique (hp : Ends c p) (hq : Ends c q) : p = q := by
  induction hp generalizing q with
  | straight p =>
    cases hq with
    | straight => rfl
  | stopped hfirst hfault ih =>
    cases hq with
    | stopped hfirst' hfault' => exact ih hfirst'
    | seq hfirst' hfault' hsecond' =>
      rw [ih hfirst', hfault'] at hfault
      cases hfault
  | seq hfirst hfault hsecond ih ih' =>
    cases hq with
    | stopped hfirst' hfault' =>
      rw [ih hfirst', hfault'] at hfault
      cases hfault
    | seq hfirst' hfault' hsecond' => rw [ih hfirst', ih' hsecond']
  | past hpast =>
    cases hq with
    | past => rfl
    | faulted hbelow => omega
    | overflow hbelow => omega
    | round hbelow => omega
  | faulted hbelow hfault =>
    cases hq with
    | past hpast => omega
    | faulted => rfl
    | overflow _ hfault' =>
      rw [hfault] at hfault'
      cases hfault'
    | round _ hfault' =>
      rw [hfault] at hfault'
      cases hfault'
  | overflow hbelow hfault hstep =>
    cases hq with
    | past hpast => omega
    | faulted _ hfault' =>
      rw [hfault] at hfault'
      cases hfault'
    | overflow => rfl
    | round _ _ hstep' => omega
  | round hbelow hfault hstep hrest ih =>
    cases hq with
    | past hpast => omega
    | faulted _ hfault' =>
      rw [hfault] at hfault'
      cases hfault'
    | overflow _ _ hstep' => omega
    | round _ _ _ hrest' => rw [ih hrest']

/-- A loop that stands still below its bound never ends, unless a round gives up. -/
theorem not_ends_of_standing (hbelow : start < bound) (hstart : start < wordLimit)
    (hfault : (body start).fault = none) : ¬ Ends (.loop start 0 bound body) p := by
  intro h
  -- Every round leads to another just like it.
  generalize hc : Code.loop start 0 bound body = c at h
  induction h with
  | straight p => cases hc
  | stopped => cases hc
  | seq => cases hc
  | past hpast =>
    cases hc
    omega
  | faulted _ hfault' =>
    cases hc
    rw [hfault] at hfault'
    cases hfault'
  | overflow _ _ hstep =>
    cases hc
    omega
  | round _ _ _ _ ih =>
    cases hc
    exact ih rfl

/-- A loop that steps ends as the program of the loop says. -/
theorem ends_loop (hs : 0 < stride) (hb : bound ≤ wordLimit) (start : Nat) (body : Nat → Program) :
    Ends (.loop start stride bound body) (.loop start stride bound body) := by
  -- On how far the index is below the bound; every round brings it closer.
  induction hdistance : bound - start using Nat.strong_induction_on generalizing start with
  | _ distance ih =>
    rw [Program.loop_unfold body hs hb]
    by_cases hbelow : start < bound
    · rw [if_pos hbelow]
      cases hfault : (body start).fault with
      | some f =>
        have hcut : ∀ rest, (body start).andThen rest = body start := by
          intro rest
          simp only [Program.andThen, hfault]
        rw [hcut]
        exact .faulted hbelow hfault
      | none =>
        by_cases hstep : start + stride < wordLimit
        · rw [Checked.add_of_lt hstep]
          exact .round hbelow hfault hstep (ih _ (by omega) (start + stride) rfl)
        · have hoverflow : Checked.add start stride = .error .addOverflow := if_neg hstep
          rw [hoverflow]
          exact .overflow hbelow hfault (Nat.le_of_not_lt hstep)
    · rw [if_neg hbelow]
      exact .past (Nat.le_of_not_lt hbelow)

theorem Ends.andThen {first second : Code} (hfirst : Ends first p) (hsecond : Ends second q) :
    Ends (.seq first second) (p.andThen q) := by
  cases hfault : p.fault with
  | some f =>
    have hcut : p.andThen q = p := by simp only [Program.andThen, hfault]
    rw [hcut]
    exact .stopped hfirst hfault
  | none => exact .seq hfirst hfault hsecond

/-- A parameter is computed first. -/
theorem ends_bind {α : Type} {computed : Checked α} {code : α → Checked Code}
    {program : α → Checked Program}
    (h : ∀ a, computed = .ok a → Ends (ofChecked (code a)) (.ofChecked (program a))) :
    Ends (ofChecked (computed >>= code)) (.ofChecked (computed >>= program)) := by
  cases computed with
  | ok a => exact h a rfl
  | error f => exact .straight _

end Code

/-! ## The code of the kernels -/

namespace Kernel

def scalarCode (dtype : DType) (n : Nat) (t : Thread) : Code :=
  .ofChecked do
    let stride ← t.total
    let rank ← t.rank
    return .loop rank stride n (.moveSpan dtype.size)

def vectorCode (dtype : DType) (n : Nat) (t : Thread) : Code :=
  .ofChecked do
    let rank ← t.rank
    let stride ← t.total
    let words := n / dtype.lanes
    let remainder : Code := .ofChecked do
      let first ← Checked.mul words dtype.lanes
      let start ← Checked.add first rank
      return .loop start stride n (.moveSpan dtype.size)
    return .seq (.loop rank stride words (.moveSpan wideWordBytes)) remainder

def gridStrideCode (factor n : Nat) (t : Thread) : Code :=
  let words : Code := .ofChecked do
    let total ← t.total
    let step ← Checked.mul factor total
    let base ← t.blockBase factor
    let bound := n / floatLanes
    return .loop base step bound (fun start => stage factor start t.groupWidth bound)
  .seq words (.straight (floatTail n t))

/-- What a thread of a kernel is told to do. A single pass has no loop over the grid. -/
def code (kernel : Kernel) (n : Nat) (t : Thread) : Code :=
  match kernel with
  | scalar dtype => scalarCode dtype n t
  | vector dtype => vectorCode dtype n t
  | blocked .singlePass factor => .straight (singlePassProgram factor n t)
  | blocked .gridStride factor => gridStrideCode factor n t

variable {kernel : Kernel} {n : Nat} {t : Thread}

/-- A thread of a grid with threads in it comes to an end. -/
theorem ends_code (hk : kernel.HasSlots) (hgrid : 0 < t.groups * t.groupWidth) (hn : n < wordLimit) :
    (kernel.code n t).Ends (kernel.program n t) := by
  have htotal : ∀ {stride}, t.total = .ok stride → 0 < stride := by
    intro stride h
    rw [(Checked.mul_eq_ok_iff.mp h).2]
    exact hgrid
  cases kernel with
  | scalar dtype =>
    exact Code.ends_bind (fun stride hstride => Code.ends_bind (fun rank _ =>
      Code.ends_loop (htotal hstride) (Nat.le_of_lt hn) rank _))
  | vector dtype =>
    refine Code.ends_bind (fun rank _ => Code.ends_bind (fun stride hstride => ?_))
    have hwords : n / dtype.lanes ≤ wordLimit :=
      Nat.le_trans (Nat.div_le_self n _) (Nat.le_of_lt hn)
    refine Code.Ends.andThen (Code.ends_loop (htotal hstride) hwords rank _) ?_
    exact Code.ends_bind (fun first _ => Code.ends_bind (fun start _ =>
      Code.ends_loop (htotal hstride) (Nat.le_of_lt hn) start _))
  | blocked sweep factor =>
    cases sweep with
    | singlePass => exact .straight _
    | gridStride =>
      refine Code.Ends.andThen ?_ (.straight _)
      refine Code.ends_bind (fun total htotal' => Code.ends_bind (fun step hstep =>
        Code.ends_bind (fun base _ => ?_)))
      have hwords : n / floatLanes ≤ wordLimit :=
        Nat.le_trans (Nat.div_le_self n _) (Nat.le_of_lt hn)
      have hpos : 0 < step := by
        rw [(Checked.mul_eq_ok_iff.mp hstep).2]
        exact Nat.mul_pos hk (htotal htotal')
      exact Code.ends_loop hpos hwords base _

end Kernel

/-! ## How a thread gives up -/

/-- A sum or a product has left the word range. -/
def Fault.IsOverflow (f : Fault) : Prop := f = .multiplyOverflow ∨ f = .addOverflow

/-- A computation gives up over an overflow, if it does. -/
def Checked.OnlyOverflows {α : Type} (result : Checked α) : Prop :=
  ∀ f, result = .error f → f.IsOverflow

theorem Checked.onlyOverflows_mul (a b : Nat) : (Checked.mul a b).OnlyOverflows := by
  intro f h
  unfold Checked.mul at h
  split at h
  · cases h
  · cases h
    exact Or.inl rfl

theorem Checked.onlyOverflows_add (a b : Nat) : (Checked.add a b).OnlyOverflows := by
  intro f h
  unfold Checked.add at h
  split at h
  · cases h
  · cases h
    exact Or.inr rfl

theorem Checked.OnlyOverflows.bind {α β : Type} {result : Checked α} {next : α → Checked β}
    (h : result.OnlyOverflows) (hnext : ∀ a, (next a).OnlyOverflows) :
    (result >>= next).OnlyOverflows := by
  cases result with
  | ok a => exact hnext a
  | error f =>
    intro f' hf'
    cases hf'
    exact h f rfl

namespace Program

/-- A program gives up over an overflow, if it does. -/
def OnlyOverflows (p : Program) : Prop := ∀ f, p.fault = some f → f.IsOverflow

namespace OnlyOverflows

theorem of_fault_eq_none {p : Program} (h : p.fault = none) : p.OnlyOverflows := by
  intro f hf
  rw [h] at hf
  cases hf

theorem andThen {p q : Program} (hp : p.OnlyOverflows) (hq : q.OnlyOverflows) :
    (p.andThen q).OnlyOverflows := by
  unfold Program.andThen
  cases hfault : p.fault with
  | some f => exact hp
  | none => exact hq

theorem sequence {programs : List Program} (h : ∀ p ∈ programs, p.OnlyOverflows) :
    (sequence programs).OnlyOverflows := by
  induction programs with
  | nil => exact of_fault_eq_none rfl
  | cons p rest ih =>
    exact (h p List.mem_cons_self).andThen (ih (fun q hq => h q (List.mem_cons_of_mem p hq)))

theorem loop {start stride bound : Nat} {body : Nat → Program} (h : ∀ i, (body i).OnlyOverflows) :
    (loop start stride bound body).OnlyOverflows := by
  unfold Program.loop
  refine (sequence ?_).andThen ?_
  · intro p hp
    obtain ⟨i, -, rfl⟩ := List.mem_map.mp hp
    exact h i
  · split
    · exact of_fault_eq_none rfl
    · intro f hf
      cases hf
      exact Or.inr rfl

/-- A parameter is computed first. -/
theorem bind {α : Type} {computed : Checked α} {next : α → Checked Program}
    (hcomputed : computed.OnlyOverflows) (h : ∀ a, (ofChecked (next a)).OnlyOverflows) :
    (ofChecked (computed >>= next)).OnlyOverflows := by
  cases computed with
  | ok a => exact h a
  | error f =>
    intro f' hf'
    cases hf'
    exact hcomputed f rfl

end OnlyOverflows

end Program

namespace Kernel

theorem onlyOverflows_rank (t : Thread) : t.rank.OnlyOverflows :=
  (Checked.onlyOverflows_mul _ _).bind (fun _ => Checked.onlyOverflows_add _ _)

theorem onlyOverflows_blockBase (t : Thread) (factor : Nat) : (t.blockBase factor).OnlyOverflows :=
  (Checked.onlyOverflows_mul _ _).bind (fun _ =>
    (Checked.onlyOverflows_mul _ _).bind (fun _ => Checked.onlyOverflows_add _ _))

theorem onlyOverflows_stage (factor base laneStride words : Nat) :
    (stage factor base laneStride words).OnlyOverflows := by
  intro f hf
  rw [fault_stage] at hf
  unfold stageFault at hf
  split at hf
  · cases hf
  · simp only at hf
    split at hf
    · cases hf
      exact Or.inr rfl
    · cases hf
      exact Or.inl rfl

theorem onlyOverflows_floatTail (n : Nat) (t : Thread) : (floatTail n t).OnlyOverflows := by
  refine .bind (onlyOverflows_rank t) (fun rank => ?_)
  by_cases hrank : rank = 0
  · simp only [if_pos hrank]
    refine .sequence ?_
    intro p hp
    obtain ⟨i, -, rfl⟩ := List.mem_map.mp hp
    exact .of_fault_eq_none rfl
  · simp only [if_neg hrank]
    exact .of_fault_eq_none rfl

/-- Nothing but an overflow keeps a thread from returning. -/
theorem onlyOverflows_program (kernel : Kernel) (n : Nat) (t : Thread) :
    (kernel.program n t).OnlyOverflows := by
  have hmove : ∀ width i, (Program.moveSpan width i).OnlyOverflows :=
    fun width i => .of_fault_eq_none rfl
  have htotal : t.total.OnlyOverflows := Checked.onlyOverflows_mul _ _
  cases kernel with
  | scalar dtype =>
    exact .bind htotal (fun _ => .bind (onlyOverflows_rank t) (fun _ => .loop (hmove dtype.size)))
  | vector dtype =>
    refine .bind (onlyOverflows_rank t) (fun _ => .bind htotal (fun _ => ?_))
    refine .andThen (.loop (hmove wideWordBytes)) ?_
    exact .bind (Checked.onlyOverflows_mul _ _) (fun _ =>
      .bind (Checked.onlyOverflows_add _ _) (fun _ => .loop (hmove dtype.size)))
  | blocked sweep factor =>
    cases sweep with
    | singlePass =>
      refine .andThen ?_ (onlyOverflows_floatTail n t)
      exact .bind (onlyOverflows_blockBase t factor) (fun _ => onlyOverflows_stage _ _ _ _)
    | gridStride =>
      refine .andThen ?_ (onlyOverflows_floatTail n t)
      exact .bind htotal (fun _ => .bind (Checked.onlyOverflows_mul _ _) (fun _ =>
        .bind (onlyOverflows_blockBase t factor) (fun _ =>
          .loop (fun _ => onlyOverflows_stage _ _ _ _))))

end Kernel

end DeviceCopy
