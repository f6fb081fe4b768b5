import Mathlib.Data.Nat.Basic
import DeviceCopy.WebGpu.Dispatch

/-!
# Shader loops

The loops of the copy shaders count in 32 bits and all have one shape: leave if the index is not
below the bound, do the work of the round, leave if what is left is no more than the stride, and
step on by the stride otherwise. `IndexRun.index` is the index in each round.

The check before the step does what it is there for, so no step wraps around, whatever the stride
(`IndexRun.index_eq_some_iff`). What it does not notice is a stride of zero: with that, every thread
that has anything to do at all does the same for ever (`IndexRun.ends_iff`).
-/

set_option autoImplicit false

namespace DeviceCopy

namespace WebGpu

/-- What one thread's loop in a shader starts from. -/
structure IndexRun where
  first : UInt32
  stride : UInt32
  bound : UInt32
  deriving DecidableEq, Repr

namespace IndexRun

/-- The index a round of the loop works on, if the loop gets to that round. -/
def index (run : IndexRun) : Nat → Option UInt32
  | 0 => if run.first ≥ run.bound then none else some run.first
  | round + 1 =>
      match run.index round with
      | none => none
      | some i =>
          if run.bound - i ≤ run.stride then none
          else if i + run.stride ≥ run.bound then none
          else some (i + run.stride)

/-- The loop comes to an end. -/
def Ends (run : IndexRun) : Prop := ∃ round, run.index round = none

variable {run : IndexRun} {round : Nat} {i : UInt32}

/-- Below the bound, the check before a step decides whether the stepped index still is. -/
theorem toNat_step_lt_iff (hi : i < run.bound) :
    ¬ run.bound - i ≤ run.stride ↔ i.toNat + run.stride.toNat < run.bound.toNat := by
  have hle : i ≤ run.bound := UInt32.le_of_lt hi
  have hlt : i.toNat < run.bound.toNat := UInt32.lt_iff_toNat_lt.mp hi
  rw [UInt32.le_iff_toNat_le, UInt32.toNat_sub_of_le _ _ hle]
  omega

/-- A step that the check lets through is exact. -/
theorem toNat_step (h : i.toNat + run.stride.toNat < run.bound.toNat) :
    (i + run.stride).toNat = i.toNat + run.stride.toNat := by
  have hbound : run.bound.toNat < 2 ^ 32 := run.bound.toNat_lt
  rw [UInt32.toNat_add]
  exact Nat.mod_eq_of_lt (Nat.lt_trans h hbound)

/-- The index of a round is where the first index and the steps before it lead to in exact
arithmetic, and the loop gets to the round just if that is below the bound. -/
theorem index_eq_some_iff : run.index round = some i ↔
    i.toNat = run.first.toNat + round * run.stride.toNat ∧ i < run.bound := by
  induction round generalizing i with
  | zero =>
    rw [index, Nat.zero_mul, Nat.add_zero, UInt32.toNat_inj]
    by_cases hfirst : run.first < run.bound
    · rw [if_neg (UInt32.not_le.mpr hfirst)]
      constructor
      · intro h
        obtain rfl := Option.some.inj h
        exact ⟨rfl, hfirst⟩
      · rintro ⟨rfl, -⟩
        rfl
    · rw [if_pos (UInt32.not_lt.mp hfirst)]
      constructor
      · intro h
        cases h
      · rintro ⟨rfl, hi⟩
        exact absurd hi hfirst
  | succ round ih =>
    rw [Nat.succ_mul, ← Nat.add_assoc]
    constructor
    · intro h
      rw [index] at h
      -- The loop got to the round before, and both checks on the way have let it through.
      cases hbefore : run.index round with
      | none =>
        rw [hbefore] at h
        cases h
      | some before =>
        rw [hbefore] at h
        obtain ⟨hexact, hbelow⟩ := ih.mp hbefore
        simp only at h
        split_ifs at h with hleft hbound
        obtain rfl := Option.some.inj h
        have hstep := toNat_step ((toNat_step_lt_iff hbelow).mp hleft)
        exact ⟨hstep.trans (congrArg (· + run.stride.toNat) hexact), UInt32.not_le.mp hbound⟩
    · rintro ⟨hexact, hi⟩
      -- One stride before an index below the bound there is another one.
      have hbelow : i.toNat < run.bound.toNat := UInt32.lt_iff_toNat_lt.mp hi
      have hword : i.toNat < 2 ^ 32 := i.toNat_lt
      let before := UInt32.ofNat (run.first.toNat + round * run.stride.toNat)
      have hbefore : before.toNat = run.first.toNat + round * run.stride.toNat :=
        UInt32.toNat_ofNat_of_lt' (by change _ < 2 ^ 32; omega)
      have hstays : before.toNat + run.stride.toNat < run.bound.toNat := by omega
      have hbeforeBelow : before < run.bound := UInt32.lt_iff_toNat_lt.mpr (by omega)
      have hstep : before + run.stride = i :=
        UInt32.toNat_inj.mp ((toNat_step hstays).trans (by omega))
      rw [index, ih.mpr ⟨hbefore, hbeforeBelow⟩]
      simp only
      rw [if_neg ((toNat_step_lt_iff hbeforeBelow).mpr hstays), hstep,
        if_neg (UInt32.not_le.mpr hi)]

/-- A loop ends if its thread has nothing to do, or if its stride is not zero. -/
theorem ends_iff : run.Ends ↔ ¬ run.first < run.bound ∨ run.stride ≠ 0 := by
  constructor
  · rintro ⟨round, hround⟩
    by_contra hstuck
    obtain ⟨hfirst, hstride⟩ := not_or.mp hstuck
    have hzero : run.stride.toNat = 0 := congrArg UInt32.toNat (not_not.mp hstride)
    -- The first index is the index of every round.
    have hsame : run.index round = some run.first :=
      index_eq_some_iff.mpr ⟨by rw [hzero, Nat.mul_zero, Nat.add_zero], not_not.mp hfirst⟩
    rw [hround] at hsame
    cases hsame
  · rintro (hfirst | hstride)
    · exact ⟨0, if_pos (UInt32.not_lt.mp hfirst)⟩
    · -- Every step leads on by at least one: no loop gets to as many rounds as there are numbers.
      have hpos : 0 < run.stride.toNat :=
        Nat.pos_of_ne_zero fun h => hstride (UInt32.toNat_inj.mp h)
      refine ⟨2 ^ 32, Option.eq_none_iff_forall_ne_some.mpr fun i hi => ?_⟩
      obtain ⟨hexact, -⟩ := index_eq_some_iff.mp hi
      have hword : i.toNat < 2 ^ 32 := i.toNat_lt
      have hsteps : 2 ^ 32 ≤ 2 ^ 32 * run.stride.toNat := Nat.le_mul_of_pos_right _ hpos
      omega

end IndexRun

end WebGpu

end DeviceCopy
