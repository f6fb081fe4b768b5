/-!
# Checked 64-bit arithmetic

Counts, indices and addresses are natural numbers below `2 ^ 64`. Sums and products that would leave
that range do not wrap: they end the computation with a `Fault`. The remaining faults are the
internal assertions of the launch and kernel code. A fault is a defect of the request as the callee
sees it, not an answer the callee chose; the answers are in `DeviceCopy.Error`.
-/

set_option autoImplicit false

namespace DeviceCopy

abbrev wordLimit : Nat := Nat.pow 2 64

abbrev maxWord : Nat := Nat.pow 2 64 - 1

/-- Ways in which checked code gives up. -/
inductive Fault
  | multiplyOverflow
  | addOverflow
  | divideByZero
  | zeroGranularity
  | zeroBlockingFactor
  | misalignedWideWord
  deriving DecidableEq, Repr

def Fault.message : Fault → String
  | .multiplyOverflow => "attempt to multiply with overflow"
  | .addOverflow => "attempt to add with overflow"
  | .divideByZero => "attempt to divide by zero"
  | .zeroGranularity => "granularity must be positive"
  | .zeroBlockingFactor => "blocking factor must be positive"
  | .misalignedWideWord => "wide-word kernels need 16-byte aligned buffers"

abbrev Checked := Except Fault

namespace Checked

def mul (a b : Nat) : Checked Nat :=
  if a * b < wordLimit then .ok (a * b) else .error .multiplyOverflow

def add (a b : Nat) : Checked Nat :=
  if a + b < wordLimit then .ok (a + b) else .error .addOverflow

/-- Quotient rounded up. It never leaves the range, since it is at most the dividend. -/
def ceilDiv (a b : Nat) : Checked Nat :=
  if b = 0 then .error .divideByZero else .ok ((a + b - 1) / b)

def require (condition : Bool) (fault : Fault) : Checked Unit :=
  if condition then .ok () else .error fault

theorem mul_of_lt {a b : Nat} (h : a * b < wordLimit) : mul a b = .ok (a * b) := by
  simp [mul, h]

theorem add_of_lt {a b : Nat} (h : a + b < wordLimit) : add a b = .ok (a + b) := by
  simp [add, h]

/-- A product that comes back is the exact one. -/
theorem mul_eq_ok_iff {a b c : Nat} : mul a b = .ok c ↔ a * b < wordLimit ∧ c = a * b := by
  unfold mul
  by_cases h : a * b < wordLimit <;> simp [h, eq_comm]

/-- A sum that comes back is the exact one. -/
theorem add_eq_ok_iff {a b c : Nat} : add a b = .ok c ↔ a + b < wordLimit ∧ c = a + b := by
  unfold add
  by_cases h : a + b < wordLimit <;> simp [h, eq_comm]

end Checked

end DeviceCopy
