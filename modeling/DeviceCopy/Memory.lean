import DeviceCopy.Paged
import DeviceCopy.WideWord

/-!
# Byte-addressed memory

A memory gives every address a byte; addresses nobody has written hold zero. All reasoning goes
through the byte at an address: what each operation does to it is stated beside the operation.
-/

set_option autoImplicit false

namespace DeviceCopy

/-- A byte for every address. -/
abbrev Memory := Paged UInt8 0

namespace Memory

def empty : Memory := Paged.empty

/-- The `count` bytes from an address on. -/
def read (m : Memory) (address count : Nat) : Bytes :=
  (List.range count).map (fun i => m.get (address + i))

def write (m : Memory) (address : Nat) : Bytes → Memory
  | [] => m
  | byte :: rest => write (m.set address byte) (address + 1) rest

/-- Set `count` bytes to zero from an address on. Bytes past the extent are zero already. -/
def clear (m : Memory) (address count : Nat) : Memory :=
  m.write address (List.replicate (min count (m.extent - address)) 0)

/-! ## What each operation does to the bytes -/

@[simp] theorem get_empty (address : Nat) : Paged.get empty address = 0 := Paged.get_empty address

theorem get_write (m : Memory) (a b : Nat) (bytes : Bytes) :
    (m.write a bytes).get b =
      if a ≤ b ∧ b < a + bytes.length then bytes.getD (b - a) 0 else m.get b := by
  induction bytes generalizing m a with
  | nil =>
    have hnone : ¬ (a ≤ b ∧ b < a + ([] : Bytes).length) := by simp
    rw [write, if_neg hnone]
  | cons byte rest ih =>
    rw [write, ih, Paged.get_set]
    by_cases hab : a = b
    · -- The first byte is stored at `a`, and the rest is stored past it.
      subst hab
      have h1 : ¬ (a + 1 ≤ a ∧ a < a + 1 + rest.length) := by omega
      have h2 : a ≤ a ∧ a < a + (byte :: rest).length := by simp
      rw [if_neg h1, if_pos h2]
      simp
    · by_cases hin : a ≤ b ∧ b < a + (byte :: rest).length
      · have h1 : a + 1 ≤ b ∧ b < a + 1 + rest.length := by
          simp only [List.length_cons] at hin
          omega
        have hsub : b - a = (b - (a + 1)) + 1 := by omega
        rw [if_pos h1, if_pos hin, hsub]
        simp
      · have h1 : ¬ (a + 1 ≤ b ∧ b < a + 1 + rest.length) := by
          simp only [List.length_cons] at hin
          omega
        rw [if_neg h1, if_neg hin, if_neg hab]

@[simp] theorem length_read (m : Memory) (address count : Nat) :
    (m.read address count).length = count := by
  simp [read]

theorem getElem?_read (m : Memory) (address count i : Nat) :
    (m.read address count)[i]? = if i < count then some (m.get (address + i)) else none := by
  unfold read
  rw [List.getElem?_map]
  by_cases h : i < count
  · simp [h]
  · simp [h]

end Memory

end DeviceCopy
