import DeviceCopy.Checked
import DeviceCopy.Memory

/-!
# Heap blocks

Which parts of an address space are in use. Where a new block goes is up to a `Placement`, which may
look at the blocks in use and at everything that was served before; it may also decline. A placement
is `Lawful` if the blocks it offers are aligned, non-null, inside the word range and clear of every
block in use. One lawful placement, `Placement.ascending`, never uses an address twice.
-/

set_option autoImplicit false

namespace DeviceCopy

/-- Alignment of every block in bytes, a multiple of the wide word. -/
def blockAlignment : Nat := 64

/-- The largest size that can still be rounded up to the alignment within the signed word range. -/
def maxBlockSize : Nat := Nat.pow 2 63 - blockAlignment

/-- A run of bytes in use. -/
structure Block where
  address : Nat
  size : Nat
  deriving DecidableEq, Repr

/-- Two blocks without a common byte. -/
def Block.Apart (a b : Block) : Prop :=
  a.address + a.size ≤ b.address ∨ b.address + b.size ≤ a.address

instance (a b : Block) : Decidable (a.Apart b) := inferInstanceAs (Decidable (_ ∨ _))

/-- The blocks in use and every block served so far, the latest first. -/
structure Heap where
  live : List Block
  served : List Block
  deriving DecidableEq, Repr

/-- The address of a zeroed block of a size, or nothing. -/
abbrev Placement := Heap → (size : Nat) → Option Nat

namespace Heap

def empty : Heap := { live := [], served := [] }

def occupy (h : Heap) (block : Block) : Heap :=
  { live := block :: h.live, served := block :: h.served }

def vacate (h : Heap) (address : Nat) : Heap :=
  { h with live := h.live.filter (fun block => block.address ≠ address) }

end Heap

namespace Placement

/-- What a placement may offer. -/
def Lawful (place : Placement) : Prop :=
  ∀ h size address, place h size = some address →
    address ≠ 0 ∧ address % blockAlignment = 0 ∧ address + size ≤ wordLimit ∧
      ∀ block ∈ h.live, block.Apart { address, size }

/-- Bytes in the address space that `ascending` hands out. -/
def addressSpace : Nat := Nat.pow 2 47

def roundUp (n : Nat) : Nat := (n + blockAlignment - 1) / blockAlignment * blockAlignment

/-- The first aligned address past a list of blocks, at least the given one. -/
def past (least : Nat) (blocks : List Block) : Nat :=
  blocks.foldl (fun top block => max top (roundUp (block.address + block.size))) least

/-- The first aligned address past everything in use and everything served so far. -/
def frontier (h : Heap) : Nat := past blockAlignment (h.live ++ h.served)

/-- Place every block past all earlier ones, as long as the address space lasts. -/
def ascending : Placement := fun h size =>
  if frontier h + size ≤ addressSpace then some (frontier h) else none

/-! ## The ascending placement is lawful -/

theorem le_roundUp (n : Nat) : n ≤ roundUp n := by
  unfold roundUp blockAlignment
  omega

theorem roundUp_mod (n : Nat) : roundUp n % blockAlignment = 0 := Nat.mul_mod_left _ _

theorem le_past (least : Nat) (blocks : List Block) : least ≤ past least blocks := by
  induction blocks generalizing least with
  | nil => exact Nat.le_refl _
  | cons block rest ih => exact Nat.le_trans (Nat.le_max_left _ _) (ih _)

theorem past_mod {least : Nat} (blocks : List Block) (h : least % blockAlignment = 0) :
    past least blocks % blockAlignment = 0 := by
  induction blocks generalizing least with
  | nil => exact h
  | cons block rest ih =>
    apply ih
    change max least (roundUp (block.address + block.size)) % blockAlignment = 0
    rcases Nat.le_total least (roundUp (block.address + block.size)) with hle | hle
    · rw [Nat.max_eq_right hle]
      exact roundUp_mod _
    · rw [Nat.max_eq_left hle]
      exact h

theorem end_le_past {block : Block} {blocks : List Block} (least : Nat) (h : block ∈ blocks) :
    block.address + block.size ≤ past least blocks := by
  induction blocks generalizing least with
  | nil => cases h
  | cons first rest ih =>
    rcases List.mem_cons.mp h with rfl | hrest
    · refine Nat.le_trans (le_roundUp _) ?_
      exact Nat.le_trans (Nat.le_max_right least _) (le_past _ rest)
    · exact ih _ hrest

theorem ascending_lawful : Lawful ascending := by
  intro h size address hplace
  unfold ascending at hplace
  split at hplace
  · next hfits =>
    cases hplace
    -- The null pointer stays below the first block.
    have hleast : blockAlignment ≤ frontier h := le_past _ _
    refine ⟨?_, past_mod _ rfl, ?_, ?_⟩
    · unfold blockAlignment at hleast
      omega
    · have hspace : addressSpace ≤ wordLimit := by decide
      omega
    · -- Every block in use ends at or before the frontier.
      intro block hlive
      exact Or.inl (end_le_past _ (List.mem_append_left _ hlive))
  · cases hplace

end Placement

end DeviceCopy
