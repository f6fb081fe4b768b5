import DeviceCopy.Proofs.Buffers.Shelf
import DeviceCopy.Proofs.Tables

/-!
# Counting handles

`Pool.Tallies` says that behind every handle is a buffer of the pool, and that the pool counts as many
handles on it as there are. What requests do to the pool and to the handles keeps that: a buffer that is
made goes under a number no handle stands for, a clone and a drop have one buffer counted again, and
with the last handle on it a buffer goes.
-/

set_option autoImplicit false

namespace DeviceCopy

namespace Pool

variable {Device : Type}

/-! ## Looking buffers up -/

section Lookup

variable (pool : Pool Device)

theorem find?_insert (buffer : Buffer Device) (id : Nat) :
    (pool.insert buffer).2.find? id =
      if id = pool.next then some { buffer, handles := 1 } else pool.find? id :=
  Table.lookup_cons _ _ _

theorem find?_alter (changed : Nat) (f : SharedBuffer Device → SharedBuffer Device) (id : Nat) :
    (pool.alter changed f).find? id =
      if id = changed then (pool.find? id).map f else pool.find? id :=
  Table.lookup_map _ _ _ _

theorem find?_erase (gone id : Nat) :
    (pool.erase gone).find? id = if id = gone then none else pool.find? id :=
  Table.lookup_filter_ne _ _ _

/-- Counting handles again leaves the buffers what they are. -/
theorem buffer_recount (id : Nat) (count : Nat → Nat) (other : Nat) :
    ((pool.alter id (fun shared => { shared with handles := count shared.handles })).find? other).map
      SharedBuffer.buffer = (pool.find? other).map SharedBuffer.buffer := by
  rw [find?_alter]
  split
  · rw [Option.map_map]
    rfl
  · rfl

end Lookup

variable {pool : Pool Device} {handles : Handles} {handle id other : Nat} {shared : SharedBuffer Device}

theorem find?_insert_eq_some {buffer : Buffer Device}
    (h : (pool.insert buffer).2.find? id = some shared) :
    id = pool.next ∧ shared = { buffer, handles := 1 } ∨
      id ≠ pool.next ∧ pool.find? id = some shared := by
  rw [find?_insert] at h
  split at h
  · next hid => exact Or.inl ⟨hid, (Option.some.inj h).symm⟩
  · next hid => exact Or.inr ⟨hid, h⟩

/-- Altering a buffer makes none. -/
theorem find?_of_alter {f : SharedBuffer Device → SharedBuffer Device}
    (h : (pool.alter id f).find? other = some shared) : ∃ old, pool.find? other = some old := by
  rw [find?_alter] at h
  split at h
  · obtain ⟨old, hold, -⟩ := Option.map_eq_some_iff.mp h
    exact ⟨old, hold⟩
  · exact ⟨shared, h⟩

theorem find?_recount_eq_some {count : Nat → Nat}
    (h : (pool.alter id (fun shared => { shared with handles := count shared.handles })).find? other =
      some shared) :
    ∃ old, pool.find? other = some old ∧ shared.buffer = old.buffer ∧
      shared.handles = if other = id then count old.handles else old.handles := by
  rw [find?_alter] at h
  split at h
  · next hid =>
    obtain ⟨old, hold, rfl⟩ := Option.map_eq_some_iff.mp h
    exact ⟨old, hold, rfl, (if_pos hid).symm⟩
  · next hid => exact ⟨shared, h, rfl, (if_neg hid).symm⟩

theorem find?_erase_eq_some (h : (pool.erase id).find? other = some shared) :
    other ≠ id ∧ pool.find? other = some shared := by
  rw [find?_erase] at h
  split at h
  · cases h
  · next hne => exact ⟨hne, h⟩

/-! ## Counts that are right -/

/-- Every handle stands for a buffer of the pool, which counts as many handles on it as there are. -/
structure Tallies (pool : Pool Device) (handles : Handles) : Prop where
  given : handles.Given
  alive : ∀ {handle id}, handles.target handle = some id → ∃ shared, pool.find? id = some shared
  below : ∀ {id shared}, pool.find? id = some shared → id < pool.next
  counted : ∀ {id shared}, pool.find? id = some shared → shared.handles = (handles.on id).card

namespace Tallies

/-- No handle stands for a number that has not been given to a buffer. -/
theorem on_next (h : pool.Tallies handles) : handles.on pool.next = ∅ := by
  refine Finset.filter_eq_empty_iff.mpr ?_
  intro handle _ htarget
  obtain ⟨shared, hfound⟩ := h.alive htarget
  exact Nat.lt_irrefl _ (h.below hfound)

/-- A pool counts one handle exactly where the handle is the only one. -/
theorem last_iff (h : pool.Tallies handles) (htarget : handles.target handle = some id)
    (hfound : pool.find? id = some shared) :
    shared.handles ≤ 1 ↔ ∀ other, handles.target other = some id → other = handle := by
  rw [h.counted hfound, Finset.card_le_one_iff_subset_singleton]
  constructor
  · rintro ⟨only, hsub⟩ other hother
    have honly := Finset.mem_singleton.mp (hsub (h.given.mem_on htarget))
    exact (Finset.mem_singleton.mp (hsub (h.given.mem_on hother))).trans honly.symm
  · intro hlast
    refine ⟨handle, fun other hother => ?_⟩
    exact Finset.mem_singleton.mpr (hlast other (Finset.mem_filter.mp hother).2)

theorem insert (h : pool.Tallies handles) (buffer : Buffer Device) :
    (pool.insert buffer).2.Tallies (handles.add pool.next) := by
  refine ⟨h.given.add _, ?_, ?_, ?_⟩
  · intro handle id htarget
    rw [find?_insert]
    split
    · exact ⟨_, rfl⟩
    · next hother =>
      rw [Handles.target_add] at htarget
      split at htarget
      · exact absurd (Option.some.inj htarget).symm hother
      · exact h.alive htarget
  · intro id shared hfound
    rcases find?_insert_eq_some hfound with ⟨rfl, -⟩ | ⟨-, hold⟩
    · exact Nat.lt_succ_self _
    · exact Nat.lt_succ_of_lt (h.below hold)
  · intro id shared hfound
    rw [Handles.card_on_add]
    rcases find?_insert_eq_some hfound with ⟨rfl, rfl⟩ | ⟨hne, hold⟩
    · rw [if_pos rfl, h.on_next, Finset.card_empty]
    · rw [if_neg hne, h.counted hold]

/-- Only the handles change, and with them the count of one buffer. -/
theorem recount (h : pool.Tallies handles) (id : Nat) (count : Nat → Nat) {handles' : Handles}
    (hgiven : handles'.Given)
    (halive : ∀ {handle target}, handles'.target handle = some target →
      ∃ shared, pool.find? target = some shared)
    (hcard : ∀ other, (handles'.on other).card =
      if other = id then count (handles.on other).card else (handles.on other).card) :
    (pool.alter id (fun shared => { shared with handles := count shared.handles })).Tallies
      handles' := by
  refine ⟨hgiven, ?_, ?_, ?_⟩
  · intro handle target htarget
    obtain ⟨old, hold⟩ := halive htarget
    rw [find?_alter, hold]
    split
    · exact ⟨_, rfl⟩
    · exact ⟨_, rfl⟩
  · intro other shared hfound
    obtain ⟨old, hold⟩ := find?_of_alter hfound
    exact h.below hold
  · intro other shared hfound
    obtain ⟨old, hold, -, hcount⟩ := find?_recount_eq_some hfound
    rw [hcard, hcount, h.counted hold]

/-- Handles that are added to those on a buffer of the pool stand for a buffer of the pool. -/
theorem alive_add (h : pool.Tallies handles) (htarget : handles.target handle = some id)
    {target : Nat} (hother : (handles.add id).target other = some target) :
    ∃ shared, pool.find? target = some shared := by
  rw [Handles.target_add] at hother
  split at hother
  · exact Option.some.inj hother ▸ h.alive htarget
  · exact h.alive hother

theorem alive_remove (h : pool.Tallies handles) (gone : Nat) {target : Nat}
    (hother : (handles.remove gone).target other = some target) :
    ∃ shared, pool.find? target = some shared := by
  rw [Handles.target_remove] at hother
  split at hother
  · cases hother
  · exact h.alive hother

theorem clone (h : pool.Tallies handles) (htarget : handles.target handle = some id) :
    (pool.retain id).Tallies (handles.add id) :=
  h.recount id (fun n => n + 1) (h.given.add id) (h.alive_add htarget) (Handles.card_on_add handles id)

theorem remove (h : pool.Tallies handles) (htarget : handles.target handle = some id) :
    (pool.alter id (fun shared => { shared with handles := shared.handles - 1 })).Tallies
      (handles.remove handle) :=
  h.recount id (fun n => n - 1) (h.given.remove handle) (h.alive_remove handle)
    (h.given.card_on_remove htarget)

/-- With the last handle on it a buffer goes, and no other is counted again. -/
theorem erase (h : pool.Tallies handles) (htarget : handles.target handle = some id)
    (hlast : ∀ other, handles.target other = some id → other = handle) :
    (pool.erase id).Tallies (handles.remove handle) := by
  refine ⟨h.given.remove handle, ?_, ?_, ?_⟩
  · intro other target hother
    rw [Handles.target_remove] at hother
    split at hother
    · cases hother
    · next hkept =>
      have hne : target ≠ id := by
        rintro rfl
        exact hkept (hlast other hother)
      rw [find?_erase, if_neg hne]
      exact h.alive hother
  · exact fun hfound => h.below (find?_erase_eq_some hfound).2
  · intro other shared hfound
    obtain ⟨hne, hold⟩ := find?_erase_eq_some hfound
    rw [h.given.card_on_remove htarget, if_neg hne]
    exact h.counted hold

end Tallies

end Pool

end DeviceCopy
