/-!
# Paged stores

A store gives every index a value, a blank one where nothing has been stored. Values are kept on
pages, and a page takes room only up to the last value on it, so that indices far apart cost little
and neighbours are reached in constant time. Nothing depends on the pages: two stores with the same
`Paged.get` are used alike, and `Paged.get_set` is all there is to know about storing.
-/

set_option autoImplicit false

namespace DeviceCopy

/-- Values for all indices, `blank` where nothing has been stored. -/
structure Paged (α : Type) (blank : α) where
  pages : Array (Array α)
  deriving Repr

namespace Paged

variable {α : Type} {blank : α}

/-- Indices on one page. -/
def pageSize : Nat := Nat.pow 2 16

/-- Change the entry of an array at an index. An array that ends before it is filled up first. -/
@[inline] def changeAt (fill : α) (xs : Array α) (i : Nat) (f : α → α) : Array α :=
  if i < xs.size then xs.modify i f
  else (xs ++ Array.replicate (i - xs.size) fill).push (f fill)

def empty : Paged α blank := { pages := #[] }

instance : Inhabited (Paged α blank) := ⟨empty⟩

def get (store : Paged α blank) (i : Nat) : α :=
  (store.pages.getD (i / pageSize) #[]).getD (i % pageSize) blank

def set (store : Paged α blank) (i : Nat) (a : α) : Paged α blank :=
  { pages := changeAt #[] store.pages (i / pageSize) (fun page =>
      changeAt blank page (i % pageSize) (fun _ => a)) }

/-- An index past all that has been stored. -/
def extent (store : Paged α blank) : Nat := store.pages.size * pageSize

/-! ## What storing does to the values -/

theorem getD_changeAt (fill : α) (xs : Array α) (i j : Nat) (f : α → α) :
    (changeAt fill xs i f).getD j fill = if i = j then f (xs.getD j fill) else xs.getD j fill := by
  unfold changeAt
  by_cases hi : i < xs.size
  · -- The entry exists and is changed in place.
    rw [if_pos hi]
    by_cases hij : i = j
    · subst hij
      simp [Array.getElem_modify, hi]
    · simp [Array.getElem?_modify, hij]
  · -- The array is filled up to the index.
    rw [if_neg hi]
    have hsize : xs.size + (i - xs.size) = i := by omega
    simp only [Array.getD_eq_getD_getElem?, Array.getElem?_push, Array.size_append,
      Array.size_replicate, hsize]
    by_cases hij : i = j
    · subst hij
      have hnone : xs[i]? = none := Array.getElem?_eq_none (by omega)
      simp [hnone]
    · have hji : j ≠ i := fun h => hij h.symm
      rw [if_neg hji, if_neg hij, Array.getElem?_append]
      -- An entry in between holds what filled the array up, as it did before.
      by_cases hj : j < xs.size
      · rw [if_pos hj]
      · rw [if_neg hj, Array.getElem?_replicate, Array.getElem?_eq_none (by omega)]
        split <;> rfl

@[simp] theorem get_empty (i : Nat) : (empty : Paged α blank).get i = blank := by
  simp [empty, get]

theorem get_set (store : Paged α blank) (i j : Nat) (a : α) :
    (store.set i a).get j = if i = j then a else store.get j := by
  unfold set get
  rw [getD_changeAt]
  by_cases hpage : i / pageSize = j / pageSize
  · rw [if_pos hpage, getD_changeAt]
    by_cases hplace : i % pageSize = j % pageSize
    · -- Same page and same place on it, hence the same index.
      have hij : i = j := by
        rw [← Nat.div_add_mod i pageSize, ← Nat.div_add_mod j pageSize, hpage, hplace]
      rw [if_pos hplace, if_pos hij]
    · have hij : i ≠ j := fun h => hplace (by rw [h])
      rw [if_neg hplace, if_neg hij]
  · have hij : i ≠ j := fun h => hpage (by rw [h])
    rw [if_neg hpage, if_neg hij]

@[simp] theorem get_set_self (store : Paged α blank) (i : Nat) (a : α) :
    (store.set i a).get i = a := by
  rw [get_set, if_pos rfl]

theorem get_set_ne (store : Paged α blank) {i j : Nat} (a : α) (h : i ≠ j) :
    (store.set i a).get j = store.get j := by
  rw [get_set, if_neg h]

/-- Past the extent every value is blank. -/
theorem get_of_extent_le {store : Paged α blank} {i : Nat} (h : store.extent ≤ i) :
    store.get i = blank := by
  have hpage : store.pages.size ≤ i / pageSize := (Nat.le_div_iff_mul_le (by decide)).mpr h
  simp [get, Array.getElem?_eq_none hpage]

end Paged

end DeviceCopy
