import Mathlib.Data.List.Basic

/-!
# Tables kept as lists

The buffers in a pool, the buffers registered under handles and the default clients are lists of
entries, each with its key. What looking a key up finds after entries were added, removed or changed.
-/

set_option autoImplicit false

namespace DeviceCopy

namespace Table

variable {Key Value : Type} [DecidableEq Key] {entries : List (Key × Value)} {key : Key}
  {value : Value}

theorem mem_of_lookup (h : entries.lookup key = some value) : (key, value) ∈ entries := by
  obtain ⟨before, after, rfl, -⟩ := List.lookup_eq_some_iff.mp h
  exact List.mem_append_right _ List.mem_cons_self

theorem lookup_cons (key' : Key) (value : Value) (entries : List (Key × Value)) :
    ((key', value) :: entries).lookup key = if key = key' then some value else entries.lookup key := by
  rw [List.lookup_cons]
  by_cases h : key = key'
  · simp [h]
  · rw [if_neg h, beq_false_of_ne h]

theorem lookup_filter_ne (entries : List (Key × Value)) (gone key : Key) :
    (entries.filter (fun entry => entry.1 ≠ gone)).lookup key =
      if key = gone then none else entries.lookup key := by
  induction entries with
  | nil => simp
  | cons entry rest ih =>
    obtain ⟨key', value⟩ := entry
    by_cases hgone : key' = gone
    · subst hgone
      simp only [ne_eq, not_true_eq_false, decide_false, Bool.false_eq_true, not_false_eq_true,
        List.filter_cons_of_neg, ih, lookup_cons]
      split
      · rfl
      · rfl
    · simp only [ne_eq, hgone, not_false_eq_true, decide_true, List.filter_cons_of_pos, lookup_cons]
      rw [ih]
      by_cases hkey : key = key'
      · subst hkey
        simp [hgone]
      · simp [hkey]

/-- Changing the entries under one key. -/
theorem lookup_map (entries : List (Key × Value)) (changed key : Key) (f : Value → Value) :
    (entries.map (fun entry => if entry.1 = changed then (entry.1, f entry.2) else entry)).lookup key =
      if key = changed then (entries.lookup key).map f else entries.lookup key := by
  induction entries with
  | nil => simp
  | cons entry rest ih =>
    obtain ⟨key', value⟩ := entry
    by_cases hchanged : key' = changed
    · subst hchanged
      simp only [List.map_cons, if_true, lookup_cons, ih]
      by_cases hkey : key = key'
      · simp [hkey]
      · simp [hkey]
    · simp only [List.map_cons, hchanged, if_false, lookup_cons, ih]
      by_cases hkey : key = key'
      · subst hkey
        simp [hchanged]
      · simp [hkey]

end Table

end DeviceCopy
