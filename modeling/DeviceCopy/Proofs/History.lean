/-!
# Histories

A history lists what has happened, the latest first. `logOf` reads off what entries of one kind are
about, in the order in which they happened; `AtEvery` says of every entry how it stands to those
before it.
-/

set_option autoImplicit false

namespace DeviceCopy

variable {Entry α : Type}

/-! ## Reading a history -/

section Log

variable (pick : Entry → Option α)

/-- What entries of one kind are about, in the order of the entries. -/
def logOf (history : List Entry) : List α := (history.filterMap pick).reverse

@[simp] theorem logOf_nil : logOf pick [] = [] := rfl

@[simp] theorem logOf_cons (entry : Entry) (history : List Entry) :
    logOf pick (entry :: history) = logOf pick history ++ (pick entry).toList := by
  unfold logOf
  cases hpick : pick entry <;> simp [hpick]

theorem logOf_append (later earlier : List Entry) :
    logOf pick (later ++ earlier) = logOf pick earlier ++ logOf pick later := by
  simp [logOf]

theorem logOf_append_of_none {pick : Entry → Option α} {entries : List Entry}
    (h : ∀ entry ∈ entries, pick entry = none) (history : List Entry) :
    logOf pick (entries ++ history) = logOf pick history := by
  have hnone : entries.filterMap pick = [] := List.filterMap_eq_nil_iff.mpr h
  rw [logOf_append, logOf, logOf, hnone, List.reverse_nil, List.append_nil]

theorem logOf_mono {earlier history : List Entry} (h : earlier <:+ history) :
    logOf pick earlier <+: logOf pick history := by
  rcases h with ⟨later, rfl⟩
  simp [logOf_append]

end Log

/-! ## Points of a history -/

/-- Every entry of a history stands to the entries before it as it should. -/
def AtEvery (P : Entry → List Entry → Prop) (history : List Entry) : Prop :=
  ∀ later entry earlier, history = later ++ entry :: earlier → P entry earlier

namespace AtEvery

variable {P : Entry → List Entry → Prop} {history : List Entry}

theorem nil : AtEvery P [] := by
  intro later entry earlier h
  simp at h

theorem cons {entry : Entry} (h : AtEvery P history) (hentry : P entry history) :
    AtEvery P (entry :: history) := by
  intro later other earlier hsplit
  cases later with
  | nil =>
    rcases List.cons.inj hsplit with ⟨rfl, rfl⟩
    exact hentry
  | cons _ later => exact h later other earlier (List.cons.inj hsplit).2

theorem tail {entry : Entry} (h : AtEvery P (entry :: history)) : AtEvery P history :=
  fun later other earlier hsplit => h (entry :: later) other earlier (congrArg (entry :: ·) hsplit)

theorem append (h : AtEvery P history) (entries : List Entry)
    (hentries : ∀ entry ∈ entries, ∀ earlier, P entry earlier) :
    AtEvery P (entries ++ history) := by
  induction entries with
  | nil => exact h
  | cons entry entries ih =>
    apply AtEvery.cons
    · exact ih (fun other hother => hentries other (List.mem_cons_of_mem _ hother))
    · exact hentries entry List.mem_cons_self _

end AtEvery

end DeviceCopy
