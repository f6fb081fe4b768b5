import DeviceCopy.Kernel.Copy
import Mathlib.Data.List.FinRange
import Mathlib.Logic.Function.Basic

/-!
# What a thread program touches

A thread program is a list of accesses, so two questions about it have plain answers: which bytes it
reads and writes, and where the value of each store comes from. A program `Copies` within an extent
when every access stays inside it and every store empties a register that was last loaded from the
very same place. The combinators of programs keep this, also where a fault cuts a program short.

The places a program stores to are listed in order (`Program.stores`). For a program that does not
fault they are those of its parts, one after another.
-/

set_option autoImplicit false

namespace DeviceCopy

namespace Span

/-- The bytes of a span, counted from the start of the buffer. -/
def bytes (s : Span) : List Nat := List.range' s.offset s.width

theorem mem_bytes {s : Span} {b : Nat} : b ∈ s.bytes ↔ s.offset ≤ b ∧ b < s.offset + s.width := by
  simp [bytes]

/-- A byte lies in the span whose index is the quotient of the two. -/
theorem mem_bytes_iff_div {width index b : Nat} (hw : 0 < width) :
    b ∈ (Span.mk width index).bytes ↔ b / width = index := by
  have hdiv : b / width = index ↔ index * width ≤ b ∧ b < (index + 1) * width :=
    Nat.div_eq_iff hw |>.trans (by rw [Nat.succ_mul]; omega)
  rw [mem_bytes, hdiv, Nat.succ_mul]
  exact Iff.rfl

end Span

namespace Action

/-- The place an access is about. -/
def span : Action → Span
  | .load _ span => span
  | .store _ span => span

/-- Source bytes an access reads. -/
def reads : Action → List Nat
  | .load _ span => span.bytes
  | .store .. => []

/-- The place an access stores to, if it is a store. -/
def target : Action → Option Span
  | .load .. => none
  | .store _ span => some span

/-- Destination bytes an access writes. -/
def writes : Action → List Nat
  | .load .. => []
  | .store _ span => span.bytes

end Action

/-- For each register the place of the source it was last loaded from. -/
abbrev Origins := Nat → Option Span

namespace Origins

/-- No register has been loaded. -/
def none : Origins := fun _ => .none

/-- A register is loaded. -/
def load (known : Origins) (slot : Nat) (span : Span) : Origins :=
  Function.update known slot (some span)

/-- Whatever one knows the other knows as well. -/
def Below (less more : Origins) : Prop :=
  ∀ slot span, less slot = some span → more slot = some span

theorem none_below (known : Origins) : none.Below known := by
  intro slot span h
  cases h

theorem Below.load {less more : Origins} (h : less.Below more) (slot : Nat) (span : Span) :
    (less.load slot span).Below (more.load slot span) := by
  intro other place hother
  by_cases hs : other = slot
  · subst hs
    simpa [Origins.load] using hother
  · have hless : less other = some place := by
      simpa [Origins.load, Function.update_of_ne hs] using hother
    simpa [Origins.load, Function.update_of_ne hs] using h other place hless

end Origins

/-- Every store empties a register that was last loaded from the place it stores to. -/
def Faithful (known : Origins) : List Action → Prop
  | [] => True
  | .load slot span :: rest => Faithful (known.load slot span) rest
  | .store slot span :: rest => known slot = some span ∧ Faithful known rest

namespace Faithful

theorem mono {less more : Origins} {actions : List Action} (h : less.Below more)
    (hf : Faithful less actions) : Faithful more actions := by
  -- A load adds the same register to both, so the induction is over all pairs.
  induction actions generalizing less more with
  | nil => trivial
  | cons action rest ih =>
    cases action with
    | load slot span => exact ih (h.load slot span) hf
    | store slot span => exact ⟨h slot span hf.1, ih h hf.2⟩

theorem append {known : Origins} {first second : List Action} (hf : Faithful known first)
    (hs : Faithful Origins.none second) : Faithful known (first ++ second) := by
  induction first generalizing known with
  | nil => exact hs.mono (Origins.none_below known)
  | cons action rest ih =>
    cases action with
    | load slot span => exact ih hf
    | store slot span => exact ⟨hf.1, ih hf.2⟩

/-- Loads into some registers, then stores from them, each from and to the place that belongs to the
register. -/
theorem loads_stores (place : Nat → Span) (loaded stored : List Nat) (known : Origins)
    (h : ∀ slot ∈ stored, slot ∈ loaded ∨ known slot = some (place slot)) :
    Faithful known (loaded.map (fun slot => Action.load slot (place slot)) ++
      stored.map (fun slot => Action.store slot (place slot))) := by
  -- Each load adds its register to what is known; when they are over, everything stored is.
  induction loaded generalizing known with
  | nil =>
    induction stored with
    | nil => trivial
    | cons slot rest ih =>
      have hslot : known slot = some (place slot) := by simpa using h slot (by simp)
      exact ⟨hslot, ih (fun other hother => h other (List.mem_cons_of_mem slot hother))⟩
  | cons slot rest ih =>
    apply ih
    intro other hother
    by_cases hs : other = slot
    · subst hs
      exact Or.inr (by simp [Origins.load])
    · rcases h other hother with hloaded | hknown
      · exact Or.inl ((List.mem_cons.mp hloaded).resolve_left hs)
      · exact Or.inr (by simpa [Origins.load, Function.update_of_ne hs] using hknown)

end Faithful

namespace Program

/-- The places a program stores to, in order. -/
def stores (p : Program) : List Span := p.actions.filterMap Action.target

/-- Source bytes a program reads, in order. -/
def reads (p : Program) : List Nat := p.actions.flatMap Action.reads

/-- Destination bytes a program writes, in order. -/
def writes (p : Program) : List Nat := p.actions.flatMap Action.writes

theorem writes_eq (p : Program) : p.writes = p.stores.flatMap Span.bytes := by
  unfold writes stores
  induction p.actions with
  | nil => rfl
  | cons action rest ih =>
    cases action with
    | load slot span => simpa [Action.writes, List.filterMap_cons, Action.target] using ih
    | store slot span => simpa [Action.writes, List.filterMap_cons, Action.target] using ih

/-- Every access stays inside an extent, and every store has its value from the same place. -/
structure Copies (extent : Nat) (p : Program) : Prop where
  inside : ∀ action ∈ p.actions, action.span.offset + action.span.width ≤ extent
  faithful : Faithful Origins.none p.actions

namespace Copies

variable {extent : Nat}

theorem done : Copies extent done := ⟨fun _ h => absurd h List.not_mem_nil, trivial⟩

theorem giveUp (f : Fault) : Copies extent (giveUp f) :=
  ⟨fun _ h => absurd h List.not_mem_nil, trivial⟩

theorem andThen {p q : Program} (hp : Copies extent p) (hq : Copies extent q) :
    Copies extent (p.andThen q) := by
  unfold Program.andThen
  -- A program that faults is not gone on with.
  cases p.fault with
  | some f => exact hp
  | none =>
    refine ⟨?_, hp.faithful.append hq.faithful⟩
    intro action h
    rcases List.mem_append.mp h with hin | hin
    · exact hp.inside action hin
    · exact hq.inside action hin

theorem sequence {programs : List Program} (h : ∀ p ∈ programs, Copies extent p) :
    Copies extent (sequence programs) := by
  induction programs with
  | nil => exact done
  | cons p rest ih =>
    exact (h p (by simp)).andThen (ih (fun q hq => h q (List.mem_cons_of_mem p hq)))

/-- A loop copies if its rounds do. -/
theorem loop {start stride bound : Nat} {body : Nat → Program} (hs : 0 < stride)
    (h : ∀ i, i < bound → Copies extent (body i)) :
    Copies extent (loop start stride bound body) := by
  unfold Program.loop
  refine Copies.andThen (Copies.sequence ?_) ?_
  · intro p hp
    rcases List.mem_map.mp hp with ⟨i, hi, rfl⟩
    exact h i (lt_of_mem_strided hs hi)
  · split
    · exact done
    · exact giveUp _

theorem ofChecked {result : Checked Program} (h : ∀ p, result = .ok p → Copies extent p) :
    Copies extent (ofChecked result) := by
  cases result with
  | ok p => exact h p rfl
  | error f => exact giveUp f

theorem moveSpan {width index : Nat} (h : index * width + width ≤ extent) :
    Copies extent (moveSpan width index) := by
  refine ⟨?_, by simp [Program.moveSpan, ofActions, Faithful, Origins.load]⟩
  intro action haction
  have hspan : action.span = ⟨width, index⟩ := by
    simp only [Program.moveSpan, ofActions, List.mem_cons, List.not_mem_nil, or_false] at haction
    rcases haction with rfl | rfl <;> rfl
  simpa [hspan, Span.offset] using h

end Copies

/-! ## Programs without a fault -/

theorem fault_andThen_eq_none_iff {p q : Program} :
    (p.andThen q).fault = none ↔ p.fault = none ∧ q.fault = none := by
  unfold andThen
  cases h : p.fault with
  | none => simp
  | some f => simp [h]

theorem fault_sequence_eq_none_iff {programs : List Program} :
    (sequence programs).fault = none ↔ ∀ p ∈ programs, p.fault = none := by
  induction programs with
  | nil => simp [sequence, done]
  | cons p rest ih => simp [sequence, fault_andThen_eq_none_iff, ih]

theorem fault_moveSpan (width index : Nat) : (moveSpan width index).fault = none := rfl

/-- A loop whose last step stays in the word range faults only in its rounds. -/
theorem fault_loop {start stride bound : Nat} {body : Nat → Program} (hs : 0 < stride)
    (hfits : bound + stride ≤ wordLimit) (h : ∀ i, i < bound → (body i).fault = none) :
    (loop start stride bound body).fault = none := by
  unfold loop
  rw [fault_andThen_eq_none_iff]
  constructor
  · rw [fault_sequence_eq_none_iff]
    intro p hp
    rcases List.mem_map.mp hp with ⟨i, hi, rfl⟩
    exact h i (lt_of_mem_strided hs hi)
  · have hstep : strideCount start stride bound = 0 ∨
        start + strideCount start stride bound * stride < wordLimit := by
      rcases Nat.eq_zero_or_pos (strideCount start stride bound) with hzero | hpos
      · exact Or.inl hzero
      · -- The last index taken lies below the bound, and the step goes once past it.
        have hround : strideCount start stride bound * stride ≤ bound - start + stride - 1 :=
          Nat.div_mul_le_self _ _
        have hstart : start < bound := by
          by_contra hge
          have hzero : strideCount start stride bound = 0 :=
            strideCount_eq_zero (Nat.le_of_not_lt hge)
          omega
        exact Or.inr (by omega)
    rw [if_pos hstep]
    rfl

theorem stores_andThen {p q : Program} (h : p.fault = none) :
    (p.andThen q).stores = p.stores ++ q.stores := by
  simp [andThen, h, stores, List.filterMap_append]

theorem stores_sequence {programs : List Program} (h : ∀ p ∈ programs, p.fault = none) :
    (sequence programs).stores = programs.flatMap stores := by
  induction programs with
  | nil => rfl
  | cons p rest ih =>
    have hrest : ∀ q ∈ rest, q.fault = none := fun q hq => h q (List.mem_cons_of_mem p hq)
    rw [sequence, stores_andThen (h p (by simp)), ih hrest]
    rfl

theorem stores_moveSpan (width index : Nat) : (moveSpan width index).stores = [⟨width, index⟩] := rfl

/-- A loop that does not fault stores what its rounds store. -/
theorem stores_loop {start stride bound : Nat} {body : Nat → Program}
    (h : (loop start stride bound body).fault = none) :
    (loop start stride bound body).stores =
      (strided start stride bound).flatMap (fun i => (body i).stores) := by
  unfold loop at h ⊢
  have hrounds := (fault_andThen_eq_none_iff.mp h).1
  -- The check of the last step comes after the rounds and stores nothing.
  have hlast : (if strideCount start stride bound = 0 ∨
      start + strideCount start stride bound * stride < wordLimit then done
      else giveUp .addOverflow).stores = [] := by
    split <;> rfl
  rw [stores_andThen hrounds, stores_sequence (fault_sequence_eq_none_iff.mp hrounds), hlast,
    List.append_nil, List.flatMap_map]

/-- A loop of moves stores one span for each index. -/
theorem stores_loop_moveSpan {start stride bound width : Nat}
    (h : (loop start stride bound (moveSpan width)).fault = none) :
    (loop start stride bound (moveSpan width)).stores =
      (strided start stride bound).map (Span.mk width) := by
  rw [stores_loop h, List.map_eq_flatMap]
  simp only [stores_moveSpan]

end Program

end DeviceCopy
