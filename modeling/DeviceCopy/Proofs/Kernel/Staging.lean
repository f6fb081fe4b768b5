import DeviceCopy.Proofs.Kernel.GridStride

/-!
# Staged steps as simultaneous assignments

In a staged step every word is on its way before any has arrived. So the two buffers may overlap, in
whatever way: each word of the destination ends up with what the source had there before the step
began (`Kernel.stage_assigns_at_once`).

A step is described by the slots that have a word below the bound. A thread comes to know them by
going over all of its slots twice, once to load and once to store, and each time it works out every
word anew and holds it against the bound. Both passes find the same words, and they fault over the
same slot if they fault, so the second is not begun if the first does not end
(`Kernel.stage_eq_passes`).
-/

set_option autoImplicit false

namespace DeviceCopy

/-- The place an access loads from, if it is a load. -/
def Action.source : Action → Option Span
  | .load _ span => some span
  | .store .. => none

namespace Program

/-- The places a program loads from, in order. -/
def loads (p : Program) : List Span := p.actions.filterMap Action.source

/-- No load comes after a store. -/
def LoadsFirst (p : Program) : Prop :=
  p.actions.Pairwise (fun first later => first.target = none ∨ later.source = none)

theorem loadsFirst_of_append {p : Program} {loads stores : List Action}
    (h : p.actions = loads ++ stores) (hloads : ∀ action ∈ loads, action.target = none)
    (hstores : ∀ action ∈ stores, action.source = none) : p.LoadsFirst := by
  unfold LoadsFirst
  rw [h, List.pairwise_append]
  refine ⟨?_, ?_, ?_⟩
  · exact List.pairwise_of_forall_mem_list fun first hfirst _ _ => Or.inl (hloads first hfirst)
  · exact List.pairwise_of_forall_mem_list fun _ _ later hlater => Or.inr (hstores later hlater)
  · exact fun first hfirst _ _ => Or.inl (hloads first hfirst)

/-! ## Programs one after another, faults included -/

theorem fault_sequence (programs : List Program) :
    (sequence programs).fault = programs.findSome? fault := by
  induction programs with
  | nil => rfl
  | cons p rest ih =>
    rw [sequence, andThen, List.findSome?_cons]
    cases hfault : p.fault with
    | some f => exact hfault
    | none => exact ih

/-- If nothing is left to do after a program that faults, nothing is cut off. -/
theorem actions_sequence {programs : List Program}
    (h : programs.Pairwise (fun first later => first.fault ≠ none → later.actions = [])) :
    (sequence programs).actions = programs.flatMap actions := by
  induction programs with
  | nil => rfl
  | cons p rest ih =>
    obtain ⟨hfirst, hrest⟩ := List.pairwise_cons.mp h
    rw [sequence, andThen, List.flatMap_cons]
    cases hfault : p.fault with
    | some f =>
      have hnothing : rest.flatMap actions = [] :=
        List.flatMap_eq_nil_iff.mpr fun q hq => hfirst q hq (by simp [hfault])
      rw [hnothing, List.append_nil]
    | none => rw [ih hrest]

end Program

/-! ## Loads and stores of several registers -/

section Registers

variable (place : Nat → Span) (src dst : Nat)

/-- Loads leave memory as it is and put what the source has into the registers. -/
theorem foldl_loads (slots : List Nat) (r : Registers) (m : Memory) :
    ∃ r' : Registers,
      (slots.map (fun slot => Action.load slot (place slot))).foldl
          (fun state action => action.apply src dst state) (r, m) = (r', m) ∧
        ∀ slot, r'.get slot =
          if slot ∈ slots then m.read (src + (place slot).offset) (place slot).width
          else r.get slot := by
  induction slots generalizing r with
  | nil => exact ⟨r, rfl, fun slot => rfl⟩
  | cons first rest ih =>
    obtain ⟨r', hexec, hloaded⟩ :=
      ih (r.set first (m.read (src + (place first).offset) (place first).width))
    refine ⟨r', hexec, fun slot => ?_⟩
    rw [hloaded slot, Paged.get_set]
    by_cases hrest : slot ∈ rest
    · rw [if_pos hrest, if_pos (List.mem_cons_of_mem first hrest)]
    · by_cases hfirst : first = slot
      · subst hfirst
        rw [if_neg hrest, if_pos rfl, if_pos List.mem_cons_self]
      · have hneither : slot ∉ first :: rest := by
          rw [List.mem_cons, not_or]
          exact ⟨Ne.symm hfirst, hrest⟩
        rw [if_neg hrest, if_neg hfirst, if_neg hneither]

/-- Stores of registers that hold what the source had in some memory copy it from there. The memory
they are made to may be another one by now. -/
theorem foldl_stores (origin : Memory) (slots : List Nat) (r : Registers) (m : Memory)
    (hloaded : ∀ slot ∈ slots,
      r.get slot = origin.read (src + (place slot).offset) (place slot).width) (a : Nat) :
    ((slots.map (fun slot => Action.store slot (place slot))).foldl
        (fun state action => action.apply src dst state) (r, m)).2.get a =
      if dst ≤ a ∧ a - dst ∈ slots.flatMap (fun slot => (place slot).bytes)
      then origin.get (src + (a - dst)) else m.get a := by
  induction slots generalizing m with
  | nil => simp
  | cons first rest ih =>
    have hfirst := hloaded first List.mem_cons_self
    have hrest := ih (m.write (dst + (place first).offset) (r.get first))
      (fun slot hslot => hloaded slot (List.mem_cons_of_mem first hslot))
    rw [hfirst, Memory.get_write_read] at hrest
    rw [List.map_cons, List.foldl_cons, Action.apply, hfirst, hrest, List.flatMap_cons]
    -- A byte that two stores write gets the same value from both.
    by_cases hlater : dst ≤ a ∧ a - dst ∈ rest.flatMap (fun slot => (place slot).bytes)
    · rw [if_pos hlater, if_pos ⟨hlater.1, List.mem_append_right _ hlater.2⟩]
    · rw [if_neg hlater]
      have hiff : (dst ≤ a ∧ a - dst ∈ (place first).bytes) ↔
          dst ≤ a ∧ a - dst ∈ (place first).bytes ++
            rest.flatMap (fun slot => (place slot).bytes) := by
        rw [List.mem_append]
        tauto
      simp only [hiff]

end Registers

/-! ## Two passes over the slots -/

theorem flatMap_ite_singleton {α β : Type} (keep : α → Prop) [DecidablePred keep] (f : α → β)
    (xs : List α) :
    xs.flatMap (fun x => if keep x then [f x] else []) = (xs.filter keep).map f := by
  induction xs with
  | nil => rfl
  | cons x rest ih =>
    rw [List.flatMap_cons, ih]
    by_cases hkeep : keep x <;> simp [hkeep]

namespace Kernel

variable {factor base laneStride words : Nat}

/-- The word of a slot. -/
def slotSpan (base laneStride slot : Nat) : Span :=
  { width := wideWordBytes, index := base + slot * laneStride }

/-- The access to the word of a slot, if that word lies below the bound. -/
def slotAccess (access : Nat → Span → Action) (base laneStride words slot : Nat) : Program :=
  .ofChecked do
    let index ← slotWord base laneStride slot
    if index < words then
      return .ofActions [access slot { width := wideWordBytes, index }]
    else
      return .done

/-- One pass over the slots of a staged step, in order. -/
def slotPass (access : Nat → Span → Action) (factor base laneStride words : Nat) : Program :=
  .sequence ((List.range factor).map (slotAccess access base laneStride words))

theorem fault_slotAccess (access : Nat → Span → Action) (slot : Nat) :
    (slotAccess access base laneStride words slot).fault =
      faultOf (slotWord base laneStride slot) := by
  unfold slotAccess
  cases slotWord base laneStride slot with
  | error f => rfl
  | ok index =>
    rw [Checked.ok_bind]
    split <;> rfl

theorem slotWord_of_lt {slot : Nat} (h : base + slot * laneStride < wordLimit) :
    slotWord base laneStride slot = .ok (base + slot * laneStride) := by
  have hproduct : slot * laneStride < wordLimit := Nat.lt_of_le_of_lt (Nat.le_add_left _ _) h
  rw [slotWord, Checked.mul_of_lt hproduct, Checked.ok_bind, Checked.add_of_lt h]

/-- Where no word below the bound leaves the word range, a slot is accessed iff its word lies below
the bound. -/
theorem actions_slotAccess (access : Nat → Span → Action) {slot : Nat}
    (hrange : base + slot * laneStride < words → base + slot * laneStride < wordLimit) :
    (slotAccess access base laneStride words slot).actions =
      if base + slot * laneStride < words then [access slot (slotSpan base laneStride slot)]
      else [] := by
  by_cases hfits : base + slot * laneStride < wordLimit
  · rw [slotAccess, slotWord_of_lt hfits, Checked.ok_bind]
    split <;> rfl
  · rw [if_neg fun hlt => hfits (hrange hlt), slotAccess]
    cases hword : slotWord base laneStride slot with
    | error f => rfl
    | ok index =>
      have hfault := faultOf_slotWord base laneStride slot
      rw [hword, if_neg hfits, faultOf] at hfault
      split at hfault <;> cases hfault

theorem fault_slotPass (access : Nat → Span → Action) (hbase : base < wordLimit) :
    (slotPass access factor base laneStride words).fault = stageFault factor base laneStride := by
  rw [slotPass, Program.fault_sequence, List.findSome?_map, stageFault_eq_findSome? hbase]
  exact congrArg (List.findSome? · (List.range factor)) (funext (fault_slotAccess access))

/-- A pass accesses the slots whose word lies below the bound, those before it faults. -/
theorem actions_slotPass (access : Nat → Span → Action) (hstride : 0 < laneStride)
    (hrange : ∀ slot, slot < factor → base + slot * laneStride < words →
      base + slot * laneStride < wordLimit) :
    (slotPass access factor base laneStride words).actions =
      (stagedSlots factor base laneStride words).map
        (fun slot => access slot (slotSpan base laneStride slot)) := by
  have hlater : (List.range factor).Pairwise fun first later =>
      (slotAccess access base laneStride words first).fault ≠ none →
        (slotAccess access base laneStride words later).actions = [] := by
    refine List.pairwise_lt_range.imp_of_mem ?_
    intro first later _ hmem hlt hfault
    -- Words grow with the slot, so a slot after one without a word has none either.
    have hover : ¬ base + first * laneStride < wordLimit := by
      rw [fault_slotAccess, faultOf_slotWord] at hfault
      exact fun hfits => hfault (if_pos hfits)
    have hgrow : first * laneStride ≤ later * laneStride := Nat.mul_le_mul_right _ hlt.le
    have hslot := hrange later (List.mem_range.mp hmem)
    rw [actions_slotAccess access hslot, if_neg]
    exact fun hbelow => hover (by have := hslot hbelow; omega)
  rw [slotPass, Program.actions_sequence (List.pairwise_map.mpr hlater), List.flatMap_map,
    stagedSlots_eq_filter _ _ _ hstride, ← flatMap_ite_singleton]
  exact List.flatMap_congr fun slot hslot =>
    actions_slotAccess access (hrange slot (List.mem_range.mp hslot))

/-- A staged step is a pass of loads and then a pass of stores, also where it faults. -/
theorem stage_eq_passes (hstride : 0 < laneStride) (hbase : base < wordLimit)
    (hrange : ∀ slot, slot < factor → base + slot * laneStride < words →
      base + slot * laneStride < wordLimit) :
    stage factor base laneStride words =
      (slotPass .load factor base laneStride words).andThen
        (slotPass .store factor base laneStride words) := by
  have hloads := actions_slotPass .load hstride hrange
  have hstores := actions_slotPass .store hstride hrange
  have hload : (slotPass .load factor base laneStride words).fault = _ := fault_slotPass .load hbase
  have hstore : (slotPass .store factor base laneStride words).fault = _ :=
    fault_slotPass .store hbase
  unfold slotSpan at hloads hstores
  unfold stage Program.andThen
  cases hfault : stageFault factor base laneStride with
  | some f =>
    rw [hfault] at hload
    simp only [hload]
    rw [← hloads, ← hload]
  | none =>
    rw [hfault] at hload hstore
    simp only [hload]
    rw [hloads, hstores, hstore]

/-! ## What a step does -/

section Steps

variable (hfault : stageFault factor base laneStride = none)

include hfault

theorem actions_stage : (stage factor base laneStride words).actions =
    (stagedSlots factor base laneStride words).map
        (fun slot => .load slot (slotSpan base laneStride slot)) ++
      (stagedSlots factor base laneStride words).map
        (fun slot => .store slot (slotSpan base laneStride slot)) := by
  simp only [stage, hfault, slotSpan]

theorem loadsFirst_stage : (stage factor base laneStride words).LoadsFirst := by
  refine Program.loadsFirst_of_append (actions_stage hfault) ?_ ?_
  · intro action haction
    obtain ⟨slot, -, rfl⟩ := List.mem_map.mp haction
    rfl
  · intro action haction
    obtain ⟨slot, -, rfl⟩ := List.mem_map.mp haction
    rfl

theorem loads_stage : (stage factor base laneStride words).loads =
    (stagedWords factor base laneStride words).map (Span.mk wideWordBytes) := by
  rw [Program.loads, actions_stage hfault, List.filterMap_append, List.filterMap_map,
    List.filterMap_map, stagedWords, List.map_map]
  -- Of the two phases only the first loads.
  have hstores : (stagedSlots factor base laneStride words).filterMap
      (Action.source ∘ fun slot => .store slot (slotSpan base laneStride slot)) = [] :=
    List.filterMap_eq_nil_iff.mpr fun slot _ => rfl
  rw [hstores, List.append_nil, ← List.filterMap_eq_map]
  rfl

/-- A step moves its words from what the source was before it began, wherever the destination is. -/
theorem moved_stage (src dst : Nat) (r : Registers) (m : Memory) :
    m.Moved src dst (fun b => b / wideWordBytes ∈ stagedWords factor base laneStride words)
      ((stage factor base laneStride words).exec src dst (r, m)).2 := by
  obtain ⟨r', hloads, hloaded⟩ := foldl_loads (slotSpan base laneStride) src dst
    (stagedSlots factor base laneStride words) r m
  have hstores := foldl_stores (slotSpan base laneStride) src dst m
    (stagedSlots factor base laneStride words) r' m
    (fun slot hslot => (hloaded slot).trans (if_pos hslot))
  have hbytes :
      (stagedSlots factor base laneStride words).flatMap
          (fun slot => (slotSpan base laneStride slot).bytes) =
        ((stagedWords factor base laneStride words).map (Span.mk wideWordBytes)).flatMap
          Span.bytes := by
    rw [stagedWords, List.map_map, List.flatMap_map]
    rfl
  rw [hbytes] at hstores
  have hexec : (stage factor base laneStride words).exec src dst (r, m) =
      ((stagedSlots factor base laneStride words).map
          (fun slot => Action.store slot (slotSpan base laneStride slot))).foldl
        (fun state action => action.apply src dst state) (r', m) := by
    rw [Program.exec, actions_stage hfault, List.foldl_append, hloads]
  rw [hexec]
  exact (Memory.moved_of_get hstores).congr fun b => Span.mem_flatMap_bytes wideWordBytes_pos

end Steps

/-- A staged step whose last slot has a word index in the word range, over buffers that may overlap
in any way. It does not fault. It is two passes over the slots, each with bounds checks of its own;
all loads come before all stores, and both are of the same words, those of its slots below the bound,
each once. Afterwards each of these words of the destination holds what that word of the source held
before the step began, and every other byte is as it was. What the registers held before does not
matter. -/
theorem stage_assigns_at_once (hstride : 0 < laneStride)
    (hfits : base + (factor - 1) * laneStride < 2 ^ 64) :
    let step := stage factor base laneStride words
    let Covered (i : Nat) : Prop := i < words ∧ ∃ slot, slot < factor ∧ base + slot * laneStride = i
    step.fault = none ∧
    step = (slotPass .load factor base laneStride words).andThen
      (slotPass .store factor base laneStride words) ∧
    step.LoadsFirst ∧
    (∃ indices : List Nat, indices.Nodup ∧ (∀ i, i ∈ indices ↔ Covered i) ∧
      step.loads = indices.map (Span.mk 16) ∧ step.stores = indices.map (Span.mk 16)) ∧
    ∀ (src dst : Nat) (r : Registers) (m : Memory),
      (∀ i, Covered i →
        (step.exec src dst (r, m)).2.read (dst + i * 16) 16 = m.read (src + i * 16) 16) ∧
      ∀ a, (∀ i, Covered i → a < dst + i * 16 ∨ dst + i * 16 + 16 ≤ a) →
        (step.exec src dst (r, m)).2.get a = m.get a := by
  intro step Covered
  have hfault : stageFault factor base laneStride = none := stageFault_eq_none hfits
  have hnone : step.fault = none := (fault_stage _ _ _ _).trans hfault
  have hbase : base < wordLimit := Nat.lt_of_le_of_lt (Nat.le_add_right _ _) hfits
  have hrange : ∀ slot, slot < factor → base + slot * laneStride < wordLimit := by
    intro slot hslot
    have hlast : slot * laneStride ≤ (factor - 1) * laneStride :=
      Nat.mul_le_mul_right _ (Nat.le_sub_one_of_lt hslot)
    exact Nat.lt_of_le_of_lt (Nat.add_le_add_left hlast base) hfits
  refine ⟨hnone, ?_, loadsFirst_stage hfault, ?_, fun src dst r m => ?_⟩
  · exact stage_eq_passes hstride hbase fun slot hslot _ => hrange slot hslot
  · exact ⟨stagedWords factor base laneStride words, nodup_stagedWords hstride,
      fun i => mem_stagedWords hstride, loads_stage hfault, stores_stage hnone⟩
  · have hmoved : m.Moved src dst (fun b => Covered (b / 16)) (step.exec src dst (r, m)).2 :=
      (moved_stage hfault src dst r m).congr fun b => mem_stagedWords hstride
    refine ⟨fun i hi => List.map_congr_left fun j hj => ?_, fun a ha => hmoved.kept a ?_⟩
    · have hplace : (i * 16 + j) / 16 = i := by
        have := List.mem_range.mp hj
        omega
      rw [Nat.add_assoc, Nat.add_assoc]
      exact hmoved.moved (i * 16 + j) (by rw [hplace]; exact hi)
    · rintro b hb rfl
      have := ha _ hb
      omega

/-- Three words moved one word up, over the words that come after them. A fourth slot finds no word.
Moved one by one, they would all have become the first. -/
theorem stage_assigns_at_once_overlapping :
    (0 < 1 ∧ 0 + (4 - 1) * 1 < 2 ^ 64) ∧ (stage 4 0 1 3).LoadsFirst ∧
    ∀ (r : Registers) (m : Memory),
      let m' := ((stage 4 0 1 3).exec 64 80 (r, m)).2
      m'.read 80 16 = m.read 64 16 ∧ m'.read 96 16 = m.read 80 16 ∧
        m'.read 112 16 = m.read 96 16 ∧ ∀ a, a < 80 ∨ 128 ≤ a → m'.get a = m.get a := by
  have hstride : 0 < 1 := by decide
  have hfits : 0 + (4 - 1) * 1 < 2 ^ 64 := by decide
  obtain ⟨-, -, hfirst, -, hassigned⟩ := @stage_assigns_at_once 4 0 1 3 hstride hfits
  refine ⟨⟨hstride, hfits⟩, hfirst, fun r m => ?_⟩
  obtain ⟨hmoved, hkept⟩ := hassigned 64 80 r m
  refine ⟨hmoved 0 ?_, hmoved 1 ?_, hmoved 2 ?_, fun a ha => hkept a ?_⟩
  · exact ⟨by decide, 0, by decide, rfl⟩
  · exact ⟨by decide, 1, by decide, rfl⟩
  · exact ⟨by decide, 2, by decide, rfl⟩
  · rintro i ⟨hi, -⟩
    omega

end Kernel

end DeviceCopy
