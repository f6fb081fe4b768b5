import DeviceCopy.Kernel.Launch
import DeviceCopy.Memory.Heap
import DeviceCopy.Proofs.Kernel.Accesses

/-!
# Threads in any order

The threads of a launch share memory and nothing else. An *interleaving* is any order of their
accesses in which each thread makes its own in program order. A machine carries such an order out,
with registers for every thread.

When every program copies within an extent and the two ranges are apart, what a store puts into
memory is settled before the launch begins: the source bytes of the same place. So the memory in the
end depends on the set of bytes written and on nothing else (`Machine.get_exec`), and any two
interleavings agree. Rank order is one of them, and it is what `Launch.run` does.
-/

set_option autoImplicit false

namespace DeviceCopy

theorem Memory.getD_read {m : Memory} {address count i : Nat} (h : i < count) :
    (m.read address count).getD i 0 = m.get (address + i) := by
  rw [List.getD_eq_getElem?_getD, Memory.getElem?_read, if_pos h]
  rfl

/-- Bytes that were read some way past one address, written as far past another. -/
theorem Memory.get_write_read (m origin : Memory) (src dst : Nat) (span : Span) (a : Nat) :
    (m.write (dst + span.offset) (origin.read (src + span.offset) span.width)).get a =
      if dst ≤ a ∧ a - dst ∈ span.bytes then origin.get (src + (a - dst)) else m.get a := by
  rw [Memory.get_write, Memory.length_read]
  by_cases hin : dst ≤ a ∧ a - dst ∈ span.bytes
  · have hbytes := Span.mem_bytes.mp hin.2
    have hrange : dst + span.offset ≤ a ∧ a < dst + span.offset + span.width := by omega
    rw [if_pos hrange, if_pos hin, Memory.getD_read (by omega)]
    congr 1
    omega
  · have hrange : ¬ (dst + span.offset ≤ a ∧ a < dst + span.offset + span.width) := by
      intro hr
      exact hin ⟨by omega, Span.mem_bytes.mpr (by omega)⟩
    rw [if_neg hrange, if_neg hin]

/-- One access of the thread of a given rank. -/
structure Access where
  rank : Nat
  action : Action
  deriving DecidableEq, Repr

/-- What the thread of a given rank does in an order of accesses. -/
def accessesOf (rank : Nat) (order : List Access) : List Action :=
  (order.filter (fun x => x.rank = rank)).map Access.action

/-- Destination bytes written in an order of accesses. -/
def writtenIn (order : List Access) : List Nat := order.flatMap (fun x => x.action.writes)

@[simp] theorem accessesOf_nil (rank : Nat) : accessesOf rank [] = [] := rfl

theorem accessesOf_cons (rank : Nat) (x : Access) (rest : List Access) :
    accessesOf rank (x :: rest) =
      if x.rank = rank then x.action :: accessesOf rank rest else accessesOf rank rest := by
  unfold accessesOf
  by_cases h : x.rank = rank <;> simp [h]

theorem accessesOf_append (rank : Nat) (first second : List Access) :
    accessesOf rank (first ++ second) = accessesOf rank first ++ accessesOf rank second := by
  simp [accessesOf]

theorem accessesOf_map_mk (rank other : Nat) (actions : List Action) :
    accessesOf rank (actions.map (Access.mk other)) = if other = rank then actions else [] := by
  induction actions with
  | nil => simp
  | cons action rest ih =>
    rw [List.map_cons, accessesOf_cons, ih]
    by_cases h : other = rank <;> simp [h]

theorem mem_accessesOf {order : List Access} {x : Access} (h : x ∈ order) :
    x.action ∈ accessesOf x.rank order :=
  List.mem_map.mpr ⟨x, by simp [h], rfl⟩

theorem mem_writtenIn_cons {x : Access} {rest : List Access} {b : Nat} :
    b ∈ writtenIn (x :: rest) ↔ b ∈ x.action.writes ∨ b ∈ writtenIn rest := by
  simp only [writtenIn, List.flatMap_cons, List.mem_append]

/-! ## Carrying an order out -/

/-- A launch midway: the registers of every thread and the memory they share. -/
structure Machine where
  registers : Nat → Registers
  memory : Memory

namespace Machine

/-- No thread has done anything. -/
def start (m : Memory) : Machine := { registers := fun _ => Paged.empty, memory := m }

/-- One thread makes one access. -/
def step (src dst : Nat) (s : Machine) (x : Access) : Machine :=
  let (r, m) := x.action.apply src dst (s.registers x.rank, s.memory)
  { registers := Function.update s.registers x.rank r, memory := m }

/-- The accesses are made one after another. -/
def exec (src dst : Nat) (order : List Access) (s : Machine) : Machine :=
  order.foldl (step src dst) s

/-- What holds throughout a copy of the bytes in `m`: the source is as it was, and a register whose
origin is known holds what the source has there. -/
structure Midway (m : Memory) (src extent : Nat) (known : Nat → Origins) (s : Machine) : Prop where
  source : ∀ i, i < extent → s.memory.get (src + i) = m.get (src + i)
  loaded : ∀ rank slot span, known rank slot = some span →
    (s.registers rank).get slot = m.read (src + span.offset) span.width

theorem midway_start (m : Memory) (src extent : Nat) :
    Midway m src extent (fun _ => Origins.none) (start m) :=
  ⟨fun _ _ => rfl, fun _ _ _ h => by cases h⟩

variable {m : Memory} {src dst extent : Nat} {known : Nat → Origins} {s : Machine}

theorem Midway.load (h : Midway m src extent known s) {rank slot : Nat} {span : Span}
    (hin : span.offset + span.width ≤ extent) :
    Midway m src extent (Function.update known rank ((known rank).load slot span))
      (s.step src dst ⟨rank, .load slot span⟩) := by
  refine ⟨h.source, ?_⟩
  intro other place origin horigin
  -- The source is as it was, so this reads what `m` has there.
  have hread : s.memory.read (src + span.offset) span.width =
      m.read (src + span.offset) span.width := by
    refine List.map_congr_left ?_
    intro i hi
    have hlt : i < span.width := List.mem_range.mp hi
    simpa [Nat.add_assoc] using h.source (span.offset + i) (by omega)
  simp only [step, Action.apply]
  -- Only one register of one thread has changed.
  by_cases hr : other = rank
  · subst hr
    rw [Function.update_self] at horigin ⊢
    by_cases hs : place = slot
    · subst hs
      have hspan : span = origin := by simpa [Origins.load] using horigin
      rw [Paged.get_set_self, hread, hspan]
    · have hbefore : known other place = some origin := by
        simpa [Origins.load, Function.update_of_ne hs] using horigin
      rw [Paged.get_set_ne _ _ (Ne.symm hs)]
      exact h.loaded other place origin hbefore
  · rw [Function.update_of_ne hr] at horigin ⊢
    exact h.loaded other place origin horigin

/-- What a store of a known register does to the bytes of memory. -/
theorem Midway.get_store (h : Midway m src extent known s) {rank slot : Nat} {span : Span}
    (hknown : known rank slot = some span) (a : Nat) :
    (s.step src dst ⟨rank, .store slot span⟩).memory.get a =
      if dst ≤ a ∧ a - dst ∈ span.bytes then m.get (src + (a - dst)) else s.memory.get a := by
  simp only [step, Action.apply]
  rw [h.loaded rank slot span hknown, Memory.get_write_read]

theorem Midway.store (h : Midway m src extent known s)
    (hapart : Block.Apart ⟨src, extent⟩ ⟨dst, extent⟩) {rank slot : Nat} {span : Span}
    (hin : span.offset + span.width ≤ extent) (hknown : known rank slot = some span) :
    Midway m src extent known (s.step src dst ⟨rank, .store slot span⟩) := by
  constructor
  · intro i hi
    -- A store stays in the destination, which no byte of the source belongs to.
    have houtside : ¬ (dst ≤ src + i ∧ src + i - dst ∈ span.bytes) := by
      rintro ⟨hle, hmem⟩
      have hbytes := Span.mem_bytes.mp hmem
      rcases hapart with hbefore | hafter
      · simp only at hbefore
        omega
      · simp only at hafter
        omega
    rw [h.get_store hknown, if_neg houtside]
    exact h.source i hi
  · intro other place origin horigin
    have hsame : (s.step src dst ⟨rank, .store slot span⟩).registers = s.registers := by
      simp [step, Action.apply]
    rw [hsame]
    exact h.loaded other place origin horigin

/-- Whatever the order, a byte that some access writes ends up as the source byte of the same place,
and every other byte stays. -/
theorem Midway.get_exec (h : Midway m src extent known s)
    (hapart : Block.Apart ⟨src, extent⟩ ⟨dst, extent⟩) {order : List Access}
    (hinside : ∀ x ∈ order, x.action.span.offset + x.action.span.width ≤ extent)
    (hfaithful : ∀ rank, Faithful (known rank) (accessesOf rank order)) (a : Nat) :
    (s.exec src dst order).memory.get a =
      if dst ≤ a ∧ a - dst ∈ writtenIn order then m.get (src + (a - dst)) else s.memory.get a := by
  -- On the order, with what is known of the registers and the machine moving along.
  induction order generalizing known s with
  | nil => simp [exec, writtenIn]
  | cons x rest ih =>
    rcases x with ⟨rank, action⟩
    have hrest : ∀ x ∈ rest, x.action.span.offset + x.action.span.width ≤ extent :=
      fun x hx => hinside x (List.mem_cons_of_mem _ hx)
    have hown := hfaithful rank
    rw [accessesOf_cons, if_pos rfl] at hown
    have hothers : ∀ other, other ≠ rank → Faithful (known other) (accessesOf other rest) := by
      intro other hne
      have hother := hfaithful other
      rwa [accessesOf_cons, if_neg (Ne.symm hne)] at hother
    cases action with
    | load slot span =>
      have hin : span.offset + span.width ≤ extent := hinside ⟨rank, .load slot span⟩ (by simp)
      have hnext : Midway m src extent
          (Function.update known rank ((known rank).load slot span))
          (s.step src dst ⟨rank, .load slot span⟩) := h.load hin
      have hfaithful' : ∀ other, Faithful
          (Function.update known rank ((known rank).load slot span) other)
          (accessesOf other rest) := by
        intro other
        by_cases hr : other = rank
        · subst hr
          rw [Function.update_self]
          exact hown
        · rw [Function.update_of_ne hr]
          exact hothers other hr
      -- A load leaves memory alone and writes nothing.
      exact ih hnext hrest hfaithful'
    | store slot span =>
      have hin : span.offset + span.width ≤ extent := hinside ⟨rank, .store slot span⟩ (by simp)
      have hnext := h.store hapart hin hown.1
      have hfaithful' : ∀ other, Faithful (known other) (accessesOf other rest) := by
        intro other
        by_cases hr : other = rank
        · subst hr
          exact hown.2
        · exact hothers other hr
      have htail := ih hnext hrest hfaithful'
      rw [h.get_store hown.1 a] at htail
      rw [exec, List.foldl_cons]
      refine htail.trans ?_
      have hcons : a - dst ∈ writtenIn (⟨rank, .store slot span⟩ :: rest) ↔
          a - dst ∈ span.bytes ∨ a - dst ∈ writtenIn rest := mem_writtenIn_cons
      -- A byte written by this access and by a later one gets the same value twice.
      by_cases hlater : dst ≤ a ∧ a - dst ∈ writtenIn rest
      · rw [if_pos hlater, if_pos ⟨hlater.1, hcons.mpr (Or.inr hlater.2)⟩]
      · rw [if_neg hlater]
        by_cases hnow : dst ≤ a ∧ a - dst ∈ span.bytes
        · rw [if_pos hnow, if_pos ⟨hnow.1, hcons.mpr (Or.inl hnow.2)⟩]
        · have hnever : ¬ (dst ≤ a ∧ a - dst ∈ writtenIn (⟨rank, .store slot span⟩ :: rest)) := by
            rintro ⟨hle, hmem⟩
            rcases hcons.mp hmem with hspan | hrest
            · exact hnow ⟨hle, hspan⟩
            · exact hlater ⟨hle, hrest⟩
          rw [if_neg hnow, if_neg hnever]

/-- Carrying out the accesses of one thread is carrying out its program. -/
theorem exec_map_mk (src dst rank : Nat) (actions : List Action) (s : Machine) :
    s.exec src dst (actions.map (Access.mk rank)) =
      let after := actions.foldl (fun state action => action.apply src dst state)
        (s.registers rank, s.memory)
      { registers := Function.update s.registers rank after.1, memory := after.2 } := by
  induction actions generalizing s with
  | nil => simp [exec]
  | cons action rest ih =>
    have hstep := ih (s.step src dst ⟨rank, action⟩)
    simp only [exec, List.map_cons, List.foldl_cons] at hstep ⊢
    rw [hstep]
    simp [step, Function.update_idem]

end Machine

/-! ## The orders of a launch -/

namespace Launch

/-- What the threads of a launch do, by rank. -/
def actionsAt (l : Launch) (rank : Nat) : List Action :=
  if rank < l.geometry.threadCount then (l.programAt rank).actions else []

/-- An order the accesses of a launch can come in: every thread makes its own, in program order,
whatever the others do in between. -/
def Interleaving (l : Launch) (order : List Access) : Prop :=
  ∀ rank, accessesOf rank order = l.actionsAt rank

/-- Thread by thread, beginning with the one of the given rank. -/
def orderFrom (l : Launch) (remaining rank : Nat) : List Access :=
  (List.range' rank remaining).flatMap (fun r => (l.programAt r).actions.map (Access.mk r))

/-- Thread by thread, in rank order. -/
def rankOrder (l : Launch) : List Access := l.orderFrom l.geometry.threadCount 0

/-- Destination bytes the threads of a launch write, thread by thread. -/
def writes (l : Launch) : List Nat :=
  (List.range l.geometry.threadCount).flatMap (fun rank => (l.programAt rank).writes)

theorem accessesOf_orderFrom (l : Launch) (remaining first rank : Nat) :
    accessesOf rank (l.orderFrom remaining first) =
      if first ≤ rank ∧ rank < first + remaining then (l.programAt rank).actions else [] := by
  induction remaining generalizing first with
  | zero =>
    have hnone : ¬ (first ≤ rank ∧ rank < first + 0) := by omega
    rw [if_neg hnone]
    rfl
  | succ remaining ih =>
    have hsplit : l.orderFrom (remaining + 1) first =
        (l.programAt first).actions.map (Access.mk first) ++ l.orderFrom remaining (first + 1) := by
      simp [orderFrom, List.range'_succ]
    rw [hsplit, accessesOf_append, accessesOf_map_mk, ih]
    -- Either the first thread is the one asked for, or it adds nothing to the accesses asked for.
    by_cases hfirst : first = rank
    · subst hfirst
      have hlater : ¬ (first + 1 ≤ first ∧ first < first + 1 + remaining) := by omega
      have hin : first ≤ first ∧ first < first + (remaining + 1) := by omega
      rw [if_pos rfl, if_neg hlater, if_pos hin, List.append_nil]
    · rw [if_neg hfirst, List.nil_append]
      have hiff : first + 1 ≤ rank ∧ rank < first + 1 + remaining ↔
          first ≤ rank ∧ rank < first + (remaining + 1) := by omega
      simp only [hiff]

/-- Rank order is one of the orders. -/
theorem interleaving_rankOrder (l : Launch) : l.Interleaving l.rankOrder := by
  intro rank
  rw [rankOrder, accessesOf_orderFrom]
  simp [actionsAt]

/-- Running a launch without a fault is carrying its accesses out in rank order. -/
theorem runFrom_eq_exec (l : Launch) (remaining rank : Nat) (s : Machine)
    (hfault : ∀ r, rank ≤ r → r < rank + remaining → (l.programAt r).fault = none)
    (hfresh : ∀ r, rank ≤ r → s.registers r = Paged.empty) :
    l.runFrom remaining rank s.memory =
      ((s.exec l.src l.dst (l.orderFrom remaining rank)).memory, none) := by
  induction remaining generalizing rank s with
  | zero => rfl
  | succ remaining ih =>
    have hnone := hfault rank (by omega) (by omega)
    -- A thread that has not begun has fresh registers, as when it is run on its own.
    have hthread := Machine.exec_map_mk l.src l.dst rank (l.programAt rank).actions s
    rw [hfresh rank (by omega)] at hthread
    have hsplit : s.exec l.src l.dst (l.orderFrom (remaining + 1) rank) =
        (s.exec l.src l.dst ((l.programAt rank).actions.map (Access.mk rank))).exec l.src l.dst
          (l.orderFrom remaining (rank + 1)) := by
      simp [orderFrom, List.range'_succ, Machine.exec, List.foldl_append]
    rw [hsplit, ← ih (rank + 1)]
    · rw [runFrom]
      simp only [hnone, hthread]
      rfl
    · intro r hr hlt
      exact hfault r (by omega) (by omega)
    · intro r hr
      have hne : r ≠ rank := by omega
      rw [hthread]
      simpa [Function.update_of_ne hne] using hfresh r (by omega)

theorem run_eq_exec {l : Launch} (m : Memory)
    (hfault : ∀ rank, rank < l.geometry.threadCount → (l.programAt rank).fault = none) :
    l.run m = (((Machine.start m).exec l.src l.dst l.rankOrder).memory, none) :=
  l.runFrom_eq_exec l.geometry.threadCount 0 (Machine.start m)
    (fun r _ hr => hfault r (by omega)) (fun _ _ => rfl)

variable {l : Launch} {order : List Access}

theorem Interleaving.mem_actions (h : l.Interleaving order) {x : Access} (hx : x ∈ order) :
    x.rank < l.geometry.threadCount ∧ x.action ∈ (l.programAt x.rank).actions := by
  have hmem := mem_accessesOf hx
  rw [h x.rank, actionsAt] at hmem
  split at hmem
  · next hrank => exact ⟨hrank, hmem⟩
  · cases hmem

theorem Interleaving.mem_writtenIn (h : l.Interleaving order) {b : Nat} :
    b ∈ writtenIn order ↔ b ∈ l.writes := by
  constructor
  · intro hb
    rcases List.mem_flatMap.mp hb with ⟨x, hx, hwrite⟩
    rcases h.mem_actions hx with ⟨hrank, haction⟩
    exact List.mem_flatMap.mpr ⟨x.rank, List.mem_range.mpr hrank,
      List.mem_flatMap.mpr ⟨x.action, haction, hwrite⟩⟩
  · intro hb
    rcases List.mem_flatMap.mp hb with ⟨rank, hrank, hwrites⟩
    rcases List.mem_flatMap.mp hwrites with ⟨action, haction, hwrite⟩
    -- The order leaves out no access of any thread.
    have hown : action ∈ accessesOf rank order := by
      rw [h rank, actionsAt, if_pos (List.mem_range.mp hrank)]
      exact haction
    rcases List.mem_map.mp hown with ⟨x, hx, rfl⟩
    exact List.mem_flatMap.mpr ⟨x, (List.mem_filter.mp hx).1, hwrite⟩

/-- What a launch leaves in memory, in whatever order its accesses come. -/
theorem Interleaving.get_exec (h : l.Interleaving order) {extent : Nat}
    (hcopies : ∀ rank, rank < l.geometry.threadCount → (l.programAt rank).Copies extent)
    (hapart : Block.Apart ⟨l.src, extent⟩ ⟨l.dst, extent⟩) (m : Memory) (a : Nat) :
    ((Machine.start m).exec l.src l.dst order).memory.get a =
      if l.dst ≤ a ∧ a - l.dst ∈ l.writes then m.get (l.src + (a - l.dst)) else m.get a := by
  have hinside : ∀ x ∈ order, x.action.span.offset + x.action.span.width ≤ extent := by
    intro x hx
    rcases h.mem_actions hx with ⟨hrank, haction⟩
    exact (hcopies x.rank hrank).inside x.action haction
  have hfaithful : ∀ rank, Faithful Origins.none (accessesOf rank order) := by
    intro rank
    rw [h rank, actionsAt]
    split
    · next hrank => exact (hcopies rank hrank).faithful
    · trivial
  rw [(Machine.midway_start m l.src extent).get_exec hapart hinside hfaithful]
  simp only [h.mem_writtenIn]
  rfl

/-- What running a launch without a fault leaves in memory. -/
theorem get_run {extent : Nat}
    (hcopies : ∀ rank, rank < l.geometry.threadCount → (l.programAt rank).Copies extent)
    (hfault : ∀ rank, rank < l.geometry.threadCount → (l.programAt rank).fault = none)
    (hapart : Block.Apart ⟨l.src, extent⟩ ⟨l.dst, extent⟩) (m : Memory) (a : Nat) :
    (l.run m).1.get a =
      if l.dst ≤ a ∧ a - l.dst ∈ l.writes then m.get (l.src + (a - l.dst)) else m.get a := by
  rw [run_eq_exec m hfault]
  exact l.interleaving_rankOrder.get_exec hcopies hapart m a

end Launch

end DeviceCopy
