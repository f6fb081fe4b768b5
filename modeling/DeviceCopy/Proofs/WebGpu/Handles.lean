import DeviceCopy.Proofs.WebGpu.Callers
import Mathlib.Order.Bounds.Basic

/-!
# Handles name one buffer each

A handle is reserved before its buffer is entered, and in between anything may happen, such as that
the handle is given back by somebody who has guessed it. As long as the counter does not come round,
no handle is handed out twice all the same. What is registered under a handle can then be read off the
history: the buffer that was entered when the handle was handed out, unless the handle has been given
back since, with what has been written under that handle.
-/

set_option autoImplicit false

namespace DeviceCopy

namespace WebGpu

theorem isLeast_roundUpTo {unit : Nat} (hunit : 0 < unit) (n : Nat) :
    IsLeast {m | unit ∣ m ∧ n ≤ m} (roundUpTo unit n) := by
  refine ⟨⟨Nat.dvd_mul_left unit _, le_roundUpTo hunit n⟩, ?_⟩
  rintro m ⟨⟨k, rfl⟩, hle⟩
  unfold roundUpTo
  have hquotient : (n + unit - 1) / unit ≤ k := by
    rw [Nat.div_le_iff_le_mul hunit, Nat.mul_comm k unit]
    omega
  calc (n + unit - 1) / unit * unit ≤ k * unit := Nat.mul_le_mul_right unit hquotient
    _ = unit * k := Nat.mul_comm k unit

namespace Callers

variable {handle size : Nat} {buffer : GpuBuffer} {deed : Deed} {history : List Deed}

/-! ## Reading the history -/

/-- The handle that an allocation of some bytes has handed out. -/
def handedOut? : Deed → Option Nat
  | .returned size handle => if size = 0 then none else some handle
  | _ => none

def handedOut (history : List Deed) : List Nat := history.filterMap handedOut?

def reserved? : Deed → Option Nat
  | .reserved handle => some handle
  | _ => none

/-- An allocation of no bytes is answered with the null handle, any other with a handle that has not
been handed out before, unless the size is one of the last that cannot be rounded up. -/
def Deed.Proper : Deed → List Deed → Prop
  | .returned size handle, earlier =>
      (size = 0 ∧ handle = 0) ∨ (0 < size ∧ 0 < handle ∧ handle ∉ handedOut earlier)
  | .gaveUp size, _ => wordLimit ≤ roundUpTo wideWordBytes size
  | _, _ => True

/-- A deed that neither reserves nor hands out a handle. -/
structure Deed.Quiet (deed : Deed) : Prop where
  handedOut : handedOut? deed = none
  reserved : reserved? deed = none
  proper : ∀ earlier, deed.Proper earlier

/-- What a deed makes of the contents of the buffer under a handle. -/
def Deed.over (handle : Nat) : Deed → Memory → Memory
  | .wrote bytes changed, m => if handle = changed then m.write 0 (padded bytes) else m
  | _, m => m

/-- What has been written under a handle, if nothing was there at first. -/
def writtenIn (handle : Nat) (history : List Deed) : Memory :=
  history.foldr (Deed.over handle) .empty

def Deed.rewritten (handle : Nat) (deed : Deed) (buffer : GpuBuffer) : GpuBuffer :=
  { buffer with contents := deed.over handle buffer.contents }

theorem Deed.rewritten_wrote (handle : Nat) (bytes : Bytes) (changed : Nat) :
    Deed.rewritten handle (.wrote bytes changed) =
      if handle = changed then
        fun buffer => { buffer with contents := buffer.contents.write 0 (padded bytes) }
      else id := by
  funext buffer
  unfold Deed.rewritten Deed.over
  by_cases h : handle = changed
  · simp only [if_pos h]
  · simp only [if_neg h, id]

/-- What is under a handle after a deed. -/
def Deed.leaves (handle : Nat) (deed : Deed) (found : Option GpuBuffer) : Option GpuBuffer :=
  match deed with
  | .returned size fresh =>
      if 0 < size ∧ handle = fresh then some (created (roundUpTo wideWordBytes size)) else found
  | .removed gone => if handle = gone then none else found
  | .wrote bytes changed => found.map (Deed.rewritten handle (.wrote bytes changed))
  | _ => found

/-- What is under a handle as far as a history goes. -/
def heldIn (history : List Deed) (handle : Nat) : Option GpuBuffer :=
  history.foldr (Deed.leaves handle) none

/-- A handle has been handed out with a buffer, and since then it has not been given back. -/
def Handed (history : List Deed) (handle : Nat) (buffer : GpuBuffer) : Prop :=
  ∃ later size earlier, history = later ++ .returned size handle :: earlier ∧ 0 < size ∧
    .removed handle ∉ later ∧
    buffer = { size := roundUpTo wideWordBytes size, contents := writtenIn handle later }

theorem mem_handedOut (hsize : 0 < size) (h : .returned size handle ∈ history) :
    handle ∈ handedOut history :=
  List.mem_filterMap.mpr ⟨_, h, if_neg (Nat.ne_of_gt hsize)⟩

theorem Handed.mem_handedOut (h : Handed history handle buffer) : handle ∈ handedOut history := by
  obtain ⟨later, size, earlier, rfl, hsize, -⟩ := h
  exact Callers.mem_handedOut hsize (List.mem_append_right _ List.mem_cons_self)

theorem handed_cons_iff : Handed (deed :: history) handle buffer ↔
    (∃ size, 0 < size ∧ deed = .returned size handle ∧
      buffer = created (roundUpTo wideWordBytes size)) ∨
    (deed ≠ .removed handle ∧ ∃ before, Handed history handle before ∧
      buffer = deed.rewritten handle before) := by
  constructor
  · rintro ⟨later, size, earlier, hsplit, hsize, hkept, rfl⟩
    cases later with
    | nil =>
      obtain ⟨rfl, rfl⟩ := List.cons.inj hsplit
      exact Or.inl ⟨size, hsize, rfl, rfl⟩
    | cons first later =>
      obtain ⟨rfl, rfl⟩ := List.cons.inj hsplit
      obtain ⟨hfirst, hlater⟩ := not_or.mp (mt List.mem_cons.mpr hkept)
      exact Or.inr ⟨Ne.symm hfirst, _, ⟨later, size, earlier, rfl, hsize, hlater, rfl⟩, rfl⟩
  · rintro (⟨size, hsize, rfl, rfl⟩ | ⟨hdeed, before, ⟨later, size, earlier, rfl, hsize, hkept, rfl⟩, rfl⟩)
    · exact ⟨[], size, history, rfl, hsize, List.not_mem_nil, rfl⟩
    · refine ⟨deed :: later, size, earlier, rfl, hsize, ?_, rfl⟩
      exact fun hmem => (List.mem_cons.mp hmem).elim (fun heq => hdeed heq.symm) hkept

/-- Other deeds than those about a handle itself leave the buffer under it, or write to it. -/
theorem Deed.leaves_of_ne (hreturned : ∀ size, 0 < size → deed ≠ .returned size handle)
    (hremoved : deed ≠ .removed handle) (found : Option GpuBuffer) :
    deed.leaves handle found = found.map (deed.rewritten handle) := by
  cases deed with
  | returned size fresh =>
    have hother : ¬ (0 < size ∧ handle = fresh) := by
      rintro ⟨hsize, rfl⟩
      exact hreturned size hsize rfl
    change (if _ then _ else found) = found.map id
    rw [if_neg hother, Option.map_id, id]
  | removed gone =>
    have hother : handle ≠ gone := by
      rintro rfl
      exact hremoved rfl
    change (if _ then _ else found) = found.map id
    rw [if_neg hother, Option.map_id, id]
  | reserved fresh => exact (congrFun Option.map_id found).symm
  | gaveUp size => exact (congrFun Option.map_id found).symm
  | rejected unknown => exact (congrFun Option.map_id found).symm
  | wrote bytes changed => rfl

/-- As no handle is handed out twice, what is under it is the buffer it was handed out with. -/
theorem heldIn_eq_some_iff (h : AtEvery Deed.Proper history) :
    heldIn history handle = some buffer ↔ Handed history handle buffer := by
  induction history generalizing buffer with
  | nil =>
    refine ⟨nofun, ?_⟩
    rintro ⟨later, size, earlier, hsplit, -⟩
    simp at hsplit
  | cons deed history ih =>
    have hproper : deed.Proper history := h [] deed history rfl
    rw [handed_cons_iff]
    change deed.leaves handle (heldIn history handle) = some buffer ↔ _
    by_cases hreturned : ∃ size, 0 < size ∧ deed = .returned size handle
    · obtain ⟨size, hsize, rfl⟩ := hreturned
      have hfresh : handle ∉ handedOut history := by
        rcases hproper with ⟨hempty, -⟩ | ⟨-, -, hfresh⟩
        · exact absurd hempty (Nat.ne_of_gt hsize)
        · exact hfresh
      change (if _ then _ else _) = some buffer ↔ _
      rw [if_pos ⟨hsize, rfl⟩, Option.some_inj]
      constructor
      · rintro rfl
        exact Or.inl ⟨size, hsize, rfl, rfl⟩
      · rintro (⟨size', hsize', heq, rfl⟩ | ⟨-, before, hbefore, -⟩)
        · cases heq
          rfl
        · exact absurd hbefore.mem_handedOut hfresh
    · have hother : ∀ size, 0 < size → deed ≠ .returned size handle :=
        fun size hsize heq => hreturned ⟨size, hsize, heq⟩
      by_cases hremoved : deed = .removed handle
      · subst hremoved
        change (if _ then _ else _) = some buffer ↔ _
        rw [if_pos rfl]
        refine ⟨nofun, ?_⟩
        rintro (⟨size, hsize, heq, -⟩ | ⟨hne, -⟩)
        · cases heq
        · exact absurd rfl hne
      · rw [Deed.leaves_of_ne hother hremoved, Option.map_eq_some_iff]
        constructor
        · rintro ⟨before, hbefore, rfl⟩
          exact Or.inr ⟨hremoved, before, (ih h.tail).mp hbefore, rfl⟩
        · rintro (⟨size, hsize, heq, -⟩ | ⟨-, before, hbefore, rfl⟩)
          · exact absurd heq (hother size hsize)
          · exact ⟨before, (ih h.tail).mpr hbefore, rfl⟩

/-! ## What turns preserve -/

section Turns

variable {Name : Type} {s : Callers Name}

/-- How many handles have been reserved. -/
def reservations (s : Callers Name) : Nat := (s.history.filterMap reserved?).length

/-- A thread is not about to enter a buffer, and if it is about to reserve a handle, then for some
bytes. -/
structure Thread.Calm (t : Thread) : Prop where
  asked : ∀ size, t.stage = .reserving size → 0 < size
  clean : ∀ size handle buffer, t.stage ≠ .entering size handle buffer

/-- The counter has counted every reservation, handles that are still to be handed out are in the
hands of one thread each, and what is registered is what the history says. -/
structure Orderly (s : Callers Name) : Prop where
  counter : s.world.registry.next = s.reservations + 1
  asked : ∀ i size, (s.threads i).stage = .reserving size → 0 < size
  entering : ∀ i size handle buffer, (s.threads i).stage = .entering size handle buffer →
    0 < size ∧ 0 < handle ∧ handle < s.world.registry.next ∧ handle ∉ handedOut s.history ∧
      buffer = created (roundUpTo wideWordBytes size)
  apart : ∀ i j size size' handle buffer buffer',
    (s.threads i).stage = .entering size handle buffer →
    (s.threads j).stage = .entering size' handle buffer' → i = j
  below : ∀ handle ∈ handedOut s.history, handle < s.world.registry.next
  proper : AtEvery Deed.Proper s.history
  found : ∀ handle, 0 < handle →
    s.world.registry.buffers.lookup handle = heldIn s.history handle

theorem orderly_start (adapterAt : Nat → Adapter) (programs : Name → List Request) :
    (start adapterAt programs).Orderly :=
  ⟨rfl, nofun, nofun, nofun, nofun, .nil, fun _ _ => rfl⟩

theorem Orderly.returned_fresh (h : s.Orderly) {later earlier : List Deed} {size handle : Nat}
    (hsplit : s.history = later ++ .returned size handle :: earlier) (hsize : 0 < size) :
    handle ≠ 0 ∧ ∀ size', .returned size' handle ∉ earlier := by
  rcases h.proper later _ earlier hsplit with ⟨hempty, -⟩ | ⟨-, hpos, hfresh⟩
  · exact absurd hempty (Nat.ne_of_gt hsize)
  · refine ⟨Nat.ne_of_gt hpos, fun size' hmem => ?_⟩
    rcases Nat.eq_zero_or_pos size' with rfl | hsize'
    · -- An allocation of no bytes has handed out the null handle.
      obtain ⟨between, before, rfl⟩ := List.append_of_mem hmem
      have hsplit' : s.history =
          (later ++ .returned size handle :: between) ++ .returned 0 handle :: before := by
        rw [hsplit, List.append_assoc, List.cons_append]
      rcases h.proper _ _ before hsplit' with ⟨-, hnull⟩ | ⟨hnone, -⟩
      · exact Nat.ne_of_gt hpos hnull
      · exact Nat.lt_irrefl 0 hnone
    · exact hfresh (mem_handedOut hsize' hmem)

theorem Orderly.find?_eq_some_iff (h : s.Orderly) {handle : Nat} {buffer : GpuBuffer} :
    s.world.registry.find? handle = some buffer ↔ Handed s.history handle buffer := by
  rcases Nat.eq_zero_or_pos handle with rfl | hpos
  · refine ⟨nofun, ?_⟩
    rintro ⟨later, size, earlier, hsplit, hsize, -⟩
    exact absurd rfl (h.returned_fresh hsplit hsize).1
  · rw [Registry.find?_eq_lookup hpos, h.found handle hpos]
    exact heldIn_eq_some_iff h.proper

/-- Allocations give up only on the last sizes in the word range. -/
theorem Orderly.lt_of_gaveUp (h : s.Orderly) {size : Nat} (hmem : .gaveUp size ∈ s.history) :
    wordLimit - wideWordBytes < size := by
  obtain ⟨later, earlier, hsplit⟩ := List.append_of_mem hmem
  have hlarge : wordLimit ≤ roundUpTo wideWordBytes size := h.proper later _ earlier hsplit
  by_contra hsmall
  -- The last multiple of a wide word in the range is not below the size.
  have hwhole : wordLimit - wideWordBytes ∈ {n | wideWordBytes ∣ n ∧ size ≤ n} :=
    ⟨by decide, Nat.le_of_not_lt hsmall⟩
  have hle := (isLeast_roundUpTo (by decide) size).2 hwhole
  exact absurd (Nat.le_trans hlarge hle) (by decide)

/-- Once a handle has been given back nothing is under it any more. -/
theorem Orderly.find?_eq_none (h : s.Orderly) {later earlier : List Deed} {size handle : Nat}
    (hsplit : s.history = later ++ .returned size handle :: earlier) (hsize : 0 < size)
    (hremoved : .removed handle ∈ later) : s.world.registry.find? handle = none := by
  cases hfound : s.world.registry.find? handle with
  | none => rfl
  | some buffer =>
    exfalso
    obtain ⟨later', size', earlier', hsplit', hsize', hkept, -⟩ := h.find?_eq_some_iff.mp hfound
    -- The handle has been handed out once, so both ways to split the history are the same.
    have honce : ∀ {before between after : List Deed} {m m' : Nat}, 0 < m →
        s.history = before ++ .returned m handle :: (between ++ .returned m' handle :: after) →
          False := by
      intro before between after m m' hm heq
      exact (h.returned_fresh heq hm).2 m' (List.mem_append_right _ List.mem_cons_self)
    have hsame := hsplit.symm.trans hsplit'
    rcases List.append_eq_append_iff.mp hsame with ⟨between, rfl, htail⟩ | ⟨between, rfl, htail⟩
    · cases between with
      | nil => exact hkept (by simpa using hremoved)
      | cons first between =>
        obtain ⟨rfl, rfl⟩ := List.cons.inj htail
        exact honce hsize hsplit
    · cases between with
      | nil => exact hkept (by simpa using hremoved)
      | cons first between =>
        obtain ⟨rfl, rfl⟩ := List.cons.inj htail
        exact honce hsize' hsplit'

variable [DecidableEq Name] {i : Name} {t : Thread} {w : World} {deeds : List Deed}

/-- A thread at some point is the one whose turn it was, or was at that point before. -/
theorem stage_update {threads : Name → Thread} {j : Name} {stage : Stage}
    (h : (Function.update threads i t j).stage = stage) :
    (j = i ∧ t.stage = stage) ∨ (j ≠ i ∧ (threads j).stage = stage) := by
  by_cases hj : j = i
  · subst hj
    rw [Function.update_self] at h
    exact Or.inl ⟨rfl, h⟩
  · rw [Function.update_of_ne hj] at h
    exact Or.inr ⟨hj, h⟩

theorem stage_update_of_ne {threads : Name → Thread} {j : Name} {stage : Stage}
    (h : (Function.update threads i t j).stage = stage) (hne : t.stage ≠ stage) :
    j ≠ i ∧ (threads j).stage = stage :=
  (stage_update h).resolve_left (fun hsame => hne hsame.2)

/-- A turn that reserves and hands out nothing. -/
theorem Orderly.calm (h : s.Orderly) (i : Name) (ht : t.Calm)
    (hnext : w.registry.next = s.world.registry.next)
    (hdeeds : ∀ deed ∈ deeds, deed.Quiet)
    (hfound : ∀ handle, 0 < handle →
      w.registry.buffers.lookup handle = heldIn (deeds ++ s.history) handle) :
    (⟨w, Function.update s.threads i t, deeds ++ s.history⟩ : Callers Name).Orderly := by
  have hreserved : (deeds ++ s.history).filterMap reserved? = s.history.filterMap reserved? := by
    rw [List.filterMap_append, List.filterMap_eq_nil_iff.mpr (fun deed hdeed => (hdeeds deed hdeed).reserved),
      List.nil_append]
  have hhanded : handedOut (deeds ++ s.history) = handedOut s.history := by
    unfold handedOut
    rw [List.filterMap_append, List.filterMap_eq_nil_iff.mpr (fun deed hdeed => (hdeeds deed hdeed).handedOut),
      List.nil_append]
  -- Whoever is about to enter a buffer was so before.
  have hold : ∀ j size handle buffer,
      (Function.update s.threads i t j).stage = .entering size handle buffer →
        (s.threads j).stage = .entering size handle buffer := by
    intro j size handle buffer hstage
    exact (stage_update_of_ne hstage (ht.clean size handle buffer)).2
  refine ⟨?_, ?_, ?_, ?_, ?_, ?_, hfound⟩
  · change w.registry.next = ((deeds ++ s.history).filterMap reserved?).length + 1
    rw [hreserved, hnext]
    exact h.counter
  · intro j size hstage
    rcases stage_update hstage with ⟨-, hasked⟩ | ⟨-, hbefore⟩
    · exact ht.asked size hasked
    · exact h.asked j size hbefore
  · intro j size handle buffer hstage
    change 0 < size ∧ 0 < handle ∧ handle < w.registry.next ∧ handle ∉ handedOut (deeds ++ s.history) ∧ _
    rw [hnext, hhanded]
    exact h.entering j size handle buffer (hold j size handle buffer hstage)
  · intro j k size size' handle buffer buffer' hj hk
    exact h.apart j k size size' handle buffer buffer' (hold _ _ _ _ hj) (hold _ _ _ _ hk)
  · change ∀ handle ∈ handedOut (deeds ++ s.history), handle < w.registry.next
    rw [hnext, hhanded]
    exact h.below
  · exact h.proper.append deeds (fun deed hdeed => (hdeeds deed hdeed).proper)

/-- A reserved handle is one that the counter has not come to before. -/
theorem Orderly.reserve (h : s.Orderly) {size : Nat} {todo : List Request}
    (hstage : (s.threads i).stage = .reserving size)
    (hroom : s.reservations + 1 + 1 < wordLimit) :
    (⟨{ s.world with registry := s.world.registry.reserve.2 },
      Function.update s.threads i ⟨todo, .entering size s.world.registry.next
        (created (roundUpTo wideWordBytes size))⟩,
      .reserved s.world.registry.next :: s.history⟩ : Callers Name).Orderly := by
  have hcounter := h.counter
  have hnext : (s.world.registry.next + 1) % wordLimit = s.world.registry.next + 1 :=
    Nat.mod_eq_of_lt (by omega)
  have hfresh : s.world.registry.next ∉ handedOut s.history :=
    fun hmem => Nat.lt_irrefl _ (h.below _ hmem)
  -- Either this is the thread that has reserved the handle, or it was at that point before.
  have hcases : ∀ j size' handle buffer,
      (Function.update s.threads i ⟨todo, .entering size s.world.registry.next
        (created (roundUpTo wideWordBytes size))⟩ j).stage = .entering size' handle buffer →
      (j = i ∧ size' = size ∧ handle = s.world.registry.next ∧
        buffer = created (roundUpTo wideWordBytes size)) ∨
      (j ≠ i ∧ (s.threads j).stage = .entering size' handle buffer) := by
    intro j size' handle buffer hj
    rcases stage_update hj with ⟨rfl, hentering⟩ | hbefore
    · cases hentering
      exact Or.inl ⟨rfl, rfl, rfl, rfl⟩
    · exact Or.inr hbefore
  refine ⟨?_, ?_, ?_, ?_, ?_, h.proper.cons trivial, h.found⟩
  · change (s.world.registry.next + 1) % wordLimit = s.reservations + 1 + 1
    rw [hnext, hcounter]
  · intro j size' hj
    exact h.asked j size' (stage_update_of_ne hj nofun).2
  · intro j size' handle buffer hj
    change 0 < size' ∧ 0 < handle ∧ handle < (s.world.registry.next + 1) % wordLimit ∧
      handle ∉ handedOut s.history ∧ _
    rw [hnext]
    rcases hcases j size' handle buffer hj with ⟨-, rfl, rfl, rfl⟩ | ⟨-, hold⟩
    · exact ⟨h.asked i _ hstage, by omega, Nat.lt_succ_self _, hfresh, rfl⟩
    · obtain ⟨hsize, hpos, hlt, hnew, hbuffer⟩ := h.entering j size' handle buffer hold
      exact ⟨hsize, hpos, Nat.lt_succ_of_lt hlt, hnew, hbuffer⟩
  · intro j k size' size'' handle buffer buffer' hj hk
    -- The counter is past every handle that another thread has in hand.
    have hpast : ∀ {k size' buffer}, (s.threads k).stage ≠
        .entering size' s.world.registry.next buffer := fun hold =>
      Nat.lt_irrefl _ (h.entering _ _ _ _ hold).2.2.1
    rcases hcases j size' handle buffer hj with ⟨rfl, -, rfl, -⟩ | ⟨-, hold⟩
    · rcases hcases k size'' _ buffer' hk with ⟨rfl, -⟩ | ⟨-, hold'⟩
      · rfl
      · exact absurd hold' hpast
    · rcases hcases k size'' _ buffer' hk with ⟨-, -, rfl, -⟩ | ⟨-, hold'⟩
      · exact absurd hold hpast
      · exact h.apart j k _ _ _ _ _ hold hold'
  · intro handle hmem
    change handle < (s.world.registry.next + 1) % wordLimit
    rw [hnext]
    exact Nat.lt_succ_of_lt (h.below handle hmem)

/-- A handle that is handed out has not been handed out before. -/
theorem Orderly.enter (h : s.Orderly) {size handle : Nat} {buffer : GpuBuffer} {todo : List Request}
    (hstage : (s.threads i).stage = .entering size handle buffer) :
    (⟨{ s.world with registry := s.world.registry.insert handle buffer },
      Function.update s.threads i ⟨todo, .idle⟩,
      .returned size handle :: s.history⟩ : Callers Name).Orderly := by
  obtain ⟨hsize, hpos, hlt, hfresh, rfl⟩ := h.entering i size handle buffer hstage
  have hhanded : handedOut (.returned size handle :: s.history) = handle :: handedOut s.history :=
    List.filterMap_cons_some (if_neg (Nat.ne_of_gt hsize))
  refine ⟨h.counter, ?_, ?_, ?_, ?_, h.proper.cons (Or.inr ⟨hsize, hpos, hfresh⟩), ?_⟩
  · exact fun j size' hj => h.asked j size' (stage_update_of_ne hj nofun).2
  · intro j size' handle' buffer' hj
    obtain ⟨hji, hbefore⟩ := stage_update_of_ne hj nofun
    obtain ⟨hsize', hpos', hlt', hfresh', hbuffer'⟩ := h.entering j size' handle' buffer' hbefore
    refine ⟨hsize', hpos', hlt', ?_, hbuffer'⟩
    change handle' ∉ handedOut (.returned size handle :: s.history)
    rw [hhanded]
    intro hmem
    rcases List.mem_cons.mp hmem with rfl | hmem
    · exact hji (h.apart j i _ _ _ _ _ hbefore hstage)
    · exact hfresh' hmem
  · exact fun j k _ _ _ _ _ hj hk => h.apart j k _ _ _ _ _ (stage_update_of_ne hj nofun).2
      (stage_update_of_ne hk nofun).2
  · change ∀ handle' ∈ handedOut (.returned size handle :: s.history), handle' < _
    rw [hhanded]
    intro handle' hmem
    rcases List.mem_cons.mp hmem with rfl | hmem
    · exact hlt
    · exact h.below handle' hmem
  · intro handle' hpos'
    refine (Registry.lookup_insert s.world.registry handle _ handle').trans ?_
    change _ = if 0 < size ∧ handle' = handle then _ else heldIn s.history handle'
    rw [h.found handle' hpos']
    simp only [hsize, true_and]

theorem registry_opened (through : Option Device) (w : World) :
    (w.opened through).registry = w.registry := by
  cases through with
  | none => rfl
  | some device => exact registry_defaultClient device w

theorem lookup_deallocate (gone : Nat) (w : World) {handle : Nat} (hpos : 0 < handle) :
    (deallocate gone w).registry.buffers.lookup handle =
      if handle = gone then none else w.registry.buffers.lookup handle := by
  by_cases hnull : gone = 0
  · have hother : handle ≠ gone := fun heq => Nat.ne_of_gt hpos (heq.trans hnull)
    unfold deallocate
    rw [if_pos hnull, if_neg hother]
  · have hregistry : (deallocate gone w).registry = w.registry.remove gone := by
      unfold deallocate
      rw [if_neg hnull]
      cases w.registry.contains gone <;> rfl
    rw [hregistry]
    exact Table.lookup_filter_ne w.registry.buffers gone handle

theorem next_deallocate (gone : Nat) (w : World) :
    (deallocate gone w).registry.next = w.registry.next := by
  unfold deallocate
  split
  · rfl
  · cases w.registry.contains gone <;> rfl

/-- A thread that gives a handle back leaves the others. -/
theorem find?_step_of_removing {handle : Nat} (hstage : (s.threads i).stage = .removing handle)
    {other : Nat} (hother : other ≠ handle) :
    (s.step i).world.registry.find? other = s.world.registry.find? other := by
  have hworld : (s.step i).world = deallocate handle s.world := by
    change ((s.threads i).turn s.world).2.1 = _
    unfold Thread.turn
    rw [hstage]
  rw [hworld]
  rcases Nat.eq_zero_or_pos other with rfl | hpos
  · rfl
  · rw [Registry.find?_eq_lookup hpos, Registry.find?_eq_lookup hpos,
      lookup_deallocate handle s.world hpos, if_neg hother]

theorem Orderly.step (h : s.Orderly) (i : Name)
    (hroom : (s.step i).reservations + 1 < wordLimit) : (s.step i).Orderly := by
  have hmove := move_turn (s.threads i) s.world
  have hstep : s.step i =
      ⟨((s.threads i).turn s.world).2.1, Function.update s.threads i ((s.threads i).turn s.world).1,
        ((s.threads i).turn s.world).2.2 ++ s.history⟩ := rfl
  rw [hstep] at hroom ⊢
  generalize ((s.threads i).turn s.world).1 = t at *
  generalize ((s.threads i).turn s.world).2.1 = w at *
  generalize ((s.threads i).turn s.world).2.2 = deeds at *
  have hidle : ∀ {todo}, Thread.Calm ⟨todo, .idle⟩ := ⟨nofun, nofun⟩
  cases hmove with
  | stay =>
    rw [Function.update_eq_self]
    exact h
  | begin through idle reserves clean =>
    have hregistry := registry_opened through s.world
    refine h.calm i ⟨reserves, clean⟩ (congrArg Registry.next hregistry) nofun ?_
    rw [hregistry]
    exact h.found
  | returnNull idle =>
    have hquiet : Deed.Quiet (.returned 0 0) := ⟨rfl, rfl, fun _ => Or.inl ⟨rfl, rfl⟩⟩
    exact h.calm i hidle rfl (List.forall_mem_singleton.mpr hquiet) h.found
  | @giveUp size stage large =>
    have hquiet : Deed.Quiet (.gaveUp size) := ⟨rfl, rfl, fun _ => large⟩
    exact h.calm i hidle rfl (List.forall_mem_singleton.mpr hquiet) h.found
  | reserve stage => exact h.reserve stage hroom
  | enter stage => exact h.enter stage
  | @remove gone stage =>
    have hquiet : Deed.Quiet (.removed gone) := ⟨rfl, rfl, fun _ => trivial⟩
    refine h.calm i hidle (next_deallocate gone s.world) (List.forall_mem_singleton.mpr hquiet)
      (fun handle hpos => ?_)
    rw [lookup_deallocate gone s.world hpos, h.found handle hpos]
    rfl
  | @reject bytes missing stage unknown =>
    have hquiet : Deed.Quiet (.rejected missing) := ⟨rfl, rfl, fun _ => trivial⟩
    exact h.calm i hidle rfl (List.forall_mem_singleton.mpr hquiet) h.found
  | find stage => exact h.calm i ⟨nofun, nofun⟩ rfl nofun h.found
  | @write bytes changed stage =>
    have hquiet : Deed.Quiet (.wrote bytes changed) := ⟨rfl, rfl, fun _ => trivial⟩
    refine h.calm i hidle rfl (List.forall_mem_singleton.mpr hquiet) (fun handle hpos => ?_)
    refine (Registry.lookup_modify s.world.registry changed _ handle).trans ?_
    rw [h.found handle hpos]
    change _ = (heldIn s.history handle).map (Deed.rewritten handle (.wrote bytes changed))
    rw [Deed.rewritten_wrote]
    split
    · rfl
    · rw [Option.map_id, id]

theorem reservations_le_step (s : Callers Name) (i : Name) :
    s.reservations ≤ (s.step i).reservations := by
  have hhistory : (s.step i).history = ((s.threads i).turn s.world).2.2 ++ s.history := rfl
  unfold reservations
  rw [hhistory, List.filterMap_append, List.length_append]
  exact Nat.le_add_left _ _

theorem orderly_run (adapterAt : Nat → Adapter) (programs : Name → List Request) (order : List Name)
    (hroom : ((start adapterAt programs).run order).reservations + 1 < wordLimit) :
    ((start adapterAt programs).run order).Orderly := by
  let P (s : Callers Name) : Prop := s.reservations + 1 < wordLimit → s.Orderly
  have hrun : P ((start adapterAt programs).run order) := by
    refine run_induction ?_ (fun _ => orderly_start adapterAt programs) order
    intro s i ih hroom
    have hbefore := reservations_le_step s i
    exact (ih (by omega)).step i hroom
  exact hrun hroom

end Turns

/-- However threads take turns, as long as the counter has not come round: handles are handed out once
each; what is under a handle is the buffer it was handed out with, until it is given back; and a handle
that has been given back is refused from then on. -/
theorem handle_names_one_buffer {Name : Type} [DecidableEq Name] (adapterAt : Nat → Adapter)
    (programs : Name → List Request) (order : List Name)
    (hroom : ((start adapterAt programs).run order).reservations + 1 < wordLimit) :
    let s := (start adapterAt programs).run order
    (∀ later size handle earlier, s.history = later ++ .returned size handle :: earlier → 0 < size →
      handle ≠ 0 ∧ ∀ size', .returned size' handle ∉ earlier) ∧
    (∀ size, .gaveUp size ∈ s.history → wordLimit - wideWordBytes < size) ∧
    (∀ handle buffer, s.world.registry.find? handle = some buffer ↔
      ∃ later size earlier, s.history = later ++ .returned size handle :: earlier ∧ 0 < size ∧
        .removed handle ∉ later ∧ IsLeast {n | wideWordBytes ∣ n ∧ size ≤ n} buffer.size ∧
        buffer.contents = writtenIn handle later) ∧
    (∀ i handle, (s.threads i).stage = .removing handle → ∀ other, other ≠ handle →
      (s.step i).world.registry.find? other = s.world.registry.find? other) ∧
    (∀ argument later size handle earlier,
      s.history = later ++ .returned size handle :: earlier → 0 < size → .removed handle ∈ later →
      (requireBuffer argument handle).perform s.world =
        (.error (.error (.invalidArgument argument (.unregistered handle))), s.world)) := by
  intro s
  have horderly : s.Orderly := orderly_run adapterAt programs order hroom
  have hleast : ∀ size, IsLeast {n | wideWordBytes ∣ n ∧ size ≤ n} (roundUpTo wideWordBytes size) :=
    isLeast_roundUpTo (by decide)
  refine ⟨?_, ?_, ?_, ?_, ?_⟩
  · exact fun later size handle earlier hsplit hsize => horderly.returned_fresh hsplit hsize
  · exact fun size hmem => horderly.lt_of_gaveUp hmem
  · intro handle buffer
    rw [horderly.find?_eq_some_iff]
    constructor
    · rintro ⟨later, size, earlier, hsplit, hsize, hkept, rfl⟩
      exact ⟨later, size, earlier, hsplit, hsize, hkept, hleast size, rfl⟩
    · rintro ⟨later, size, earlier, hsplit, hsize, hkept, hbuffer, hcontents⟩
      refine ⟨later, size, earlier, hsplit, hsize, hkept, ?_⟩
      have hwhole : buffer.size = roundUpTo wideWordBytes size := hbuffer.unique (hleast size)
      rw [← hwhole, ← hcontents]
  · exact fun i handle hstage other hother => find?_step_of_removing hstage hother
  · intro argument later size handle earlier hsplit hsize hremoved
    exact perform_requireBuffer_none (horderly.find?_eq_none hsplit hsize hremoved) argument

/-- One thread allocates and gives back what it has got; another gives back the first handle before it
is handed out, allocates, and writes to the first handle. -/
def crossing : Bool → List Request
  | true => [.allocate none 20, .deallocate none 1 20]
  | false =>
      [.deallocate (some (.ofIndex 0)) 1 64, .allocate (some (.ofIndex 0)) 16,
        .write (.ofIndex 0) [1, 2, 3, 4] 1]

theorem handle_names_one_buffer_crossing :
    let s := (start (fun _ => .noop) crossing).run
      [true, true, false, false, false, false, false, true, false, true, true, false]
    s.reservations + 1 < wordLimit ∧
    s.history = [.rejected 1, .removed 1, .returned 20 1, .returned 16 2, .reserved 2, .removed 1,
      .reserved 1] ∧
    s.world.registry.find? 2 = some (created 16) ∧
    ∀ argument, (requireBuffer argument 1).perform s.world =
      (.error (.error (.invalidArgument argument (.unregistered 1))), s.world) := by
  intro s
  have hroom : s.reservations + 1 < wordLimit := by decide +kernel
  have hhistory : s.history = [.rejected 1, .removed 1, .returned 20 1, .returned 16 2, .reserved 2,
      .removed 1, .reserved 1] := by decide +kernel
  obtain ⟨-, -, hfound, -, hstale⟩ := handle_names_one_buffer (fun _ => .noop) crossing _ hroom
  refine ⟨hroom, hhistory, ?_, ?_⟩
  · refine (hfound 2 (created 16)).mpr ⟨[.rejected 1, .removed 1, .returned 20 1], 16,
      [.reserved 2, .removed 1, .reserved 1], hhistory, by decide, by decide, ?_, rfl⟩
    exact isLeast_roundUpTo (by decide) 16
  · exact fun argument => hstale argument [.rejected 1, .removed 1] 20 1
      [.returned 16 2, .reserved 2, .removed 1, .reserved 1] hhistory (by decide) (by decide)

end Callers

end WebGpu

end DeviceCopy
