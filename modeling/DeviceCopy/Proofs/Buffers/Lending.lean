import DeviceCopy.Proofs.Buffers.Ledger
import Mathlib.Data.List.Perm.Basic

/-!
# What is granted and given back

`Estate.Settled` is what a ledger and the buffers of a program have to do with one another: the memory
that is out is the memory of the buffers there are. Every request keeps it, and writes no more into
the ledger than `Entered` says: a buffer that is made was granted its memory, one that cannot be filled
has its memory back at the backend before the error is answered, and a drop gives memory back exactly
if it was of the last handle.
-/

set_option autoImplicit false

namespace DeviceCopy

variable {World Device Client : Type}

/-! ## The memory of the buffers there are -/

/-- The memory of the buffers under some numbers. -/
def leasesOf (owned : Nat → Option (Buffer Device)) (ids : List Nat) : List (Lease Device) :=
  ids.filterMap fun id => (owned id).bind Buffer.lease?

/-- The numbers of all buffers there are, each once. -/
structure Lists (owned : Nat → Option (Buffer Device)) (ids : List Nat) : Prop where
  nodup : ids.Nodup
  mem_iff : ∀ id, id ∈ ids ↔ ∃ buffer, owned id = some buffer

section Leases

variable {owned : Nat → Option (Buffer Device)} {ids : List Nat} {id : Nat} {buffer : Buffer Device}

theorem leasesOf_update_of_notMem (h : id ∉ ids) (value : Option (Buffer Device)) :
    leasesOf (Function.update owned id value) ids = leasesOf owned ids := by
  refine List.filterMap_congr (fun other hother => ?_)
  have hne : other ≠ id := fun heq => h (heq ▸ hother)
  rw [Function.update_of_ne hne]

theorem leasesOf_cons (h : owned id = some buffer) (ids : List Nat) :
    leasesOf owned (id :: ids) = buffer.lease?.toList ++ leasesOf owned ids := by
  unfold leasesOf
  rw [List.filterMap_cons, h, Option.bind_some]
  cases buffer.lease? with
  | none => rfl
  | some lease => rfl

theorem Lists.leasesOf_perm {ids' : List Nat} (h : Lists owned ids) (h' : Lists owned ids') :
    (leasesOf owned ids).Perm (leasesOf owned ids') := by
  have hsame : ids.Perm ids' := (List.perm_ext_iff_of_nodup h.nodup h'.nodup).mpr
    (fun id => (h.mem_iff id).trans (h'.mem_iff id).symm)
  exact hsame.filterMap _

/-- With one more buffer its memory is out as well. -/
theorem Lists.made (h : Lists owned ids) (hfresh : owned id = none) (buffer : Buffer Device) :
    Lists (Function.update owned id (some buffer)) (id :: ids) ∧
      leasesOf (Function.update owned id (some buffer)) (id :: ids) =
        buffer.lease?.toList ++ leasesOf owned ids := by
  have hnew : id ∉ ids := by
    intro hmem
    obtain ⟨old, hold⟩ := (h.mem_iff id).mp hmem
    rw [hfresh] at hold
    cases hold
  refine ⟨⟨List.nodup_cons.mpr ⟨hnew, h.nodup⟩, fun other => ?_⟩, ?_⟩
  · by_cases hother : other = id
    · simp [hother]
    · simp [hother, h.mem_iff]
  · rw [leasesOf_cons (Function.update_self _ _ _), leasesOf_update_of_notMem hnew]

/-- The memory of a buffer that goes was out before, and that of the others still is. -/
theorem Lists.released (h : Lists owned ids) (howned : owned id = some buffer) :
    Lists (Function.update owned id none) (ids.erase id) ∧
      (leasesOf owned ids).Perm
        (buffer.lease?.toList ++ leasesOf (Function.update owned id none) (ids.erase id)) := by
  have hgone : id ∉ ids.erase id := fun hmem => (h.nodup.mem_erase_iff.mp hmem).1 rfl
  refine ⟨⟨h.nodup.erase id, fun other => ?_⟩, ?_⟩
  · rw [h.nodup.mem_erase_iff]
    by_cases hother : other = id
    · simp [hother]
    · simp [hother, h.mem_iff]
  · have hfirst : ids.Perm (id :: ids.erase id) :=
      List.perm_cons_erase ((h.mem_iff id).mpr ⟨buffer, howned⟩)
    rw [leasesOf_update_of_notMem hgone, ← leasesOf_cons howned]
    exact hfirst.filterMap _

end Leases

/-! ## What requests write -/

/-- The entries that a request makes in the ledger. -/
inductive Entered (e e' : Estate (Watched World Device) Device) :
    BufferRequest Device → Except Failure BufferAnswer → List (LeaseEvent Device) → Prop
  /-- The memory of the buffer that the new handle stands for. -/
  | lent (device : Device) (plan : BufferPlan) {id pointer : Nat}
      (htarget : e'.handles.target e.handles.next = some id)
      (howned : e'.owned id = some (plan.buffer device pointer)) :
      Entered e e' (.make device plan) (.ok (.handle e.handles.next))
        [.granted { device, pointer, size := plan.size }]
  | declined (device : Device) (plan : BufferPlan) (failure : Failure) :
      Entered e e' (.make device plan) (.error failure) []
  /-- Memory was granted, but it could not be filled. -/
  | givenBack (device : Device) (plan : BufferPlan) (failure : Failure) (pointer : Nat) :
      Entered e e' (.make device plan) (.error failure)
        ((plan.buffer device pointer).returnEntries ++
          [.granted { device, pointer, size := plan.size }])
  | lastDropped {handle id : Nat} {buffer : Buffer Device}
      (htarget : e.handles.target handle = some id) (howned : e.owned id = some buffer)
      (hlast : ∀ other, e.handles.target other = some id → other = handle) :
      Entered e e' (.drop handle) (.ok .done) buffer.returnEntries
  /-- Where a handle is dropped the buffer has others. -/
  | nothing {request : BufferRequest Device} {answer : Except Failure BufferAnswer}
      (hmaking : request.making = 0)
      (hothers : ∀ handle id, request = .drop handle → e.handles.target handle = some id →
        ∃ other, e'.handles.target other = some id) :
      Entered e e' request answer []

/-- What is out is the memory of the buffers there are, and nothing was given back that was not out. -/
structure Estate.Settled (e : Estate (Watched World Device) Device) : Prop where
  justified : AtEvery LeaseEvent.Justified e.world.history
  counted : ∀ lease ∈ lentIn e.world.history, lease.size < wordLimit
  balanced : ∃ ids, Lists e.owned ids ∧
    (lentIn e.world.history).Perm (returnedIn e.world.history ++ leasesOf e.owned ids)

section Requests

variable {b : Backend World Device Client} {w w' : Watched World Device} {device : Device}
  {plan : BufferPlan} {buffer : Buffer Device}

theorem history_release (buffer : Buffer Device) (w : Watched World Device) :
    (buffer.release b.watched w).history = buffer.returnEntries ++ w.history := by
  unfold Buffer.release Buffer.returnEntries Buffer.lease?
  split
  · rfl
  · rfl

/-- A grant is written down, and nothing else that an allocation may answer. -/
theorem history_allocate (device : Device) (size : Nat) (w : Watched World Device) :
    match (b.watched.allocate device size).perform w with
    | (.ok pointer, w') => w'.history = .granted { device, pointer, size } :: w.history
    | (.error _, w') => w'.history = w.history := by
  have hbeside : (Watched.beside (b.allocate device size)).perform w = _ :=
    Watched.perform_beside (b.allocate device size) w
  unfold Backend.watched
  rw [Effect.perform_bind, hbeside]
  cases (b.allocate device size).perform w.world with
  | mk answer world =>
    cases answer with
    | ok pointer => rfl
    | error failure => rfl

/-- Filling a buffer writes nothing down, unless it fails. -/
theorem history_filling {result : Except Failure (Buffer Device) × Watched World Device}
    (h : Buffer.Filling b.watched buffer w result) :
    (result.1 = .ok buffer ∧ result.2.history = w.history) ∨
      (∃ failure, result.1 = .error failure) ∧ result.2.history = buffer.returnEntries ++ w.history := by
  have hkept : ∀ bytes, ((b.watched.copyToDevice buffer.device bytes buffer.pointer).perform w).2.history =
      w.history := fun _ => rfl
  cases h with
  | nothingToFill => exact Or.inl ⟨rfl, rfl⟩
  | filled hcopy =>
    refine Or.inl ⟨rfl, ?_⟩
    exact (congrArg (fun result => result.2.history) hcopy).symm.trans (hkept _)
  | givenBack hcopy =>
    refine Or.inr ⟨⟨_, rfl⟩, (history_release buffer _).trans ?_⟩
    exact congrArg (buffer.returnEntries ++ ·)
      ((congrArg (fun result => result.2.history) hcopy).symm.trans (hkept _))

/-- Making a buffer takes one grant, which a buffer that is not made gives back. -/
theorem history_make (b : Backend World Device Client) (device : Device) (plan : BufferPlan)
    (w : Watched World Device) :
    match (plan.make b.watched device).perform w with
    | (.ok buffer, w') => plan.size < wordLimit ∧ ∃ pointer, buffer = plan.buffer device pointer ∧
        w'.history = .granted { device, pointer, size := plan.size } :: w.history
    | (.error _, w') => w'.history = w.history ∨ plan.size < wordLimit ∧ ∃ pointer, w'.history =
        (plan.buffer device pointer).returnEntries ++
          .granted { device, pointer, size := plan.size } :: w.history := by
  have hmaking := plan.making b.watched device w
  have hallocated := history_allocate (b := b) device plan.size w
  cases hmake : (plan.make b.watched device).perform w with
  | mk answer w' =>
    rw [hmake] at hmaking
    cases hmaking with
    | tooLarge _ => exact Or.inl rfl
    | declined _ hallocate =>
      rw [hallocate] at hallocated
      exact Or.inl hallocated
    | @granted pointer between _ hsize hallocate hfill =>
      rw [hallocate] at hallocated
      rcases history_filling hfill with ⟨hanswer, hhistory⟩ | ⟨⟨failure, hanswer⟩, hhistory⟩
      · cases hanswer
        exact ⟨hsize, pointer, rfl, hhistory.trans hallocated⟩
      · cases hanswer
        refine Or.inr ⟨hsize, pointer, hhistory.trans ?_⟩
        exact congrArg ((plan.buffer device pointer).returnEntries ++ ·) hallocated

theorem history_writing (elements : Elements) (buffer : Buffer Device) (w : Watched World Device) :
    ((buffer.writing b.watched elements).perform w).2.history = w.history := by
  have hkeeps : Effect.Keeps (fun v : Watched World Device => v.history = w.history)
      (buffer.writing b.watched elements) :=
    Buffer.keeps_writing (fun _ => Watched.keeps_beside _ w.history) elements
  exact hkeeps w rfl

theorem history_reading (dtype : DType) (buffer : Buffer Device) (w : Watched World Device) :
    ((buffer.reading b.watched dtype).perform w).2.history = w.history := by
  have hkeeps : Effect.Keeps (fun v : Watched World Device => v.history = w.history)
      (buffer.reading b.watched dtype) :=
    Buffer.keeps_reading (fun _ => Watched.keeps_beside _ w.history) dtype
  exact hkeeps w rfl

end Requests

/-! ## The ledger stays settled -/

namespace Estate.Settled

variable {e e' : Estate (Watched World Device) Device} {device : Device} {plan : BufferPlan}
  {pointer id : Nat} {buffer : Buffer Device}

theorem initial (w : World) :
    (Holdings.initial { world := w, history := [] } : Holdings (Watched World Device)
      Device).estate.Settled where
  justified := .nil
  counted _ h := nomatch h
  balanced := ⟨[], ⟨List.nodup_nil, fun _ => ⟨nofun, nofun⟩⟩, .nil⟩

theorem of_same (h : e.Settled) (hhistory : e'.world.history = e.world.history)
    (howned : e'.owned = e.owned) : e'.Settled := by
  refine ⟨?_, ?_, ?_⟩
  · rw [hhistory]
    exact h.justified
  · rw [hhistory]
    exact h.counted
  · rw [hhistory, howned]
    exact h.balanced

/-- A grant is out until it is given back. -/
theorem after_grant (h : e.Settled) (hsize : plan.size < wordLimit) {history : List (LeaseEvent Device)}
    (hhistory : history = .granted { device, pointer, size := plan.size } :: e.world.history) :
    AtEvery LeaseEvent.Justified history ∧ (∀ lease ∈ lentIn history, lease.size < wordLimit) ∧
      ∃ ids, Lists e.owned ids ∧ (lentIn history).Perm
        (returnedIn history ++ ((plan.buffer device pointer).lease?.toList ++ leasesOf e.owned ids)) := by
  obtain ⟨ids, hlists, hbalanced⟩ := h.balanced
  have hlent : lentIn history = lentIn e.world.history ++ (plan.buffer device pointer).lease?.toList := by
    rw [hhistory, ← plan.lent?_granted]
    exact logOf_cons _ _ _
  have hreturned : returnedIn history = returnedIn e.world.history := by
    rw [hhistory]
    exact (logOf_cons _ _ _).trans (List.append_nil _)
  refine ⟨?_, ?_, ids, hlists, ?_⟩
  · rw [hhistory]
    exact h.justified.cons (fun lease hlease => nomatch hlease)
  · intro lease hlease
    rw [hlent] at hlease
    rcases List.mem_append.mp hlease with hold | hnew
    · exact h.counted lease hold
    · unfold Buffer.lease? at hnew
      split at hnew
      · exact absurd hnew List.not_mem_nil
      · rw [Option.toList_some, List.mem_singleton] at hnew
        rw [hnew]
        exact hsize
  · calc lentIn history
        = lentIn e.world.history ++ (plan.buffer device pointer).lease?.toList := hlent
      _ |>.Perm (returnedIn e.world.history ++ leasesOf e.owned ids ++
            (plan.buffer device pointer).lease?.toList) := hbalanced.append_right _
      _ |>.Perm (returnedIn e.world.history ++
            ((plan.buffer device pointer).lease?.toList ++ leasesOf e.owned ids)) := by
          rw [List.append_assoc]
          exact List.perm_append_comm.append_left _
      _ = returnedIn history ++
            ((plan.buffer device pointer).lease?.toList ++ leasesOf e.owned ids) := by rw [hreturned]

/-- What is out may be given back. -/
theorem after_return {history before : List (LeaseEvent Device)} {rest : List (Lease Device)}
    (hjustified : AtEvery LeaseEvent.Justified before)
    (hbalanced : (lentIn before).Perm (returnedIn before ++ (buffer.lease?.toList ++ rest)))
    (hhistory : history = buffer.returnEntries ++ before) :
    AtEvery LeaseEvent.Justified history ∧ lentIn history = lentIn before ∧
      (lentIn history).Perm (returnedIn history ++ rest) := by
  have hlent : lentIn history = lentIn before := by
    rw [hhistory]
    exact lentIn_returnEntries buffer before
  have hreturned : returnedIn history = returnedIn before ++ buffer.lease?.toList := by
    rw [hhistory]
    exact returnedIn_returnEntries buffer before
  refine ⟨?_, hlent, ?_⟩
  · rw [hhistory]
    cases hlease : buffer.lease? with
    | none =>
      unfold Buffer.returnEntries
      rw [hlease]
      exact hjustified
    | some lease =>
      unfold Buffer.returnEntries
      rw [hlease] at hbalanced ⊢
      refine hjustified.cons (fun other hother => ?_)
      cases hother
      refine ⟨?_, ?_⟩
      · unfold Buffer.lease? at hlease
        split at hlease
        · cases hlease
        · next hpointer =>
          cases hlease
          exact hpointer
      · refine List.Sublist.subperm ?_ |>.trans hbalanced.symm.subperm
        exact List.Sublist.append_left (List.singleton_sublist.mpr List.mem_cons_self) _
  · rw [hlent, hreturned, List.append_assoc]
    exact hbalanced

theorem lent (h : e.Settled) (hsize : plan.size < wordLimit)
    (hhistory : e'.world.history = .granted { device, pointer, size := plan.size } :: e.world.history)
    (hfresh : e.owned id = none)
    (howned : e'.owned = Function.update e.owned id (some (plan.buffer device pointer))) :
    e'.Settled := by
  obtain ⟨hjustified, hcounted, ids, hlists, hbalanced⟩ := h.after_grant hsize hhistory
  obtain ⟨hlists', hleases⟩ := hlists.made hfresh (plan.buffer device pointer)
  refine ⟨hjustified, hcounted, id :: ids, ?_, ?_⟩
  · rw [howned]
    exact hlists'
  · rw [howned, hleases]
    exact hbalanced

theorem givenBack (h : e.Settled) (hsize : plan.size < wordLimit)
    (hhistory : e'.world.history = (plan.buffer device pointer).returnEntries ++
      .granted { device, pointer, size := plan.size } :: e.world.history)
    (howned : e'.owned = e.owned) : e'.Settled := by
  obtain ⟨hjustified, hcounted, ids, hlists, hbalanced⟩ := h.after_grant hsize rfl
  obtain ⟨hjustified', hlent, hbalanced'⟩ := after_return hjustified hbalanced hhistory
  refine ⟨hjustified', ?_, ids, ?_, ?_⟩
  · rw [hlent]
    exact hcounted
  · rw [howned]
    exact hlists
  · rw [howned]
    exact hbalanced'

theorem released (h : e.Settled) (hfound : e.owned id = some buffer)
    (hhistory : e'.world.history = buffer.returnEntries ++ e.world.history)
    (howned : e'.owned = Function.update e.owned id none) : e'.Settled := by
  obtain ⟨ids, hlists, hbalanced⟩ := h.balanced
  obtain ⟨hlists', hleases⟩ := hlists.released hfound
  have hout := hbalanced.trans (hleases.append_left _)
  obtain ⟨hjustified, hlent, hbalanced'⟩ := after_return h.justified hout hhistory
  refine ⟨hjustified, ?_, ids.erase id, ?_, ?_⟩
  · rw [hlent]
    exact h.counted
  · rw [howned]
    exact hlists'
  · rw [howned]
    exact hbalanced'

/-- Every request leaves the ledger settled, with no entries but those it has to make. -/
theorem step {b : Backend World Device Client} {request : BufferRequest Device}
    {answer : Except Failure BufferAnswer} (h : e.Settled)
    (hstep : Estate.Step b.watched e request answer e') :
    e'.Settled ∧ ∃ entries, e'.world.history = entries ++ e.world.history ∧
      Entered e e' request answer entries := by
  cases hstep with
  | @made device plan id buffer w' hmake hfresh =>
    have hhistory := history_make b device plan e.world
    rw [hmake] at hhistory
    obtain ⟨hsize, pointer, rfl, hhistory⟩ := hhistory
    have htarget : (e.handles.add id).target e.handles.next = some id := by
      rw [Handles.target_add, if_pos rfl]
    exact ⟨h.lent hsize hhistory hfresh rfl, _, hhistory,
      .lent device plan htarget (Function.update_self _ _ _)⟩
  | failed device plan hmake =>
    have hhistory := history_make b device plan e.world
    rw [hmake] at hhistory
    rcases hhistory with hsame | ⟨hsize, pointer, hback⟩
    · exact ⟨h.of_same hsame rfl, [], hsame, .declined device plan _⟩
    · refine ⟨h.givenBack hsize hback rfl, _, ?_, .givenBack device plan _ pointer⟩
      rw [List.append_assoc]
      exact hback
  | @written elements handle id buffer htarget howned =>
    have hsame := history_writing (b := b) elements buffer e.world
    exact ⟨h.of_same hsame rfl, [], hsame, .nothing rfl nofun⟩
  | @read dtype handle id buffer htarget howned =>
    have hsame := history_reading (b := b) dtype buffer e.world
    exact ⟨h.of_same hsame rfl, [], hsame, .nothing rfl nofun⟩
  | unknown hhandle hnone =>
    refine ⟨h, [], rfl, .nothing (BufferRequest.making_of_handle? hhandle) ?_⟩
    exact fun handle id _ htarget => ⟨handle, htarget⟩
  | cloned htarget howned => exact ⟨h.of_same rfl rfl, [], rfl, .nothing rfl nofun⟩
  | @dropped handle other id htarget hother hne =>
    refine ⟨h.of_same rfl rfl, [], rfl, .nothing rfl ?_⟩
    intro handle' id' heq htarget'
    cases heq
    rw [htarget] at htarget'
    cases htarget'
    exact ⟨other, by rw [Handles.target_remove, if_neg hne, hother]⟩
  | @released handle id buffer htarget howned hlast =>
    have hhistory := history_release (b := b) buffer e.world
    exact ⟨h.released howned hhistory rfl, _, hhistory, .lastDropped htarget howned hlast⟩

end Estate.Settled

end DeviceCopy
