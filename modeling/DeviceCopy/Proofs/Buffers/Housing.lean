import DeviceCopy.Proofs.Buffers.Custody

/-!
# Buffers in memory of their own

A `Housing` is what a backend promises about the memory it grants, whatever is in it: it is apart from
all memory in use, and only giving it back takes it out of use. Transfers may fail, and move what they
like.

That is enough for the buffers of a program to be kept apart (`Housing.Houses.step`): two of them with
bytes are at one pointer only if they are one buffer.
-/

set_option autoImplicit false

namespace DeviceCopy

variable {World Device Client : Type}

/-- What a backend promises about the memory it grants, as long as its world is in order and it has
room for a number of allocations. -/
structure Housing (b : Backend World Device Client) where
  Ready : (rooms : Nat) → World → Prop
  /-- A number of bytes at a pointer are in use. -/
  Stored : World → (pointer size : Nat) → Prop
  ready_pred : ∀ {rooms w}, Ready (rooms + 1) w → Ready rooms w
  pointer_eq_zero_iff : ∀ {rooms w pointer size}, Ready rooms w → Stored w pointer size →
    (pointer = 0 ↔ size = 0)
  allocate_ok : ∀ {rooms w w' device size pointer}, Ready (rooms + 1) w →
    (b.allocate device size).perform w = (.ok pointer, w') →
      Ready rooms w' ∧ Stored w' pointer size ∧
        ∀ p n, Stored w p n → (p = pointer → p = 0) ∧ Stored w' p n
  allocate_error : ∀ {rooms w w' device size failure}, Ready (rooms + 1) w →
    (b.allocate device size).perform w = (.error failure, w') →
      Ready rooms w' ∧ ∀ p n, Stored w p n → Stored w' p n
  copyToDevice : ∀ {rooms w} (device bytes pointer), Ready rooms w →
    Ready rooms ((b.copyToDevice device bytes pointer).perform w).2 ∧
      ∀ p n, Stored w p n → Stored ((b.copyToDevice device bytes pointer).perform w).2 p n
  copyFromDevice : ∀ {rooms w} (device pointer host), Ready rooms w →
    Ready rooms ((b.copyFromDevice device pointer host).perform w).2 ∧
      ∀ p n, Stored w p n → Stored ((b.copyFromDevice device pointer host).perform w).2 p n
  deallocate : ∀ {rooms w pointer size} (device), Ready rooms w → Stored w pointer size →
    pointer ≠ 0 → Ready rooms (b.deallocate device pointer size w) ∧
      ∀ p n, Stored w p n → p ≠ pointer → Stored (b.deallocate device pointer size w) p n

namespace Housing

variable {b : Backend World Device Client} {s : Housing b} {rooms : Nat} {w w' : World}
  {buffer other : Buffer Device}

/-- The memory of a buffer is in use. -/
def Holds (s : Housing b) (w : World) (buffer : Buffer Device) : Prop :=
  s.Stored w buffer.pointer buffer.sizeInBytes

/-- A change of the world that leaves it in order and takes nothing out of use. -/
def Spares (s : Housing b) (rooms : Nat) (w w' : World) : Prop :=
  s.Ready rooms w' ∧ ∀ p n, s.Stored w p n → s.Stored w' p n

theorem Spares.refl (h : s.Ready rooms w) : s.Spares rooms w w := ⟨h, fun _ _ hstored => hstored⟩

theorem Spares.trans {w'' : World} (h : s.Spares rooms w w') (h' : s.Spares rooms w' w'') :
    s.Spares rooms w w'' :=
  ⟨h'.1, fun p n hstored => h'.2 p n (h.2 p n hstored)⟩

theorem spares_copied (hready : s.Ready rooms w) {device : Device} {bytes : Bytes} {pointer : Nat}
    {answer : Except Failure Unit}
    (hcopy : (b.copyToDevice device bytes pointer).perform w = (answer, w')) :
    s.Spares rooms w w' := by
  have hcopied := s.copyToDevice device bytes pointer hready
  rw [hcopy] at hcopied
  exact hcopied

theorem spares_writing (hready : s.Ready rooms w) (elements : Elements) (buffer : Buffer Device) :
    s.Spares rooms w ((buffer.writing b elements).perform w).2 := by
  have hkeeps : Effect.Keeps (s.Spares rooms w) (buffer.writing b elements) :=
    Buffer.keeps_writing
      (fun bytes _ h => h.trans (s.copyToDevice buffer.device bytes buffer.pointer h.1)) elements
  exact hkeeps w (.refl hready)

theorem spares_reading (hready : s.Ready rooms w) (dtype : DType) (buffer : Buffer Device) :
    s.Spares rooms w ((buffer.reading b dtype).perform w).2 := by
  have hkeeps : Effect.Keeps (s.Spares rooms w) (buffer.reading b dtype) :=
    Buffer.keeps_reading
      (fun host _ h => h.trans (s.copyFromDevice buffer.device buffer.pointer host h.1)) dtype
  exact hkeeps w (.refl hready)

/-- A buffer is released without touching any other that has memory of its own. -/
theorem release (hready : s.Ready rooms w) (hholds : s.Holds w buffer) :
    s.Ready rooms (buffer.release b w) ∧
      ∀ p n, s.Stored w p n → (p = buffer.pointer → p = 0) → s.Stored (buffer.release b w) p n := by
  unfold Buffer.release
  split
  · exact ⟨hready, fun p n hstored _ => hstored⟩
  · next hpointer =>
    obtain ⟨hready', hkept⟩ := s.deallocate buffer.device hready hholds hpointer
    refine ⟨hready', fun p n hstored hapart => hkept p n hstored ?_⟩
    exact fun heq => hpointer (heq ▸ hapart heq)

/-- A buffer that is made is apart from everything in use, and one that cannot be made leaves
everything in use as it was. -/
theorem made {device : Device} {plan : BufferPlan} {result : Except Failure (Buffer Device) × World}
    (hready : s.Ready (rooms + 1) w) (h : BufferPlan.Making b device plan w result) :
    s.Spares rooms w result.2 ∧ ∀ buffer, result.1 = .ok buffer →
      s.Holds result.2 buffer ∧ ∀ p n, s.Stored w p n → p = buffer.pointer → p = 0 := by
  cases h with
  | tooLarge _ => exact ⟨.refl (s.ready_pred hready), nofun⟩
  | declined _ hallocate =>
    obtain ⟨hready', hkept⟩ := s.allocate_error hready hallocate
    exact ⟨⟨hready', hkept⟩, nofun⟩
  | @granted pointer between _ _ hallocate hfill =>
    obtain ⟨hready', hstored, hfresh⟩ := s.allocate_ok hready hallocate
    have hgranted : s.Spares rooms w between := ⟨hready', fun p n hp => (hfresh p n hp).2⟩
    cases hfill with
    | nothingToFill =>
      refine ⟨hgranted, fun buffer heq => ?_⟩
      cases heq
      exact ⟨hstored, fun p n hp => (hfresh p n hp).1⟩
    | filled hcopy =>
      have hfilled := spares_copied hready' hcopy
      refine ⟨hgranted.trans hfilled, fun buffer heq => ?_⟩
      cases heq
      exact ⟨hfilled.2 _ _ hstored, fun p n hp => (hfresh p n hp).1⟩
    | givenBack hcopy =>
      have hfilled := spares_copied hready' hcopy
      have hheld : s.Holds _ (plan.buffer device pointer) := hfilled.2 _ _ hstored
      -- Nothing that was in use before is where the memory was granted.
      obtain ⟨hready'', hkept⟩ := release hfilled.1 hheld
      refine ⟨⟨hready'', fun p n hp => ?_⟩, nofun⟩
      exact hkept p n (hfilled.2 p n (hgranted.2 p n hp)) (hfresh p n hp).1

/-! ## Estates in memory -/

/-- The buffers of an estate are in use, and no two of them share memory. -/
structure Houses (s : Housing b) (rooms : Nat) (e : Estate World Device) : Prop where
  ready : s.Ready rooms e.world
  holds : ∀ {id buffer}, e.owned id = some buffer → s.Holds e.world buffer
  separate : ∀ {id id' buffer buffer'}, e.owned id = some buffer → e.owned id' = some buffer' →
    id' ≠ id → buffer'.pointer = buffer.pointer → buffer'.pointer = 0

namespace Houses

variable {e e' : Estate World Device} {id id' : Nat}

theorem initial (hready : s.Ready rooms w) :
    s.Houses rooms (Holdings.initial w : Holdings World Device).estate :=
  ⟨hready, nofun, nofun⟩

/-- Buffers stay apart wherever they are still in use. -/
theorem of_held {more : Nat} (h : s.Houses more e) (hready : s.Ready rooms w')
    (hheld : ∀ id buffer, e.owned id = some buffer → s.Holds w' buffer) (handles : Handles) :
    s.Houses rooms ⟨w', e.owned, handles⟩ :=
  ⟨hready, fun howned => hheld _ _ howned, h.separate⟩

theorem of_spares {more : Nat} (h : s.Houses more e) (hspares : s.Spares rooms e.world w') (handles : Handles) :
    s.Houses rooms ⟨w', e.owned, handles⟩ :=
  h.of_held hspares.1 (fun _ _ howned => hspares.2 _ _ (h.holds howned)) handles

theorem insert {more : Nat} (h : s.Houses more e) (hspares : s.Spares rooms e.world w')
    (hholds : s.Holds w' buffer)
    (hfresh : ∀ p n, s.Stored e.world p n → p = buffer.pointer → p = 0) (handles : Handles) :
    s.Houses rooms ⟨w', Function.update e.owned id (some buffer), handles⟩ := by
  refine ⟨hspares.1, ?_, ?_⟩
  · intro other found hfound
    rcases owned_made hfound with ⟨-, rfl⟩ | ⟨-, hold⟩
    · exact hholds
    · exact hspares.2 _ _ (h.holds hold)
  · intro first second found found' hfirst hsecond hne hpointer
    rcases owned_made hfirst with ⟨rfl, rfl⟩ | ⟨-, hold⟩
    · rcases owned_made hsecond with ⟨rfl, -⟩ | ⟨-, hold'⟩
      · exact absurd rfl hne
      · exact hfresh _ _ (h.holds hold') hpointer
    · rcases owned_made hsecond with ⟨-, rfl⟩ | ⟨-, hold'⟩
      · exact hpointer.trans (hfresh _ _ (h.holds hold) hpointer.symm)
      · exact h.separate hold hold' hne hpointer

theorem erase (h : s.Houses rooms e) (howned : e.owned id = some buffer) (handles : Handles) :
    s.Houses rooms ⟨buffer.release b e.world, Function.update e.owned id none, handles⟩ := by
  obtain ⟨hready, hkept⟩ := release h.ready (h.holds howned)
  refine ⟨hready, ?_, ?_⟩
  · intro other found hfound
    obtain ⟨hne, hold⟩ := owned_released hfound
    exact hkept _ _ (h.holds hold) (h.separate howned hold hne)
  · exact fun hfirst hsecond => h.separate (owned_released hfirst).2 (owned_released hsecond).2

/-- Every request keeps the buffers apart. -/
theorem step {request : BufferRequest Device} {answer : Except Failure BufferAnswer}
    (h : s.Houses (rooms + request.making) e) (hstep : Estate.Step b e request answer e') :
    s.Houses rooms e' := by
  cases hstep with
  | made device plan hmake hfresh =>
    obtain ⟨hspares, hbuffer⟩ := s.made h.ready (plan.making b device e.world)
    rw [hmake] at hspares hbuffer
    obtain ⟨hholds, hapart⟩ := hbuffer _ rfl
    exact h.insert hspares hholds hapart _
  | failed device plan hmake =>
    obtain ⟨hspares, -⟩ := s.made h.ready (plan.making b device e.world)
    rw [hmake] at hspares
    exact h.of_spares hspares _
  | written elements htarget howned =>
    exact h.of_spares (spares_writing h.ready elements _) _
  | read dtype htarget howned =>
    exact h.of_spares (spares_reading h.ready dtype _) _
  | unknown hhandle hnone =>
    have hmaking := BufferRequest.making_of_handle? hhandle
    rw [hmaking] at h
    exact h
  | cloned htarget howned => exact ⟨h.ready, h.holds, h.separate⟩
  | dropped htarget hother hne => exact ⟨h.ready, h.holds, h.separate⟩
  | released htarget howned hlast => exact h.erase howned _

/-- What allocations, transfers and the release of memory in use keep, every request keeps. -/
theorem step_keeps {P : World → Prop} {request : BufferRequest Device}
    {answer : Except Failure BufferAnswer} (h : s.Houses (rooms + request.making) e)
    (hallocate : ∀ device size, Effect.Keeps P (b.allocate device size))
    (hto : ∀ device bytes pointer, Effect.Keeps P (b.copyToDevice device bytes pointer))
    (hfrom : ∀ device pointer host, Effect.Keeps P (b.copyFromDevice device pointer host))
    (hrelease : ∀ {w buffer}, s.Holds w buffer → P w → P (buffer.release b w))
    (hstep : Estate.Step b e request answer e') (hstart : P e.world) : P e'.world := by
  -- A buffer that cannot be filled is released where its memory was just granted.
  have hmake : ∀ {device plan} {result : Except Failure (Buffer Device) × World},
      request.making = 1 → (BufferPlan.make b device plan).perform e.world = result → P result.2 := by
    rintro device plan result hmaking rfl
    have hready := h.ready
    rw [hmaking] at hready
    have hmaking' := plan.making b device e.world
    generalize (plan.make b device).perform e.world = result at hmaking' ⊢
    cases hmaking' with
    | tooLarge _ => exact hstart
    | declined _ hallocated => exact (hallocate device plan.size).after hallocated hstart
    | @granted pointer between _ _ hallocated hfill =>
      have hgranted := (hallocate device plan.size).after hallocated hstart
      obtain ⟨hready', hstored, -⟩ := s.allocate_ok hready hallocated
      cases hfill with
      | nothingToFill => exact hgranted
      | filled hcopy => exact (hto _ _ _).after hcopy hgranted
      | givenBack hcopy =>
        exact hrelease ((spares_copied hready' hcopy).2 _ _ hstored)
          ((hto _ _ _).after hcopy hgranted)
  cases hstep with
  | made device plan hmade hfresh => exact hmake rfl hmade
  | failed device plan hmade => exact hmake rfl hmade
  | written elements htarget howned => exact Buffer.keeps_writing (hto _ · _) elements e.world hstart
  | read dtype htarget howned => exact Buffer.keeps_reading (hfrom _ _ ·) dtype e.world hstart
  | unknown hhandle hnone => exact hstart
  | cloned htarget howned => exact hstart
  | dropped htarget hother hne => exact hstart
  | released htarget howned hlast => exact hrelease (h.holds howned) hstart

/-- Buffers with bytes are at one pointer only if they are one buffer. -/
theorem pointer_eq_iff (h : s.Houses rooms e) (howned : e.owned id = some buffer)
    (howned' : e.owned id' = some other) (hsize : 0 < other.sizeInBytes) :
    buffer.pointer = other.pointer ↔ id = id' := by
  constructor
  · intro hpointer
    by_contra hne
    have hnull := h.separate howned howned' (Ne.symm hne) hpointer.symm
    have hempty := (s.pointer_eq_zero_iff h.ready (h.holds howned')).mp hnull
    exact Nat.ne_of_gt hsize hempty
  · rintro rfl
    rw [howned] at howned'
    cases howned'
    rfl

end Houses

end Housing

end DeviceCopy
