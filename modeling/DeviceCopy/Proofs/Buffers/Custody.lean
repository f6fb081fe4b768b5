import DeviceCopy.Proofs.Buffers.Sharing

/-!
# Who holds which memory

A pool counts the handles on its buffers. `Holdings.Tallied` says that the counts are right, and with
that they need not be looked at again: an `Estate` has the buffers under their numbers and the handles
that stand for them, and `Estate.Step` lists all that a request can do to it, on any backend.

Making a buffer is the only request that asks for memory, and it can go wrong both before and after
the memory has been granted (`BufferPlan.Making`).
-/

set_option autoImplicit false

namespace DeviceCopy

variable {World Device Client : Type}

/-! ## Making a buffer -/

/-- How filling a buffer that was just allocated can go. -/
inductive Buffer.Filling (b : Backend World Device Client) (buffer : Buffer Device) (w : World) :
    Except Failure (Buffer Device) × World → Prop
  | nothingToFill : Filling b buffer w (.ok buffer, w)
  | filled {bytes : Bytes} {w' : World}
      (hcopy : (b.copyToDevice buffer.device bytes buffer.pointer).perform w = (.ok (), w')) :
      Filling b buffer w (.ok buffer, w')
  | givenBack {bytes : Bytes} {failure : Failure} {w' : World}
      (hcopy : (b.copyToDevice buffer.device bytes buffer.pointer).perform w = (.error failure, w')) :
      Filling b buffer w (.error failure, buffer.release b w')

theorem Buffer.filling_fillOrRelease (b : Backend World Device Client) (buffer : Buffer Device)
    (bytes : Bytes) (w : World) : Filling b buffer w ((buffer.fillOrRelease b bytes).perform w) := by
  unfold Buffer.fillOrRelease
  rw [Effect.perform_ofFun]
  cases hcopy : (b.copyToDevice buffer.device bytes buffer.pointer).perform w with
  | mk answer w' =>
    cases answer with
    | ok _ => exact .filled hcopy
    | error failure => exact .givenBack hcopy

namespace BufferPlan

/-- How many bytes a plan asks for. -/
def size (plan : BufferPlan) : Nat := plan.contents.length * plan.contents.dtype.size

/-- The buffer a plan makes of granted memory. -/
def buffer (plan : BufferPlan) (device : Device) (pointer : Nat) : Buffer Device :=
  { pointer, length := plan.contents.length, dtype := plan.contents.dtype, device }

/-- How making a buffer can go: memory is asked for once, unless the size cannot be counted. -/
inductive Making (b : Backend World Device Client) (device : Device) (plan : BufferPlan) (w : World) :
    Except Failure (Buffer Device) × World → Prop
  | tooLarge (hsize : wordLimit ≤ plan.size) :
      Making b device plan w (.error (.error (.outOfMemory maxWord)), w)
  | declined {failure : Failure} {w' : World} (hsize : plan.size < wordLimit)
      (hallocate : (b.allocate device plan.size).perform w = (.error failure, w')) :
      Making b device plan w (.error failure, w')
  | granted {pointer : Nat} {between : World} {result : Except Failure (Buffer Device) × World}
      (hsize : plan.size < wordLimit)
      (hallocate : (b.allocate device plan.size).perform w = (.ok pointer, between))
      (hfill : Buffer.Filling b (plan.buffer device pointer) between result) :
      Making b device plan w result

/-- What a plan does with the memory it has been granted. -/
def fill (b : Backend World Device Client) (buffer : Buffer Device) :
    BufferPlan → Effect World (Buffer Device)
  | zeros _ _ =>
      if buffer.sizeInBytes = 0 then pure buffer
      else buffer.fillOrRelease b (List.replicate buffer.sizeInBytes 0)
  | ofElements elements => buffer.fillOrRelease b elements.bytes

theorem make_eq (b : Backend World Device Client) (device : Device) (plan : BufferPlan) :
    plan.make b device =
      Buffer.allocate b device plan.contents.dtype plan.contents.length >>= (plan.fill b ·) := by
  cases plan with
  | zeros dtype length =>
    rw [contents, Elements.length_zeros]
    rfl
  | ofElements elements =>
    rw [contents, ← elements.length_toSlice]
    rfl

theorem filling (b : Backend World Device Client) (plan : BufferPlan) (buffer : Buffer Device)
    (w : World) : Buffer.Filling b buffer w ((plan.fill b buffer).perform w) := by
  cases plan with
  | zeros dtype length =>
    rw [fill]
    split
    · exact .nothingToFill
    · exact buffer.filling_fillOrRelease b _ w
  | ofElements elements => exact buffer.filling_fillOrRelease b _ w

theorem making (b : Backend World Device Client) (device : Device) (plan : BufferPlan) (w : World) :
    Making b device plan w ((plan.make b device).perform w) := by
  have hasked : (Buffer.allocate b device plan.contents.dtype plan.contents.length).perform w =
      if plan.size < wordLimit then _ else _ :=
    Buffer.perform_allocate b device plan.contents.dtype plan.contents.length w
  rw [make_eq]
  rcases Nat.lt_or_ge plan.size wordLimit with hsize | hsize
  · rw [if_pos hsize] at hasked
    cases hallocate : (b.allocate device plan.size).perform w with
    | mk answer between =>
      unfold size at hallocate
      rw [hallocate] at hasked
      cases answer with
      | ok pointer =>
        rw [Effect.perform_bind_ok hasked]
        exact .granted hsize hallocate (plan.filling b _ between)
      | error failure =>
        rw [Effect.perform_bind_error hasked]
        exact .declined hsize hallocate
  · rw [if_neg (Nat.not_lt.mpr hsize)] at hasked
    rw [Effect.perform_bind_error hasked]
    exact .tooLarge hsize

end BufferPlan

/-! ## Using a buffer -/

namespace Buffer

/-- A write as a request, which has no more to say than that it is done. -/
def writing (b : Backend World Device Client) (elements : Elements) (buffer : Buffer Device) :
    Effect World BufferAnswer := do
  buffer.write b elements.toSlice
  return .done

def reading (b : Backend World Device Client) (dtype : DType) (buffer : Buffer Device) :
    Effect World BufferAnswer := do
  return .bytes (← buffer.read b dtype)

section Keeping

variable {b : Backend World Device Client} {P : World → Prop} {buffer : Buffer Device}

theorem keeps_writing (hcopy : ∀ bytes, Effect.Keeps P (b.copyToDevice buffer.device bytes buffer.pointer))
    (elements : Elements) : Effect.Keeps P (buffer.writing b elements) := by
  refine .bind (.bind (.answer _) (fun _ => .bind ?_ (fun _ => hcopy _))) (fun _ => .pure _)
  unfold Effect.failIf
  split
  · exact .fail _
  · exact .pure _

theorem keeps_reading (hcopy : ∀ host, Effect.Keeps P (b.copyFromDevice buffer.device buffer.pointer host))
    (dtype : DType) : Effect.Keeps P (buffer.reading b dtype) :=
  .bind (.bind (.answer _) (fun _ => hcopy _)) (fun _ => .pure _)

end Keeping

end Buffer

/-! ## Estates -/

/-- The handle that a request is about. -/
def BufferRequest.handle? : BufferRequest Device → Option Nat
  | make _ _ => none
  | write handle _ => some handle
  | read handle _ => some handle
  | clone handle => some handle
  | drop handle => some handle

theorem BufferRequest.making_of_handle? {request : BufferRequest Device} {handle : Nat}
    (h : request.handle? = some handle) : request.making = 0 := by
  cases request with
  | make device plan => cases h
  | write handle elements => rfl
  | read handle dtype => rfl
  | clone handle => rfl
  | drop handle => rfl

/-- A world, the buffers in it under their numbers, and the handles that stand for the numbers. -/
structure Estate (World Device : Type) where
  world : World
  owned : Nat → Option (Buffer Device)
  handles : Handles

section Owning

variable {owned : Nat → Option (Buffer Device)} {id other : Nat} {buffer found : Buffer Device}

/-- With a new buffer there are that one and the others. -/
theorem owned_made (h : Function.update owned id (some buffer) other = some found) :
    other = id ∧ found = buffer ∨ other ≠ id ∧ owned other = some found := by
  by_cases hother : other = id
  · subst hother
    rw [Function.update_self] at h
    exact Or.inl ⟨rfl, (Option.some.inj h).symm⟩
  · rw [Function.update_of_ne hother] at h
    exact Or.inr ⟨hother, h⟩

theorem owned_released (h : Function.update owned id none other = some found) :
    other ≠ id ∧ owned other = some found := by
  by_cases hother : other = id
  · subst hother
    rw [Function.update_self] at h
    cases h
  · rw [Function.update_of_ne hother] at h
    exact ⟨hother, h⟩

end Owning

namespace Estate

/-- All that a request can do to an estate. A buffer that is made goes under a number of its own. It is
released with the last handle on it, and before that it stays whatever happens to other handles. -/
inductive Step (b : Backend World Device Client) (e : Estate World Device) :
    BufferRequest Device → Except Failure BufferAnswer → Estate World Device → Prop
  | made (device : Device) (plan : BufferPlan) {id : Nat} {buffer : Buffer Device} {w' : World}
      (hmake : (plan.make b device).perform e.world = (.ok buffer, w')) (hfresh : e.owned id = none) :
      Step b e (.make device plan) (.ok (.handle e.handles.next))
        ⟨w', Function.update e.owned id (some buffer), e.handles.add id⟩
  | failed (device : Device) (plan : BufferPlan) {failure : Failure} {w' : World}
      (hmake : (plan.make b device).perform e.world = (.error failure, w')) :
      Step b e (.make device plan) (.error failure) { e with world := w' }
  | written (elements : Elements) {handle id : Nat} {buffer : Buffer Device}
      (htarget : e.handles.target handle = some id) (howned : e.owned id = some buffer) :
      Step b e (.write handle elements) ((buffer.writing b elements).perform e.world).1
        { e with world := ((buffer.writing b elements).perform e.world).2 }
  | read (dtype : DType) {handle id : Nat} {buffer : Buffer Device}
      (htarget : e.handles.target handle = some id) (howned : e.owned id = some buffer) :
      Step b e (.read handle dtype) ((buffer.reading b dtype).perform e.world).1
        { e with world := ((buffer.reading b dtype).perform e.world).2 }
  | unknown {request : BufferRequest Device} {handle : Nat} (hhandle : request.handle? = some handle)
      (hnone : e.handles.target handle = none) : Step b e request (.ok .unknown) e
  | cloned {handle id : Nat} {buffer : Buffer Device}
      (htarget : e.handles.target handle = some id) (howned : e.owned id = some buffer) :
      Step b e (.clone handle) (.ok (.handle e.handles.next)) { e with handles := e.handles.add id }
  | dropped {handle other id : Nat} (htarget : e.handles.target handle = some id)
      (hother : e.handles.target other = some id) (hne : other ≠ handle) :
      Step b e (.drop handle) (.ok .done) { e with handles := e.handles.remove handle }
  | released {handle id : Nat} {buffer : Buffer Device}
      (htarget : e.handles.target handle = some id) (howned : e.owned id = some buffer)
      (hlast : ∀ other, e.handles.target other = some id → other = handle) :
      Step b e (.drop handle) (.ok .done)
        ⟨buffer.release b e.world, Function.update e.owned id none, e.handles.remove handle⟩

end Estate

/-! ## Counting handles -/

namespace Holdings

/-- The buffers of a workspace, by their numbers. -/
def owned (h : Holdings World Device) (id : Nat) : Option (Buffer Device) :=
  (h.workspace.pool.find? id).map SharedBuffer.buffer

def estate (h : Holdings World Device) : Estate World Device :=
  { world := h.workspace.world, owned := h.owned, handles := h.handles }

/-- Every handle stands for a buffer of the pool, which counts as many handles on it as there are, and
no buffer is without one. -/
structure Tallied (h : Holdings World Device) : Prop where
  given : h.handles.Given
  alive : ∀ {handle id}, h.handles.target handle = some id →
    ∃ shared, h.workspace.pool.find? id = some shared
  below : ∀ {id shared}, h.workspace.pool.find? id = some shared → id < h.workspace.pool.next
  counted : ∀ {id shared}, h.workspace.pool.find? id = some shared →
    shared.handles = (h.handles.on id).card
  manned : ∀ {id shared}, h.workspace.pool.find? id = some shared →
    ∃ handle, h.handles.target handle = some id

/-- A request has been a step of the estate, and the counts are right after it. -/
def Stepped (b : Backend World Device Client) (h : Holdings World Device)
    (request : BufferRequest Device)
    (result : Except Failure BufferAnswer × Holdings World Device) : Prop :=
  Estate.Step b h.estate request result.1 result.2.estate ∧ result.2.Tallied

theorem Stepped.of_owned {b : Backend World Device Client} {h h' : Holdings World Device}
    {request : BufferRequest Device} {answer : Except Failure BufferAnswer}
    {owned : Nat → Option (Buffer Device)} (htallied : h'.Tallied) (howned : h'.owned = owned)
    (hstep : Estate.Step b h.estate request answer ⟨h'.workspace.world, owned, h'.handles⟩) :
    Stepped b h request (answer, h') := by
  subst howned
  exact ⟨hstep, htallied⟩

theorem tallied_initial (w : World) : (initial w : Holdings World Device).Tallied where
  given _ _ := rfl
  alive htarget := nomatch htarget
  below hfound := nomatch hfound
  counted hfound := nomatch hfound
  manned hfound := nomatch hfound

namespace Tallied

variable {h : Holdings World Device} {handle id : Nat} {shared : SharedBuffer Device}

theorem of_world (htallied : h.Tallied) (w' : World) :
    { h with workspace := { h.workspace with world := w' } : Holdings World Device }.Tallied :=
  ⟨htallied.given, htallied.alive, htallied.below, htallied.counted, htallied.manned⟩

/-- Every buffer has a handle, and every handle has a buffer. -/
theorem owned_iff (htallied : h.Tallied) :
    (∃ buffer, h.owned id = some buffer) ↔ ∃ handle, h.handles.target handle = some id := by
  constructor
  · rintro ⟨buffer, howned⟩
    obtain ⟨shared, hfound, -⟩ := Option.map_eq_some_iff.mp howned
    exact htallied.manned hfound
  · rintro ⟨handle, htarget⟩
    obtain ⟨shared, hfound⟩ := htallied.alive htarget
    exact ⟨shared.buffer, Option.map_eq_some_iff.mpr ⟨shared, hfound, rfl⟩⟩

/-- The buffer behind a handle is the one under its number. -/
theorem buffer?_eq (htallied : h.Tallied) (htarget : h.handles.target handle = some id) :
    ∃ buffer, h.owned id = some buffer ∧ h.buffer? handle = some buffer := by
  obtain ⟨buffer, howned⟩ := htallied.owned_iff.mpr ⟨handle, htarget⟩
  refine ⟨buffer, howned, ?_⟩
  unfold buffer?
  rw [htarget]
  exact howned

theorem tallies (htallied : h.Tallied) : h.workspace.pool.Tallies h.handles :=
  ⟨htallied.given, htallied.alive, htallied.below, htallied.counted⟩

theorem of_tallies (htallies : h.workspace.pool.Tallies h.handles)
    (hmanned : ∀ {id shared}, h.workspace.pool.find? id = some shared →
      ∃ handle, h.handles.target handle = some id) : h.Tallied :=
  ⟨htallies.given, htallies.alive, htallies.below, htallies.counted, hmanned⟩

theorem owned_next (htallied : h.Tallied) : h.owned h.workspace.pool.next = none := by
  unfold owned
  cases hfound : h.workspace.pool.find? h.workspace.pool.next with
  | none => rfl
  | some shared => exact absurd (htallied.below hfound) (Nat.lt_irrefl _)

/-! ### What each request leaves -/

theorem insert (htallied : h.Tallied) (buffer : Buffer Device) (w' : World) :
    let h' : Holdings World Device :=
      { workspace := { world := w', pool := (h.workspace.pool.insert buffer).2 }
        handles := h.handles.add h.workspace.pool.next }
    h'.Tallied ∧ h'.owned = Function.update h.owned h.workspace.pool.next (some buffer) := by
  intro h'
  refine ⟨of_tallies (htallied.tallies.insert buffer) ?_, ?_⟩
  · intro id shared hfound
    rcases Pool.find?_insert_eq_some hfound with ⟨rfl, -⟩ | ⟨-, hold⟩
    · exact ⟨h.handles.next, by rw [Handles.target_add, if_pos rfl]⟩
    · obtain ⟨handle, htarget⟩ := htallied.manned hold
      have hne := Nat.ne_of_lt (htallied.given.lt_next htarget)
      exact ⟨handle, by rw [Handles.target_add, if_neg hne, htarget]⟩
  · funext id
    unfold owned
    rw [Pool.find?_insert, Function.update_apply]
    split
    · rfl
    · rfl

theorem clone (htallied : h.Tallied) (htarget : h.handles.target handle = some id) :
    let h' : Holdings World Device :=
      { workspace := h.workspace.clone id, handles := h.handles.add id }
    h'.Tallied ∧ h'.owned = h.owned := by
  intro h'
  have howned := h.workspace.pool.buffer_recount id (fun n => n + 1)
  refine ⟨of_tallies (htallied.tallies.clone htarget) ?_, funext howned⟩
  intro other shared hfound
  obtain ⟨old, hold⟩ := Pool.find?_of_alter hfound
  obtain ⟨before, hbefore⟩ := htallied.manned hold
  have hne := Nat.ne_of_lt (htallied.given.lt_next hbefore)
  exact ⟨before, by rw [Handles.target_add, if_neg hne, hbefore]⟩

/-- Without one of its handles a buffer still has the other. -/
theorem remove (htallied : h.Tallied) (htarget : h.handles.target handle = some id) {other : Nat}
    (hother : h.handles.target other = some id) (hne : other ≠ handle) :
    let h' : Holdings World Device :=
      { workspace :=
          { world := h.workspace.world
            pool := h.workspace.pool.alter id
              (fun shared => { shared with handles := shared.handles - 1 }) }
        handles := h.handles.remove handle }
    h'.Tallied ∧ h'.owned = h.owned := by
  intro h'
  have howned := h.workspace.pool.buffer_recount id (fun n => n - 1)
  refine ⟨of_tallies (htallied.tallies.remove htarget) ?_, funext howned⟩
  intro target shared hfound
  obtain ⟨old, hold⟩ := Pool.find?_of_alter hfound
  obtain ⟨before, hbefore⟩ := htallied.manned hold
  by_cases hgone : before = handle
  · subst hgone
    rw [htarget] at hbefore
    exact ⟨other, by rw [Handles.target_remove, if_neg hne, hother, hbefore]⟩
  · exact ⟨before, by rw [Handles.target_remove, if_neg hgone, hbefore]⟩

theorem erase (htallied : h.Tallied) (htarget : h.handles.target handle = some id)
    (hlast : ∀ other, h.handles.target other = some id → other = handle) (w' : World) :
    let h' : Holdings World Device :=
      { workspace := { world := w', pool := h.workspace.pool.erase id }
        handles := h.handles.remove handle }
    h'.Tallied ∧ h'.owned = Function.update h.owned id none := by
  intro h'
  refine ⟨of_tallies (htallied.tallies.erase htarget hlast) ?_, ?_⟩
  · intro other shared hfound
    obtain ⟨hne, hold⟩ := Pool.find?_erase_eq_some hfound
    obtain ⟨left, hleft⟩ := htallied.manned hold
    have hkept : left ≠ handle := by
      rintro rfl
      rw [htarget] at hleft
      exact hne (Option.some.inj hleft).symm
    exact ⟨left, by rw [Handles.target_remove, if_neg hkept, hleft]⟩
  · funext other
    unfold owned
    rw [Pool.find?_erase, Function.update_apply]
    split
    · rfl
    · rfl

/-! ### Requests are steps -/

section Requests

variable {b : Backend World Device Client} {request : BufferRequest Device}

/-- A buffer that is used through a handle stays where it is, whatever becomes of the world. -/
theorem stepped_withBuffer (htallied : h.Tallied) (hhandle : request.handle? = some handle)
    {use : Buffer Device → Effect World BufferAnswer}
    (hused : ∀ {id buffer}, h.handles.target handle = some id → h.owned id = some buffer →
      Estate.Step b h.estate request ((use buffer).perform h.workspace.world).1
        { h.estate with world := ((use buffer).perform h.workspace.world).2 }) :
    Stepped b h request ((withBuffer handle use).perform h) := by
  cases htarget : h.handles.target handle with
  | none =>
    rw [perform_withBuffer_none (buffer?_eq_none htarget)]
    exact ⟨.unknown hhandle htarget, htallied⟩
  | some id =>
    obtain ⟨buffer, howned, hfound⟩ := htallied.buffer?_eq htarget
    rw [perform_withBuffer_some hfound]
    exact ⟨hused htarget howned, htallied.of_world _⟩

theorem stepped_change (htallied : h.Tallied) (hhandle : request.handle? = some handle)
    {f : Nat → Holdings World Device → BufferAnswer × Holdings World Device}
    (hchanged : ∀ {id}, h.handles.target handle = some id →
      Stepped b h request (.ok (f id h).1, (f id h).2)) :
    Stepped b h request ((change handle f).perform h) := by
  cases htarget : h.handles.target handle with
  | none =>
    rw [perform_change_none htarget]
    exact ⟨.unknown hhandle htarget, htallied⟩
  | some id =>
    rw [perform_change_some htarget]
    exact hchanged htarget

theorem stepped_make (htallied : h.Tallied) (device : Device) (plan : BufferPlan) :
    Stepped b h (.make device plan) (((BufferRequest.make device plan).carryOut b).perform h) := by
  rw [BufferRequest.perform_make]
  cases hmake : (plan.make b device).perform h.workspace.world with
  | mk answer w' =>
    cases answer with
    | ok buffer =>
      obtain ⟨htallied', howned⟩ := htallied.insert buffer w'
      exact .of_owned htallied' howned (.made device plan hmake htallied.owned_next)
    | error failure => exact ⟨.failed device plan hmake, htallied.of_world w'⟩

theorem stepped_clone (htallied : h.Tallied) (htarget : h.handles.target handle = some id) :
    Stepped b h (.clone handle) (.ok (.handle h.handles.next),
      { workspace := h.workspace.clone id, handles := h.handles.add id }) := by
  obtain ⟨buffer, howned, -⟩ := htallied.buffer?_eq htarget
  obtain ⟨htallied', hsame⟩ := htallied.clone htarget
  exact .of_owned htallied' hsame (.cloned htarget howned)

/-- The count of a buffer tells whether a handle is the last one on it. -/
theorem stepped_drop (htallied : h.Tallied) (htarget : h.handles.target handle = some id) :
    Stepped b h (.drop handle) (.ok .done,
      { workspace := h.workspace.drop b id, handles := h.handles.remove handle }) := by
  obtain ⟨shared, hfound⟩ := htallied.alive htarget
  have howner : h.owned id = some shared.buffer := Option.map_eq_some_iff.mpr ⟨shared, hfound, rfl⟩
  have hcount := htallied.tallies.last_iff htarget hfound
  unfold Workspace.drop Pool.release
  rw [hfound]
  by_cases hlast : shared.handles ≤ 1
  · have hnoOther := hcount.mp hlast
    obtain ⟨htallied', howned⟩ :=
      htallied.erase htarget hnoOther (shared.buffer.release b h.workspace.world)
    simp only [if_pos hlast]
    exact .of_owned htallied' howned (.released htarget howner hnoOther)
  · obtain ⟨other, hother, hne⟩ : ∃ other, h.handles.target other = some id ∧ other ≠ handle := by
      by_contra hnoOther
      push Not at hnoOther
      exact hlast (hcount.mpr hnoOther)
    obtain ⟨htallied', howned⟩ := htallied.remove htarget hother hne
    simp only [if_neg hlast]
    exact .of_owned htallied' howned (.dropped htarget hother hne)

end Requests

/-- Every request keeps the counts right, and is a step of the estate. -/
theorem step (htallied : h.Tallied) (b : Backend World Device Client)
    (request : BufferRequest Device) :
    let result := (request.carryOut b).perform h
    Estate.Step b h.estate request result.1 result.2.estate ∧ result.2.Tallied := by
  cases request with
  | make device plan => exact htallied.stepped_make device plan
  | write handle elements =>
    exact htallied.stepped_withBuffer rfl fun htarget howned => .written elements htarget howned
  | read handle dtype =>
    exact htallied.stepped_withBuffer rfl fun htarget howned => .read dtype htarget howned
  | clone handle => exact htallied.stepped_change rfl htallied.stepped_clone
  | drop handle => exact htallied.stepped_change rfl htallied.stepped_drop

/-- A program on buffers takes steps of its estate, one for each request. -/
theorem performAll (htallied : h.Tallied) (b : Backend World Device Client)
    (requests : List (BufferRequest Device)) :
    let run := Effect.performAll (BufferRequest.carryOut b) requests h
    Effect.Allowed (Estate.Step b) h.estate requests run.1 run.2.estate ∧ run.2.Tallied := by
  induction requests generalizing h with
  | nil => exact ⟨.nil h.estate, htallied⟩
  | cons request rest ih =>
    obtain ⟨hfirst, hbetween⟩ := htallied.step b request
    obtain ⟨hothers, hlast⟩ := ih hbetween
    exact ⟨.cons hfirst hothers, hlast⟩

end Tallied

end Holdings

end DeviceCopy
