import DeviceCopy.Proofs.Buffers.Custody
import DeviceCopy.Proofs.History
import Mathlib.Data.List.Dedup

/-!
# A ledger of granted memory

A backend is `watched` by writing down what it grants and what is given back to it. The program sees
none of this (`Holdings.performAll_watched`), so what the ledger of a watched backend says is true of
the backend itself, whatever it is and however its allocations and transfers may fail.

The ledger is `Settled` after every request: nothing has been given back that was not granted and
still out, and what is out is the memory of the buffers that have handles.
-/

set_option autoImplicit false

namespace DeviceCopy

variable {World Device Client : Type}

/-! ## Entries -/

/-- Memory as a backend grants it: on which device, where and how much. -/
structure Lease (Device : Type) where
  device : Device
  pointer : Nat
  size : Nat
  deriving DecidableEq, Repr

inductive LeaseEvent (Device : Type)
  | granted (lease : Lease Device)
  | returned (lease : Lease Device)
  deriving DecidableEq, Repr

/-- What was granted, if that is any memory: there is none at the null pointer. -/
def LeaseEvent.lent? : LeaseEvent Device → Option (Lease Device)
  | granted lease => if lease.pointer = 0 then none else some lease
  | returned _ => none

def LeaseEvent.returned? : LeaseEvent Device → Option (Lease Device)
  | granted _ => none
  | returned lease => some lease

/-- All the memory that has been granted. -/
def lentIn (history : List (LeaseEvent Device)) : List (Lease Device) :=
  logOf LeaseEvent.lent? history

def returnedIn (history : List (LeaseEvent Device)) : List (Lease Device) :=
  logOf LeaseEvent.returned? history

/-- Only what has been granted, and not given back since, is given back. -/
def LeaseEvent.Justified (event : LeaseEvent Device) (earlier : List (LeaseEvent Device)) : Prop :=
  ∀ lease, event = .returned lease →
    lease.pointer ≠ 0 ∧ (returnedIn earlier ++ [lease]).Subperm (lentIn earlier)

/-- The memory of a buffer, if it has any. -/
def Buffer.lease? (buffer : Buffer Device) : Option (Lease Device) :=
  if buffer.pointer = 0 then none
  else some { device := buffer.device, pointer := buffer.pointer, size := buffer.sizeInBytes }

/-- The entries for a buffer that is released. -/
def Buffer.returnEntries (buffer : Buffer Device) : List (LeaseEvent Device) :=
  (buffer.lease?.map .returned).toList

theorem lentIn_returnEntries (buffer : Buffer Device) (history : List (LeaseEvent Device)) :
    lentIn (buffer.returnEntries ++ history) = lentIn history := by
  refine logOf_append_of_none ?_ history
  intro event hevent
  obtain ⟨lease, -, rfl⟩ := Option.map_eq_some_iff.mp (Option.mem_toList.mp hevent)
  rfl

theorem returnedIn_returnEntries (buffer : Buffer Device) (history : List (LeaseEvent Device)) :
    returnedIn (buffer.returnEntries ++ history) = returnedIn history ++ buffer.lease?.toList := by
  unfold Buffer.returnEntries returnedIn
  cases buffer.lease? with
  | none => simp
  | some lease => simp [LeaseEvent.returned?]

/-- What is granted for a buffer is the memory of the buffer. -/
theorem BufferPlan.lent?_granted (plan : BufferPlan) (device : Device) (pointer : Nat) :
    (LeaseEvent.granted { device, pointer, size := plan.size }).lent? =
      (plan.buffer device pointer).lease? := rfl

/-! ## Watching a backend -/

/-- A world, and what has been granted and given back in it so far, the latest first. -/
structure Watched (World Device : Type) where
  world : World
  history : List (LeaseEvent Device)

namespace Watched

/-- An effect on the world that has nothing to do with grants. -/
def beside {α : Type} (e : Effect World α) : Effect (Watched World Device) α :=
  .ofFun fun w => ((e.perform w.world).1, { w with world := (e.perform w.world).2 })

theorem perform_beside {α : Type} (e : Effect World α) (w : Watched World Device) :
    (beside e).perform w = ((e.perform w.world).1, { w with world := (e.perform w.world).2 }) := rfl

theorem keeps_beside {α : Type} (e : Effect World α) (history : List (LeaseEvent Device)) :
    Effect.Keeps (fun w : Watched World Device => w.history = history) (beside e) :=
  fun _ h => h

end Watched

namespace Backend

/-- A backend that writes down what it grants and what is given back to it. -/
def watched (b : Backend World Device Client) : Backend (Watched World Device) Device Client where
  name := b.name
  deviceId := b.deviceId
  deviceName := b.deviceName
  limits := b.limits
  wideAligned := b.wideAligned
  allocate device size := do
    let pointer ← Watched.beside (b.allocate device size)
    Effect.update fun w => { w with history := .granted { device, pointer, size } :: w.history }
    return pointer
  deallocate device pointer size w :=
    { world := b.deallocate device pointer size w.world
      history := .returned { device, pointer, size } :: w.history }
  copyToDevice device bytes pointer := Watched.beside (b.copyToDevice device bytes pointer)
  copyFromDevice device pointer host := Watched.beside (b.copyFromDevice device pointer host)
  clientDevice := b.clientDevice
  enqueue client launch := Watched.beside (b.enqueue client launch)
  checkLastError client := Watched.beside (b.checkLastError client)
  synchronize client := Watched.beside (b.synchronize client)
  tell event w := { w with world := b.tell event w.world }

end Backend

/-! ## The program cannot tell -/

namespace Watched

/-- An effect does to the world below what another does, and answers the same. -/
def Shows {α : Type} (e' : Effect (Watched World Device) α) (e : Effect World α) : Prop :=
  ∀ w, (e'.perform w).1 = (e.perform w.world).1 ∧ (e'.perform w).2.world = (e.perform w.world).2

namespace Shows

variable {α β : Type} {e' : Effect (Watched World Device) α} {e : Effect World α}

theorem beside (e : Effect World α) : Shows (Watched.beside e : Effect (Watched World Device) α) e :=
  fun _ => ⟨rfl, rfl⟩

theorem pure (a : α) : Shows (pure a : Effect (Watched World Device) α) (Pure.pure a) :=
  fun _ => ⟨rfl, rfl⟩

theorem fail (error : Error) :
    Shows (Effect.fail error : Effect (Watched World Device) α) (Effect.fail error) :=
  fun _ => ⟨rfl, rfl⟩

theorem answer (result : Except Error α) :
    Shows (Effect.answer result : Effect (Watched World Device) α) (Effect.answer result) := by
  cases result with
  | ok a => exact .pure a
  | error error => exact .fail error

theorem failIf (condition : Bool) (error : Error) :
    Shows (Effect.failIf condition error : Effect (Watched World Device) Unit)
      (Effect.failIf condition error) := by
  cases condition with
  | true => exact .fail error
  | false => exact .pure ()

theorem bind (h : Shows e' e) {next' : α → Effect (Watched World Device) β}
    {next : α → Effect World β} (hnext : ∀ a, Shows (next' a) (next a)) :
    Shows (e' >>= next') (e >>= next) := by
  intro w
  obtain ⟨hanswer, hworld⟩ := h w
  rw [Effect.perform_bind, Effect.perform_bind]
  cases hbelow : e.perform w.world with
  | mk answer between =>
    cases habove : e'.perform w with
    | mk answer' between' =>
      rw [hbelow, habove] at hanswer hworld
      cases hanswer
      cases hworld
      cases answer with
      | ok a => exact hnext a between'
      | error failure => exact ⟨rfl, rfl⟩

end Shows

variable (b : Backend World Device Client)

theorem shows_allocate (device : Device) (size : Nat) :
    Shows (b.watched.allocate device size) (b.allocate device size) := by
  have hentered : Shows (do
      let pointer ← Watched.beside (b.allocate device size)
      Effect.update fun w : Watched World Device =>
        { w with history := .granted { device, pointer, size } :: w.history }
      return pointer) (b.allocate device size >>= Pure.pure) :=
    (Shows.beside (b.allocate device size)).bind (fun _ _ => ⟨rfl, rfl⟩)
  rwa [bind_pure] at hentered

theorem world_release (buffer : Buffer Device) (w : Watched World Device) :
    (buffer.release b.watched w).world = buffer.release b w.world := by
  unfold Buffer.release
  split
  · rfl
  · rfl

theorem shows_fillOrRelease (buffer : Buffer Device) (bytes : Bytes) :
    Shows (buffer.fillOrRelease b.watched bytes) (buffer.fillOrRelease b bytes) := by
  intro w
  have hcopy : (b.watched.copyToDevice buffer.device bytes buffer.pointer).perform w =
      (((b.copyToDevice buffer.device bytes buffer.pointer).perform w.world).1,
        { w with world := ((b.copyToDevice buffer.device bytes buffer.pointer).perform w.world).2 }) :=
    rfl
  unfold Buffer.fillOrRelease
  rw [Effect.perform_ofFun, Effect.perform_ofFun, hcopy]
  cases (b.copyToDevice buffer.device bytes buffer.pointer).perform w.world with
  | mk answer w' =>
    cases answer with
    | ok _ => exact ⟨rfl, rfl⟩
    | error failure => exact ⟨rfl, world_release b buffer _⟩

theorem shows_make (device : Device) (plan : BufferPlan) :
    Shows (plan.make b.watched device) (plan.make b device) := by
  have hallocate : ∀ dtype length, Shows (Buffer.allocate b.watched device dtype length)
      (Buffer.allocate b device dtype length) := fun dtype length =>
    .bind (.answer _) (fun size => .bind (shows_allocate b device size) (fun _ => .pure _))
  rw [BufferPlan.make_eq, BufferPlan.make_eq]
  refine .bind (hallocate _ _) (fun buffer => ?_)
  cases plan with
  | zeros dtype length =>
    rw [BufferPlan.fill, BufferPlan.fill]
    split
    · exact .pure buffer
    · exact shows_fillOrRelease b buffer _
  | ofElements elements => exact shows_fillOrRelease b buffer elements.bytes

theorem shows_writing (elements : Elements) (buffer : Buffer Device) :
    Shows (buffer.writing b.watched elements) (buffer.writing b elements) :=
  .bind (.bind (.answer _) (fun _ => .bind (.failIf _ _) (fun _ => .beside _))) (fun _ => .pure _)

theorem shows_reading (dtype : DType) (buffer : Buffer Device) :
    Shows (buffer.reading b.watched dtype) (buffer.reading b dtype) :=
  .bind (.bind (.answer _) (fun _ => .beside _)) (fun _ => .pure _)

end Watched

namespace Holdings

/-- The same holdings with nothing written down. -/
def unwatched (h : Holdings (Watched World Device) Device) : Holdings World Device :=
  { workspace := { world := h.workspace.world.world, pool := h.workspace.pool }, handles := h.handles }

/-- What is done with a buffer shows below as it does above. -/
theorem unwatched_withBuffer {use' : Buffer Device → Effect (Watched World Device) BufferAnswer}
    {use : Buffer Device → Effect World BufferAnswer} (huse : ∀ buffer, Watched.Shows (use' buffer) (use buffer))
    (handle : Nat) (h : Holdings (Watched World Device) Device) :
    ((withBuffer handle use').perform h).1 = ((withBuffer handle use).perform h.unwatched).1 ∧
      ((withBuffer handle use').perform h).2.unwatched =
        ((withBuffer handle use).perform h.unwatched).2 := by
  cases hbuffer : h.buffer? handle with
  | none =>
    have hbelow : h.unwatched.buffer? handle = none := hbuffer
    rw [perform_withBuffer_none hbuffer, perform_withBuffer_none hbelow]
    exact ⟨rfl, rfl⟩
  | some buffer =>
    have hbelow : h.unwatched.buffer? handle = some buffer := hbuffer
    obtain ⟨hanswer, hworld⟩ := huse buffer h.workspace.world
    rw [perform_withBuffer_some hbuffer, perform_withBuffer_some hbelow]
    refine ⟨hanswer, ?_⟩
    unfold unwatched
    rw [hworld]

theorem carryOut_watched (b : Backend World Device Client) (request : BufferRequest Device)
    (h : Holdings (Watched World Device) Device) :
    ((request.carryOut b.watched).perform h).1 = ((request.carryOut b).perform h.unwatched).1 ∧
      ((request.carryOut b.watched).perform h).2.unwatched =
        ((request.carryOut b).perform h.unwatched).2 := by
  cases request with
  | make device plan =>
    obtain ⟨hanswer, hworld⟩ := Watched.shows_make b device plan h.workspace.world
    have hbelow : h.unwatched.workspace.world = h.workspace.world.world := rfl
    rw [BufferRequest.perform_make, BufferRequest.perform_make, hbelow]
    cases habove : (plan.make b.watched device).perform h.workspace.world with
    | mk answer' w' =>
      rw [habove] at hanswer hworld
      cases hmake : (plan.make b device).perform h.workspace.world.world with
      | mk answer w =>
        rw [hmake] at hanswer hworld
        cases hanswer
        cases hworld
        cases answer' with
        | ok buffer => exact ⟨rfl, rfl⟩
        | error failure => exact ⟨rfl, rfl⟩
  | write handle elements =>
    exact unwatched_withBuffer (fun buffer => Watched.shows_writing b elements buffer) handle h
  | read handle dtype =>
    exact unwatched_withBuffer (fun buffer => Watched.shows_reading b dtype buffer) handle h
  | clone handle =>
    unfold BufferRequest.carryOut
    cases htarget : h.handles.target handle with
    | none =>
      have hbelow : h.unwatched.handles.target handle = none := htarget
      rw [perform_change_none htarget, perform_change_none hbelow]
      exact ⟨rfl, rfl⟩
    | some id =>
      have hbelow : h.unwatched.handles.target handle = some id := htarget
      rw [perform_change_some htarget, perform_change_some hbelow]
      exact ⟨rfl, rfl⟩
  | drop handle =>
    unfold BufferRequest.carryOut
    cases htarget : h.handles.target handle with
    | none =>
      have hbelow : h.unwatched.handles.target handle = none := htarget
      rw [perform_change_none htarget, perform_change_none hbelow]
      exact ⟨rfl, rfl⟩
    | some id =>
      have hbelow : h.unwatched.handles.target handle = some id := htarget
      rw [perform_change_some htarget, perform_change_some hbelow]
      refine ⟨rfl, ?_⟩
      unfold unwatched Workspace.drop
      cases h.workspace.pool.release id with
      | mk gone pool =>
        cases gone with
        | none => rfl
        | some buffer => simp only [Watched.world_release]

/-- A program is answered as if nobody watched, and leaves the same behind. -/
theorem performAll_watched (b : Backend World Device Client) (requests : List (BufferRequest Device))
    (h : Holdings (Watched World Device) Device) :
    let watched := Effect.performAll (BufferRequest.carryOut b.watched) requests h
    let run := Effect.performAll (BufferRequest.carryOut b) requests h.unwatched
    watched.1 = run.1 ∧ watched.2.unwatched = run.2 := by
  induction requests generalizing h with
  | nil => exact ⟨rfl, rfl⟩
  | cons request rest ih =>
    obtain ⟨hanswer, hbetween⟩ := carryOut_watched b request h
    obtain ⟨hanswers, hlast⟩ := ih ((request.carryOut b.watched).perform h).2
    rw [hbetween] at hanswers hlast
    exact ⟨congrArg₂ List.cons hanswer hanswers, hlast⟩

end Holdings

end DeviceCopy
