import DeviceCopy.Proofs.Buffers.Tally

/-!
# Holdings stand for shelves

`Represents` relates the holdings of a program to a shelf: behind every handle is a buffer whose bytes
are those of the list, no two buffers share memory, and a buffer is counted as often as there are
handles on it. Every request keeps the relation, on any backend that is a storage, so a buffer is
given back when the last of its handles is dropped and never before.
-/

set_option autoImplicit false

namespace DeviceCopy

variable {World Device Client : Type} {b : Backend World Device Client}

/-! ## The relation -/

/-- A buffer is there and holds the elements of a list. -/
structure Storage.Bears (s : Storage b) (w : World) (buffer : Buffer Device) (elements : Elements) :
    Prop where
  holds : s.Holds w buffer
  dtype : buffer.dtype = elements.dtype
  length : buffer.length = elements.length
  contents : s.contents w buffer = elements.bytes

theorem Storage.Bears.of_keeps {s : Storage b} {w w' : World} {buffer : Buffer Device}
    {elements : Elements} (h : s.Bears w buffer elements)
    (hkept : s.Holds w' buffer ∧ s.contents w' buffer = s.contents w buffer) :
    s.Bears w' buffer elements :=
  ⟨hkept.1, h.dtype, h.length, hkept.2.trans h.contents⟩

/-- A write that the list refuses is refused, for what its elements are alone. -/
theorem Storage.Bears.perform_write_refused {s : Storage b} {w : World} {buffer : Buffer Device}
    {held new : Elements} {e : Error} (h : s.Bears w buffer held)
    (hproblem : held.writeProblem new = some e) :
    (buffer.write b new.toSlice).perform w = (.error (.error e), w) := by
  unfold Elements.writeProblem at hproblem
  split at hproblem
  · next hmismatch =>
    cases hproblem
    rw [← h.dtype] at hmismatch ⊢
    exact Storage.write_mismatch hmismatch w
  · next hmatch =>
    split at hproblem
    · next hlong =>
      cases hproblem
      rw [← h.length, ← new.length_toSlice] at hlong ⊢
      exact Storage.write_tooLong ((not_not.mp hmatch).trans h.dtype.symm) hlong w
    · cases hproblem

/-- A write that the list takes puts its elements over the first ones, and leaves the other buffers
alone. -/
theorem Storage.Bears.perform_write {s : Storage b} {rooms : Nat} {w : World} {buffer : Buffer Device}
    {held new : Elements} (h : s.Bears w buffer held) (hready : s.Ready rooms w)
    (hproblem : held.writeProblem new = none) :
    ∃ w', (buffer.write b new.toSlice).perform w = (.ok (), w') ∧ s.Ready rooms w' ∧
      s.Bears w' buffer (held.overlay new) ∧ s.KeepsBut buffer.pointer w w' := by
  obtain ⟨hdtype, hlength⟩ := Elements.writeProblem_eq_none_iff.mp hproblem
  have hfits : new.toSlice.length ≤ buffer.length := by
    rw [new.length_toSlice, h.length]
    exact hlength
  obtain ⟨w', hperform, hready', hholds, hwritten, hbut⟩ :=
    Storage.perform_write hready h.holds (hdtype.trans h.dtype.symm) hfits new.whole_toSlice
  refine ⟨w', hperform, hready', ⟨hholds, ?_, ?_, ?_⟩, hbut⟩
  · rw [h.dtype, Elements.dtype_overlay]
  · rw [h.length, Elements.length_overlay hdtype hlength]
  · rw [hwritten, h.contents, Elements.bytes_overlay hdtype]
    rfl

/-- Holdings stand for a shelf, and a number of buffers can still be made. -/
structure Represents (s : Storage b) (rooms : Nat) (shelf : Shelf) (h : Holdings World Device) :
    Prop where
  ready : s.Ready rooms h.workspace.world
  handles : h.handles = shelf.handles
  next : h.workspace.pool.next = shelf.next
  given : shelf.handles.Given
  alive : ∀ {handle id}, shelf.handles.target handle = some id →
    ∃ shared, h.workspace.pool.find? id = some shared
  below : ∀ {id shared}, h.workspace.pool.find? id = some shared → id < shelf.next
  counted : ∀ {id shared}, h.workspace.pool.find? id = some shared →
    shared.handles = (shelf.handles.on id).card
  bears : ∀ {id shared}, h.workspace.pool.find? id = some shared →
    s.Bears h.workspace.world shared.buffer (shelf.list id)
  separate : ∀ {id id' shared shared'}, h.workspace.pool.find? id = some shared →
    h.workspace.pool.find? id' = some shared' → id' ≠ id →
      shared'.buffer.pointer = shared.buffer.pointer → shared'.buffer.pointer = 0

namespace Represents

variable {s : Storage b} {rooms more : Nat} {shelf : Shelf} {h : Holdings World Device} {w' : World}
  {id : Nat} {shared : SharedBuffer Device}

theorem initial {w : World} (hready : s.Ready rooms w) :
    Represents s rooms .empty (Holdings.initial w) where
  ready := hready
  handles := rfl
  next := rfl
  given _ _ := rfl
  alive htarget := nomatch htarget
  below hfound := nomatch hfound
  counted hfound := nomatch hfound
  bears hfound := nomatch hfound
  separate hfound := nomatch hfound

theorem buffer?_eq {handle : Nat} (hrep : Represents s rooms shelf h)
    (htarget : shelf.handles.target handle = some id) :
    ∃ shared, h.workspace.pool.find? id = some shared ∧ h.buffer? handle = some shared.buffer := by
  obtain ⟨shared, hfound⟩ := hrep.alive htarget
  refine ⟨shared, hfound, ?_⟩
  unfold Holdings.buffer?
  rw [hrep.handles, htarget, Option.bind_some, hfound, Option.map_some]

theorem tallies (hrep : Represents s rooms shelf h) : h.workspace.pool.Tallies shelf.handles :=
  ⟨hrep.given, hrep.alive, fun hfound => hrep.next ▸ hrep.below hfound, hrep.counted⟩

/-- Only the world changes, and with it perhaps some of the lists. -/
theorem of_world (hrep : Represents s more shelf h) (hready : s.Ready rooms w') {list : Nat → Elements}
    (hbears : ∀ {id shared}, h.workspace.pool.find? id = some shared →
      s.Bears w' shared.buffer (list id)) :
    Represents s rooms { shelf with list }
      { h with workspace := { h.workspace with world := w' } } where
  ready := hready
  handles := hrep.handles
  next := hrep.next
  given := hrep.given
  alive := hrep.alive
  below := hrep.below
  counted := hrep.counted
  bears := hbears
  separate := hrep.separate

theorem of_keeps (hrep : Represents s more shelf h) (hready : s.Ready rooms w')
    (hkept : s.Keeps h.workspace.world w') :
    Represents s rooms shelf { h with workspace := { h.workspace with world := w' } } :=
  hrep.of_world hready (fun hfound => (hrep.bears hfound).of_keeps (hkept _ (hrep.bears hfound).holds))

/-- One buffer has been changed, and no other. -/
theorem of_changed (hrep : Represents s rooms shelf h)
    (hfound : h.workspace.pool.find? id = some shared)
    (hready : s.Ready rooms w') {elements : Elements} (hbears : s.Bears w' shared.buffer elements)
    (hbut : s.KeepsBut shared.buffer.pointer h.workspace.world w') :
    Represents s rooms (shelf.put id elements)
      { h with workspace := { h.workspace with world := w' } } := by
  refine hrep.of_world hready ?_
  intro other shared' hfound'
  by_cases hother : other = id
  · subst hother
    rw [hfound] at hfound'
    cases hfound'
    rw [Function.update_self]
    exact hbears
  · rw [Function.update_of_ne hother]
    refine (hrep.bears hfound').of_keeps ?_
    exact hbut.of_separate hrep.ready (hrep.bears hfound).holds hbears.holds
      (hrep.bears hfound').holds (hrep.separate hfound hfound' hother)

/-! ## Making a buffer -/

/-- A new buffer goes under the next number, where there is none yet and no handle stands for. -/
theorem insert (hrep : Represents s more shelf h) {buffer : Buffer Device} {elements : Elements}
    (hready : s.Ready rooms w') (hbears : s.Bears w' buffer elements)
    (hkept : s.Keeps h.workspace.world w')
    (hfresh : ∀ other, s.Holds h.workspace.world other → other.pointer = buffer.pointer →
      other.pointer = 0) :
    Represents s rooms
      { list := Function.update shelf.list shelf.next elements
        next := shelf.next + 1
        handles := shelf.handles.add shelf.next }
      { workspace := { world := w', pool := (h.workspace.pool.insert buffer).2 }
        handles := h.handles.add h.workspace.pool.next } := by
  have htallies := hrep.tallies.insert buffer
  rw [hrep.next] at htallies
  have hlookup : ∀ {id shared}, (h.workspace.pool.insert buffer).2.find? id = some shared →
      id = shelf.next ∧ shared = { buffer, handles := 1 } ∨
        id ≠ shelf.next ∧ h.workspace.pool.find? id = some shared := by
    intro id shared hfound
    rw [← hrep.next]
    exact Pool.find?_insert_eq_some hfound
  refine ⟨hready, ?_, congrArg Nat.succ hrep.next, htallies.given, htallies.alive, ?_,
    htallies.counted, ?_, ?_⟩
  · rw [hrep.handles, hrep.next]
  · intro id shared hfound
    have hbelow : id < h.workspace.pool.next + 1 := htallies.below hfound
    rw [hrep.next] at hbelow
    exact hbelow
  · intro id shared hfound
    rcases hlookup hfound with ⟨rfl, rfl⟩ | ⟨hne, hold⟩
    · simp only [Function.update_self]
      exact hbears
    · simp only [Function.update_of_ne hne]
      exact (hrep.bears hold).of_keeps (hkept _ (hrep.bears hold).holds)
  · intro id id' shared shared' hfound hfound' hne hpointer
    rcases hlookup hfound with ⟨rfl, rfl⟩ | ⟨-, hold⟩
    · rcases hlookup hfound' with ⟨rfl, -⟩ | ⟨-, hold'⟩
      · exact absurd rfl hne
      · exact hfresh _ (hrep.bears hold').holds hpointer
    · rcases hlookup hfound' with ⟨rfl, rfl⟩ | ⟨-, hold'⟩
      · exact hpointer.trans (hfresh _ (hrep.bears hold).holds hpointer.symm)
      · exact hrep.separate hold hold' hne hpointer

/-! ## Cloning and dropping handles -/

/-- Only the handles change, and with them the count of one buffer. -/
theorem recount (hrep : Represents s rooms shelf h) (id : Nat) (count : Nat → Nat)
    {handles : Handles} (hgiven : handles.Given)
    (halive : ∀ {handle target}, handles.target handle = some target →
      ∃ shared, h.workspace.pool.find? target = some shared)
    (hcard : ∀ other, (handles.on other).card =
      if other = id then count (shelf.handles.on other).card else (shelf.handles.on other).card) :
    Represents s rooms { shelf with handles }
      { workspace :=
          { world := h.workspace.world
            pool := h.workspace.pool.alter id
              (fun shared => { shared with handles := count shared.handles }) }
        handles } := by
  have htallies := hrep.tallies.recount id count hgiven halive hcard
  refine ⟨hrep.ready, rfl, hrep.next, htallies.given, htallies.alive, ?_, htallies.counted, ?_, ?_⟩
  · intro other shared hfound
    obtain ⟨old, hold⟩ := Pool.find?_of_alter hfound
    exact hrep.below hold
  · intro other shared hfound
    obtain ⟨old, hold, hbuffer, -⟩ := Pool.find?_recount_eq_some hfound
    rw [hbuffer]
    exact hrep.bears hold
  · intro first second shared shared' hfirst hsecond hne hpointer
    obtain ⟨old, hold, hbuffer, -⟩ := Pool.find?_recount_eq_some hfirst
    obtain ⟨old', hold', hbuffer', -⟩ := Pool.find?_recount_eq_some hsecond
    rw [hbuffer, hbuffer'] at hpointer
    rw [hbuffer']
    exact hrep.separate hold hold' hne hpointer

theorem clone {handle : Nat} (hrep : Represents s rooms shelf h)
    (htarget : shelf.handles.target handle = some id) :
    Represents s rooms { shelf with handles := shelf.handles.add id }
      { workspace := h.workspace.clone id, handles := h.handles.add id } := by
  rw [hrep.handles]
  exact hrep.recount id (fun n => n + 1) (hrep.given.add id) (hrep.tallies.alive_add htarget)
    (Handles.card_on_add shelf.handles id)

/-- With the last handle on it a buffer goes, and no other is touched. -/
theorem erase {handle : Nat} (hrep : Represents s rooms shelf h)
    (htarget : shelf.handles.target handle = some id)
    (hlast : ∀ other, shelf.handles.target other = some id → other = handle)
    (hfound : h.workspace.pool.find? id = some shared) :
    Represents s rooms { shelf with handles := shelf.handles.remove handle }
      { workspace :=
          { world := shared.buffer.release b h.workspace.world, pool := h.workspace.pool.erase id }
        handles := shelf.handles.remove handle } := by
  have htallies := hrep.tallies.erase htarget hlast
  obtain ⟨hready, hkept⟩ := Storage.keeps_release hrep.ready (hrep.bears hfound).holds
  refine ⟨hready, rfl, hrep.next, htallies.given, htallies.alive, ?_, htallies.counted, ?_, ?_⟩
  · exact fun hother => hrep.below (Pool.find?_erase_eq_some hother).2
  · intro other shared' hother
    obtain ⟨hne, hold⟩ := Pool.find?_erase_eq_some hother
    exact (hrep.bears hold).of_keeps
      (hkept _ (hrep.bears hold).holds (hrep.separate hfound hold hne))
  · exact fun hfirst hsecond =>
      hrep.separate (Pool.find?_erase_eq_some hfirst).2 (Pool.find?_erase_eq_some hsecond).2

theorem drop {handle : Nat} (hrep : Represents s rooms shelf h)
    (htarget : shelf.handles.target handle = some id) :
    Represents s rooms { shelf with handles := shelf.handles.remove handle }
      { workspace := h.workspace.drop b id, handles := h.handles.remove handle } := by
  obtain ⟨shared, hfound⟩ := hrep.alive htarget
  unfold Workspace.drop Pool.release
  rw [hrep.handles, hfound]
  -- The pool counts the handles on a buffer, so it sees which of them is the last.
  by_cases hcount : shared.handles ≤ 1
  · have hlast := (hrep.tallies.last_iff htarget hfound).mp hcount
    simp only [if_pos hcount]
    exact hrep.erase htarget hlast hfound
  · simp only [if_neg hcount]
    exact hrep.recount id (fun n => n - 1) (hrep.given.remove handle)
      (hrep.tallies.alive_remove handle) (hrep.given.card_on_remove htarget)

end Represents

/-! ## Carrying requests out -/

namespace Holdings

variable {h : Holdings World Device} {handle : Nat}

theorem buffer?_eq_none (htarget : h.handles.target handle = none) : h.buffer? handle = none := by
  unfold buffer?
  rw [htarget, Option.bind_none]

theorem perform_withBuffer_none (hnone : h.buffer? handle = none)
    (use : Buffer Device → Effect World BufferAnswer) :
    (withBuffer handle use).perform h = (.ok .unknown, h) := by
  have hinspect : (Effect.inspect (fun h : Holdings World Device => h.buffer? handle)).perform h =
      (.ok none, h) := by rw [Effect.perform_inspect, hnone]
  exact Effect.perform_bind_ok hinspect

theorem perform_withBuffer_some {buffer : Buffer Device} (hsome : h.buffer? handle = some buffer)
    (use : Buffer Device → Effect World BufferAnswer) :
    (withBuffer handle use).perform h =
      (((use buffer).perform h.workspace.world).1,
        { h with
          workspace := { h.workspace with world := ((use buffer).perform h.workspace.world).2 } }) := by
  have hinspect : (Effect.inspect (fun h : Holdings World Device => h.buffer? handle)).perform h =
      (.ok (some buffer), h) := by rw [Effect.perform_inspect, hsome]
  exact Effect.perform_bind_ok hinspect

theorem perform_change_none (hnone : h.handles.target handle = none)
    (f : Nat → Holdings World Device → BufferAnswer × Holdings World Device) :
    (change handle f).perform h = (.ok .unknown, h) := by
  unfold change
  rw [Effect.perform_updateGet, hnone]

theorem perform_change_some {id : Nat} (hsome : h.handles.target handle = some id)
    (f : Nat → Holdings World Device → BufferAnswer × Holdings World Device) :
    (change handle f).perform h = (.ok (f id h).1, (f id h).2) := by
  unfold change
  rw [Effect.perform_updateGet, hsome]

end Holdings

theorem BufferRequest.perform_make (device : Device) (plan : BufferPlan) (h : Holdings World Device) :
    ((BufferRequest.make device plan).carryOut b).perform h =
      match (plan.make b device).perform h.workspace.world with
      | (.ok buffer, w') =>
          (.ok (.handle h.handles.next),
            { workspace := { world := w', pool := (h.workspace.pool.insert buffer).2 }
              handles := h.handles.add h.workspace.pool.next })
      | (.error failure, w') =>
          (.error failure, { h with workspace := { h.workspace with world := w' } }) := by
  cases hmake : (plan.make b device).perform h.workspace.world with
  | mk answer w' =>
    have hworld : (Workspace.onWorld (plan.make b device)).perform h.workspace =
        (answer, { h.workspace with world := w' }) := by
      unfold Workspace.onWorld
      rw [Effect.perform_ofFun, hmake]
    cases answer with
    | ok buffer =>
      have hadopt : (Holdings.onWorkspace (Workspace.adopt (plan.make b device))).perform h =
          (.ok h.workspace.pool.next,
            { h with workspace := { world := w', pool := (h.workspace.pool.insert buffer).2 } }) := by
        unfold Holdings.onWorkspace Workspace.adopt
        rw [Effect.perform_ofFun, Effect.perform_bind_ok hworld]
        rfl
      exact Effect.perform_bind_ok hadopt
    | error failure =>
      have hadopt : (Holdings.onWorkspace (Workspace.adopt (plan.make b device))).perform h =
          (.error failure, { h with workspace := { h.workspace with world := w' } }) := by
        unfold Holdings.onWorkspace Workspace.adopt
        rw [Effect.perform_ofFun, Effect.perform_bind_error hworld]
      exact Effect.perform_bind_error hadopt

namespace Represents

variable {s : Storage b} {rooms : Nat} {shelf : Shelf} {h : Holdings World Device}

theorem buffer?_eq_none {handle : Nat} (hrep : Represents s rooms shelf h)
    (htarget : shelf.handles.target handle = none) : h.buffer? handle = none :=
  Holdings.buffer?_eq_none (hrep.handles ▸ htarget)

end Represents

/-- A request has been answered as a shelf allows, and the holdings stand for what that leaves. -/
def Answered (s : Storage b) (rooms : Nat) (shelf : Shelf) (request : BufferRequest Device)
    (result : Except Failure BufferAnswer × Holdings World Device) : Prop :=
  ∃ shelf', Shelf.Allows s.Tight shelf request result.1 shelf' ∧ Represents s rooms shelf' result.2

section Answers

variable {s : Storage b} {rooms : Nat} {shelf : Shelf} {h : Holdings World Device}

theorem Answered.of_served {request : BufferRequest Device}
    {result : Except Failure BufferAnswer × Holdings World Device}
    {answer : Except Failure BufferAnswer}
    {shelf' : Shelf} (hserve : shelf.serve request = (answer, shelf')) (hanswer : result.1 = answer)
    (hrep : Represents s rooms shelf' result.2) : Answered s rooms shelf request result := by
  have hallows : Shelf.Allows s.Tight shelf request _ _ := .served request
  rw [hserve] at hallows
  exact ⟨shelf', hanswer ▸ hallows, hrep⟩

theorem answered_make (hrep : Represents s (rooms + 1) shelf h) (device : Device) (plan : BufferPlan) :
    Answered s rooms shelf (.make device plan)
      (((BufferRequest.make device plan).carryOut b).perform h) := by
  have hmade := BufferPlan.makes hrep.ready device plan
  rw [BufferRequest.perform_make]
  cases hperform : (plan.make b device).perform h.workspace.world with
  | mk answer w' =>
    rw [hperform] at hmade
    cases answer with
    | ok buffer =>
      obtain ⟨⟨hdtype, hlength, -⟩, hready, hholds, hcontents, hkept, hfresh⟩ := hmade
      refine .of_served rfl ?_
        (hrep.insert hready ⟨hholds, hdtype, hlength, hcontents⟩ hkept hfresh)
      rw [hrep.handles]
    | error failure =>
      obtain ⟨⟨hspace, htight⟩, hready, hkept⟩ := hmade
      exact ⟨shelf, .noRoom device plan hspace htight, hrep.of_keeps hready hkept⟩

/-- A write through a handle shows behind every handle on the same buffer, and nowhere else. -/
theorem answered_write (hrep : Represents s rooms shelf h) (handle : Nat) (elements : Elements) :
    Answered s rooms shelf (.write handle elements)
      (((BufferRequest.write handle elements).carryOut b).perform h) := by
  unfold BufferRequest.carryOut
  cases htarget : shelf.handles.target handle with
  | none =>
    rw [Holdings.perform_withBuffer_none (hrep.buffer?_eq_none htarget)]
    exact .of_served (by simp only [Shelf.serve, htarget]) rfl hrep
  | some id =>
    obtain ⟨shared, hfound, hbuffer⟩ := hrep.buffer?_eq htarget
    have hbears := hrep.bears hfound
    rw [Holdings.perform_withBuffer_some hbuffer]
    cases hproblem : (shelf.list id).writeProblem elements with
    | some e =>
      rw [Effect.perform_bind_error (hbears.perform_write_refused hproblem)]
      exact .of_served (by simp only [Shelf.serve, htarget, hproblem]) rfl hrep
    | none =>
      obtain ⟨w', hperform, hready, hwritten, hbut⟩ := hbears.perform_write hrep.ready hproblem
      have hserve : shelf.serve (BufferRequest.write handle elements : BufferRequest Device) =
          (.ok .done, shelf.put id ((shelf.list id).overlay elements)) := by
        simp only [Shelf.serve, htarget, hproblem]
      rw [Effect.perform_bind_ok hperform]
      exact .of_served hserve rfl (hrep.of_changed hfound hready hwritten hbut)

/-- A read answers with the list behind the handle, bit for bit. -/
theorem answered_read (hrep : Represents s rooms shelf h) (handle : Nat) (dtype : DType) :
    Answered s rooms shelf (.read handle dtype)
      (((BufferRequest.read handle dtype).carryOut b).perform h) := by
  unfold BufferRequest.carryOut
  cases htarget : shelf.handles.target handle with
  | none =>
    rw [Holdings.perform_withBuffer_none (hrep.buffer?_eq_none htarget)]
    exact .of_served (by simp only [Shelf.serve, htarget]) rfl hrep
  | some id =>
    obtain ⟨shared, hfound, hbuffer⟩ := hrep.buffer?_eq htarget
    obtain ⟨hholds, hdtype, -, hcontents⟩ := hrep.bears hfound
    rw [Holdings.perform_withBuffer_some hbuffer]
    by_cases hmatch : dtype = (shelf.list id).dtype
    · obtain ⟨w', hperform, hready, hkept⟩ := Storage.perform_read hrep.ready hholds
      have hserve : shelf.serve (BufferRequest.read handle dtype : BufferRequest Device) =
          (.ok (.bytes (shelf.list id).bytes), shelf) := by
        simp only [Shelf.serve, htarget, if_pos hmatch]
      rw [← hdtype] at hmatch
      subst hmatch
      rw [Effect.perform_bind_ok hperform, hcontents]
      exact .of_served hserve rfl (hrep.of_keeps hready hkept)
    · have hmismatch : dtype ≠ shared.buffer.dtype := hdtype ▸ hmatch
      rw [Effect.perform_bind_error (Storage.read_mismatch hmismatch _), hdtype]
      exact .of_served (by simp only [Shelf.serve, htarget, if_neg hmatch]) rfl hrep

theorem answered_clone (hrep : Represents s rooms shelf h) (handle : Nat) :
    Answered s rooms shelf (.clone handle)
      (((BufferRequest.clone handle : BufferRequest Device).carryOut b).perform h) := by
  unfold BufferRequest.carryOut
  have htarget' : h.handles.target handle = shelf.handles.target handle := by rw [hrep.handles]
  cases htarget : shelf.handles.target handle with
  | none =>
    rw [Holdings.perform_change_none (htarget'.trans htarget)]
    exact .of_served (by simp only [Shelf.serve, htarget]) rfl hrep
  | some id =>
    have hserve : shelf.serve (BufferRequest.clone handle : BufferRequest Device) =
        (.ok (.handle shelf.handles.next), { shelf with handles := shelf.handles.add id }) := by
      simp only [Shelf.serve, htarget]
    rw [Holdings.perform_change_some (htarget'.trans htarget)]
    refine .of_served hserve ?_ (hrep.clone htarget)
    rw [hrep.handles]

theorem answered_drop (hrep : Represents s rooms shelf h) (handle : Nat) :
    Answered s rooms shelf (.drop handle)
      (((BufferRequest.drop handle : BufferRequest Device).carryOut b).perform h) := by
  unfold BufferRequest.carryOut
  have htarget' : h.handles.target handle = shelf.handles.target handle := by rw [hrep.handles]
  cases htarget : shelf.handles.target handle with
  | none =>
    rw [Holdings.perform_change_none (htarget'.trans htarget)]
    exact .of_served (by simp only [Shelf.serve, htarget]) rfl hrep
  | some id =>
    have hserve : shelf.serve (BufferRequest.drop handle : BufferRequest Device) =
        (.ok .done, { shelf with handles := shelf.handles.remove handle }) := by
      simp only [Shelf.serve, htarget]
    rw [Holdings.perform_change_some (htarget'.trans htarget)]
    exact .of_served hserve rfl (hrep.drop htarget)

/-- Every request is answered as a shelf allows, and keeps the holdings standing for one. -/
theorem answered_carryOut (request : BufferRequest Device)
    (hrep : Represents s (rooms + request.making) shelf h) :
    Answered s rooms shelf request ((request.carryOut b).perform h) := by
  cases request with
  | make device plan => exact answered_make hrep device plan
  | write handle elements => exact answered_write hrep handle elements
  | read handle dtype => exact answered_read hrep handle dtype
  | clone handle => exact answered_clone hrep handle
  | drop handle => exact answered_drop hrep handle

/-- So are any number of requests. -/
theorem answered_performAll (requests : List (BufferRequest Device))
    (hrep : Represents s (rooms + (requests.map BufferRequest.making).sum) shelf h) :
    let run := Effect.performAll (BufferRequest.carryOut b) requests h
    ∃ shelf', Effect.Allowed (Shelf.Allows s.Tight) shelf requests run.1 shelf' ∧
      Represents s rooms shelf' run.2 := by
  have hstep : ∀ n request shelf h, Represents s (n + BufferRequest.making request) shelf h →
      Answered s n shelf request ((request.carryOut b).perform h) :=
    fun _ request _ _ hrep => answered_carryOut request hrep
  exact Effect.performAll_allowed hstep requests rooms hrep

end Answers

/-! ## Reading -/

/-- Reads through a handle answer the same from the one holdings as from the other. -/
def Holdings.SameReads (b : Backend World Device Client) (handle : Nat)
    (h h' : Holdings World Device) : Prop :=
  ∀ dtype, (((BufferRequest.read handle dtype).carryOut b).perform h').1 =
    (((BufferRequest.read handle dtype).carryOut b).perform h).1

namespace Represents

variable {s : Storage b} {rooms more : Nat} {shelf shelf' : Shelf} {h h' : Holdings World Device}
  {handle id : Nat}

theorem lt_next (hrep : Represents s rooms shelf h) (htarget : h.handles.target handle = some id) :
    id < shelf.next := by
  obtain ⟨shared, hfound⟩ := hrep.alive (hrep.handles ▸ htarget)
  exact hrep.below hfound

theorem answer_read (hrep : Represents s rooms shelf h) (handle : Nat) (dtype : DType) :
    (((BufferRequest.read handle dtype).carryOut b).perform h).1 =
      (shelf.serve (.read handle dtype : BufferRequest Device)).1 := by
  obtain ⟨after, hallows, -⟩ := answered_read hrep handle dtype
  generalize (((BufferRequest.read handle dtype).carryOut b).perform h).1 = answer at hallows ⊢
  cases hallows with
  | served _ => rfl

/-- Whatever has happened in between, if the list behind a handle is the same, so are the reads. -/
theorem sameReads (hrep : Represents s rooms shelf h) (hrep' : Represents s more shelf' h')
    (htarget : h.handles.target handle = some id) (htarget' : h'.handles.target handle = some id)
    (hlist : shelf'.list id = shelf.list id) : h.SameReads b handle h' := by
  intro dtype
  rw [hrep.answer_read, hrep'.answer_read]
  exact Shelf.answer_read_congr (hrep.handles ▸ htarget) (hrep'.handles ▸ htarget') hlist dtype

end Represents

end DeviceCopy
