import DeviceCopy.Proofs.Buffers.Sharing
import DeviceCopy.Proofs.Emulated.AtRest

/-!
# Copies between shared lists

On the emulated device a program may also copy between its buffers, by the default client of a
device. On the shelf that replaces the first elements of one list by those of another, or is refused
for a reason that types, lengths and limits give; no address has a part in it.
-/

set_option autoImplicit false

namespace DeviceCopy

/-! ## Bytes that were copied -/

section Bytes

variable {m m' : Memory} {from_ to_ moved : Nat}

/-- The bytes that were copied are over what was there before. -/
theorem Memory.read_copied
    (h : ∀ a, m'.get a =
      if Block.Contains ⟨to_, moved⟩ a then m.get (from_ + (a - to_)) else m.get a)
    {size : Nat} (hfits : moved ≤ size) :
    m'.read to_ size = (m.read to_ size).overlay (m.read from_ moved) := by
  apply List.ext_getElem?
  intro i
  rw [Memory.getElem?_read, Bytes.overlay, List.getElem?_append, List.getElem?_drop,
    Memory.getElem?_read, Memory.getElem?_read, Memory.length_read, h]
  have hoffset : to_ + i - to_ = i := by omega
  by_cases hi : i < moved
  · have hsize : i < size := Nat.lt_of_lt_of_le hi hfits
    have hin : Block.Contains ⟨to_, moved⟩ (to_ + i) := ⟨Nat.le_add_right _ _, by simp only; omega⟩
    rw [if_pos hsize, if_pos hin, if_pos hi, if_pos hi, hoffset]
  · have hout : ¬ Block.Contains ⟨to_, moved⟩ (to_ + i) := by
      intro hin
      have hend := hin.2
      simp only at hend
      omega
    have hindex : moved + (i - moved) = i := by omega
    rw [if_neg hout, if_neg hi, hindex]

end Bytes

namespace Emulated

/-! ## Requests -/

/-- What a program on the emulated device asks for. -/
inductive Request
  | onBuffers (request : BufferRequest Device)
  /-- Copy the first elements behind one handle to another, by the default client of a device. -/
  | copy (device : Device) (src dst count : Nat)

namespace Request

/-- How many buffers a request makes. -/
def making : Request → Nat
  | onBuffers request => request.making
  | copy _ _ _ _ => 0

/-- The handle whose list a request may change. -/
def written? : Request → Option Nat
  | onBuffers request => request.written?
  | copy _ _ dst _ => some dst

def copyBetween (device : Device) (count : Nat) (src dst : Buffer Device) :
    Effect World BufferAnswer := do
  let client ← Effect.updateGet (World.defaultClient device)
  return .copied (← Buffer.copy backend client src dst count)

/-- What the library does for a request. -/
def carryOut : Request → Effect (Holdings World Device) BufferAnswer
  | onBuffers request => request.carryOut backend
  | copy device src dst count => do
      match ← Effect.inspect (fun h => (h.buffer? src, h.buffer? dst)) with
      | (some src, some dst) =>
          Holdings.onWorkspace (Workspace.onWorld (copyBetween device count src dst))
      | _ => return .unknown

end Request

/-! ## The specification -/

/-- Why a copy of elements is refused, if it is. -/
def copyRefusal (limits : Limits) (same : Bool) (src dst : Elements) (count : Nat) : Option Error :=
  let kernel := (Strategy.auto src.dtype count true).kernel src.dtype
  (Buffer.shapeProblem same src.dtype dst.dtype src.length dst.length count).or
    (launchRejection backendName kernel.name limits (kernel.grid limits.maxGroups count))

/-- The answer to a copy, and what it changes. -/
def serveCopy (shelf : Shelf) (limits : Limits) (src dst count : Nat) :
    Except Failure BufferAnswer × Shelf :=
  match shelf.handles.target src, shelf.handles.target dst with
  | some from_, some to_ =>
      let elements := shelf.list from_
      match copyRefusal limits (from_ = to_) elements (shelf.list to_) count with
      | some e => (.error (.error e), shelf)
      | none =>
          (.ok (.copied (.auto elements.dtype count true)),
            shelf.put to_ ((shelf.list to_).overlay (elements.take count)))
  | _, _ => (.ok .unknown, shelf)

/-- What a shelf allows the library to answer on the emulated device. -/
inductive Allows (shelf : Shelf) : Request → Except Failure BufferAnswer → Shelf → Prop
  | onBuffers {request : BufferRequest Device} {answer : Except Failure BufferAnswer} {shelf' : Shelf}
      (h : Shelf.Allows storage.Tight shelf request answer shelf') :
      Allows shelf (.onBuffers request) answer shelf'
  | copy (device : Device) (src dst count : Nat) :
      Allows shelf (.copy device src dst count) (serveCopy shelf device.limits src dst count).1
        (serveCopy shelf device.limits src dst count).2

section Allowed

variable {shelf shelf' : Shelf} {request : Request} {answer : Except Failure BufferAnswer}

/-- A copy changes nothing, or it succeeds and changes the list that it goes to. -/
theorem serveCopy_cases (shelf : Shelf) (limits : Limits) (src dst count : Nat) :
    (serveCopy shelf limits src dst count).2 = shelf ∨
      ∃ id strategy elements, shelf.handles.target dst = some id ∧
        serveCopy shelf limits src dst count = (.ok (.copied strategy), shelf.put id elements) := by
  cases hsrc : shelf.handles.target src with
  | none => exact Or.inl (by simp only [serveCopy, hsrc])
  | some from_ =>
    cases hdst : shelf.handles.target dst with
    | none => exact Or.inl (by simp only [serveCopy, hsrc, hdst])
    | some to_ =>
      cases hproblem : copyRefusal limits (from_ = to_) (shelf.list from_) (shelf.list to_) count with
      | some e => exact Or.inl (by simp only [serveCopy, hsrc, hdst, hproblem])
      | none => exact Or.inr ⟨to_, _, _, rfl, by simp only [serveCopy, hsrc, hdst, hproblem]; rfl⟩

/-- What fails changes nothing. -/
theorem Allows.eq_of_error (h : Allows shelf request answer shelf') {failure : Failure}
    (hanswer : answer = .error failure) : shelf' = shelf := by
  cases h with
  | onBuffers h => exact h.eq_of_error hanswer
  | copy device src dst count =>
    rcases serveCopy_cases shelf device.limits src dst count with hsame | ⟨id, _, _, -, hserve⟩
    · exact hsame
    · rw [hserve] at hanswer
      cases hanswer

/-- Only writes and copies change a list, and only the one that they write to. -/
theorem Allows.list_eq (h : Allows shelf request answer shelf') {id : Nat} (hid : id < shelf.next)
    (hother : ∀ handle, request.written? = some handle → shelf.handles.target handle ≠ some id) :
    shelf'.list id = shelf.list id := by
  cases h with
  | onBuffers h => exact h.list_eq hid hother
  | copy device src dst count =>
    rcases serveCopy_cases shelf device.limits src dst count with hsame | ⟨id', _, _, hdst, hserve⟩
    · rw [hsame]
    · have hne : id ≠ id' := by
        rintro rfl
        exact hother dst rfl hdst
      rw [hserve]
      exact Function.update_of_ne hne _ _

end Allowed

/-! ## Copies keep the relation -/

section Copies

variable {rooms : Nat} {shelf : Shelf} {h : Holdings World Device} {w : World} {client : Client}
  {src dst : Buffer Device} {from_ to_ : Elements} {same : Bool} {count : Nat}

/-- Between well placed buffers a copy is refused for what types, lengths and limits say. -/
theorem refusal?_of_wellPlaced (hplaced : Buffer.WellPlaced backend client same src dst)
    (hsrc : src.dtype = from_.dtype ∧ src.length = from_.length)
    (hdst : dst.dtype = to_.dtype ∧ dst.length = to_.length) (count : Nat) :
    Buffer.autoStrategy backend src dst count = .auto from_.dtype count true ∧
      refusal? client (.auto from_.dtype count true) src dst count =
        copyRefusal client.device.limits same from_ to_ count := by
  have hauto : Buffer.autoStrategy backend src dst count = .auto from_.dtype count true := by
    unfold Buffer.autoStrategy
    rw [hplaced.srcAligned, hplaced.dstAligned, hsrc.1]
    rfl
  refine ⟨hauto, ?_⟩
  have hserved := (autoStrategy_fits src dst count).2
  rw [hauto] at hserved
  rw [refusal?_eq, hplaced.copyProblem_eq, Strategy.kernel?_eq,
    if_neg (fun hstaged => hstaged.2 (hserved hstaged.1)), hsrc.1, hsrc.2, hdst.1, hdst.2]
  unfold copyRefusal
  cases Buffer.shapeProblem same from_.dtype to_.dtype from_.length to_.length count with
  | some e => rfl
  | none => rfl

/-- What is not refused is a copy of one type that fits. -/
theorem fits_of_accepted {limits : Limits} (h : copyRefusal limits same from_ to_ count = none) :
    from_.dtype = to_.dtype ∧ count ≤ from_.length ∧ count ≤ to_.length := by
  have hshape := (Option.or_eq_none_iff.mp h).1
  unfold Buffer.shapeProblem at hshape
  simp only [ite_eq_iff, reduceCtorEq, and_false, false_or, not_lt, Decidable.not_not, ne_eq]
    at hshape
  exact ⟨hshape.1, hshape.2.1, hshape.2.2.1⟩

theorem Request.perform_copyBetween (device : Device) (count : Nat) (src dst : Buffer Device)
    (w : World) :
    (copyBetween device count src dst).perform w =
      (((Buffer.copy backend (w.defaultClient device).1 src dst count).perform
          (w.defaultClient device).2).1.map BufferAnswer.copied,
        ((Buffer.copy backend (w.defaultClient device).1 src dst count).perform
          (w.defaultClient device).2).2) := by
  have hclient : (Effect.updateGet (World.defaultClient device)).perform w =
      (.ok (w.defaultClient device).1, (w.defaultClient device).2) := rfl
  unfold copyBetween
  rw [Effect.perform_bind_ok hclient, Effect.perform_bind]
  cases (Buffer.copy backend (w.defaultClient device).1 src dst count).perform
      (w.defaultClient device).2 with
  | mk answer w' =>
    cases answer with
    | ok strategy => rfl
    | error failure => rfl

theorem holds_of_live {w' : World} (hlive : w'.heap.live = w.heap.live) {buffer : Buffer Device}
    (hholds : storage.Holds w buffer) : storage.Holds w' buffer :=
  hholds.imp id (fun hin => hlive.symm ▸ hin)

/-- Bytes copied from one buffer to another put the first elements of its list over those of the
other, and no other buffer is near. -/
theorem bears_copied {w' : World} (hheap : w.heap.Sound) (hsrc : storage.Bears w src from_)
    (hdst : storage.Bears w dst to_)
    (hfits : from_.dtype = to_.dtype ∧ count ≤ from_.length ∧ count ≤ to_.length)
    (hlive : w'.heap.live = w.heap.live)
    (hbytes : ∀ a, w'.memory.get a =
      if Block.Contains ⟨dst.pointer, count * src.dtype.size⟩ a then
        w.memory.get (src.pointer + (a - dst.pointer))
      else w.memory.get a) :
    storage.Bears w' dst (to_.overlay (from_.take count)) ∧ storage.KeepsBut dst.pointer w w' := by
  obtain ⟨hdtype, hcount, hcount'⟩ := hfits
  have hinside : count * src.dtype.size ≤ src.sizeInBytes := by
    rw [Buffer.sizeInBytes, hsrc.length]
    exact Nat.mul_le_mul_right _ hcount
  have hinside' : count * src.dtype.size ≤ dst.sizeInBytes := by
    rw [Buffer.sizeInBytes, hsrc.dtype, hdst.dtype, hdst.length, hdtype]
    exact Nat.mul_le_mul_right _ hcount'
  have hmoved : w.memory.read src.pointer (count * src.dtype.size) = (from_.take count).bytes := by
    have hall : w.memory.read src.pointer src.sizeInBytes = from_.bytes := hsrc.contents
    rw [← Memory.take_read w.memory hinside, hall, hsrc.dtype, Elements.bytes_take]
  have hbefore : w.memory.read dst.pointer dst.sizeInBytes = to_.bytes := hdst.contents
  have htype : (from_.take count).dtype = to_.dtype := hdtype
  have hcontents : storage.contents w' dst = (to_.overlay (from_.take count)).bytes :=
    calc storage.contents w' dst
        = (w.memory.read dst.pointer dst.sizeInBytes).overlay
            (w.memory.read src.pointer (count * src.dtype.size)) :=
          Memory.read_copied hbytes hinside'
      _ = to_.bytes.overlay (from_.take count).bytes := by rw [hmoved, hbefore]
      _ = (to_.overlay (from_.take count)).bytes := (Elements.bytes_overlay htype).symm
  have htaken : (from_.take count).length ≤ to_.length := (List.length_take_le _ _).trans hcount'
  refine ⟨⟨holds_of_live hlive hdst.holds, ?_, ?_, hcontents⟩, ?_⟩
  · rw [hdst.dtype, Elements.dtype_overlay]
  · rw [hdst.length, Elements.length_overlay htype htaken]
  · intro buffer hheld hne
    have hapart : Block.Apart ⟨dst.pointer, count * src.dtype.size⟩ buffer.block :=
      (World.Stored.apart hdst.holds hheld hheap (Ne.symm hne)).mono hinside' (Nat.le_refl _)
    refine ⟨holds_of_live hlive hheld, ?_⟩
    exact Memory.read_of_apart (fun a hout => (hbytes a).trans (if_neg hout)) hapart

/-- A copy between buffers that hold lists does to the lists what it is specified to do. -/
theorem copyBetween_lists (hrest : w.AtRest) (hsrc : storage.Bears w src from_)
    (hdst : storage.Bears w dst to_) (hsame : same = true → src.pointer = dst.pointer)
    (hseparate : same = false → src.pointer = dst.pointer → src.pointer = 0) (device : Device)
    (count : Nat) :
    let result := (Request.copyBetween device count src dst).perform w
    result.2.AtRest ∧
      match copyRefusal device.limits same from_ to_ count with
      | some e => result.1 = .error (.error e) ∧ storage.Keeps w result.2
      | none =>
          result.1 = .ok (.copied (.auto from_.dtype count true)) ∧
          storage.Bears result.2 dst (to_.overlay (from_.take count)) ∧
          storage.KeepsBut dst.pointer w result.2 := by
  intro result
  -- The client may have to be opened first, which touches neither memory nor blocks.
  obtain ⟨-, hheap⟩ := World.defaultClient_outline device w
  have hmemory := memory_defaultClient device w
  obtain ⟨hopen, hentry⟩ := hrest.reachable.defaultsOpen.defaultClient device
  have hlimits : (w.defaultClient device).1.device.limits = device.limits := hopen.limits _ hentry
  have hheld : storage.Holds (w.defaultClient device).2 src :=
    holds_of_live (congrArg Heap.live hheap) hsrc.holds
  have hheld' : storage.Holds (w.defaultClient device).2 dst :=
    holds_of_live (congrArg Heap.live hheap) hdst.holds
  have hplaced : Buffer.WellPlaced backend (w.defaultClient device).1 same src dst :=
    ⟨rfl, rfl, World.Holds.aligned hsrc.holds hrest.heapSound,
      World.Holds.aligned hdst.holds hrest.heapSound,
      Buffer.same_iff_of_separate (World.Holds.pointer_eq_zero_iff hsrc.holds hrest.heapSound) hsame
        hseparate⟩
  obtain ⟨hauto, hrefusal⟩ := refusal?_of_wellPlaced hplaced ⟨hsrc.dtype, hsrc.length⟩
    ⟨hdst.dtype, hdst.length⟩ count
  have hcopied := (hrest.defaultClient device).copy hentry hheld hheld' count
  have hresult : result = _ := Request.perform_copyBetween device count src dst w
  simp only [hauto, hrefusal, hlimits] at hcopied
  rw [hresult]
  generalize (Buffer.copy backend (w.defaultClient device).1 src dst count).perform
    (w.defaultClient device).2 = copied at hcopied ⊢
  obtain ⟨⟨hrest', hheap'⟩, houtcome⟩ := hcopied
  have hlive : copied.2.heap.live = w.heap.live := congrArg Heap.live (hheap'.trans hheap)
  refine ⟨hrest', ?_⟩
  cases hproblem : copyRefusal device.limits same from_ to_ count with
  | some e =>
    rw [hproblem] at houtcome
    refine ⟨congrArg (Except.map _) houtcome.1, ?_⟩
    intro buffer hholds
    refine ⟨holds_of_live hlive hholds, ?_⟩
    exact congrArg (fun m : Memory => m.read _ _) (houtcome.2.trans hmemory)
  | none =>
    rw [hproblem] at houtcome
    obtain ⟨hanswer, hbytes⟩ := houtcome
    rw [hmemory] at hbytes
    exact ⟨congrArg (Except.map _) hanswer,
      bears_copied hrest.heapSound hsrc hdst (fits_of_accepted hproblem) hlive hbytes⟩

theorem Request.perform_copy_unknown {src dst : Nat}
    (hunknown : h.buffer? src = none ∨ h.buffer? dst = none) (device : Device) (count : Nat) :
    (copy device src dst count).carryOut.perform h = (.ok .unknown, h) := by
  have hinspect :
      (Effect.inspect (fun h : Holdings World Device => (h.buffer? src, h.buffer? dst))).perform h =
        (.ok (h.buffer? src, h.buffer? dst), h) := rfl
  unfold carryOut
  rw [Effect.perform_bind_ok hinspect]
  rcases hunknown with hnone | hnone
  · rw [hnone]
    rfl
  · rw [hnone]
    cases h.buffer? src with
    | none => rfl
    | some buffer => rfl

theorem Request.perform_copy_known {src dst : Nat} {from_ to_ : Buffer Device}
    (hsrc : h.buffer? src = some from_) (hdst : h.buffer? dst = some to_) (device : Device)
    (count : Nat) :
    (copy device src dst count).carryOut.perform h =
      (((copyBetween device count from_ to_).perform h.workspace.world).1,
        { h with
          workspace :=
            { h.workspace with
              world := ((copyBetween device count from_ to_).perform h.workspace.world).2 } }) := by
  have hinspect :
      (Effect.inspect (fun h : Holdings World Device => (h.buffer? src, h.buffer? dst))).perform h =
        (.ok (h.buffer? src, h.buffer? dst), h) := rfl
  unfold carryOut
  rw [Effect.perform_bind_ok hinspect, hsrc, hdst]
  rfl

theorem answered_copy (hrep : Represents storage rooms shelf h) (device : Device)
    (src dst count : Nat) :
    ∃ shelf', Allows shelf (.copy device src dst count)
        ((Request.copy device src dst count).carryOut.perform h).1 shelf' ∧
      Represents storage rooms shelf' ((Request.copy device src dst count).carryOut.perform h).2 := by
  have hallows : Allows shelf _ _ _ := .copy device src dst count
  have hunknown : (h.buffer? src = none ∨ h.buffer? dst = none) →
      serveCopy shelf device.limits src dst count = (.ok .unknown, shelf) →
      ∃ shelf', Allows shelf (.copy device src dst count)
          ((Request.copy device src dst count).carryOut.perform h).1 shelf' ∧
        Represents storage rooms shelf' ((Request.copy device src dst count).carryOut.perform h).2 := by
    intro hmissing hserve
    rw [Request.perform_copy_unknown hmissing]
    rw [hserve] at hallows
    exact ⟨shelf, hallows, hrep⟩
  cases hsrc : shelf.handles.target src with
  | none => exact hunknown (Or.inl (hrep.buffer?_eq_none hsrc)) (by simp only [serveCopy, hsrc])
  | some id =>
    cases hdst : shelf.handles.target dst with
    | none => exact hunknown (Or.inr (hrep.buffer?_eq_none hdst)) (by simp only [serveCopy, hsrc, hdst])
    | some id' =>
      obtain ⟨shared, hfound, hbuffer⟩ := hrep.buffer?_eq hsrc
      obtain ⟨shared', hfound', hbuffer'⟩ := hrep.buffer?_eq hdst
      have hsame : decide (id = id') = true → shared.buffer.pointer = shared'.buffer.pointer := by
        intro heq
        rw [of_decide_eq_true heq, hfound'] at hfound
        rw [Option.some.inj hfound]
      have hseparate : decide (id = id') = false → shared.buffer.pointer = shared'.buffer.pointer →
          shared.buffer.pointer = 0 :=
        fun hne => hrep.separate hfound' hfound (of_decide_eq_false hne)
      obtain ⟨hrest, houtcome⟩ := copyBetween_lists hrep.ready (hrep.bears hfound) (hrep.bears hfound')
        hsame hseparate device count
      rw [Request.perform_copy_known hbuffer hbuffer']
      cases hproblem : copyRefusal device.limits (decide (id = id')) (shelf.list id) (shelf.list id')
          count with
      | some e =>
        rw [hproblem] at houtcome
        have hserve : serveCopy shelf device.limits src dst count = (.error (.error e), shelf) := by
          simp only [serveCopy, hsrc, hdst, hproblem]
        rw [hserve, ← houtcome.1] at hallows
        exact ⟨shelf, hallows, hrep.of_keeps hrest houtcome.2⟩
      | none =>
        rw [hproblem] at houtcome
        obtain ⟨hanswer, hbears, hbut⟩ := houtcome
        have hserve : serveCopy shelf device.limits src dst count =
            (.ok (.copied (.auto (shelf.list id).dtype count true)),
              shelf.put id' ((shelf.list id').overlay ((shelf.list id).take count))) := by
          simp only [serveCopy, hsrc, hdst, hproblem]
        rw [hserve, ← hanswer] at hallows
        exact ⟨_, hallows, hrep.of_changed hfound' hrest hbears hbut⟩

/-- Every request is answered as a shelf allows, and keeps the holdings standing for one. -/
theorem answered_request (request : Request)
    (hrep : Represents storage (rooms + request.making) shelf h) :
    ∃ shelf', Allows shelf request (request.carryOut.perform h).1 shelf' ∧
      Represents storage rooms shelf' (request.carryOut.perform h).2 := by
  cases request with
  | onBuffers request =>
    obtain ⟨shelf', hallows, hrep'⟩ := answered_carryOut request hrep
    exact ⟨shelf', .onBuffers hallows, hrep'⟩
  | copy device src dst count => exact answered_copy hrep device src dst count

/-- So are any number of requests. -/
theorem answered_requests (requests : List Request)
    (hrep : Represents storage (rooms + (requests.map Request.making).sum) shelf h) :
    let run := Effect.performAll Request.carryOut requests h
    ∃ shelf', Effect.Allowed Allows shelf requests run.1 shelf' ∧
      Represents storage rooms shelf' run.2 := by
  have hstep : ∀ n request shelf h, Represents storage (n + Request.making request) shelf h →
      ∃ shelf', Allows shelf request (request.carryOut.perform h).1 shelf' ∧
        Represents storage n shelf' (request.carryOut.perform h).2 :=
    fun _ request _ _ hrep => answered_request request hrep
  exact Effect.performAll_allowed hstep requests rooms hrep

end Copies

end Emulated

end DeviceCopy
