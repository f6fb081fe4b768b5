import DeviceCopy.Proofs.Buffers.Making
import Mathlib.Data.Finset.Card
import Mathlib.Data.Finset.Range
import Mathlib.Logic.Function.Basic

/-!
# Programs over shared lists

What buffers are to a program: handles, and behind every handle a list of elements, which it shares
with the handles cloned from it. A `Shelf` is no more than that. There is no memory in it, nothing is
given back and nothing is counted.

`BufferRequest.carryOut` is what the library does for the same requests, where `Holdings` are a
workspace and the handles that a program holds on the buffers in it.
-/

set_option autoImplicit false

namespace DeviceCopy

/-! ## Handles -/

/-- The handles a program has been given, and the number each stands for until it is dropped. -/
structure Handles where
  target : Nat → Option Nat
  next : Nat

namespace Handles

def empty : Handles := { target := fun _ => none, next := 0 }

/-- Give a new handle out for a number. -/
def add (h : Handles) (id : Nat) : Handles :=
  { target := Function.update h.target h.next (some id), next := h.next + 1 }

def remove (h : Handles) (handle : Nat) : Handles :=
  { h with target := Function.update h.target handle none }

/-- No handle stands for anything before it has been given out. -/
def Given (h : Handles) : Prop := ∀ handle, h.next ≤ handle → h.target handle = none

/-- The handles that stand for a number. -/
def on (h : Handles) (id : Nat) : Finset Nat :=
  (Finset.range h.next).filter (fun handle => h.target handle = some id)

variable {h : Handles} {handle id : Nat}

theorem Given.lt_next (hgiven : h.Given) (htarget : h.target handle = some id) : handle < h.next := by
  by_contra hbeyond
  rw [hgiven handle (Nat.le_of_not_lt hbeyond)] at htarget
  cases htarget

theorem Given.mem_on (hgiven : h.Given) (htarget : h.target handle = some id) : handle ∈ h.on id :=
  Finset.mem_filter.mpr ⟨Finset.mem_range.mpr (hgiven.lt_next htarget), htarget⟩

theorem Given.add (hgiven : h.Given) (id : Nat) : (h.add id).Given := by
  intro handle hbeyond
  have hpast : h.next < handle := hbeyond
  exact (Function.update_of_ne (Nat.ne_of_gt hpast) _ _).trans (hgiven handle (Nat.le_of_lt hpast))

theorem Given.remove (hgiven : h.Given) (gone : Nat) : (h.remove gone).Given := by
  intro handle hbeyond
  by_cases heq : handle = gone
  · rw [heq]
    exact Function.update_self _ _ _
  · exact (Function.update_of_ne heq _ _).trans (hgiven handle hbeyond)

theorem target_add (h : Handles) (id handle : Nat) :
    (h.add id).target handle = if handle = h.next then some id else h.target handle :=
  Function.update_apply _ _ _ _

theorem target_remove (h : Handles) (gone handle : Nat) :
    (h.remove gone).target handle = if handle = gone then none else h.target handle :=
  Function.update_apply _ _ _ _

theorem on_add (h : Handles) (id other : Nat) :
    (h.add id).on other = if other = id then insert h.next (h.on other) else h.on other := by
  ext handle
  have hnext : (h.add id).next = h.next + 1 := rfl
  by_cases hnew : handle = h.next
  · subst hnew
    by_cases hother : other = id
    · simp [on, target_add, hother, hnext]
    · simp [on, target_add, hother, Ne.symm hother]
  · have hlt : handle < h.next + 1 ↔ handle < h.next := by omega
    by_cases hother : other = id
    · simp [on, target_add, hother, hnew, hnext, hlt]
    · simp [on, target_add, hother, hnew, hnext, hlt]

theorem card_on_add (h : Handles) (id other : Nat) :
    ((h.add id).on other).card = if other = id then (h.on other).card + 1 else (h.on other).card := by
  have hfresh : h.next ∉ h.on other := by simp [on]
  rw [on_add]
  split
  · rw [Finset.card_insert_of_notMem hfresh]
  · rfl

theorem on_remove (h : Handles) (gone id : Nat) : (h.remove gone).on id = (h.on id).erase gone := by
  ext handle
  have hnext : (h.remove gone).next = h.next := rfl
  by_cases hgone : handle = gone
  · simp [on, target_remove, hgone]
  · simp [on, target_remove, hgone, hnext]

/-- A handle that is dropped stood for one number only. -/
theorem Given.card_on_remove (hgiven : h.Given) (htarget : h.target handle = some id) (other : Nat) :
    ((h.remove handle).on other).card =
      if other = id then (h.on other).card - 1 else (h.on other).card := by
  rw [on_remove]
  split
  · next heq =>
    subst heq
    rw [Finset.card_erase_of_mem (hgiven.mem_on htarget)]
  · next hne =>
    have hother : handle ∉ h.on other := by
      intro hmem
      have hsame := (Finset.mem_filter.mp hmem).2
      rw [htarget] at hsame
      exact hne (Option.some.inj hsame).symm
    rw [Finset.erase_eq_of_notMem hother]

end Handles

/-! ## Requests -/

/-- What a program asks for, with buffers given by handles. -/
inductive BufferRequest (Device : Type)
  | make (device : Device) (plan : BufferPlan)
  | write (handle : Nat) (elements : Elements)
  | read (handle : Nat) (dtype : DType)
  | clone (handle : Nat)
  | drop (handle : Nat)

inductive BufferAnswer
  | handle (handle : Nat)
  | done
  | bytes (bytes : Bytes)
  | copied (strategy : Strategy)
  /-- There is no such handle, or it has been dropped. -/
  | unknown
  deriving DecidableEq

/-- How many buffers a request makes. -/
def BufferRequest.making {Device : Type} : BufferRequest Device → Nat
  | make _ _ => 1
  | _ => 0

/-- The handle whose list a request may change. -/
def BufferRequest.written? {Device : Type} : BufferRequest Device → Option Nat
  | write handle _ => some handle
  | _ => none

/-! ## The specification -/

/-- What is wrong with elements that are to replace the first ones of others. -/
def Elements.writeProblem (held new : Elements) : Option Error :=
  if new.dtype ≠ held.dtype then some (.dtypeMismatch new.dtype held.dtype)
  else if held.length < new.length then some (.bufferTooSmall new.length held.length)
  else none

theorem Elements.writeProblem_eq_none_iff {held new : Elements} :
    held.writeProblem new = none ↔ new.dtype = held.dtype ∧ new.length ≤ held.length := by
  unfold writeProblem
  split
  · next hmismatch => exact iff_of_false nofun (fun h => hmismatch h.1)
  · next hmatch =>
    split
    · next hlong => exact iff_of_false nofun (fun h => Nat.not_le_of_lt hlong h.2)
    · next hshort => exact iff_of_true rfl ⟨not_not.mp hmatch, Nat.le_of_not_lt hshort⟩

/-- Lists of elements, each under a number, and the handles on them. -/
structure Shelf where
  list : Nat → Elements
  next : Nat
  handles : Handles

namespace Shelf

def empty : Shelf := { list := fun _ => .zeros .f32 0, next := 0, handles := .empty }

def put (shelf : Shelf) (id : Nat) (elements : Elements) : Shelf :=
  { shelf with list := Function.update shelf.list id elements }

/-- The answer to a request, and what it changes. -/
def serve {Device : Type} (shelf : Shelf) :
    BufferRequest Device → Except Failure BufferAnswer × Shelf
  | .make _ plan =>
      (.ok (.handle shelf.handles.next),
        { list := Function.update shelf.list shelf.next plan.contents
          next := shelf.next + 1
          handles := shelf.handles.add shelf.next })
  | .write handle elements =>
      match shelf.handles.target handle with
      | none => (.ok .unknown, shelf)
      | some id =>
          match (shelf.list id).writeProblem elements with
          | some e => (.error (.error e), shelf)
          | none => (.ok .done, shelf.put id ((shelf.list id).overlay elements))
  | .read handle dtype =>
      match shelf.handles.target handle with
      | none => (.ok .unknown, shelf)
      | some id =>
          if dtype = (shelf.list id).dtype then (.ok (.bytes (shelf.list id).bytes), shelf)
          else (.error (.error (.dtypeMismatch dtype (shelf.list id).dtype)), shelf)
  | .clone handle =>
      match shelf.handles.target handle with
      | none => (.ok .unknown, shelf)
      | some id =>
          (.ok (.handle shelf.handles.next), { shelf with handles := shelf.handles.add id })
  | .drop handle =>
      match shelf.handles.target handle with
      | none => (.ok .unknown, shelf)
      | some _ => (.ok .done, { shelf with handles := shelf.handles.remove handle })

/-- A request is answered as the shelf serves it, except that there may be no room for the bytes of a
new list. -/
inductive Allows {Device : Type} (tight : (size : Nat) → Prop) (shelf : Shelf) :
    BufferRequest Device → Except Failure BufferAnswer → Shelf → Prop
  | served (request : BufferRequest Device) :
      Allows tight shelf request (shelf.serve request).1 (shelf.serve request).2
  | noRoom (device : Device) (plan : BufferPlan) {failure : Failure} (hspace : failure.OutOfSpace)
      (htight : tight (plan.contents.length * plan.contents.dtype.size)) :
      Allows tight shelf (.make device plan) (.error failure) shelf

variable {Device : Type} {tight : Nat → Prop} {shelf shelf' : Shelf} {request : BufferRequest Device}

/-- Serving a request changes nothing, or it succeeds and changes no list but the one it writes to. -/
theorem serve_cases (shelf : Shelf) (request : BufferRequest Device) :
    (shelf.serve request).2 = shelf ∨
      (∃ answer, (shelf.serve request).1 = .ok answer) ∧
        ∀ id, id < shelf.next →
          (∀ handle, request.written? = some handle → shelf.handles.target handle ≠ some id) →
            (shelf.serve request).2.list id = shelf.list id := by
  cases request with
  | make device plan =>
    exact Or.inr ⟨⟨_, rfl⟩, fun id hid _ => Function.update_of_ne (Nat.ne_of_lt hid) _ _⟩
  | write handle elements =>
    cases htarget : shelf.handles.target handle with
    | none => exact Or.inl (by simp only [serve, htarget])
    | some target =>
      cases hproblem : (shelf.list target).writeProblem elements with
      | some e => exact Or.inl (by simp only [serve, htarget, hproblem])
      | none =>
        simp only [serve, htarget, hproblem]
        refine Or.inr ⟨⟨_, rfl⟩, fun id _ hother => Function.update_of_ne ?_ _ _⟩
        rintro rfl
        exact hother handle rfl htarget
  | read handle dtype =>
    refine Or.inl ?_
    cases htarget : shelf.handles.target handle with
    | none => simp only [serve, htarget]
    | some target =>
      simp only [serve, htarget]
      split
      · rfl
      · rfl
  | clone handle =>
    cases htarget : shelf.handles.target handle with
    | none => exact Or.inl (by simp only [serve, htarget])
    | some target =>
      have hserve : shelf.serve (.clone handle : BufferRequest Device) =
          (.ok (.handle shelf.handles.next), { shelf with handles := shelf.handles.add target }) := by
        simp only [serve, htarget]
      rw [hserve]
      exact Or.inr ⟨⟨_, rfl⟩, fun _ _ _ => rfl⟩
  | drop handle =>
    cases htarget : shelf.handles.target handle with
    | none => exact Or.inl (by simp only [serve, htarget])
    | some target =>
      have hserve : shelf.serve (.drop handle : BufferRequest Device) =
          (.ok .done, { shelf with handles := shelf.handles.remove handle }) := by
        simp only [serve, htarget]
      rw [hserve]
      exact Or.inr ⟨⟨_, rfl⟩, fun _ _ _ => rfl⟩

/-- What fails changes nothing. -/
theorem Allows.eq_of_error {answer : Except Failure BufferAnswer}
    (h : Allows tight shelf request answer shelf') {failure : Failure}
    (hanswer : answer = .error failure) : shelf' = shelf := by
  cases h with
  | noRoom device plan _ _ => rfl
  | served request =>
    rcases shelf.serve_cases request with hsame | ⟨⟨served, hserved⟩, -⟩
    · exact hsame
    · rw [hserved] at hanswer
      cases hanswer

/-- Only a write changes a list, and only the list that its handle stands for. -/
theorem Allows.list_eq {answer : Except Failure BufferAnswer}
    (h : Allows tight shelf request answer shelf') {id : Nat} (hid : id < shelf.next)
    (hother : ∀ handle, request.written? = some handle → shelf.handles.target handle ≠ some id) :
    shelf'.list id = shelf.list id := by
  cases h with
  | noRoom device plan _ _ => rfl
  | served request =>
    rcases shelf.serve_cases request with hsame | ⟨-, hkept⟩
    · rw [hsame]
    · exact hkept id hid hother

/-- What a read answers is up to the list behind its handle. -/
theorem answer_read_congr {handle id : Nat} (htarget : shelf.handles.target handle = some id)
    (htarget' : shelf'.handles.target handle = some id) (hlist : shelf'.list id = shelf.list id)
    (dtype : DType) :
    (shelf'.serve (.read handle dtype : BufferRequest Device)).1 =
      (shelf.serve (.read handle dtype : BufferRequest Device)).1 := by
  simp only [serve, htarget, htarget', hlist]
  split
  · rfl
  · rfl

end Shelf

/-! ## The program -/

/-- A workspace, and the handles that a program holds on the buffers in it. -/
structure Holdings (World Device : Type) where
  workspace : Workspace World Device
  handles : Handles

namespace Holdings

variable {World Device Client : Type} {α : Type}

/-- No buffers and no handles. -/
def initial (world : World) : Holdings World Device :=
  { workspace := { world, pool := .empty }, handles := .empty }

/-- The buffer a handle stands for. -/
def buffer? (h : Holdings World Device) (handle : Nat) : Option (Buffer Device) :=
  (h.handles.target handle).bind (fun id => (h.workspace.pool.find? id).map SharedBuffer.buffer)

def onWorkspace (e : Effect (Workspace World Device) α) : Effect (Holdings World Device) α :=
  .ofFun fun h =>
    let (answer, workspace) := e.perform h.workspace
    (answer, { h with workspace })

/-- Do something with the buffer a handle stands for. -/
def withBuffer (handle : Nat) (use : Buffer Device → Effect World BufferAnswer) :
    Effect (Holdings World Device) BufferAnswer := do
  match ← Effect.inspect (fun h => h.buffer? handle) with
  | none => return .unknown
  | some buffer => onWorkspace (Workspace.onWorld (use buffer))

/-- Change the workspace and the handles where a handle stands for a buffer. -/
def change (handle : Nat) (f : Nat → Holdings World Device → BufferAnswer × Holdings World Device) :
    Effect (Holdings World Device) BufferAnswer :=
  .updateGet fun h =>
    match h.handles.target handle with
    | none => (.unknown, h)
    | some id => f id h

end Holdings

/-- What the library does for a request. -/
def BufferRequest.carryOut {World Device Client : Type} (b : Backend World Device Client) :
    BufferRequest Device → Effect (Holdings World Device) BufferAnswer
  | make device plan => do
      let id ← Holdings.onWorkspace (Workspace.adopt (plan.make b device))
      .updateGet fun h => (.handle h.handles.next, { h with handles := h.handles.add id })
  | write handle elements =>
      Holdings.withBuffer handle fun buffer => do
        buffer.write b elements.toSlice
        return .done
  | read handle dtype =>
      Holdings.withBuffer handle fun buffer => do
        return .bytes (← buffer.read b dtype)
  | clone handle =>
      Holdings.change handle fun id h =>
        (.handle h.handles.next,
          { workspace := h.workspace.clone id, handles := h.handles.add id })
  | drop handle =>
      Holdings.change handle fun id h =>
        (.done, { workspace := h.workspace.drop b id, handles := h.handles.remove handle })

end DeviceCopy
