import DeviceCopy.Proofs.History
import DeviceCopy.Proofs.WebGpu.Storage
import Mathlib.Logic.Function.Basic

/-!
# Threads around the registry

Any number of threads request memory, give it back and write to it, with whatever handles they like.
`Callers` is what they all work on together with where each of them stands. A turn of a thread ends
where another can come in between: a handle is reserved in one turn and the buffer entered under it in
another, clients are opened in turns of their own, and a buffer is looked up before it is written to.

A thread that is left alone does what the request does in one piece (`run_allocate`,
`run_deallocate`, `run_write`). The history says what has happened, the latest deed first; no turn
reads it.
-/

set_option autoImplicit false

namespace DeviceCopy

namespace WebGpu

/-- Make sure of the client that a request goes through: the default client of a device, or one that
is open already. -/
def World.opened (through : Option Device) (w : World) : World :=
  through.elim w (fun device => (w.defaultClient device).2)

def allocateThrough : Option Device → Nat → Effect World Nat
  | none, size => allocate size
  | some device, size => allocateOn device size

def deallocateThrough : Option Device → Nat → World → World
  | none, handle, w => deallocate handle w
  | some device, handle, w => deallocateOn device handle w

namespace Callers

inductive Request
  | allocate (through : Option Device) (size : Nat)
  /-- The size that is given back is not looked at. -/
  | deallocate (through : Option Device) (handle size : Nat)
  | write (device : Device) (bytes : Bytes) (handle : Nat)

/-- How far a thread has got with its current request. -/
inductive Stage
  | idle
  | reserving (size : Nat)
  /-- The handle is reserved and the buffer is still to be entered under it. -/
  | entering (size handle : Nat) (buffer : GpuBuffer)
  | removing (handle : Nat)
  | lookingUp (bytes : Bytes) (handle : Nat)
  | writing (bytes : Bytes) (handle : Nat)

/-- A thread with the requests it has not begun. -/
structure Thread where
  todo : List Request
  stage : Stage

/-- What has happened. -/
inductive Deed
  | reserved (handle : Nat)
  /-- An allocation has handed out a handle, with a buffer under it unless it was for no bytes. -/
  | returned (size handle : Nat)
  /-- An allocation was too large to be rounded up. -/
  | gaveUp (size : Nat)
  | removed (handle : Nat)
  | rejected (handle : Nat)
  | wrote (bytes : Bytes) (handle : Nat)
  deriving DecidableEq, Repr

/-- A size in whole wide words. -/
def roundedSize (size : Nat) : Checked Nat := do
  let words ← Checked.ceilDiv size wideWordBytes
  Checked.mul words wideWordBytes

/-- A buffer as it is created, all zeros. -/
def created (size : Nat) : GpuBuffer := { size, contents := .empty }

/-- What a thread does when it is its turn: where it stands then, what becomes of the world, and what
has happened. -/
def Thread.turn (t : Thread) (w : World) : Thread × World × List Deed :=
  match t.stage with
  | .idle =>
      match t.todo with
      | [] => (t, w, [])
      | .allocate through size :: rest =>
          if size = 0 then (⟨rest, .idle⟩, w, [.returned 0 0])
          else (⟨rest, .reserving size⟩, w.opened through, [])
      | .deallocate through handle _ :: rest =>
          if handle = 0 then (⟨rest, .idle⟩, w, [])
          else (⟨rest, .removing handle⟩, w.opened through, [])
      | .write device bytes handle :: rest =>
          if bytes.isEmpty ∨ handle = 0 then (⟨rest, .idle⟩, w, [])
          else (⟨rest, .lookingUp bytes handle⟩, w.opened (some device), [])
  | .reserving size =>
      match roundedSize size with
      | .error _ => (⟨t.todo, .idle⟩, w, [.gaveUp size])
      | .ok rounded =>
          let (handle, registry) := w.registry.reserve
          (⟨t.todo, .entering size handle (created rounded)⟩, { w with registry },
            [.reserved handle])
  | .entering size handle buffer =>
      (⟨t.todo, .idle⟩, { w with registry := w.registry.insert handle buffer },
        [.returned size handle])
  | .removing handle => (⟨t.todo, .idle⟩, deallocate handle w, [.removed handle])
  | .lookingUp bytes handle =>
      match w.registry.find? handle with
      | none => (⟨t.todo, .idle⟩, w, [.rejected handle])
      | some _ => (⟨t.todo, .writing bytes handle⟩, w, [])
  | .writing bytes handle =>
      (⟨t.todo, .idle⟩,
        { w with registry := w.registry.modify handle (fun m => m.write 0 (padded bytes)) },
        [.wrote bytes handle])

end Callers

/-- The world and the threads that work on it. -/
structure Callers (Name : Type) where
  world : World
  threads : Name → Callers.Thread
  history : List Callers.Deed

namespace Callers

variable {Name : Type}

/-- Threads about to begin their programs, before anything is registered. -/
def start (adapterAt : Nat → Adapter) (programs : Name → List Request) : Callers Name :=
  { world := .initial adapterAt 1, threads := fun i => ⟨programs i, .idle⟩, history := [] }

variable [DecidableEq Name]

/-- One turn of a thread. -/
def step (s : Callers Name) (i : Name) : Callers Name :=
  let (t, world, deeds) := (s.threads i).turn s.world
  { world, threads := Function.update s.threads i t, history := deeds ++ s.history }

/-- Take turns in a given order. -/
def run (order : List Name) (s : Callers Name) : Callers Name := order.foldl step s

/-- What every turn preserves holds however the turns come. -/
theorem run_induction {P : Callers Name → Prop} (hstep : ∀ s i, P s → P (s.step i))
    {s : Callers Name} (h : P s) (order : List Name) : P (s.run order) := by
  induction order generalizing s with
  | nil => exact h
  | cons i rest ih => exact ih (hstep s i h)

/-! ## What a turn can be -/

/-- Everything a thread can do in a turn. -/
inductive Move (w : World) : Thread → Thread → World → List Deed → Prop
  | stay {t : Thread} : Move w t t w []
  | begin {t : Thread} {rest : List Request} {stage : Stage} (through : Option Device)
      (idle : t.stage = .idle) (reserves : ∀ size, stage = .reserving size → 0 < size)
      (clean : ∀ size handle buffer, stage ≠ .entering size handle buffer) :
      Move w t ⟨rest, stage⟩ (w.opened through) []
  | returnNull {t : Thread} {rest : List Request} (idle : t.stage = .idle) :
      Move w t ⟨rest, .idle⟩ w [.returned 0 0]
  | giveUp {t : Thread} {size : Nat} (stage : t.stage = .reserving size)
      (large : wordLimit ≤ roundUpTo wideWordBytes size) :
      Move w t ⟨t.todo, .idle⟩ w [.gaveUp size]
  | reserve {t : Thread} {size : Nat} (stage : t.stage = .reserving size) :
      Move w t
        ⟨t.todo, .entering size w.registry.next (created (roundUpTo wideWordBytes size))⟩
        { w with registry := w.registry.reserve.2 } [.reserved w.registry.next]
  | enter {t : Thread} {size handle : Nat} {buffer : GpuBuffer}
      (stage : t.stage = .entering size handle buffer) :
      Move w t ⟨t.todo, .idle⟩ { w with registry := w.registry.insert handle buffer }
        [.returned size handle]
  | remove {t : Thread} {handle : Nat} (stage : t.stage = .removing handle) :
      Move w t ⟨t.todo, .idle⟩ (deallocate handle w) [.removed handle]
  | reject {t : Thread} {bytes : Bytes} {handle : Nat} (stage : t.stage = .lookingUp bytes handle)
      (unknown : w.registry.find? handle = none) :
      Move w t ⟨t.todo, .idle⟩ w [.rejected handle]
  | find {t : Thread} {bytes : Bytes} {handle : Nat} (stage : t.stage = .lookingUp bytes handle) :
      Move w t ⟨t.todo, .writing bytes handle⟩ w []
  | write {t : Thread} {bytes : Bytes} {handle : Nat} (stage : t.stage = .writing bytes handle) :
      Move w t ⟨t.todo, .idle⟩
        { w with registry := w.registry.modify handle (fun m => m.write 0 (padded bytes)) }
        [.wrote bytes handle]

theorem roundedSize_eq (size : Nat) :
    roundedSize size =
      if roundUpTo wideWordBytes size < wordLimit then .ok (roundUpTo wideWordBytes size)
      else .error .multiplyOverflow := by
  have hwords : Checked.ceilDiv size wideWordBytes =
      .ok ((size + wideWordBytes - 1) / wideWordBytes) :=
    rfl
  unfold roundedSize
  rw [hwords]
  rfl

theorem move_turn (t : Thread) (w : World) :
    Move w t (t.turn w).1 (t.turn w).2.1 (t.turn w).2.2 := by
  unfold Thread.turn
  cases hstage : t.stage with
  | idle =>
    cases htodo : t.todo with
    | nil => exact .stay
    | cons request rest =>
      cases request with
      | allocate through size =>
        simp only
        split
        · exact .returnNull hstage
        · next hsize =>
          refine .begin through hstage (fun size' heq => ?_) nofun
          cases heq
          exact Nat.pos_of_ne_zero hsize
      | deallocate through handle size =>
        simp only
        split
        · exact .begin none hstage nofun nofun
        · exact .begin through hstage nofun nofun
      | write device bytes handle =>
        simp only
        split
        · exact .begin none hstage nofun nofun
        · exact .begin (some device) hstage nofun nofun
  | reserving size =>
    simp only [roundedSize_eq]
    by_cases hfits : roundUpTo wideWordBytes size < wordLimit
    · rw [if_pos hfits]
      exact .reserve hstage
    · rw [if_neg hfits]
      exact .giveUp hstage (Nat.le_of_not_lt hfits)
  | entering size handle buffer => exact .enter hstage
  | removing handle => exact .remove hstage
  | lookingUp bytes handle =>
    cases hfound : w.registry.find? handle with
    | none =>
      simp only [hfound]
      exact .reject hstage hfound
    | some buffer =>
      simp only [hfound]
      exact .find hstage
  | writing bytes handle => exact .write hstage

/-! ## Threads that are left alone -/

section Alone

variable {s : Callers Name} {i : Name} {t : Thread} {through : Option Device}

theorem step_of_turn {t' : Thread} {w' : World} {deeds : List Deed} (h : s.threads i = t)
    (hturn : t.turn s.world = (t', w', deeds)) :
    (s.step i).world = w' ∧ (s.step i).threads i = t' ∧ (s.step i).history = deeds ++ s.history := by
  unfold step
  rw [h, hturn]
  exact ⟨rfl, Function.update_self i t' s.threads, rfl⟩

/-- A thread with nothing left to do changes nothing. -/
theorem step_of_through (h : s.threads i = ⟨[], .idle⟩) : s.step i = s := by
  unfold step
  rw [h]
  have hthreads : Function.update s.threads i ⟨[], .idle⟩ = s.threads := by
    rw [← h, Function.update_eq_self]
  simp only [Thread.turn, hthreads, List.nil_append]

/-- Past the client, an allocation rounds the size up, reserves a handle and enters the buffer. -/
theorem perform_allocateThrough {size : Nat} (hsize : size ≠ 0) (w : World) :
    (allocateThrough through size).perform w =
      match roundedSize size with
      | .error f => (.error (.fault f), w.opened through)
      | .ok rounded =>
          (.ok (w.opened through).registry.next,
            { w.opened through with
              registry := (w.opened through).registry.reserve.2.insert
                (w.opened through).registry.next (created rounded) }) := by
  have hallocate : ∀ v : World, (allocate size).perform v =
      match roundedSize size with
      | .error f => (.error (.fault f), v)
      | .ok rounded =>
          (.ok v.registry.next,
            { v with registry := v.registry.reserve.2.insert v.registry.next (created rounded) }) := by
    intro v
    have hwords : Checked.ceilDiv size wideWordBytes =
        .ok ((size + wideWordBytes - 1) / wideWordBytes) :=
      rfl
    have hrounded : roundedSize size =
        Checked.mul ((size + wideWordBytes - 1) / wideWordBytes) wideWordBytes :=
      rfl
    unfold allocate
    rw [if_neg hsize, hwords, hrounded]
    refine (Effect.perform_bind_ok (Effect.perform_pure _ v)).trans ?_
    cases Checked.mul ((size + wideWordBytes - 1) / wideWordBytes) wideWordBytes with
    | error f => exact Effect.perform_bind_error (Effect.perform_giveUp f v)
    | ok rounded => exact Effect.perform_bind_ok (Effect.perform_pure rounded v)
  cases through with
  | none => exact hallocate w
  | some device =>
    have hrequire : (requireClient device).perform w = (.ok (), w.opened (some device)) := rfl
    unfold allocateThrough allocateOn
    simp only
    rw [if_neg hsize, Effect.perform_bind_ok hrequire]
    exact hallocate _

/-- An allocation that nobody comes in between is one in one piece. -/
theorem run_allocate {size : Nat} (h : s.threads i = ⟨[.allocate through size], .idle⟩) :
    let answered := (allocateThrough through size).perform s.world
    (s.run [i, i, i]).world = answered.2 ∧ (s.run [i, i, i]).threads i = ⟨[], .idle⟩ ∧
      (s.run [i, i, i]).history.head? = some (match answered.1 with
        | .ok handle => .returned size handle
        | .error _ => .gaveUp size) := by
  intro answered
  have hrun : s.run [i, i, i] = ((s.step i).step i).step i := rfl
  rw [hrun]
  by_cases hsize : size = 0
  · subst hsize
    have hanswered : answered = (.ok 0, s.world) := by cases through <;> rfl
    obtain ⟨hworld, hthread, hhistory⟩ := step_of_turn h rfl
    rw [step_of_through hthread, step_of_through hthread, hanswered, hhistory]
    exact ⟨hworld, hthread, rfl⟩
  · have hanswered : answered = _ := perform_allocateThrough hsize s.world
    obtain ⟨hworld, hthread, hhistory⟩ : (s.step i).world = s.world.opened through ∧
        (s.step i).threads i = ⟨[], .reserving size⟩ ∧ (s.step i).history = [] ++ s.history :=
      step_of_turn h (by simp only [Thread.turn, if_neg hsize])
    cases hrounded : roundedSize size with
    | error f =>
      have hturn : Thread.turn ⟨[], .reserving size⟩ (s.step i).world =
          (⟨[], .idle⟩, (s.step i).world, [.gaveUp size]) := by
        simp only [Thread.turn, hrounded]
      obtain ⟨hworld', hthread', hhistory'⟩ := step_of_turn hthread hturn
      rw [step_of_through hthread', hanswered, hrounded, hhistory']
      exact ⟨hworld'.trans hworld, hthread', rfl⟩
    | ok rounded =>
      obtain ⟨hworld', hthread', hhistory'⟩ :=
        step_of_turn hthread (by simp only [Thread.turn, hrounded]; rfl)
      obtain ⟨hworld'', hthread'', hhistory''⟩ := step_of_turn hthread' rfl
      rw [hanswered, hrounded, hhistory'', hworld'', hworld', hworld]
      exact ⟨rfl, hthread'', rfl⟩

/-- So is giving memory back. -/
theorem run_deallocate {handle size : Nat}
    (h : s.threads i = ⟨[.deallocate through handle size], .idle⟩) :
    (s.run [i, i]).world = deallocateThrough through handle s.world ∧
      (s.run [i, i]).threads i = ⟨[], .idle⟩ := by
  have hrun : s.run [i, i] = (s.step i).step i := rfl
  rw [hrun]
  by_cases hhandle : handle = 0
  · subst hhandle
    have hnothing : deallocateThrough through 0 s.world = s.world := by cases through <;> rfl
    obtain ⟨hworld, hthread, -⟩ := step_of_turn h rfl
    rw [step_of_through hthread, hnothing]
    exact ⟨hworld, hthread⟩
  · obtain ⟨hworld, hthread, -⟩ : (s.step i).world = s.world.opened through ∧
        (s.step i).threads i = ⟨[], .removing handle⟩ ∧ (s.step i).history = [] ++ s.history :=
      step_of_turn h (by simp only [Thread.turn, if_neg hhandle])
    obtain ⟨hworld', hthread', -⟩ := step_of_turn hthread rfl
    have hpiece : deallocateThrough through handle s.world =
        deallocate handle (s.world.opened through) := by
      cases through with
      | none => rfl
      | some device => exact if_neg hhandle
    rw [hworld', hworld, hpiece]
    exact ⟨rfl, hthread'⟩

/-- And so is a write. -/
theorem run_write {device : Device} {bytes : Bytes} {handle : Nat}
    (h : s.threads i = ⟨[.write device bytes handle], .idle⟩) :
    (s.run [i, i, i]).world = ((copyToDevice device bytes handle).perform s.world).2 ∧
      (s.run [i, i, i]).threads i = ⟨[], .idle⟩ := by
  have hrun : s.run [i, i, i] = ((s.step i).step i).step i := rfl
  rw [hrun]
  by_cases hnothing : bytes.isEmpty ∨ handle = 0
  · have hpiece : (copyToDevice device bytes handle).perform s.world = (.ok (), s.world) := by
      unfold copyToDevice
      rw [if_pos hnothing]
      rfl
    have hturn : Thread.turn ⟨[.write device bytes handle], .idle⟩ s.world =
        (⟨[], .idle⟩, s.world, []) := by
      simp only [Thread.turn, if_pos hnothing]
    obtain ⟨hworld, hthread, -⟩ := step_of_turn h hturn
    rw [step_of_through hthread, step_of_through hthread, hpiece]
    exact ⟨hworld, hthread⟩
  · obtain ⟨hworld, hthread, -⟩ : (s.step i).world = s.world.opened (some device) ∧
        (s.step i).threads i = ⟨[], .lookingUp bytes handle⟩ ∧ (s.step i).history = [] ++ s.history :=
      step_of_turn h (by simp only [Thread.turn, if_neg hnothing])
    have hregistry : (s.world.opened (some device)).registry = s.world.registry :=
      registry_defaultClient device s.world
    have hfind : (s.step i).world.registry.find? handle = s.world.registry.find? handle := by
      rw [hworld, hregistry]
    obtain ⟨hbytes, hhandle⟩ := not_or.mp hnothing
    cases hfound : s.world.registry.find? handle with
    | none =>
      have hpiece : (copyToDevice device bytes handle).perform s.world =
          (.error (.error (.invalidArgument "dst" (.unregistered handle))),
            s.world.opened (some device)) := by
        unfold copyToDevice
        rw [if_neg hnothing]
        refine (Effect.perform_bind_ok (Effect.perform_update _ s.world)).trans ?_
        refine Effect.perform_bind_error (Effect.perform_bind_error ?_)
        exact perform_requireBuffer_none (hregistry ▸ hfound) "dst"
      have hturn : Thread.turn ⟨[], .lookingUp bytes handle⟩ (s.step i).world =
          (⟨[], .idle⟩, (s.step i).world, [.rejected handle]) := by
        simp only [Thread.turn, hfind.trans hfound]
      obtain ⟨hworld', hthread', -⟩ := step_of_turn hthread hturn
      rw [step_of_through hthread', hpiece]
      exact ⟨hworld'.trans hworld, hthread'⟩
    | some buffer =>
      have hturn : Thread.turn ⟨[], .lookingUp bytes handle⟩ (s.step i).world =
          (⟨[], .writing bytes handle⟩, (s.step i).world, []) := by
        simp only [Thread.turn, hfind.trans hfound]
      obtain ⟨hworld', hthread', -⟩ := step_of_turn hthread hturn
      obtain ⟨hworld'', hthread'', -⟩ := step_of_turn hthread' rfl
      have hbytes' : bytes ≠ [] := by simpa using hbytes
      rw [perform_copyToDevice hbytes' hhandle hfound, hworld'', hworld', hworld, hregistry]
      exact ⟨rfl, hthread''⟩

end Alone

end Callers

end WebGpu

end DeviceCopy
