import DeviceCopy.Buffer.Copy

/-!
# Shared buffers

Buffers are shared by handles: making a buffer yields the first handle, cloning adds one, dropping
takes one away, and the memory is given back with the last. A `Workspace` is a world together with
the buffers alive in it.
-/

set_option autoImplicit false

namespace DeviceCopy

/-- A buffer and the number of handles on it. -/
structure SharedBuffer (Device : Type) where
  buffer : Buffer Device
  handles : Nat
  deriving DecidableEq, Repr

/-- The buffers alive, each under the number it was given when it was made. -/
structure Pool (Device : Type) where
  entries : List (Nat × SharedBuffer Device)
  next : Nat
  deriving DecidableEq, Repr

namespace Pool

variable {Device : Type}

def empty : Pool Device := { entries := [], next := 0 }

def find? (pool : Pool Device) (id : Nat) : Option (SharedBuffer Device) := pool.entries.lookup id

def insert (pool : Pool Device) (buffer : Buffer Device) : Nat × Pool Device :=
  (pool.next, { entries := (pool.next, { buffer, handles := 1 }) :: pool.entries
                next := pool.next + 1 })

def alter (pool : Pool Device) (id : Nat) (f : SharedBuffer Device → SharedBuffer Device) :
    Pool Device :=
  { pool with
    entries := pool.entries.map (fun entry => if entry.1 = id then (entry.1, f entry.2) else entry) }

def erase (pool : Pool Device) (id : Nat) : Pool Device :=
  { pool with entries := pool.entries.filter (fun entry => entry.1 ≠ id) }

def retain (pool : Pool Device) (id : Nat) : Pool Device :=
  pool.alter id (fun shared => { shared with handles := shared.handles + 1 })

/-- Take a handle away. With the last handle the buffer leaves the pool and is the answer. -/
def release (pool : Pool Device) (id : Nat) : Option (Buffer Device) × Pool Device :=
  match pool.find? id with
  | none => (none, pool)
  | some shared =>
      -- Every entry has at least one handle, so this is the last one.
      if shared.handles ≤ 1 then (some shared.buffer, pool.erase id)
      else (none, pool.alter id (fun shared => { shared with handles := shared.handles - 1 }))

end Pool

structure Workspace (World Device : Type) where
  world : World
  pool : Pool Device

namespace Workspace

variable {World Device Client : Type} {α : Type}

def onWorld (e : Effect World α) : Effect (Workspace World Device) α :=
  .ofFun fun ws =>
    let (answer, world) := e.perform ws.world
    (answer, { ws with world })

/-- Enter a buffer that an effect on the world makes. -/
def adopt (e : Effect World (Buffer Device)) : Effect (Workspace World Device) Nat := do
  let buffer ← onWorld e
  .updateGet fun ws =>
    let (id, pool) := ws.pool.insert buffer
    (id, { ws with pool })

def zeros (b : Backend World Device Client) (device : Device) (dtype : DType) (length : Nat) :
    Effect (Workspace World Device) Nat :=
  adopt (Buffer.zeros b device dtype length)

def ofSlice (b : Backend World Device Client) (device : Device) (slice : HostSlice) :
    Effect (Workspace World Device) Nat :=
  adopt (Buffer.ofSlice b device slice)

def clone (id : Nat) (ws : Workspace World Device) : Workspace World Device :=
  { ws with pool := ws.pool.retain id }

/-- Take a handle on a buffer away, and with the last one give its memory back. -/
def drop (b : Backend World Device Client) (id : Nat) (ws : Workspace World Device) :
    Workspace World Device :=
  match ws.pool.release id with
  | (none, pool) => { ws with pool }
  | (some buffer, pool) => { world := buffer.release b ws.world, pool }

end Workspace

end DeviceCopy
