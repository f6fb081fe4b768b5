import DeviceCopy.Checked
import DeviceCopy.Memory

/-!
# Buffer registry

Buffers of the WebGPU backend have no addresses. Each is registered under a handle from a counter
that only ever goes up. Reserving a handle, entering a buffer and removing one are separate steps,
as several threads may take them in any interleaving. Handle zero stands for no buffer.
-/

set_option autoImplicit false

namespace DeviceCopy

namespace WebGpu

/-- Memory of one buffer: its size, and its bytes from address zero on. -/
structure GpuBuffer where
  size : Nat
  contents : Memory

/-- The registered buffers and the next handle. -/
structure Registry where
  next : Nat
  buffers : List (Nat × GpuBuffer)

namespace Registry

/-- No buffers; handles are counted from the given one. -/
def startingAt (first : Nat) : Registry := { next := first, buffers := [] }

def reserve (r : Registry) : Nat × Registry :=
  (r.next, { r with next := (r.next + 1) % wordLimit })

def insert (r : Registry) (handle : Nat) (buffer : GpuBuffer) : Registry :=
  { r with buffers := (handle, buffer) :: r.buffers.filter (fun entry => entry.1 ≠ handle) }

def contains (r : Registry) (handle : Nat) : Bool := r.buffers.any (fun entry => entry.1 == handle)

def remove (r : Registry) (handle : Nat) : Registry :=
  { r with buffers := r.buffers.filter (fun entry => entry.1 ≠ handle) }

def find? (r : Registry) (handle : Nat) : Option GpuBuffer :=
  if handle = 0 then none else r.buffers.lookup handle

def modify (r : Registry) (handle : Nat) (f : Memory → Memory) : Registry :=
  { r with
    buffers := r.buffers.map (fun entry =>
      if entry.1 = handle then (entry.1, { entry.2 with contents := f entry.2.contents })
      else entry) }

end Registry

end WebGpu

end DeviceCopy
