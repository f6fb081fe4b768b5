import DeviceCopy.Backend

/-!
# Device buffers

A buffer owns a run of elements of one type on one device. Its size in bytes is checked once, when
it is made; from then on pointer, length, element type and device never change. Host data crosses
over as a `HostSlice`, whole elements in memory order.
-/

set_option autoImplicit false

namespace DeviceCopy

/-- Host-side elements of one type, as the bytes they have in memory. -/
structure HostSlice where
  dtype : DType
  bytes : Bytes
  deriving DecidableEq, Repr

def HostSlice.length (s : HostSlice) : Nat := s.bytes.length / s.dtype.size

/-- Memory of a number of elements on a device. -/
structure Buffer (Device : Type) where
  pointer : Nat
  length : Nat
  dtype : DType
  device : Device
  deriving DecidableEq, Repr

namespace Buffer

variable {World Device Client : Type}

/-- Bytes a number of elements takes. A size beyond the word range can never be allocated. -/
def byteLength (length : Nat) (dtype : DType) : Except Error Nat :=
  if length * dtype.size < wordLimit then .ok (length * dtype.size)
  else .error (.outOfMemory maxWord)

def sizeInBytes (buffer : Buffer Device) : Nat := buffer.length * buffer.dtype.size

def allocate (b : Backend World Device Client) (device : Device) (dtype : DType) (length : Nat) :
    Effect World (Buffer Device) := do
  let size ← Effect.answer (byteLength length dtype)
  let pointer ← b.allocate device size
  return { pointer, length, dtype, device }

/-- Give the memory of a buffer back, if it has any. -/
def release (b : Backend World Device Client) (buffer : Buffer Device) (w : World) : World :=
  if buffer.pointer = 0 then w
  else b.deallocate buffer.device buffer.pointer buffer.sizeInBytes w

/-- Fill a buffer that nobody else has seen yet. If that fails its memory is given back. -/
def fillOrRelease (b : Backend World Device Client) (buffer : Buffer Device) (bytes : Bytes) :
    Effect World (Buffer Device) :=
  .ofFun fun w =>
    match (b.copyToDevice buffer.device bytes buffer.pointer).perform w with
    | (.ok (), w) => (.ok buffer, w)
    | (.error failure, w) => (.error failure, buffer.release b w)

/-- A buffer of zero elements. An empty one is not transferred to. -/
def zeros (b : Backend World Device Client) (device : Device) (dtype : DType) (length : Nat) :
    Effect World (Buffer Device) := do
  let buffer ← allocate b device dtype length
  -- The zeros are written even where allocation clears the memory already.
  if buffer.sizeInBytes = 0 then return buffer
  else buffer.fillOrRelease b (List.replicate buffer.sizeInBytes 0)

/-- A buffer that holds a copy of host elements. -/
def ofSlice (b : Backend World Device Client) (device : Device) (slice : HostSlice) :
    Effect World (Buffer Device) := do
  let buffer ← allocate b device slice.dtype slice.length
  buffer.fillOrRelease b slice.bytes

/-- Answer with an error unless the buffer holds elements of the given type. -/
def expectDType (buffer : Buffer Device) (dtype : DType) : Except Error Unit :=
  if dtype = buffer.dtype then .ok () else .error (.dtypeMismatch dtype buffer.dtype)

def write (b : Backend World Device Client) (buffer : Buffer Device) (slice : HostSlice) :
    Effect World Unit := do
  Effect.answer (buffer.expectDType slice.dtype)
  Effect.failIf (buffer.length < slice.length) (.bufferTooSmall slice.length buffer.length)
  b.copyToDevice buffer.device slice.bytes buffer.pointer

def read (b : Backend World Device Client) (buffer : Buffer Device) (dtype : DType) :
    Effect World Bytes := do
  Effect.answer (buffer.expectDType dtype)
  b.copyFromDevice buffer.device buffer.pointer (List.replicate buffer.sizeInBytes 0)

def text (buffer : Buffer Device) (backend pointer : String) (handles : Nat) : String :=
  s!"DeviceBuffer \x7b backend: \"{backend}\", ptr: \"0x{pointer}\", len: {buffer.length}, " ++
    s!"dtype: {buffer.dtype.label}, refs: {handles} \x7d"

end Buffer

end DeviceCopy
