import DeviceCopy.Effect
import DeviceCopy.Event
import DeviceCopy.Kernel.Launch
import DeviceCopy.Launch.Limits

/-!
# Backends

What the copy entry points and the device buffers ask of a backend: memory, transfers, a stream that
takes kernels, and a query for launch errors. The state of a backend is a value of its `World` type,
threaded through every operation and kept also when an operation fails. Everything above this module
is written once, for any backend.
-/

set_option autoImplicit false

namespace DeviceCopy

/-- A backend: devices, clients and what can be done with them. A `Device` names a device and its
limits; a `Client` is a handle on a stream of one device. -/
structure Backend (World Device Client : Type) where
  name : String
  /-- Number of a device. Devices with equal numbers are the same device. -/
  deviceId : Device → Nat
  deviceName : Device → String
  limits : Device → Limits
  /-- Whether the wide kernels may be launched on a pointer. -/
  wideAligned : Nat → Bool
  /-- Obtain zeroed device memory; the answer is its pointer. -/
  allocate : Device → (size : Nat) → Effect World Nat
  deallocate : Device → (pointer size : Nat) → World → World
  copyToDevice : Device → Bytes → (pointer : Nat) → Effect World Unit
  /-- Move bytes from a device pointer to the host: what the host range holds afterwards, given what
  it held before. -/
  copyFromDevice : Device → (pointer : Nat) → Bytes → Effect World Bytes
  clientDevice : Client → Device
  enqueue : Client → Launch → Effect World Unit
  /-- Hand over and clear the most recent launch error of the client's stream. -/
  checkLastError : Client → Effect World Unit
  /-- Wait until the client's stream has nothing left to do. -/
  synchronize : Client → Effect World Unit
  tell : Event → World → World

def Backend.clientLimits {World Device Client : Type} (b : Backend World Device Client)
    (client : Client) : Limits :=
  b.limits (b.clientDevice client)

end DeviceCopy
