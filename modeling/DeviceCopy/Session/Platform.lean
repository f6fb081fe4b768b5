import DeviceCopy.Emulated.Backend
import DeviceCopy.Session.Step
import DeviceCopy.WebGpu.Backend

/-!
# Platforms

A platform is a backend together with what a session needs beyond it: how devices are chosen and
clients are opened and closed, the allocator of a client, and what of the backend's state may be
shown. There are three: the emulated device, WebGPU and the recorder.
-/

set_option autoImplicit false

namespace DeviceCopy

namespace Session

/-- A backend with the means to run a session on it. -/
structure Platform (World Device Client : Type) extends Backend World Device Client where
  /-- The device of a choice. -/
  deviceOf : DeviceChoice → Device
  /-- Obtain a client. -/
  openClient : ClientKind → Device → World → Client × World
  /-- The last handle on a client goes away. -/
  closeClient : Client → World → World
  /-- Whether two handles are on one client. -/
  sameClient : Client → Client → Bool
  /-- Allocate through a client. -/
  clientAllocate : Client → (size : Nat) → Effect World Nat
  /-- Deallocate through a client. -/
  clientDeallocate : Client → (pointer size : Nat) → World → World
  /-- Limits of the device of a client's allocator, if it keeps one. -/
  allocatorLimits : Client → Option Limits
  /-- The number of a client's stream, where clients show it. -/
  streamOf : Client → Option Nat
  /-- Text that shows a client, given the number its stream goes by. -/
  clientText : Client → (streamNumber : Nat) → World → Option String
  /-- Whether a pointer is an address. -/
  isAddress : Nat → Bool
  /-- Whether a name keeps standing for its handle when the memory has been given back. -/
  keepsStaleHandles : Bool
  /-- Whether pointers are the same in every run. -/
  hasStablePointers : Bool
  /-- The events and requests since the last time they were taken. -/
  takeTrace : World → (Array Event × Array Recorder.Call) × World
  /-- Serve allocations at an address from now on. -/
  placeAt : Nat → World → World
  /-- Plant a failure. -/
  plant : Recorder.Hook → String → World → World

/-- Sessions on the emulated device. Only a client with a lane of its own is ever closed. -/
def emulated : Platform Emulated.World Emulated.Device Emulated.Client where
  toBackend := Emulated.backend
  deviceOf choice := { stated := choice.limits }
  openClient kind device w :=
    match kind with
    | .own => w.newClient device
    | .workerless => w.openLane false device
    | .shared => w.defaultClient device
  closeClient client w :=
    if w.defaults.any (fun entry => entry.2.lane == client.lane) then w
    else w.closeLane client.lane
  sameClient a b := a.lane == b.lane
  clientAllocate _ size := Emulated.allocate size
  clientDeallocate _ := Emulated.deallocate
  allocatorLimits client := some client.device.limits
  streamOf client := some client.lane
  clientText client streamNumber w := some (client.text streamNumber w)
  isAddress _ := true
  keepsStaleHandles := false
  hasStablePointers := false
  takeTrace w := ((w.events, #[]), { w with events := #[] })
  placeAt _ w := w
  plant _ _ w := w

/-- Sessions on WebGPU devices. A handle other than the null handle is no address. -/
def webGpu : Platform WebGpu.World WebGpu.Device WebGpu.Client where
  toBackend := WebGpu.backend
  deviceOf choice := .ofIndex choice.index
  openClient kind device w :=
    match kind with
    | .own | .workerless => w.newClient device
    | .shared => w.defaultClient device
  closeClient _ w := w
  sameClient a b := a.queue == b.queue
  clientAllocate _ size := WebGpu.allocate size
  clientDeallocate _ handle _ := WebGpu.deallocate handle
  allocatorLimits _ := none
  streamOf _ := none
  clientText client _ _ := some client.text
  isAddress pointer := pointer == 0
  keepsStaleHandles := true
  hasStablePointers := false
  takeTrace w := ((w.events, #[]), { w with events := #[] })
  placeAt _ w := w
  plant _ _ w := w

def recorder : Platform Recorder.World Recorder.Device Recorder.Client where
  toBackend := Recorder.backend
  deviceOf choice := { index := choice.index, stated := choice.limits }
  openClient _ device w := ({ device }, w)
  closeClient _ w := w
  sameClient a b := a == b
  clientAllocate _ size := Recorder.allocate size
  clientDeallocate _ := Recorder.deallocate
  allocatorLimits _ := none
  streamOf _ := none
  clientText _ _ _ := none
  isAddress _ := true
  keepsStaleHandles := false
  hasStablePointers := true
  takeTrace w := ((w.events, w.calls), { w with events := #[], calls := #[] })
  placeAt := Recorder.World.placeAt
  plant := Recorder.World.plant

/-! ## Where sessions start -/

/-- An emulated device that nobody has used, on a system that never places memory twice. -/
def emulatedStart : Emulated.World := .initial .prompt

/-- The start of a run of `count` numbers, none of them zero and none of them taken. Of one run more
than there are taken numbers, at least one is clear. -/
def clearStart (taken : List Nat) (count : Nat) : Nat :=
  let start (run : Nat) : Nat := (run + 1) * count
  let isClear (run : Nat) : Bool :=
    taken.all (fun number => number < start run || start run + count ≤ number)
  start (((List.range (taken.length + 1)).find? isClear).getD 0)

/-- WebGPU devices served by the adapter that carries nothing out. Only the default client of the
first device has been opened. A step takes at most one handle off the counter, which starts where no
place of the requests happens to write out a handle of the session. -/
def webGpuStart (requests : List Request) : WebGpu.World :=
  let taken := requests.flatMap (fun request => request.step.places.map Place.literal)
  let first := clearStart taken (requests.length + 1)
  let w := WebGpu.World.initial (fun _ => .noop) first
  { (w.defaultClient (.ofIndex 0)).2 with events := #[] }

def recorderStart : Recorder.World := .initial

end Session

end DeviceCopy
