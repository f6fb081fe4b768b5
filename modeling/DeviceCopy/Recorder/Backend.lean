import DeviceCopy.Backend

/-!
# The recorder

A backend without memory that writes down what it is asked to do. It shows the order of requests the
code above a backend makes, and it can be told to fail: a fault planted on a hook strikes the next
call there, once, after the call has been written down.
-/

set_option autoImplicit false

namespace DeviceCopy

namespace Recorder

/-- Places where a failure can be planted. -/
inductive Hook
  | allocate
  | deallocate
  | copyToDevice
  | copyFromDevice
  | enqueue
  | checkLastError
  | synchronize
  deriving DecidableEq, Repr

/-- A request, as written down. -/
inductive Call
  | allocate (size : Nat)
  | deallocate (pointer size : Nat)
  | copyToDevice (data : Bytes) (pointer device : Nat)
  | copyFromDevice (length pointer device : Nat) (wasZero : Bool)
  | enqueue (launch : Launch)
  | checkLastError
  | synchronize
  deriving DecidableEq, Repr

def Call.hook : Call → Hook
  | allocate .. => .allocate
  | deallocate .. => .deallocate
  | copyToDevice .. => .copyToDevice
  | copyFromDevice .. => .copyFromDevice
  | enqueue .. => .enqueue
  | checkLastError => .checkLastError
  | synchronize => .synchronize

/-- A device, with limits if it states any. -/
structure Device where
  index : Nat
  stated : Option Limits
  deriving DecidableEq, Repr

/-- A handle on a device. All handles on a device are alike. -/
structure Client where
  device : Device
  deriving DecidableEq, Repr

/-- What has been written down, and what is to happen. -/
structure World where
  /-- The address every allocation is served at. -/
  address : Nat
  /-- Failures planted and not yet used. -/
  planted : List (Hook × String)
  calls : Array Call
  events : Array Event

namespace World

def initial : World := { address := 0, planted := [], calls := #[], events := #[] }

def tell (event : Event) (w : World) : World := { w with events := w.events.push event }

/-- Serve allocations at an address from now on. -/
def placeAt (address : Nat) (w : World) : World := { w with address }

/-- Plant a failure on a hook, in place of one that has not been used. -/
def plant (hook : Hook) (text : String) (w : World) : World :=
  { w with planted := (hook, text) :: w.planted.filter (fun entry => entry.1 ≠ hook) }

/-- Write a request down and use up the failure planted where it comes in. -/
def note (call : Call) (w : World) : Option String × World :=
  (w.planted.lookup call.hook,
    { w with
      calls := w.calls.push call
      planted := w.planted.filter (fun entry => entry.1 ≠ call.hook) })

end World

/-- Write a request down, and fail if a failure was planted. -/
def request (call : Call) : Effect World Unit :=
  .ofFun fun w =>
    match w.note call with
    | (none, w) => (.ok (), w)
    | (some text, w) => (.error (.error (.internal text)), w)

/-- Every allocation is served at the chosen address. -/
def allocate (size : Nat) : Effect World Nat := do
  request (.allocate size)
  Effect.inspect World.address

/-- Releasing memory cannot fail; a failure planted here is used up without effect. -/
def deallocate (pointer size : Nat) (w : World) : World := (w.note (.deallocate pointer size)).2

/-- Bytes as read from a pointer: each is the low byte of its own address. -/
def addressBytes (pointer length : Nat) : Bytes :=
  (List.range length).map (fun i => UInt8.ofNat (pointer + i))

def backend : Backend World Device Client where
  name := "record"
  deviceId := Device.index
  deviceName device := s!"Device({device.index})"
  limits device := device.stated.getD .standard
  wideAligned := isWideAligned
  allocate _ size := allocate size
  deallocate _ := deallocate
  copyToDevice device bytes pointer := request (.copyToDevice bytes pointer device.index)
  copyFromDevice device pointer host := do
    request (.copyFromDevice host.length pointer device.index (host.all (· == 0)))
    return addressBytes pointer host.length
  clientDevice := Client.device
  enqueue _ launch := request (.enqueue launch)
  checkLastError _ := request .checkLastError
  synchronize _ := request .synchronize
  tell := World.tell

end Recorder

end DeviceCopy
