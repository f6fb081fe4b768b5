import DeviceCopy.Buffer.Pool
import DeviceCopy.Recorder.Backend

/-!
# Session steps

A session works on one backend by a list of steps over named clients, buffers and pieces of memory.
This module holds the vocabulary: what a step can ask for and what the report on it can say.
-/

set_option autoImplicit false

namespace DeviceCopy

namespace Session

inductive ClientKind
  | own
  | shared
  /-- A client of its own whose stream finds no worker. -/
  | workerless
  deriving DecidableEq, Repr

structure DeviceChoice where
  index : Nat
  limits : Option Limits
  deriving DecidableEq, Repr

def DeviceChoice.standard : DeviceChoice := { index := 0, limits := none }

/-- Where a device pointer starts from. -/
inductive Base
  | buffer (name : String)
  | memory (name : String)
  | raw (pointer : Nat)
  deriving DecidableEq, Repr

/-- A device pointer: a base and a distance from it in bytes. -/
structure Place where
  base : Base
  offset : Nat
  deriving DecidableEq, Repr

/-- The pointer of a place whose base is a number or the null pointer. -/
def Place.literal (place : Place) : Nat :=
  match place.base with
  | .raw pointer => (pointer + place.offset) % wordLimit
  | .buffer _ | .memory _ => place.offset % wordLimit

inductive Entry
  | scalar (dtype : DType)
  | vector (dtype : DType)
  | float
  | floatLooped
  | blocked (sweep : Sweep) (factor : Nat)
  | withStrategy (strategy : Strategy) (dtype : DType)
  deriving DecidableEq, Repr

inductive Step
  | openClient (name : String) (kind : ClientKind) (device : DeviceChoice)
  | cloneClient (client name : String)
  | dropClient (client : String)
  | describeClient (client : String)
  | synchronize (client : String)
  | checkLastError (client : String)
  | zeros (name : String) (dtype : DType) (length : Nat) (device : DeviceChoice)
  | ofSlice (name : String) (slice : HostSlice) (device : DeviceChoice)
  | cloneBuffer (buffer name : String)
  | dropBuffer (buffer : String)
  | describeBuffer (buffer : String)
  | write (buffer : String) (slice : HostSlice)
  | read (buffer : String) (dtype : Option DType)
  | copyBuffer (client src dst : String) (count : Nat) (strategy : Option Strategy)
  | copy (client : String) (entry : Entry) (count : Nat) (src dst : Place)
  | enqueue (client : String) (kernel : Kernel) (geometry : Geometry) (count : Nat)
      (src dst : Place)
  | allocate (name : String) (size : Nat) (client : Option String)
  | deallocate (memory : String) (size : Option Nat) (client : Option String)
  | toDevice (dst : Place) (bytes : Bytes)
  | fromDevice (src : Place) (length : Nat)
  | plant (hook : Recorder.Hook) (text : String)
  deriving Repr

def Step.places : Step → List Place
  | .copy _ _ _ src dst => [src, dst]
  | .enqueue _ _ _ _ src dst => [src, dst]
  | .toDevice dst _ => [dst]
  | .fromDevice src _ => [src]
  | _ => []

/-- A step, and the address at which a recorder serves allocations from this step on. -/
structure Request where
  address : Option Nat
  step : Step
  deriving Repr

/-! ## Reports -/

structure ClientReport where
  deviceId : Nat
  deviceName : String
  limits : Limits
  allocatorLimits : Option Limits
  text : Option String
  deriving DecidableEq, Repr

structure BufferReport where
  length : Nat
  dtype : DType
  sizeInBytes : Nat
  isNull : Bool
  /-- Whether the pointer is a multiple of 64, where pointers are addresses. -/
  aligned : Option Bool
  deviceId : Nat
  text : String
  deriving DecidableEq, Repr

inductive Answer
  | nothing
  | strategy (used : Strategy)
  | data (bytes : Bytes)
  | client (report : ClientReport)
  | buffer (report : BufferReport)
  | memory (isNull : Bool) (aligned : Option Bool)
  deriving DecidableEq, Repr

inductive Halt
  /-- The library answered with a failure. -/
  | failed (failure : Failure)
  /-- The step asks for something the session does not have. -/
  | refused (reason : String)
  deriving DecidableEq, Repr

/-- Why a step did not succeed, as it is reported. -/
inductive Setback
  | error (kind message : String)
  | fault (f : Fault)
  | refused (reason : String)
  deriving DecidableEq, Repr

inductive LogMode
  | none
  /-- All but those that depend on what a shared client did before. -/
  | calls
  | all
  deriving DecidableEq, Repr

def LogMode.includes (mode : LogMode) (event : Event) : Bool :=
  match mode with
  | .none => false
  | .calls => !event.isFirstUse
  | .all => true

structure StepReport where
  outcome : Except Setback Answer
  events : List Event
  calls : List Recorder.Call

structure Report where
  steps : List StepReport
  /-- Requests made when the buffers left at the end are dropped. -/
  closing : List Recorder.Call

end Session

end DeviceCopy
