import DeviceCopy.Error
import DeviceCopy.Kernel.Copy

/-!
# Events

What the library tells an observer while it works: launches as they are enqueued, rejections, and
the few occasions on which a backend has to do something unusual. Events are typed; level, wording
and field names are decided here and nowhere else.
-/

set_option autoImplicit false

namespace DeviceCopy

inductive Level
  | debug
  | warn
  | error
  deriving DecidableEq, Repr

def Level.name : Level → String
  | debug => "DEBUG"
  | warn => "WARN"
  | error => "ERROR"

/-- Occasions worth telling. -/
inductive Event
  /-- A copy is about to be enqueued. -/
  | enqueueCopy (backend : String) (kernel : Kernel) (count : Nat) (geometry : Geometry)
  /-- A launch was rejected and the reason recorded. -/
  | launchRejected (reason : Error)
  /-- A shader module is compiled. -/
  | compilingModule (name : String)
  /-- A WebGPU client came into being. -/
  | clientCreated (device : Nat) (adapter : String) (maxGroups : Nat)
  /-- A handle was released that names no buffer. -/
  | unknownBuffer (handle : Nat)
  /-- Memory was released with a size no allocation can have. -/
  | invalidLayout (pointer size : Nat)
  /-- A stream has no worker, so its jobs run on the caller. -/
  | runningInline (stream : Nat)
  deriving DecidableEq, Repr

/-- Value of an event field. -/
inductive FieldValue
  | number (value : Nat)
  | text (value : String)
  /-- A number that only identifies something within one run. -/
  | identity (value : Nat)
  deriving DecidableEq, Repr

namespace Event

def level : Event → Level
  | enqueueCopy .. | compilingModule .. | clientCreated .. => .debug
  | unknownBuffer .. | invalidLayout .. | runningInline .. => .warn
  | launchRejected .. => .error

def message : Event → String
  | enqueueCopy .. => "enqueue copy"
  | launchRejected .. => "kernel launch rejected"
  | compilingModule .. => "compiling WGSL module"
  | clientCreated .. => "created WebGPU client"
  | unknownBuffer .. => "deallocating unknown WebGPU buffer"
  | invalidLayout .. => "cpu deallocate: invalid layout, leaking"
  | runningInline .. => "cpu stream worker unavailable, running inline"

/-- What sets one enqueued kernel apart from another in a log record. -/
def kernelFields : Kernel → List (String × FieldValue)
  | .scalar dtype => [("strategy", .text Strategy.scalar.name), ("dtype", .text dtype.shortName)]
  | .vector dtype => [("strategy", .text Strategy.vector.name), ("dtype", .text dtype.shortName)]
  | .blocked sweep factor => [("strategy", .text sweep.name), ("k", .number factor)]

def fields : Event → List (String × FieldValue)
  | enqueueCopy backend kernel count geometry =>
      ("backend", .text backend) :: kernelFields kernel ++
        [("n", .number count), ("groups", .number geometry.groups),
          ("threads", .number geometry.threadsPerGroup)]
  | launchRejected reason => [("error", .text reason.message)]
  | compilingModule name => [("module", .text name)]
  | clientCreated device adapter maxGroups =>
      [("device", .number device), ("adapter", .text adapter), ("max_groups", .number maxGroups)]
  | unknownBuffer handle => [("handle", .identity handle)]
  | invalidLayout pointer size => [("ptr", .identity pointer), ("size_bytes", .number size)]
  | runningInline stream => [("stream", .identity stream)]

/-- Whether the event depends on what was done with a shared client before. -/
def isFirstUse : Event → Bool
  | compilingModule .. | clientCreated .. => true
  | _ => false

end Event

end DeviceCopy
