import DeviceCopy.Checked
import DeviceCopy.DType

/-!
# Errors

Every answer other than success that a copy, a transfer or an allocation can give. An error keeps
the values it is about; `Error.message` writes them out, and `Error.kind` names the sort of error.
A `Failure` is either an error, which the callee chose to answer, or a fault, which it did not.
-/

set_option autoImplicit false

namespace DeviceCopy

inductive ArgumentProblem
  | nullPointer
  | overlap
  /-- A handle under which no buffer is registered. -/
  | unregistered (handle : Nat)
  | other (reason : String)
  deriving DecidableEq, Repr

/-- Text about a handle of the given name under which no buffer is registered. -/
def ArgumentProblem.unregisteredText (name : String) : String :=
  "no WebGPU buffer registered under handle " ++ name

def ArgumentProblem.message : ArgumentProblem → String
  | .nullPointer => "null device pointer"
  | .overlap => "source and destination overlap"
  | .unregistered handle => unregisteredText (toString handle)
  | .other reason => reason

inductive BackendProblem
  /-- A queued job gave up while it ran on the stream. -/
  | streamFaulted (stream : Nat) (fault : Fault)
  | other (detail : String)
  deriving DecidableEq, Repr

def BackendProblem.message : BackendProblem → String
  | .streamFaulted stream fault =>
      s!"cpu stream {stream} faulted while executing: {fault.message}"
  | .other detail => detail

/-- Errors of copies, transfers and allocations. -/
inductive Error
  | launchFailed (backend kernel reason : String)
  | invalidGeometry (groups threads maxGroups maxThreads : Nat)
  /-- A buffer holds fewer elements than needed. -/
  | bufferTooSmall (needed length : Nat)
  /-- A buffer starts off the boundary a strategy needs. -/
  | misaligned (pointer alignment : Nat)
  /-- An element type that an operation does not serve. -/
  | unsupportedDType (dtype : DType) (operation : String)
  /-- Two element types that have to agree do not. -/
  | dtypeMismatch (left right : DType)
  /-- Operands that live on different devices. -/
  | deviceMismatch
  /-- An allocation that cannot be served. -/
  | outOfMemory (size : Nat)
  /-- An argument that cannot be used. -/
  | invalidArgument (argument : String) (problem : ArgumentProblem)
  /-- A report of the backend. -/
  | backend (problem : BackendProblem)
  /-- A valid operation beyond what the backend can do. -/
  | backendLimitation (backend operation reason : String)
  /-- Anything unexpected, in words. -/
  | internal (detail : String)
  deriving DecidableEq, Repr

namespace Error

def kind : Error → String
  | launchFailed .. => "LaunchFailed"
  | invalidGeometry .. => "InvalidGeometry"
  | bufferTooSmall .. => "BufferTooSmall"
  | misaligned .. => "Misaligned"
  | unsupportedDType .. => "UnsupportedDType"
  | dtypeMismatch .. => "DTypeMismatch"
  | deviceMismatch => "DeviceMismatch"
  | outOfMemory .. => "OutOfMemory"
  | invalidArgument .. => "InvalidArgument"
  | backend .. => "Backend"
  | backendLimitation .. => "BackendLimitation"
  | internal .. => "Internal"

/-- Whether the error reports a rejected launch. -/
def isLaunchFailure : Error → Bool
  | launchFailed .. => true
  | _ => false

def hexDigits (value : Nat) : String := String.ofList (Nat.toDigits 16 value)

def message : Error → String
  | launchFailed side kernel reason => s!"{side} kernel '{kernel}' launch failed: {reason}"
  | invalidGeometry groups threads maxGroups maxThreads =>
      s!"Invalid launch geometry: {groups} groups x {threads} threads " ++
        s!"(limits: {maxGroups} groups, {maxThreads} threads)"
  | bufferTooSmall needed length =>
      s!"Buffer too small: copy needs {needed} elements, buffer holds {length}"
  | misaligned pointer alignment =>
      s!"Buffer at 0x{hexDigits pointer} is not aligned to {alignment} bytes"
  | unsupportedDType dtype operation =>
      s!"Unsupported dtype {dtype.label} for operation '{operation}'"
  | dtypeMismatch left right => s!"DType mismatch: {left.label} vs {right.label}"
  | deviceMismatch => "Device mismatch: buffers must live on the same device"
  | outOfMemory size => s!"Out of memory: failed to allocate {size} bytes"
  | invalidArgument argument problem => s!"Invalid argument '{argument}': {problem.message}"
  | backend problem => s!"Backend error: {problem.message}"
  | backendLimitation side operation reason => s!"{side} limitation: {operation} - {reason}"
  | internal detail => s!"Internal error: {detail}"

end Error

/-- Why an operation did not succeed. -/
inductive Failure
  /-- The operation answered with an error. -/
  | error (e : Error)
  /-- The operation gave up. -/
  | fault (f : Fault)
  deriving DecidableEq, Repr

end DeviceCopy
