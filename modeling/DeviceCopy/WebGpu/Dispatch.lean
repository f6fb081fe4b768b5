import DeviceCopy.Error
import DeviceCopy.Kernel.Copy
import DeviceCopy.WebGpu.Shader

/-!
# Dispatches

What is submitted for a copy: one dispatch, or two when a wide copy has elements past its last whole
word. Shader indices have 32 bits. A copy of more units than that is refused before anything else is
looked at; whatever else is narrowed to 32 bits here is cut to its low bits.
-/

set_option autoImplicit false

namespace DeviceCopy

namespace WebGpu

def backendName : String := "wgpu"

/-- One more than the largest 32-bit number. -/
abbrev word32Limit : Nat := Nat.pow 2 32

def low32 (n : Nat) : Nat := n % word32Limit

/-- Parameters a shader reads, four 32-bit numbers of which the last is padding. -/
structure CopyParams where
  /-- Elements, or wide words where the shader moves those. -/
  count : Nat
  /-- 32-bit units in one element. -/
  units : Nat
  /-- First element to move. -/
  start : Nat
  deriving DecidableEq, Repr

namespace CopyParams

def bytes (p : CopyParams) : Bytes :=
  [p.count, p.units, p.start, 0].flatMap (littleEndian 4)

def text (p : CopyParams) : String :=
  s!"CopyParams \x7b n: {p.count}, elem_units: {p.units}, start: {p.start}, _pad: 0 \x7d"

end CopyParams

structure Dispatch where
  shader : Shader
  entryPoint : String
  groups : Nat
  params : CopyParams
  deriving DecidableEq, Repr

/-- What a kernel is called when a request for it is refused. -/
def operationName : Kernel → String
  | .scalar _ => "scalar copy"
  | .vector _ => "vector copy"
  | .blocked .. => "register-blocked copy"

/-- 32-bit units one element of the kernel takes. -/
def kernelUnits (kernel : Kernel) : Nat := kernel.dtype.units

/-- Refuse a copy of more 32-bit units than a shader can index. -/
def checkAddressable (kernel : Kernel) (count : Nat) : Except Error Unit :=
  if count * kernelUnits kernel < word32Limit then .ok ()
  else
    .error (.backendLimitation backendName (operationName kernel)
      s!"{count} elements exceed 32-bit shader indexing")

/-- Refuse what no shader can be made for. -/
def checkSupported : Kernel → Except Error Unit
  | .blocked sweep 0 =>
      .error (.backendLimitation backendName (operationName (.blocked sweep 0))
        Fault.zeroBlockingFactor.message)
  | _ => .ok ()

/-- Entry point of a sweep in the staged module. -/
def sweepEntryPoint : Sweep → String
  | .singlePass => "blocked_copy"
  | .gridStride => "blocked_loop_copy"

/-- The dispatches that copy `count` elements on a grid of `groups` groups, in order. -/
def dispatches (kernel : Kernel) (groups count : Nat) : List Dispatch :=
  let groups := low32 groups
  let units := kernelUnits kernel
  match kernel with
  | .scalar _ =>
      [{ shader := .scalar, entryPoint := "scalar_copy", groups
         params := { count := low32 count, units, start := 0 } }]
  | .vector dtype =>
      let words := count / dtype.lanes
      let whole := words * dtype.lanes
      { shader := .vector, entryPoint := "vector_copy", groups
        params := { count := low32 words, units, start := 0 } } ::
      -- The elements past the last whole word, in a second dispatch on the same grid.
      if whole < count then
        [{ shader := .scalar, entryPoint := "scalar_copy", groups
           params := { count := low32 count, units, start := low32 whole } }]
      else []
  | .blocked sweep factor =>
      [{ shader := .blocked factor, entryPoint := sweepEntryPoint sweep, groups
         params := { count := low32 count, units, start := 0 } }]

/-- The dispatches of a copy, or why there are none. -/
def plan (kernel : Kernel) (geometry : Geometry) (count : Nat) : Except Error (List Dispatch) := do
  checkSupported kernel
  checkAddressable kernel count
  return dispatches kernel geometry.groups count

end WebGpu

end DeviceCopy
