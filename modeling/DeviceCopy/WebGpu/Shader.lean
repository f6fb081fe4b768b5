import DeviceCopy.Launch.Geometry
import DeviceCopy.WebGpu.Source

/-!
# Copy shaders

The shader modules of the copies. A shader moves 32-bit units and knows elements only as runs of
them; both buffers are bound whole, so every copy starts at the beginning of both. The width of a
workgroup is written into the source.

Counts may come close to the largest 32-bit number. A loop therefore compares what is left with its
step before it steps, so that no index wraps around.
-/

set_option autoImplicit false

namespace DeviceCopy

namespace WebGpu

inductive Shader
  | scalar
  /-- Wide words, grid-stride. -/
  | vector
  /-- Wide words staged `factor` at a time, single pass and grid-stride. -/
  | blocked (factor : Nat)
  deriving DecidableEq, Repr

namespace Shader

/-- Width of a workgroup, as written into every shader. -/
def workgroupWidth : Nat := threadsPerGroup

def moduleName : Shader → String
  | scalar => "copy_scalar"
  | vector => "copy_vector"
  | blocked factor => s!"copy_blocked_k{factor}"

open Source

def parameterBlock : List Source :=
  [blank,
    block "struct CopyParams" [line "n: u32,", line "elem_units: u32,", line "start: u32,",
      line "_pad: u32,"],
    blank]

def widthConstant : Source := line s!"const WORKGROUP_SIZE: u32 = {workgroupWidth}u;"

def bindings (unit : String) : List Source :=
  [blank,
    line s!"@group(0) @binding(0) var<storage, read_write> src: array<{unit}>;",
    line s!"@group(0) @binding(1) var<storage, read_write> dst: array<{unit}>;",
    line "@group(0) @binding(2) var<uniform> params: CopyParams;",
    blank]

/-- An entry point, run by every thread of the dispatch. -/
def entryPoint (name : String) (parameters : List String) (body : List Source) : List Source :=
  [line s!"@compute @workgroup_size({workgroupWidth})", function name parameters body]

def globalIndex : String := "@builtin(global_invocation_id) gid: vec3<u32>"

def gridSize : String := "@builtin(num_workgroups) groups: vec3<u32>"

def localIndex : String := "@builtin(local_invocation_id) lid: vec3<u32>"

def groupIndex : String := "@builtin(workgroup_id) wid: vec3<u32>"

def breakIf (condition : String) : Source := block s!"if ({condition})" [line "break;"]

def returnIf (condition : String) : Source := block s!"if ({condition})" [line "return;"]

def scalarSource : List Source :=
  parameterBlock ++ [widthConstant] ++ bindings "u32" ++
    entryPoint "scalar_copy" [globalIndex, gridSize]
      [line "let stride = groups.x * WORKGROUP_SIZE;",
        line "var i = params.start + gid.x;",
        block "loop"
          [breakIf "i >= params.n",
            line "let base = i * params.elem_units;",
            block "for (var u = 0u; u < params.elem_units; u = u + 1u)"
              [line "dst[base + u] = src[base + u];"],
            breakIf "params.n - i <= stride",
            line "i = i + stride;"]]

def vectorSource : List Source :=
  parameterBlock ++ [widthConstant] ++ bindings "vec4<u32>" ++
    entryPoint "vector_copy" [globalIndex, gridSize]
      [line "let stride = groups.x * WORKGROUP_SIZE;",
        line "var i = gid.x;",
        block "loop"
          [breakIf "i >= params.n",
            line "dst[i] = src[i];",
            breakIf "params.n - i <= stride",
            line "i = i + stride;"]]

/-- One pass over the slots of a staged step. -/
def overSlots (access : String) : Source :=
  block "for (var slot = 0u; slot < K; slot = slot + 1u)"
    [line "let offset = slot * WORKGROUP_SIZE;",
      block "if (offset < words - base)" [line access]]

/-- Wide words staged several at a time, and the elements past the last word. -/
def blockedSource (factor : Nat) : List Source :=
  parameterBlock ++ [line s!"const K: u32 = {factor}u;", widthConstant] ++ bindings "vec4<u32>" ++
    [block "fn stage_and_store(base: u32, words: u32)"
        [returnIf "base >= words",
          line s!"var staged: array<vec4<u32>, {factor}>;",
          overSlots "staged[slot] = src[base + offset];",
          overSlots "dst[base + offset] = staged[slot];"],
      blank,
      block "fn float_tail(rank: u32)"
        [returnIf "rank != 0u",
          line "let words = params.n / 4u;",
          block "for (var c = 0u; c < params.n % 4u; c = c + 1u)"
            [line "dst[words][c] = src[words][c];"]],
      blank] ++
    entryPoint "blocked_copy" [localIndex, groupIndex]
      [line "let words = params.n / 4u;",
        line "stage_and_store(lid.x + K * wid.x * WORKGROUP_SIZE, words);",
        line "float_tail(wid.x * WORKGROUP_SIZE + lid.x);"] ++
    [blank] ++
    entryPoint "blocked_loop_copy" [localIndex, groupIndex, gridSize]
      [line "let words = params.n / 4u;",
        line "let step = K * groups.x * WORKGROUP_SIZE;",
        line "var base = lid.x + K * wid.x * WORKGROUP_SIZE;",
        block "loop"
          [breakIf "base >= words",
            line "stage_and_store(base, words);",
            breakIf "words - base <= step",
            line "base = base + step;"],
        line "float_tail(wid.x * WORKGROUP_SIZE + lid.x);"]

def source (shader : Shader) : String :=
  printAll 0 <| match shader with
    | scalar => scalarSource
    | vector => vectorSource
    | blocked factor => blockedSource factor

end Shader

end WebGpu

end DeviceCopy
