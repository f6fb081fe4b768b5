import DeviceCopy.WebGpu.Shader

/-!
# Pipeline cache

Compiled modules and pipelines of one client, kept for good once they are there. Looking a pipeline
up and entering one are separate steps with the compilation between them, so two threads may both
build the pipeline of one key; the entry made first stays, and both go on with it. A module is
looked up and compiled in one step.
-/

set_option autoImplicit false

namespace DeviceCopy

namespace WebGpu

/-- A pipeline runs one entry point of one module. -/
structure PipelineKey where
  shader : Shader
  entryPoint : String
  deriving DecidableEq, Repr

/-- A built pipeline. The serial number tells two pipelines built from one key apart. -/
structure Pipeline where
  key : PipelineKey
  serial : Nat
  deriving DecidableEq, Repr

structure PipelineCache where
  modules : List Shader
  pipelines : List (PipelineKey × Pipeline)
  built : Nat
  deriving DecidableEq, Repr

namespace PipelineCache

def empty : PipelineCache := { modules := [], pipelines := [], built := 0 }

def lookup (c : PipelineCache) (key : PipelineKey) : Option Pipeline := c.pipelines.lookup key

/-- Make sure of a module. The answer is whether it had to be compiled. -/
def requireModule (c : PipelineCache) (shader : Shader) : Bool × PipelineCache :=
  if shader ∈ c.modules then (false, c)
  else (true, { c with modules := shader :: c.modules })

/-- Build a pipeline without entering it. -/
def build (c : PipelineCache) (key : PipelineKey) : Pipeline × PipelineCache :=
  ({ key, serial := c.built }, { c with built := c.built + 1 })

/-- Enter a pipeline unless one is there, and answer with the one that is there then. -/
def insertOrReuse (c : PipelineCache) (pipeline : Pipeline) : Pipeline × PipelineCache :=
  match c.lookup pipeline.key with
  | some present => (present, c)
  | none => (pipeline, { c with pipelines := (pipeline.key, pipeline) :: c.pipelines })

/-- The pipeline for a key, and whether its module had to be compiled. -/
def pipeline (c : PipelineCache) (key : PipelineKey) : (Pipeline × Bool) × PipelineCache :=
  match c.lookup key with
  | some present => ((present, false), c)
  | none =>
      let (compiled, c) := c.requireModule key.shader
      let (fresh, c) := c.build key
      -- Somebody else may have entered the key since it was looked up.
      let (entered, c) := c.insertOrReuse fresh
      ((entered, compiled), c)

end PipelineCache

end WebGpu

end DeviceCopy
