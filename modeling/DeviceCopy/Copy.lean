import DeviceCopy.Backend

/-!
# Copy entry points

Every entry point does three things: it derives the grid from the element count and the device's
limits, enqueues the kernel, and asks the stream for its last launch error. It returns once the copy
is enqueued; waiting for the copy is the caller's business. None of them looks at the pointers: the
checked copies are in `DeviceCopy.Buffer`.
-/

set_option autoImplicit false

namespace DeviceCopy

namespace Copy

variable {World Device Client : Type}

/-- Derive the grid, enqueue the kernel and ask for the last launch error. -/
def queueAndCheck (b : Backend World Device Client) (client : Client) (kernel : Kernel)
    (count src dst : Nat) : Effect World Unit := do
  let geometry ← Effect.checked (kernel.geometry (b.clientLimits client).maxGroups count)
  Effect.update (b.tell (.enqueueCopy b.name kernel count geometry))
  b.enqueue client { kernel, geometry, count, src, dst }
  b.checkLastError client

/-- Copy elements one at a time, at any alignment. -/
def scalar (b : Backend World Device Client) (client : Client) (dtype : DType)
    (count src dst : Nat) : Effect World Unit :=
  queueAndCheck b client (.scalar dtype) count src dst

/-- Copy whole wide words, then the elements past the last one. -/
def vector (b : Backend World Device Client) (client : Client) (dtype : DType)
    (count src dst : Nat) : Effect World Unit :=
  queueAndCheck b client (.vector dtype) count src dst

/-- Copy `f32` elements with `factor` wide words staged per thread-step. -/
def blocked (b : Backend World Device Client) (client : Client) (sweep : Sweep) (factor : Nat)
    (count src dst : Nat) : Effect World Unit :=
  queueAndCheck b client (.blocked sweep factor) count src dst

def float (b : Backend World Device Client) (client : Client) (count src dst : Nat) :
    Effect World Unit :=
  blocked b client .singlePass defaultBlockingFactor count src dst

def floatLooped (b : Backend World Device Client) (client : Client) (count src dst : Nat) :
    Effect World Unit :=
  blocked b client .gridStride defaultBlockingFactor count src dst

/-- Copy with a chosen strategy. Staging exists for `f32` only. -/
def withStrategy (b : Backend World Device Client) (client : Client) (strategy : Strategy)
    (dtype : DType) (count src dst : Nat) : Effect World Unit :=
  match strategy with
  | .scalar => scalar b client dtype count src dst
  | .vector => vector b client dtype count src dst
  | .blocked =>
      if dtype = .f32 then float b client count src dst
      else Effect.fail (.unsupportedDType dtype "register-blocked copy")

end Copy

end DeviceCopy
