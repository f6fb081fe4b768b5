import DeviceCopy.WebGpu.World

/-!
# WebGPU as a backend

Every request is checked in full before anything is submitted: what shaders can index, the limits of
the client, the source handle, the destination handle. Buffers take whole wide words, and transfers
move whole groups of four bytes, padding what the host gives with zeros.
-/

set_option autoImplicit false

namespace DeviceCopy

namespace WebGpu

/-- Unit of host transfers in bytes. -/
def transferUnit : Nat := 4

def roundUpTo (unit n : Nat) : Nat := (n + unit - 1) / unit * unit

/-! ## Memory -/

/-- Register a buffer of at least the given size under a new handle. -/
def allocate (size : Nat) : Effect World Nat :=
  if size = 0 then pure 0
  else do
    -- Rounding the last few sizes of the word range up leaves the range.
    let words ← Effect.checked (Checked.ceilDiv size wideWordBytes)
    let rounded ← Effect.checked (Checked.mul words wideWordBytes)
    .updateGet fun w =>
      let (handle, registry) := w.registry.reserve
      (handle, { w with registry := registry.insert handle { size := rounded, contents := .empty } })

def deallocate (handle : Nat) (w : World) : World :=
  if handle = 0 then w
  else
    let known := w.registry.contains handle
    let w := { w with registry := w.registry.remove handle }
    if known then w else w.tell (.unknownBuffer handle)

/-- Make sure that the default client of a device is open. -/
def requireClient (device : Device) : Effect World Unit :=
  .update (fun w => (w.defaultClient device).2)

def allocateOn (device : Device) (size : Nat) : Effect World Nat :=
  if size = 0 then pure 0
  else do
    requireClient device
    allocate size

def deallocateOn (device : Device) (handle : Nat) (w : World) : World :=
  if handle = 0 then w else deallocate handle (w.defaultClient device).2

/-- The buffer under a handle, or an error about the argument that named it. -/
def requireBuffer (argument : String) (handle : Nat) : Effect World GpuBuffer :=
  .ofFun fun w =>
    match w.registry.find? handle with
    | some buffer => (.ok buffer, w)
    | none => (.error (.error (.invalidArgument argument (.unregistered handle))), w)

/-! ## Launches -/

/-- Make sure of the pipeline of a dispatch. -/
def requirePipeline (queue : Nat) (d : Dispatch) (w : World) : World :=
  match w.queues[queue]? with
  | none => w
  | some q =>
      let key : PipelineKey := { shader := d.shader, entryPoint := d.entryPoint }
      let ((_, compiled), pipelines) := q.pipelines.pipeline key
      let w := { w with queues := w.queues.setIfInBounds queue { q with pipelines } }
      if compiled then w.tell (.compilingModule d.shader.moduleName) else w

def submit (queue : Nat) (s : Submission) (w : World) : World :=
  let w := s.dispatches.foldl (fun w d => requirePipeline queue d w) w
  w.alterQueue queue (fun q => { q with submissions := s :: q.submissions })

/-- Hold a launch against the limits of a client. A launch outside them leaves its report in the
flag of the client's queue. -/
def screen (client : Client) (launch : Launch) (w : World) : Bool × World :=
  match launchRejection backendName launch.kernel.name client.limits launch.geometry with
  | none => (true, w)
  | some e =>
      (false,
        (w.alterQueue client.queue (fun q => { q with flag := q.flag.record e })).tell
          (.launchRejected e))

def enqueue (client : Client) (launch : Launch) : Effect World Unit := do
  let dispatches ← Effect.answer (plan launch.kernel launch.geometry launch.count)
  -- The handles of a rejected launch are not looked at.
  if ← Effect.updateGet (screen client launch) then
    discard (requireBuffer "src" launch.src)
    discard (requireBuffer "dst" launch.dst)
    Effect.update (submit client.queue
      { label := launch.kernel.name, src := launch.src, dst := launch.dst, dispatches })

/-- Hand over and clear the most recent launch error of a client's queue. -/
def takeError (client : Client) (w : World) : Except Error Unit × World :=
  match w.queues[client.queue]? with
  | none => (.ok (), w)
  | some q =>
      let (answer, flag) := q.flag.take
      (answer, { w with queues := w.queues.setIfInBounds client.queue { q with flag } })

/-- Answer with the most recent launch error of a client's queue. -/
def checkLastError (client : Client) : Effect World Unit :=
  .ofFun fun w =>
    let (answer, w) := takeError client w
    (answer.mapError .error, w)

/-! ## Transfers -/

def padded (bytes : Bytes) : Bytes :=
  bytes ++ List.replicate (roundUpTo transferUnit bytes.length - bytes.length) 0

/-- Move host bytes to the start of a buffer. Nothing is moved to the null handle. -/
def copyToDevice (device : Device) (bytes : Bytes) (handle : Nat) : Effect World Unit :=
  if bytes.isEmpty ∨ handle = 0 then pure ()
  else do
    requireClient device
    discard (requireBuffer "dst" handle)
    .update fun w =>
      { w with registry := w.registry.modify handle (fun m => m.write 0 (padded bytes)) }

/-- Move bytes from the start of a buffer over a host range. The null handle leaves the range as it
is. -/
def copyFromDevice (device : Device) (handle : Nat) (host : Bytes) : Effect World Bytes :=
  if host.isEmpty ∨ handle = 0 then pure host
  else do
    requireClient device
    let buffer ← requireBuffer "src" handle
    let staged := buffer.contents.read 0 (roundUpTo transferUnit host.length)
    return staged.take host.length

def backend : Backend World Device Client where
  name := backendName
  deviceId := Device.index
  deviceName := Device.name
  limits := Device.limits
  wideAligned _ := true
  allocate := allocateOn
  deallocate device handle _ := deallocateOn device handle
  copyToDevice := copyToDevice
  copyFromDevice := copyFromDevice
  clientDevice := Client.device
  enqueue := enqueue
  checkLastError := checkLastError
  synchronize _ := pure ()
  tell := World.tell

end WebGpu

end DeviceCopy
