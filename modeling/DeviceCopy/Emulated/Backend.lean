import DeviceCopy.Emulated.World

/-!
# The emulated device as a backend

Launches are checked against the limits when they are enqueued: an inadmissible one is recorded in
the lane's error flag and never reaches the stream. Host transfers wait for every default client,
whatever its limits, because all of them work on the same memory; if one of them reports a fault the
transfer answers with it and moves nothing.
-/

set_option autoImplicit false

namespace DeviceCopy

namespace Emulated

def backendName : String := "cpu"

/-! ## Memory -/

/-- Obtain zeroed memory. No bytes need no memory, and the answer is the null pointer. -/
def allocate (size : Nat) : Effect World Nat :=
  .ofFun fun w =>
    if size = 0 then (.ok 0, w)
    else if maxBlockSize < size then (.error (.error (.outOfMemory size)), w)
    else
      match w.environment.place w.heap size with
      | none => (.error (.error (.outOfMemory size)), w)
      | some address =>
          -- A block that was in use before still holds old bytes.
          (.ok address,
            { w with
              memory := w.memory.clear address size
              heap := w.heap.occupy { address, size } })

/-- Give memory back. A size no block can have is refused, and the memory stays in use. -/
def deallocate (pointer size : Nat) (w : World) : World :=
  if pointer = 0 ∨ size = 0 then w
  else if maxBlockSize < size then w.tell (.invalidLayout pointer size)
  else { w with heap := w.heap.vacate pointer }

/-! ## Streams -/

/-- Wait until a client's lane is drained, and report the fault kept there. -/
def synchronize (client : Client) : Effect World Unit :=
  .ofFun fun w =>
    let w := w.progress.drain client.lane
    match w.lanes[client.lane]? with
    | none => (.ok (), w)
    | some l =>
        let (fault, stream) := l.stream.takeFault
        let w := { w with lanes := w.lanes.setIfInBounds client.lane { l with stream } }
        match fault with
        | none => (.ok (), w)
        | some f => (.error (.error (.backend (.streamFaulted client.lane f))), w)

/-- Wait for every default client in turn, up to the first that reports a fault. -/
def drainDefaults : Effect World Unit := do
  let defaults ← Effect.inspect World.defaults
  defaults.forM (fun entry => synchronize entry.2)

/-- Hand over and clear the most recent launch error of a client's lane. -/
def takeError (client : Client) (w : World) : Except Error Unit × World :=
  match w.lanes[client.lane]? with
  | none => (.ok (), w)
  | some l =>
      let (answer, flag) := l.flag.take
      (answer, { w with lanes := w.lanes.setIfInBounds client.lane { l with flag } })

/-- Answer with the most recent launch error of a client's lane. -/
def checkLastError (client : Client) : Effect World Unit :=
  .ofFun fun w =>
    let (answer, w) := takeError client w
    (answer.mapError .error, w)

/-- What the code of a kernel insists on before its launch is looked at. -/
def launchFault (launch : Launch) : Option Fault :=
  match launch.kernel with
  | .blocked _ 0 => some .zeroBlockingFactor
  | kernel =>
      if kernel.isWide && !(isWideAligned launch.src && isWideAligned launch.dst) then
        some .misalignedWideWord
      else none

/-- Hold a launch against the limits of a client's device. A launch outside them leaves its report
in the flag of the client's lane. -/
def screen (client : Client) (launch : Launch) (w : World) : Bool × World :=
  match launchRejection backendName launch.kernel.name client.device.limits launch.geometry with
  | none => (true, w)
  | some e =>
      (false,
        (w.alterLane client.lane (fun l => { l with flag := l.flag.record e })).tell
          (.launchRejected e))

/-- Put a kernel on a client's lane, or record why the device rejects it. -/
def enqueue (client : Client) (launch : Launch) : Effect World Unit :=
  match launchFault launch with
  | some f => .giveUp f
  | none =>
      .update fun w =>
        match screen client launch w with
        | (true, w) => (w.submit client.lane launch).progress
        -- The rejection waits in the flag; to the caller the launch was taken.
        | (false, w) => w

/-! ## Transfers -/

def copyToDevice (bytes : Bytes) (pointer : Nat) : Effect World Unit :=
  if bytes.isEmpty then pure ()
  else if pointer = 0 then .fail (.invalidArgument "dst" .nullPointer)
  else do
    -- A fault reported here ends the transfer before any byte moves.
    drainDefaults
    Effect.update (fun w => { w with memory := w.memory.write pointer bytes })

def copyFromDevice (pointer : Nat) (host : Bytes) : Effect World Bytes :=
  if host.isEmpty then pure host
  else if pointer = 0 then .fail (.invalidArgument "src" .nullPointer)
  else do
    drainDefaults
    Effect.inspect (fun w => w.memory.read pointer host.length)

def backend : Backend World Device Client where
  name := backendName
  deviceId := Device.id
  deviceName _ := backendName
  limits := Device.limits
  wideAligned := isWideAligned
  allocate _ size := allocate size
  deallocate _ := deallocate
  copyToDevice _ := copyToDevice
  copyFromDevice _ := copyFromDevice
  clientDevice := Client.device
  enqueue := enqueue
  checkLastError := checkLastError
  synchronize := synchronize
  tell := World.tell

def Client.text (client : Client) (streamNumber : Nat) (w : World) : String :=
  let flag := match w.lanes[client.lane]? with
    | none => ErrorFlag.clear
    | some l => l.flag
  s!"CpuClient \x7b device: {client.device.text}, stream: {streamNumber}, " ++
    s!"last_error: {flag.text} \x7d"

end Emulated

end DeviceCopy
