import DeviceCopy.Backend
import DeviceCopy.Emulated.Stream
import DeviceCopy.ErrorFlag
import DeviceCopy.Memory.Heap

/-!
# The emulated device

A device that runs kernels on the host. Its memory is one address space shared by all streams. Every
client has a *lane*, a stream with its error flag; clones of a client are handles on the same lane.
The clients handed out by default are kept, one for each set of limits asked for.

What the library does not decide is in the `Environment`: where the system places memory, whether it
grants a worker, and how far the workers get between two steps of the host.
-/

set_option autoImplicit false

namespace DeviceCopy

namespace Emulated

/-- A device that runs kernels on the host. There is one, but it can be held to tighter limits. -/
structure Device where
  stated : Option Limits
  deriving DecidableEq, Repr

namespace Device

def standard : Device := { stated := none }

def ofLimits (limits : Limits) : Device := { stated := some limits }

def id (_device : Device) : Nat := 0

def limits (device : Device) : Limits := device.stated.getD .standard

def text (device : Device) : String :=
  let stated := match device.stated with
    | none => "None"
    | some limits => s!"Some({limits.text})"
  s!"CpuDevice \x7b id: {device.id}, limits: {stated} \x7d"

end Device

structure Client where
  lane : Nat
  device : Device
  deriving DecidableEq, Repr

/-- What all clones of a client share. -/
structure Lane where
  stream : Stream Launch Fault
  flag : ErrorFlag

/-- How many jobs of its backlog a lane completes at a moment. -/
abbrev Schedule := (moment lane backlog : Nat) → Nat

/-- What the library does not decide. -/
structure Environment where
  place : Placement
  grantsWorker : (lane : Nat) → Bool
  schedule : Schedule

/-- Memory is never used twice, every lane gets a worker, and workers keep up with the host. -/
def Environment.prompt : Environment :=
  { place := .ascending, grantsWorker := fun _ => true, schedule := fun _ _ backlog => backlog }

/-- State of the device and of everything that uses it. -/
structure World where
  environment : Environment
  memory : Memory
  heap : Heap
  lanes : Array Lane
  /-- The default client for each set of limits, in order of creation. -/
  defaults : List (Limits × Client)
  moment : Nat
  events : Array Event

namespace World

def initial (environment : Environment) : World :=
  { environment, memory := .empty, heap := .empty, lanes := #[], defaults := [], moment := 0
    events := #[] }

def tell (event : Event) (w : World) : World := { w with events := w.events.push event }

def alterLane (w : World) (lane : Nat) (f : Lane → Lane) : World :=
  { w with lanes := w.lanes.modify lane f }

/-! ## Workers -/

/-- The worker of a lane runs its next job and finishes it. -/
def work (w : World) (lane : Nat) : World :=
  match w.lanes[lane]? with
  | none => w
  | some l =>
      match l.stream.resume with
      | none => w
      | some (job, stream) =>
          -- A job that gives up leaves the memory as far as it got.
          let (memory, fault) := job.run w.memory
          { w with
            memory
            lanes := w.lanes.setIfInBounds lane { l with stream := stream.finish fault } }

/-- The worker of a lane completes a number of jobs. -/
def workThrough (lane : Nat) : (jobs : Nat) → World → World
  | 0, w => w
  | jobs + 1, w => workThrough lane jobs (w.work lane)

def backlog (w : World) (lane : Nat) : Nat :=
  match w.lanes[lane]? with
  | none => 0
  | some l => l.stream.backlog

/-- Every worker gets as far as the schedule lets it at this moment. -/
def progress (w : World) : World :=
  -- The schedule is asked about the moment before this step, lane by lane.
  let moment := w.moment
  let advance (w : World) (lane : Nat) : World :=
    let backlog := w.backlog lane
    workThrough lane (min backlog (w.environment.schedule moment lane backlog)) w
  (List.range w.lanes.size).foldl advance { w with moment := moment + 1 }

/-- The worker of a lane completes every job it has been sent. -/
def drain (lane : Nat) (w : World) : World := workThrough lane (w.backlog lane) w

/-- Put a job on a lane: count it and send it, or run it on the spot where there is no worker. -/
def submit (lane : Nat) (job : Launch) (w : World) : World :=
  match w.lanes[lane]? with
  | none => w
  | some l =>
      let stream := l.stream.count
      -- Without a worker no job ever waits, so this one is next.
      if stream.hasWorker then
        { w with lanes := w.lanes.setIfInBounds lane { l with stream := stream.send job } }
      else
        let (memory, fault) := job.run w.memory
        { w with
          memory
          lanes := w.lanes.setIfInBounds lane { l with stream := stream.finish fault } }

/-! ## Clients -/

/-- A client with a new lane. Without a worker its jobs run on the caller. -/
def openLane (hasWorker : Bool) (device : Device) (w : World) : Client × World :=
  let lane := w.lanes.size
  let w := { w with lanes := w.lanes.push { stream := .idle hasWorker, flag := .clear } }
  ({ lane, device }, if hasWorker then w else w.tell (.runningInline lane))

/-- A client with a lane of its own. -/
def newClient (device : Device) (w : World) : Client × World :=
  w.openLane (w.environment.grantsWorker w.lanes.size) device

/-- The default client of a device, made on first use. Devices held to equal limits share it. -/
def defaultClient (device : Device) (w : World) : Client × World :=
  match w.defaults.lookup device.limits with
  | some client => (client, w)
  | none =>
      let (client, w) := w.newClient device
      (client, { w with defaults := w.defaults ++ [(device.limits, client)] })

/-- The last handle on a lane goes away: its jobs are completed first. -/
def closeLane (lane : Nat) (w : World) : World := w.drain lane

end World

end Emulated

end DeviceCopy
