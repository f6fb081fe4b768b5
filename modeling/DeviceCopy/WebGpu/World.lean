import DeviceCopy.Backend
import DeviceCopy.ErrorFlag
import DeviceCopy.WebGpu.Dispatch
import DeviceCopy.WebGpu.PipelineCache
import DeviceCopy.WebGpu.Registry

/-!
# WebGPU devices

Devices are the adapters of the machine by number, one default client to each, made on first use.
Opening a client asks the adapter for its limits, and launches are checked against those. What a
client submits to its queue is kept as a list of submissions; carrying them out is the adapter's
business and not described here.
-/

set_option autoImplicit false

namespace DeviceCopy

namespace WebGpu

structure AdapterLimits where
  maxWorkgroupSizeX : Nat
  maxInvocationsPerWorkgroup : Nat
  maxWorkgroupsPerDimension : Nat
  maxBufferSize : Nat
  deriving DecidableEq, Repr

namespace AdapterLimits

/-- Limits every WebGPU device keeps to, whatever its adapter. -/
def guaranteed : AdapterLimits :=
  { maxWorkgroupSizeX := 256
    maxInvocationsPerWorkgroup := 256
    maxWorkgroupsPerDimension := 65535
    maxBufferSize := Nat.pow 2 28 }

def launchLimits (l : AdapterLimits) : Limits :=
  { maxThreadsPerGroup := min l.maxWorkgroupSizeX l.maxInvocationsPerWorkgroup
    maxGroups := l.maxWorkgroupsPerDimension }

end AdapterLimits

structure Adapter where
  name : String
  interface : String
  limits : AdapterLimits
  deriving DecidableEq, Repr

/-- An adapter that accepts everything and carries nothing out. -/
def Adapter.noop : Adapter :=
  { name := "noop wgpu backend"
    interface := "noop"
    limits :=
      { maxWorkgroupSizeX := Nat.pow 2 31 - 1
        maxInvocationsPerWorkgroup := Nat.pow 2 31 - 1
        maxWorkgroupsPerDimension := Nat.pow 2 31 - 1
        maxBufferSize := Nat.pow 2 31 - 1 } }

/-- An adapter by number. What it says about itself is known once a client has been opened. -/
structure Device where
  index : Nat
  adapter : Option Adapter
  deriving DecidableEq, Repr

namespace Device

def ofIndex (index : Nat) : Device := { index, adapter := none }

def name (d : Device) : String := s!"wgpu:{d.index}"

def adapterName (d : Device) : String :=
  match d.adapter with
  | none => "unknown"
  | some a => a.name

/-- Limits of the adapter, or the guaranteed ones while it is unknown. -/
def adapterLimits (d : Device) : AdapterLimits :=
  match d.adapter with
  | none => .guaranteed
  | some a => a.limits

def limits (d : Device) : Limits := d.adapterLimits.launchLimits

def text (d : Device) : String :=
  let shown := match d.adapter with
    | none => "None"
    | some a => s!"Some({a.interface.capitalize})"
  s!"WgpuDevice \x7b index: {d.index}, adapter: \"{d.adapterName}\", backend: {shown} \x7d"

end Device

structure Client where
  queue : Nat
  device : Device
  limits : Limits
  deriving DecidableEq, Repr

def Client.text (c : Client) : String :=
  s!"WgpuClient \x7b device: {c.device.text}, limits: {c.limits.text}, .. \x7d"

structure Submission where
  label : String
  src : Nat
  dst : Nat
  dispatches : List Dispatch
  deriving DecidableEq, Repr

/-- What all clones of a client share. -/
structure Queue where
  flag : ErrorFlag
  pipelines : PipelineCache
  /-- Everything submitted, the latest first. -/
  submissions : List Submission
  deriving DecidableEq, Repr

/-- State of all WebGPU devices and of everything that uses them. -/
structure World where
  adapterAt : Nat → Adapter
  registry : Registry
  queues : Array Queue
  /-- The default client of each device, in order of creation. -/
  defaults : List (Nat × Client)
  events : Array Event

namespace World

/-- No buffers and no clients; handles are counted from the given one. -/
def initial (adapterAt : Nat → Adapter) (firstHandle : Nat) : World :=
  { adapterAt, registry := .startingAt firstHandle, queues := #[], defaults := [], events := #[] }

def tell (event : Event) (w : World) : World := { w with events := w.events.push event }

def alterQueue (w : World) (queue : Nat) (f : Queue → Queue) : World :=
  { w with queues := w.queues.modify queue f }

/-- Open a client with a queue of its own. -/
def newClient (device : Device) (w : World) : Client × World :=
  let adapter := w.adapterAt device.index
  let opened : Device := { index := device.index, adapter := some adapter }
  let limits := adapter.limits.launchLimits
  let queue := w.queues.size
  let w := { w with
    queues := w.queues.push { flag := .clear, pipelines := .empty, submissions := [] } }
  ({ queue, device := opened, limits },
    w.tell (.clientCreated device.index adapter.name limits.maxGroups))

/-- The default client of a device, opened on first use. -/
def defaultClient (device : Device) (w : World) : Client × World :=
  match w.defaults.lookup device.index with
  | some client => (client, w)
  | none =>
      let (client, w) := w.newClient device
      (client, { w with defaults := w.defaults ++ [(device.index, client)] })

end World

end WebGpu

end DeviceCopy
