import DeviceCopy.Session.Platform

/-!
# Running sessions

Steps are carried out in order, and a step that fails leaves the names as they were. A name that is
bound again gives up what it stood for, but only once the new thing has been made. Numbers that mean
something within one run only are replaced in reports by their order of appearance.
-/

set_option autoImplicit false

namespace DeviceCopy

namespace Session

structure Allocation where
  pointer : Nat
  size : Nat
  deriving DecidableEq, Repr

/-- What a session knows: its backend's state and what its names stand for. -/
structure State (World Device Client : Type) where
  workspace : Workspace World Device
  clients : List (String × Client)
  buffers : List (String × Nat)
  memories : List (String × Allocation)
  /-- Memory given back whose name still stands for the stale handle. -/
  stale : List (String × Allocation)
  allocated : List Nat
  streams : List Nat

def State.initial {World Device Client : Type} (world : World) : State World Device Client :=
  { workspace := { world, pool := .empty }, clients := [], buffers := [], memories := []
    stale := [], allocated := [], streams := [] }

def bindName {α : Type} (name : String) (value : α) (names : List (String × α)) :
    List (String × α) :=
  (name, value) :: names.filter (fun entry => entry.1 ≠ name)

def unbindName {α : Type} (name : String) (names : List (String × α)) : List (String × α) :=
  names.filter (fun entry => entry.1 ≠ name)

/-- What a step does with a session. -/
abbrev Act (World Device Client : Type) := ExceptT Halt (StateM (State World Device Client))

section

variable {World Device Client α : Type}

/-! ## Reaching the world -/

def onWorkspace (e : Effect (Workspace World Device) α) : Act World Device Client α :=
  fun s =>
    let (answer, workspace) := e.perform s.workspace
    (answer.mapError .failed, { s with workspace })

def onWorld (e : Effect World α) : Act World Device Client α := onWorkspace (Workspace.onWorld e)

def change (f : State World Device Client → State World Device Client) :
    Act World Device Client Unit :=
  fun s => (.ok (), f s)

def changeWorld (f : World → World) : Act World Device Client Unit :=
  change (fun s =>
    { s with workspace := { s.workspace with world := f s.workspace.world } })

def named (kind : String) (names : State World Device Client → List (String × α))
    (name : String) : Act World Device Client α :=
  fun s =>
    match (names s).lookup name with
    | some value => (.ok value, s)
    | none => (.error (.refused s!"no {kind} named {name}"), s)

def clientNamed (name : String) : Act World Device Client Client := named "client" State.clients name

/-- The buffer of a name, with its number of handles. -/
def bufferNamed (name : String) : Act World Device Client (SharedBuffer Device) := do
  let id ← named "buffer" State.buffers name
  fun s =>
    match s.workspace.pool.find? id with
    | some shared => (.ok shared, s)
    | none => (.error (.refused s!"no buffer named {name}"), s)

/-- The memory of a name: what it was bound to last, or else the stale handle it stands for. -/
def memoryNamed (name : String) : Act World Device Client Allocation :=
  named "memory" (fun s => s.memories ++ s.stale) name

def baseAt (base : Base) : Act World Device Client Nat :=
  match base with
  | .buffer name => return (← bufferNamed name).buffer.pointer
  | .memory name => return (← memoryNamed name).pointer
  | .raw pointer => return pointer

/-- The pointer of a place. Past the largest word it starts again at the null pointer. -/
def pointerAt (place : Place) : Act World Device Client Nat := do
  return ((← baseAt place.base) + place.offset) % wordLimit

/-! ## Names -/

variable (p : Platform World Device Client)

/-- Close a client unless a name still stands for it. -/
def closeUnnamed (client : Client) (s : State World Device Client) : State World Device Client :=
  if s.clients.any (fun entry => p.sameClient entry.2 client) then s
  else
    { s with
      workspace := { s.workspace with world := p.closeClient client s.workspace.world } }

def bindClient (name : String) (client : Client) : Act World Device Client Unit :=
  change fun s =>
    let former := s.clients.lookup name
    -- Bind first, so that a client bound to its own name is not closed.
    let s := { s with clients := bindName name client s.clients }
    match former with
    | none => s
    | some former => closeUnnamed p former s

/-- Let a name stand for a buffer, of which it takes over a handle. -/
def bindBuffer (name : String) (id : Nat) : Act World Device Client Unit :=
  change fun s =>
    let former := s.buffers.lookup name
    let s := { s with buffers := bindName name id s.buffers }
    match former with
    | none => s
    | some former => { s with workspace := s.workspace.drop p.toBackend former }

/-- Let a name stand for a piece of memory. -/
def bindMemory (name : String) (memory : Allocation) : Act World Device Client Unit :=
  change fun s =>
    let former := s.memories.lookup name
    let s := { s with memories := bindName name memory s.memories
                      allocated := s.allocated ++ [memory.pointer] }
    match former with
    | none => s
    | some former =>
        let world := p.deallocate (p.deviceOf .standard) former.pointer former.size
          s.workspace.world
        { s with workspace := { s.workspace with world } }

/-- The memory a name gives back. A stale handle goes first, even if the name was bound anew. -/
def memoryToRelease (name : String) : Act World Device Client Allocation :=
  named "memory" (fun s => s.stale ++ s.memories) name

/-- The memory of a name has been given back with a size. A size that no memory has gives nothing
back where pointers are addresses; a handle stays behind as a stale one. -/
def retireMemory (name : String) (memory : Allocation) (size : Nat) :
    Act World Device Client Unit :=
  change fun s =>
    if p.keepsStaleHandles then
      { s with
        memories := if (s.stale.lookup name).isSome then s.memories else unbindName name s.memories
        stale := bindName name memory s.stale }
    else if size = 0 ∨ Nat.pow 2 63 ≤ size then s
    else { s with memories := unbindName name s.memories }

/-! ## Reports on things -/

/-- Whether a pointer is a multiple of 64, where it is an address. -/
def alignment (pointer : Nat) : Option Bool :=
  if p.isAddress pointer then some (pointer % 64 == 0) else none

def pointerText (pointer : Nat) : String :=
  if p.hasStablePointers ∨ pointer = 0 then Error.hexDigits pointer else "#"

/-- What is told about a client. Its stream goes by its place among the streams shown. -/
def reportClient (client : Client) : Act World Device Client ClientReport :=
  fun s =>
    let device := p.clientDevice client
    let streams := match p.streamOf client with
      | some stream => if stream ∈ s.streams then s.streams else s.streams ++ [stream]
      | none => s.streams
    let number := match p.streamOf client with
      | some stream => streams.idxOf stream
      | none => 0
    (.ok
      { deviceId := p.deviceId device
        deviceName := p.deviceName device
        limits := p.limits device
        allocatorLimits := p.allocatorLimits client
        text := p.clientText client number s.workspace.world },
      { s with streams })

def reportBuffer (shared : SharedBuffer Device) : BufferReport :=
  let buffer := shared.buffer
  { length := buffer.length
    dtype := buffer.dtype
    sizeInBytes := buffer.sizeInBytes
    isNull := buffer.pointer == 0
    aligned := alignment p buffer.pointer
    deviceId := p.deviceId buffer.device
    text := buffer.text p.name (pointerText p buffer.pointer) shared.handles }

/-- Words in front of the number of a stream. -/
def streamMarker : String := "cpu stream "

/-- Text that follows the marker, without the number of the stream if it reports a fault there. -/
def hideStreamNumber (text : List Char) : List Char :=
  let number := text.takeWhile Char.isDigit
  let rest := text.dropWhile Char.isDigit
  if !number.isEmpty && " faulted".toList.isPrefixOf rest then '#' :: rest else text

/-- Text in which no fault is reported on a stream by its number. -/
def hideStreamNumbers (text : String) : String :=
  let hidden := (text.splitOn streamMarker).map (fun part => part.toList)
  match hidden with
  | [] => text
  | first :: parts =>
      String.ofList
        (first ++ parts.flatMap (fun part => streamMarker.toList ++ hideStreamNumber part))

/-- An error in which the handle of an allocation goes by its place among the allocations. -/
def nameHandle (allocated : List Nat) : Error → Error
  | .invalidArgument argument (.unregistered handle) =>
      if handle ≠ 0 ∧ handle ∈ allocated then
        .invalidArgument argument
          (.other (ArgumentProblem.unregisteredText s!"#{allocated.idxOf handle}"))
      else .invalidArgument argument (.unregistered handle)
  | e => e

/-- Why a step did not succeed, with the numbers of this run replaced. -/
def reportHalt (allocated : List Nat) : Halt → Setback
  | .failed (.error e) => .error e.kind (hideStreamNumbers (nameHandle allocated e).message)
  | .failed (.fault f) => .fault f
  | .refused reason => .refused reason

/-! ## Steps -/

def callEntry (entry : Entry) (client : Client) (count src dst : Nat) : Effect World Unit :=
  let b := p.toBackend
  match entry with
  | .scalar dtype => Copy.scalar b client dtype count src dst
  | .vector dtype => Copy.vector b client dtype count src dst
  | .float => Copy.float b client count src dst
  | .floatLooped => Copy.floatLooped b client count src dst
  | .blocked sweep factor => Copy.blocked b client sweep factor count src dst
  | .withStrategy strategy dtype => Copy.withStrategy b client strategy dtype count src dst

/-- What a range of host memory holds before a transfer to it. -/
def hostPreset (length : Nat) : Bytes := List.replicate length 0xa5

def act (step : Step) : Act World Device Client Answer :=
  let b := p.toBackend
  match step with
  | .openClient name kind device => do
      let client ← onWorld (.updateGet (p.openClient kind (p.deviceOf device)))
      bindClient p name client
      return .nothing
  | .cloneClient client name => do
      bindClient p name (← clientNamed client)
      return .nothing
  | .dropClient name => do
      let client ← clientNamed name
      change (fun s => closeUnnamed p client { s with clients := unbindName name s.clients })
      return .nothing
  | .describeClient client => do
      return .client (← reportClient p (← clientNamed client))
  | .synchronize client => do
      onWorld (b.synchronize (← clientNamed client))
      return .nothing
  | .checkLastError client => do
      onWorld (b.checkLastError (← clientNamed client))
      return .nothing
  | .zeros name dtype length device => do
      let id ← onWorkspace (Workspace.zeros b (p.deviceOf device) dtype length)
      bindBuffer p name id
      return .nothing
  | .ofSlice name slice device => do
      let id ← onWorkspace (Workspace.ofSlice b (p.deviceOf device) slice)
      bindBuffer p name id
      return .nothing
  | .cloneBuffer buffer name => do
      let id ← named "buffer" State.buffers buffer
      -- The new handle first: the name may have stood for the very same buffer.
      change (fun s => { s with workspace := s.workspace.clone id })
      bindBuffer p name id
      return .nothing
  | .dropBuffer name => do
      let id ← named "buffer" State.buffers name
      change (fun s =>
        { s with
          buffers := unbindName name s.buffers
          workspace := s.workspace.drop b id })
      return .nothing
  | .describeBuffer buffer => do
      return .buffer (reportBuffer p (← bufferNamed buffer))
  | .write buffer slice => do
      let shared ← bufferNamed buffer
      onWorld (shared.buffer.write b slice)
      return .nothing
  | .read buffer dtype => do
      let shared ← bufferNamed buffer
      return .data (← onWorld (shared.buffer.read b (dtype.getD shared.buffer.dtype)))
  | .copyBuffer client src dst count strategy => do
      let client ← clientNamed client
      let src ← bufferNamed src
      let dst ← bufferNamed dst
      match strategy with
      | none => return .strategy (← onWorld (Buffer.copy b client src.buffer dst.buffer count))
      | some strategy =>
          onWorld (Buffer.copyWith b client strategy src.buffer dst.buffer count)
          return .nothing
  | .copy client entry count src dst => do
      let client ← clientNamed client
      let src ← pointerAt src
      let dst ← pointerAt dst
      onWorld (callEntry p entry client count src dst)
      return .nothing
  | .enqueue client kernel geometry count src dst => do
      let client ← clientNamed client
      let src ← pointerAt src
      let dst ← pointerAt dst
      onWorld (b.enqueue client { kernel, geometry, count, src, dst })
      return .nothing
  | .allocate name size client => do
      let pointer ← match client with
        | none => onWorld (b.allocate (p.deviceOf .standard) size)
        | some client => onWorld (p.clientAllocate (← clientNamed client) size)
      bindMemory p name { pointer, size }
      return .memory (pointer == 0) (alignment p pointer)
  | .deallocate name size client => do
      let memory ← memoryToRelease name
      let size := size.getD memory.size
      match client with
      | none => changeWorld (b.deallocate (p.deviceOf .standard) memory.pointer size)
      | some client => do
          let client ← clientNamed client
          changeWorld (p.clientDeallocate client memory.pointer size)
      retireMemory p name memory size
      return .nothing
  | .toDevice dst bytes => do
      let pointer ← pointerAt dst
      onWorld (b.copyToDevice (p.deviceOf .standard) bytes pointer)
      return .nothing
  | .fromDevice src length => do
      let pointer ← pointerAt src
      return .data
        (← onWorld (b.copyFromDevice (p.deviceOf .standard) pointer (hostPreset length)))
  | .plant hook text => do
      changeWorld (p.plant hook text)
      return .nothing

/-! ## Sessions -/

def takeTrace (s : State World Device Client) :
    (List Event × List Recorder.Call) × State World Device Client :=
  let ((events, calls), world) := p.takeTrace s.workspace.world
  ((events.toList, calls.toList), { s with workspace := { s.workspace with world } })

def runStep (mode : LogMode) (request : Request) (s : State World Device Client) :
    StepReport × State World Device Client :=
  let s := match request.address with
    | none => s
    | some address =>
        { s with
          workspace := { s.workspace with world := p.placeAt address s.workspace.world } }
  let (outcome, s) := act p request.step s
  -- Rebinding a name may release things; what that sets off belongs to this step.
  let ((events, calls), s) := takeTrace p s
  ({ outcome := outcome.mapError (reportHalt s.allocated)
     events := events.filter mode.includes
     calls }, s)

def runSteps (mode : LogMode) :
    List Request → State World Device Client → List StepReport × State World Device Client
  | [], s => ([], s)
  | request :: rest, s =>
      let (report, s) := runStep p mode request s
      let (reports, s) := runSteps mode rest s
      (report :: reports, s)

/-- Drop the buffers that are left, in the order of their names. -/
def dropAll (s : State World Device Client) : State World Device Client :=
  let ordered := s.buffers.mergeSort (fun a b => a.1 ≤ b.1)
  { s with
    buffers := []
    workspace := ordered.foldl (fun ws entry => ws.drop p.toBackend entry.2) s.workspace }

def run (mode : LogMode) (world : World) (requests : List Request) : Report :=
  let (steps, s) := runSteps p mode requests (.initial world)
  let ((_, closing), _) := takeTrace p (dropAll p s)
  { steps, closing }

end

end Session

end DeviceCopy
