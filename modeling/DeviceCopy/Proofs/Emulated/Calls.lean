import DeviceCopy.Proofs.Emulated.EntryPoints

/-!
# Calls step by step

What a host thread asks of the emulated device is a list of steps, between which the workers may get
on with their jobs: a launch is held against the limits and then submitted, a transfer waits for one
default client after the other and then moves its bytes. A wait lasts until the lane is drained.

Carried out one after the other, each at the pace the schedule sets for the workers, the steps of a
call do what the call does: `perform_effect`.
-/

set_option autoImplicit false

namespace DeviceCopy

namespace Emulated

/-! ## Steps -/

/-- What a host thread does without anybody coming in between. -/
inductive HostStep
  /-- Answer, and do nothing. -/
  | reply (answer : Except Failure Bytes)
  | tell (event : Event)
  /-- Ask for the default client of a device. -/
  | openDefault (device : Device)
  /-- Hold a launch against the limits, and leave the report on a rejected one in the flag. -/
  | screen (client : Client) (launch : Launch)
  /-- Count a job and send it, or run it here for want of a worker. -/
  | submit (client : Client) (launch : Launch)
  | takeError (client : Client)
  /-- Wait until a lane is drained, and take the fault kept there. -/
  | wait (client : Client)
  | store (pointer : Nat) (bytes : Bytes)
  | fetch (pointer count : Nat)

/-- What taking a fault from a lane answers. -/
def faultAnswer (lane : Nat) : Option Fault → Except Failure Bytes
  | none => .ok []
  | some f => .error (.error (.backend (.streamFaulted lane f)))

/-- The answer and the world after the fault kept on a client's lane has been taken. -/
def collect (client : Client) (w : World) : Except Failure Bytes × World :=
  let l := w.laneAt client.lane
  (faultAnswer client.lane l.stream.fault,
    w.putLane client.lane { l with stream := l.stream.takeFault.2 })

namespace HostStep

/-- What a step answers and does. A wait is over when it gets here. -/
def act : HostStep → World → Except Failure Bytes × World
  | .reply answer, w => (answer, w)
  | .tell event, w => (.ok [], w.tell event)
  | .openDefault device, w => (.ok [], (w.defaultClient device).2)
  | .screen client launch, w => (.ok [], (Emulated.screen client launch w).2)
  | .submit client launch, w => (.ok [], w.submit client.lane launch)
  | .takeError client, w =>
      let (answer, w) := Emulated.takeError client w
      ((answer.mapError .error).map fun _ => [], w)
  | .wait client, w => collect client w
  | .store pointer bytes, w => (.ok [], { w with memory := w.memory.write pointer bytes })
  | .fetch pointer count, w => (.ok (w.memory.read pointer count), w)

/-- How far the workers get before a step, at the pace of the schedule. -/
def before : HostStep → World → World
  | .wait client, w => w.progress.drain client.lane
  | _, w => w

/-- How far the workers get after a step, at the pace of the schedule. -/
def after : HostStep → World → World
  | .submit .., w => w.progress
  | _, w => w

/-- A step at the pace of the schedule. -/
def alone (step : HostStep) : Effect World Bytes :=
  .ofFun fun w =>
    let (answer, w) := step.act (step.before w)
    (answer, step.after w)

/-- Steps at the pace of the schedule, one after the other until one fails. The last answer is the
answer of all. -/
def carryOut (last : Bytes) : List HostStep → Effect World Bytes
  | [] => pure last
  | step :: rest => do
      let answer ← step.alone
      carryOut answer rest

end HostStep

/-! ## Calls -/

/-- What a program can ask of a client, and the transfers of the host. A clone of a client is the
same handle, so what is asked of it is asked of the client. -/
inductive HostCall
  /-- A copy entry point. -/
  | copy (kernel : Kernel) (count src dst : Nat)
  /-- A launch enqueued as it is. -/
  | enqueue (launch : Launch)
  | synchronize
  | checkLastError
  | copyToDevice (device : Device) (bytes : Bytes) (pointer : Nat)
  | copyFromDevice (device : Device) (pointer : Nat) (host : Bytes)

/-- What a program can ask for. -/
inductive Op
  | openDefault (device : Device)
  | call (client : Client) (call : HostCall)

/-- An effect that answers with no bytes. -/
def silent (e : Effect World Unit) : Effect World Bytes := do
  e
  pure []

/-- What a call does. -/
def HostCall.effect (client : Client) : HostCall → Effect World Bytes
  | .copy kernel count src dst => silent (entryPoint client kernel count src dst)
  | .enqueue launch => silent (backend.enqueue client launch)
  | .synchronize => silent (backend.synchronize client)
  | .checkLastError => silent (backend.checkLastError client)
  | .copyToDevice device bytes pointer => silent (backend.copyToDevice device bytes pointer)
  | .copyFromDevice device pointer host => backend.copyFromDevice device pointer host

def Op.effect : Op → Effect World Bytes
  | .openDefault device => silent (.update fun w => (w.defaultClient device).2)
  | .call client asked => asked.effect client

/-- An order in which the default clients are listed. Nothing is known about it but that each of
them comes once. -/
structure Listing where
  clients : World → List Client
  complete : ∀ w, (clients w).Perm (w.defaults.map Prod.snd)

/-- The default clients in the order in which they were made. -/
def Listing.byAge : Listing := ⟨fun w => w.defaults.map Prod.snd, fun _ => .refl _⟩

def enqueueSteps (client : Client) (launch : Launch) : List HostStep :=
  match launchFault launch with
  | some f => [.reply (.error (.fault f))]
  | none =>
      match client.rejection launch with
      | some _ => [.screen client launch]
      | none => [.screen client launch, .submit client launch]

/-- A transfer between a host slice and a pointer waits for every default client before it moves its
bytes. -/
def transferSteps (clients : List Client) (argument : String) (host : Bytes) (pointer : Nat)
    (moving : HostStep) : List HostStep :=
  if host.isEmpty then [.reply (.ok [])]
  else if pointer = 0 then [.reply (.error (.error (.invalidArgument argument .nullPointer)))]
  else clients.map .wait ++ [moving]

/-- The steps of a call, given the default clients there are when it begins. -/
def HostCall.steps (client : Client) (clients : List Client) : HostCall → List HostStep
  | .copy kernel count src dst =>
      match kernel.geometry client.device.limits.maxGroups count with
      | .error f => [.reply (.error (.fault f))]
      | .ok g =>
          .tell (copyEvent kernel count g) ::
            (enqueueSteps client { kernel, geometry := g, count, src, dst } ++ [.takeError client])
  | .enqueue launch => enqueueSteps client launch
  | .synchronize => [.wait client]
  | .checkLastError => [.takeError client]
  | .copyToDevice _ bytes pointer =>
      transferSteps clients "dst" bytes pointer (.store pointer bytes)
  | .copyFromDevice _ pointer host =>
      transferSteps clients "src" host pointer (.fetch pointer host.length)

def Op.steps (clients : List Client) : Op → List HostStep
  | .openDefault device => [.openDefault device]
  | .call client asked => asked.steps client clients

/-- Enqueueing a launch takes at most two steps, or ends with a fault before the first. -/
theorem enqueueSteps_cases (client : Client) (launch : Launch) :
    (∃ f, enqueueSteps client launch = [.reply (.error (.fault f))]) ∨
      enqueueSteps client launch = [.screen client launch] ∨
      enqueueSteps client launch = [.screen client launch, .submit client launch] := by
  unfold enqueueSteps
  cases launchFault launch with
  | some f => exact Or.inl ⟨f, rfl⟩
  | none =>
    cases client.rejection launch with
    | some _ => exact Or.inr (Or.inl rfl)
    | none => exact Or.inr (Or.inr rfl)

/-- A transfer answers at once, or it waits and then moves. -/
theorem transferSteps_cases (clients : List Client) (argument : String) (host : Bytes)
    (pointer : Nat) (moving : HostStep) :
    (∃ answer, transferSteps clients argument host pointer moving = [.reply answer]) ∨
      transferSteps clients argument host pointer moving = clients.map .wait ++ [moving] := by
  unfold transferSteps
  split
  · exact Or.inl ⟨_, rfl⟩
  · split
    · exact Or.inl ⟨_, rfl⟩
    · exact Or.inr rfl

/-! ## The steps of a call make the call -/

section CarryOut

open HostStep

variable {client : Client} {launch : Launch} {w : World}

theorem perform_carryOut_singleton (last : Bytes) (step : HostStep) (w : World) :
    (carryOut last [step]).perform w = step.alone.perform w := by
  rw [carryOut, Effect.perform_bind]
  rcases step.alone.perform w with ⟨answer | answer, w'⟩ <;> rfl

theorem perform_carryOut_append (last : Bytes) (first second : List HostStep) (w : World) :
    (carryOut last (first ++ second)).perform w =
      (carryOut last first >>= fun answer => carryOut answer second).perform w := by
  induction first generalizing last w with
  | nil => rfl
  | cons step rest ih =>
    rw [List.cons_append, carryOut, carryOut, bind_assoc, Effect.perform_bind, Effect.perform_bind]
    rcases step.alone.perform w with ⟨answer | answer, w'⟩
    · rfl
    · exact ih answer w'

theorem perform_wait (client : Client) (w : World) :
    (wait client).alone.perform w = (silent (synchronize client)).perform w := by
  rw [silent, Effect.perform_bind, perform_synchronize]
  simp only [alone, act, before, after, collect, Effect.perform_ofFun]
  cases ((w.progress.drain client.lane).laneAt client.lane).stream.fault <;> rfl

theorem perform_takeError (client : Client) (w : World) :
    (HostStep.takeError client).alone.perform w = (silent (checkLastError client)).perform w := by
  rw [silent, Effect.perform_bind]
  simp only [alone, act, before, after, checkLastError, Effect.perform_ofFun]
  cases (Emulated.takeError client w).1 <;> rfl

/-- Waiting for one client after the other before a last step. -/
theorem perform_waits (last : Bytes) (defaults : List (Limits × Client)) (moving : HostStep)
    (w : World) :
    (carryOut last ((defaults.map Prod.snd).map .wait ++ [moving])).perform w =
      ((defaults.forM fun entry => synchronize entry.2) >>= fun _ => moving.alone).perform w := by
  induction defaults generalizing last w with
  | nil => exact perform_carryOut_singleton last moving w
  | cons entry rest ih =>
    change (((wait entry.2).alone >>= fun answer =>
        carryOut answer ((rest.map Prod.snd).map .wait ++ [moving])).perform w) =
      ((synchronize entry.2 >>= fun _ => rest.forM fun entry => synchronize entry.2) >>= fun _ =>
        moving.alone).perform w
    rw [bind_assoc, Effect.perform_bind, Effect.perform_bind, perform_wait, silent,
      Effect.perform_bind]
    rcases (synchronize entry.2).perform w with ⟨answer | answer, w'⟩
    · rfl
    · exact ih [] w'

theorem perform_enqueueSteps (last : Bytes) (client : Client) (launch : Launch) (w : World) :
    (carryOut last (enqueueSteps client launch)).perform w =
      (silent (enqueue client launch)).perform w := by
  unfold enqueueSteps
  cases hfault : launchFault launch with
  | some f =>
    rw [perform_carryOut_singleton, silent, Effect.perform_bind, enqueue, hfault]
    rfl
  | none =>
    rw [silent, Effect.perform_bind_ok (perform_enqueue hfault w)]
    cases hreport : client.rejection launch with
    | some e =>
      rw [perform_carryOut_singleton, afterEnqueue, hreport]
      rfl
    | none =>
      rw [afterEnqueue_of_admitted hreport, carryOut, Effect.perform_bind]
      simp only [alone, act, before, after, Effect.perform_ofFun, screen_of_admitted hreport]
      rfl

theorem perform_transferSteps {argument : String} {host : Bytes} {pointer : Nat}
    {moving : HostStep} {move : Effect World Bytes} (hmove : moving.alone = move) (w : World) :
    (carryOut [] (transferSteps (Listing.byAge.clients w) argument host pointer moving)).perform w =
      (if host.isEmpty then pure []
        else if pointer = 0 then Effect.fail (.invalidArgument argument .nullPointer)
        else drainDefaults >>= fun _ => move).perform w := by
  unfold transferSteps
  split
  · rfl
  · split
    · rfl
    · rw [← hmove]
      exact perform_waits [] w.defaults moving w

theorem perform_copySteps (client : Client) (kernel : Kernel) (count src dst : Nat) (w : World) :
    (carryOut [] ((HostCall.copy kernel count src dst).steps client
        (Listing.byAge.clients w))).perform w =
      (silent (entryPoint client kernel count src dst)).perform w := by
  have hlimits : backend.clientLimits client = client.device.limits := rfl
  rw [entryPoint_eq_queueAndCheck, Copy.queueAndCheck, hlimits, HostCall.steps]
  cases kernel.geometry client.device.limits.maxGroups count with
  | error f => rfl
  | ok g =>
    let launch : Launch := { kernel, geometry := g, count, src, dst }
    let told := w.tell (copyEvent kernel count g)
    change (carryOut [] (enqueueSteps client launch ++ [.takeError client])).perform told =
      (silent (enqueue client launch >>= fun _ => checkLastError client)).perform told
    rw [perform_carryOut_append, silent, bind_assoc, Effect.perform_bind, Effect.perform_bind,
      perform_enqueueSteps, silent, Effect.perform_bind]
    rcases (enqueue client launch).perform told with ⟨answer | answer, between⟩
    · rfl
    · exact (perform_carryOut_singleton [] _ between).trans (perform_takeError client between)

/-- The steps of a call, with the default clients in the order in which they were made, do what the
call does. -/
theorem perform_effect (op : Op) (w : World) :
    (carryOut [] (op.steps (Listing.byAge.clients w))).perform w = op.effect.perform w := by
  cases op with
  | openDefault device => rfl
  | call client asked =>
    cases asked with
    | copy kernel count src dst => exact perform_copySteps client kernel count src dst w
    | enqueue launch => exact perform_enqueueSteps [] client launch w
    | synchronize => exact (perform_carryOut_singleton [] _ w).trans (perform_wait client w)
    | checkLastError => exact (perform_carryOut_singleton [] _ w).trans (perform_takeError client w)
    | copyToDevice device bytes pointer =>
      refine (perform_transferSteps rfl w).trans ?_
      simp only [Op.effect, HostCall.effect, backend, copyToDevice]
      split
      · rfl
      · split
        · rfl
        · rw [silent, bind_assoc]
          rfl
    | copyFromDevice device pointer host =>
      refine (perform_transferSteps rfl w).trans ?_
      simp only [Op.effect, HostCall.effect, backend, copyFromDevice]
      split
      · next hempty => rw [List.isEmpty_iff.mp hempty]
      · rfl

end CarryOut

end Emulated

end DeviceCopy
