import DeviceCopy.Proofs.Emulated.Lanes
import Mathlib.Algebra.BigOperators.Group.Finset.Piecewise
import Mathlib.Data.Fintype.Basic

/-!
# Threads around a stream

Any number of threads use one stream at the same time, each with a program of jobs to enqueue and of
waits. `Traffic` is the stream with all of them, and `Traffic.step` is the turn of one party, be it
a thread, the worker, or whoever drops the stream. Every turn ends where another party can come in
between: a thread counts its job and sends it in two turns, a wait that does not find the stream
drained goes to sleep, and the worker receives a job, runs it and finishes it in three. On a stream
without a worker the thread runs its job itself and then finishes it.

What a job does beyond its outcome is left out here. The history says what has happened, the latest
deed first; no turn reads it.
-/

set_option autoImplicit false

namespace DeviceCopy

namespace Emulated

namespace Traffic

/-- What a thread asks of a stream. -/
inductive Request (Job : Type)
  | enqueue (job : Job)
  | synchronize
  deriving DecidableEq, Repr

/-- How far a thread has got with its current request. -/
inductive Stage (Job : Type)
  | idle
  /-- The job is counted and still to be sent. -/
  | sending (job : Job)
  /-- The job has been run here, for want of a worker, and is still to be finished. -/
  | finishing (job : Job)
  /-- A wait that is about to look whether the stream is drained. -/
  | looking
  /-- A wait that has looked in vain and sleeps until somebody says that the stream is drained. -/
  | asleep
  deriving DecidableEq, Repr

/-- A thread with the requests it has not begun. -/
structure Thread (Job : Type) where
  todo : List (Request Job)
  stage : Stage Job
  deriving DecidableEq, Repr

/-- What has happened on the stream. -/
inductive Deed (Name Job Mishap : Type)
  | counted (thread : Name) (job : Job)
  | sent (thread : Name) (job : Job)
  | received (job : Job)
  | ran (job : Job)
  | finished (job : Job)
  | called (thread : Name)
  | answered (thread : Name) (fault : Option Mishap)
  | closed
  | dropped
  deriving DecidableEq, Repr

/-- How far the stream has got with its end. -/
inductive Phase
  | inUse
  /-- Nothing can be sent any more; the worker goes on with what has been. -/
  | closed
  | workerGone
  | dropped
  deriving DecidableEq, Repr

/-- Whose turn it is. -/
inductive Turn (Name : Type)
  | thread (i : Name)
  | worker
  /-- The holder of the last handle, who drops the stream. -/
  | dropper
  deriving DecidableEq, Repr

end Traffic

/-- A stream and the threads that use it. -/
structure Traffic (Name Job Mishap : Type) where
  stream : Stream Job Mishap
  threads : Name → Traffic.Thread Job
  /-- Whether the worker has run the job it is at. -/
  hasRun : Bool
  phase : Traffic.Phase
  history : List (Traffic.Deed Name Job Mishap)

namespace Traffic

variable {Name Job Mishap : Type}

/-- Threads about to begin their programs. -/
def start (hasWorker : Bool) (programs : Name → List (Request Job)) : Traffic Name Job Mishap :=
  { stream := .idle hasWorker, threads := fun i => ⟨programs i, .idle⟩, hasRun := false
    phase := .inUse, history := [] }

/-- Nothing is left for the thread to do. -/
def Thread.isThrough : Thread Job → Bool
  | ⟨[], .idle⟩ => true
  | _ => false

/-- A thread that sleeps wakes up and is to look again. -/
def Thread.woken (t : Thread Job) : Thread Job :=
  match t.stage with
  | .asleep => { t with stage := .looking }
  | _ => t

/-! ## What the parties do -/

section Parties

variable [DecidableEq Name] (i : Name) (job : Job) (rest : List (Request Job))
  (outcome : Job → Option Mishap) (s : Traffic Name Job Mishap)

/-- A thread is at another point of its current request. -/
def enter (stage : Stage Job) : Traffic Name Job Mishap :=
  { s with threads := Function.update s.threads i { s.threads i with stage } }

/-- A thread begins to enqueue a job: it counts the job. -/
def count : Traffic Name Job Mishap :=
  { s with
    stream := s.stream.count
    threads := Function.update s.threads i ⟨rest, .sending job⟩
    history := .counted i job :: s.history }

/-- A thread sends the job it has counted. -/
def send : Traffic Name Job Mishap :=
  { s.enter i .idle with
    stream := s.stream.send job
    history := .sent i job :: s.history }

/-- A thread runs the job it has counted. -/
def runHere : Traffic Name Job Mishap :=
  { s.enter i (.finishing job) with history := .ran job :: s.history }

/-- A job that has been run is finished. If none is left, whoever sleeps is woken. -/
def finish : Traffic Name Job Mishap :=
  let stream := s.stream.finish (outcome job)
  { s with
    stream
    threads := if stream.isDrained then fun j => (s.threads j).woken else s.threads
    history := .finished job :: s.history }

/-- A thread begins to wait. -/
def call : Traffic Name Job Mishap :=
  { s with
    threads := Function.update s.threads i ⟨rest, .looking⟩
    history := .called i :: s.history }

/-- A wait ends and hands over the fault kept on the stream. -/
def answer : Traffic Name Job Mishap :=
  { s.enter i .idle with
    stream := s.stream.takeFault.2
    history := .answered i s.stream.takeFault.1 :: s.history }

/-- The worker takes a job from the channel, after which the stream is as given. -/
def receive (stream : Stream Job Mishap) : Traffic Name Job Mishap :=
  { s with stream, history := .received job :: s.history }

/-- The worker runs the job it is at. -/
def runReceived : Traffic Name Job Mishap :=
  { s with hasRun := true, history := .ran job :: s.history }

/-- What the worker does when it is its turn. -/
def work : Traffic Name Job Mishap :=
  match s.stream.running with
  | some job =>
      if s.hasRun then { s.finish job outcome with hasRun := false } else s.runReceived job
  | none =>
      match s.stream.receive with
      | some (job, stream) => s.receive job stream
      -- The channel is empty. Once it is closed as well, that is the end of the worker.
      | none => if s.phase = .closed then { s with phase := .workerGone } else s

/-- What the dropper does when it is its turn. The last handle is not dropped while a thread still
needs one. -/
def dropHandle [Fintype Name] : Traffic Name Job Mishap :=
  let gone := { s with phase := .dropped, history := .dropped :: s.history }
  match s.phase with
  | .inUse =>
      if ∀ j, (s.threads j).isThrough = true then
        { s with phase := .closed, history := .closed :: s.history }
      else s
  -- With a worker there is somebody to wait for.
  | .closed => if s.stream.hasWorker then s else gone
  | .workerGone => gone
  | .dropped => s

/-- What a thread does when it is its turn. -/
def act : Traffic Name Job Mishap :=
  match (s.threads i).stage with
  | .idle =>
      match (s.threads i).todo with
      | [] => s
      | .enqueue job :: rest => s.count i job rest
      | .synchronize :: rest => s.call i rest
  | .sending job => if s.stream.hasWorker then s.send i job else s.runHere i job
  | .finishing job => (s.enter i .idle).finish job outcome
  | .looking => if s.stream.isDrained then s.answer i else s.enter i .asleep
  | .asleep => s

/-- One turn. -/
def step [Fintype Name] : Turn Name → Traffic Name Job Mishap
  | .thread i => s.act i outcome
  | .worker => s.work outcome
  | .dropper => s.dropHandle

/-- Take turns in a given order. -/
def run [Fintype Name] (order : List (Turn Name)) : Traffic Name Job Mishap :=
  order.foldl (fun s turn => s.step outcome turn) s

end Parties

/-! ## What a turn can be -/

/-- Everything a turn can do to a stream and its threads. -/
inductive Move [DecidableEq Name] (outcome : Job → Option Mishap) (s : Traffic Name Job Mishap) :
    Traffic Name Job Mishap → Prop
  | stay : Move outcome s s
  | count {i : Name} {job : Job} {rest : List (Request Job)}
      (stage : (s.threads i).stage = .idle) (todo : (s.threads i).todo = .enqueue job :: rest) :
      Move outcome s (s.count i job rest)
  | send {i : Name} {job : Job} (stage : (s.threads i).stage = .sending job)
      (worker : s.stream.hasWorker = true) : Move outcome s (s.send i job)
  | runHere {i : Name} {job : Job} (stage : (s.threads i).stage = .sending job)
      (inline : s.stream.hasWorker = false) : Move outcome s (s.runHere i job)
  | finishHere {i : Name} {job : Job} (stage : (s.threads i).stage = .finishing job) :
      Move outcome s ((s.enter i .idle).finish job outcome)
  | call {i : Name} {rest : List (Request Job)}
      (stage : (s.threads i).stage = .idle) (todo : (s.threads i).todo = .synchronize :: rest) :
      Move outcome s (s.call i rest)
  | answer {i : Name} (stage : (s.threads i).stage = .looking)
      (drained : s.stream.pending = 0) : Move outcome s (s.answer i)
  | doze {i : Name} (stage : (s.threads i).stage = .looking)
      (busy : 0 < s.stream.pending) : Move outcome s (s.enter i .asleep)
  | receive {job : Job} {waiting : List Job} (free : s.stream.running = none)
      (next : s.stream.waiting = job :: waiting) :
      Move outcome s (s.receive job { s.stream with waiting, running := some job })
  | runReceived {job : Job} (running : s.stream.running = some job) (fresh : s.hasRun = false) :
      Move outcome s (s.runReceived job)
  | finish {job : Job} (running : s.stream.running = some job) (done : s.hasRun = true) :
      Move outcome s { s.finish job outcome with hasRun := false }
  | leave (idle : s.stream.unfinished = []) (closed : s.phase = .closed) :
      Move outcome s { s with phase := .workerGone }
  | close (through : ∀ i, (s.threads i).isThrough = true) (inUse : s.phase = .inUse) :
      Move outcome s { s with phase := .closed, history := .closed :: s.history }
  | drop (ended : s.phase = .closed ∧ s.stream.hasWorker = false ∨ s.phase = .workerGone) :
      Move outcome s { s with phase := .dropped, history := .dropped :: s.history }

section Moves

variable [DecidableEq Name] {outcome : Job → Option Mishap}

theorem move_act (s : Traffic Name Job Mishap) (i : Name) : Move outcome s (s.act i outcome) := by
  unfold act
  cases hstage : (s.threads i).stage with
  | idle =>
    cases htodo : (s.threads i).todo with
    | nil => exact .stay
    | cons request rest =>
      cases request with
      | enqueue job => exact .count hstage htodo
      | synchronize => exact .call hstage htodo
  | sending job =>
    cases hworker : s.stream.hasWorker with
    | true => exact .send hstage hworker
    | false => exact .runHere hstage hworker
  | finishing job => exact .finishHere hstage
  | looking =>
    simp only [Stream.isDrained, beq_iff_eq]
    split
    · next hdrained => exact .answer hstage hdrained
    · next hbusy => exact .doze hstage (Nat.pos_of_ne_zero hbusy)
  | asleep => exact .stay

theorem move_work (s : Traffic Name Job Mishap) : Move outcome s (s.work outcome) := by
  unfold work
  cases hrunning : s.stream.running with
  | some job =>
    cases hrun : s.hasRun with
    | false => exact .runReceived hrunning hrun
    | true => exact .finish hrunning hrun
  | none =>
    cases hwaiting : s.stream.waiting with
    | cons job waiting =>
      simp only [Stream.receive, hrunning, hwaiting]
      exact .receive hrunning hwaiting
    | nil =>
      simp only [Stream.receive, hrunning, hwaiting]
      split
      · next hclosed => exact .leave (by simp [Stream.unfinished, hrunning, hwaiting]) hclosed
      · exact .stay

variable [Fintype Name]

theorem move_dropHandle (s : Traffic Name Job Mishap) : Move outcome s s.dropHandle := by
  unfold dropHandle
  cases hphase : s.phase with
  | inUse =>
    simp only
    split
    · next hthrough => exact .close hthrough hphase
    · exact .stay
  | closed =>
    cases hworker : s.stream.hasWorker with
    | false => exact .drop (Or.inl ⟨hphase, hworker⟩)
    | true => exact .stay
  | workerGone => exact .drop (Or.inr hphase)
  | dropped => exact .stay

/-- A turn is one of these moves. -/
theorem move_step (s : Traffic Name Job Mishap) (turn : Turn Name) :
    Move outcome s (s.step outcome turn) := by
  cases turn with
  | thread i => exact move_act s i
  | worker => exact move_work s
  | dropper => exact move_dropHandle s

/-- What every move preserves holds however the turns come. -/
theorem run_induction {P : Traffic Name Job Mishap → Prop}
    (hmove : ∀ s s', P s → Move outcome s s' → P s') {s : Traffic Name Job Mishap} (h : P s)
    (order : List (Turn Name)) : P (s.run outcome order) := by
  induction order generalizing s with
  | nil => exact h
  | cons turn rest ih => exact ih (hmove s _ h (move_step s turn))

end Moves

end Traffic

end Emulated

end DeviceCopy
