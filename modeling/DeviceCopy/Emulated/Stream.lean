import DeviceCopy.Checked

/-!
# Streams

A stream carries jobs out in the order in which they were sent, one at a time, while the sender goes
on. It is described by the separate steps its parties take, so that any interleaving of them can be
spelled out: a sender first counts a job as pending and then sends it; the worker receives a job,
runs it and finishes it; a waiter looks at the pending count and, once that is zero, takes the
fault. The fault kept is the first since the last one taken. A stream without a worker is used by
counting a job, running it on the spot and finishing it.
-/

set_option autoImplicit false

namespace DeviceCopy

namespace Emulated

/-- Progress of one stream, over any type of jobs and any type of what can go wrong in one. -/
structure Stream (Job Mishap : Type) where
  hasWorker : Bool
  /-- Jobs counted and not finished. -/
  pending : Nat
  /-- Jobs sent and not received, the oldest first. -/
  waiting : List Job
  running : Option Job
  /-- The first fault since the last one taken. -/
  fault : Option Mishap
  deriving Repr

namespace Stream

variable {Job Mishap : Type}

def idle (hasWorker : Bool) : Stream Job Mishap :=
  { hasWorker, pending := 0, waiting := [], running := none, fault := none }

/-- A sender counts the job it is about to send. -/
def count (s : Stream Job Mishap) : Stream Job Mishap := { s with pending := s.pending + 1 }

/-- A sender sends a job. -/
def send (s : Stream Job Mishap) (job : Job) : Stream Job Mishap :=
  { s with waiting := s.waiting ++ [job] }

/-- The worker, when it is free, receives the oldest job. -/
def receive (s : Stream Job Mishap) : Option (Job × Stream Job Mishap) :=
  match s.running, s.waiting with
  | none, job :: rest => some (job, { s with waiting := rest, running := some job })
  | _, _ => none

/-- The job the worker goes on with: the one it is at, or else the oldest that waits. -/
def resume (s : Stream Job Mishap) : Option (Job × Stream Job Mishap) :=
  match s.running with
  | some job => some (job, s)
  | none => s.receive

/-- Jobs sent and not finished. -/
def backlog (s : Stream Job Mishap) : Nat :=
  s.waiting.length + (if s.running.isSome then 1 else 0)

/-- A job has been run, with the fault it ended in, if any. An earlier fault stays. -/
def finish (s : Stream Job Mishap) (outcome : Option Mishap) : Stream Job Mishap :=
  { s with pending := s.pending - 1, running := none, fault := s.fault <|> outcome }

/-- Whether a waiter may go on. -/
def isDrained (s : Stream Job Mishap) : Bool := s.pending == 0

def takeFault (s : Stream Job Mishap) : Option Mishap × Stream Job Mishap :=
  (s.fault, { s with fault := none })

end Stream

end Emulated

end DeviceCopy
