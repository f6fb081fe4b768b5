import DeviceCopy.Proofs.Emulated.Calls
import DeviceCopy.Proofs.History

/-!
# One host thread and the workers

A single thread carries out a program on the emulated device while the workers run jobs. `Solo` is
the device with what is left of the program, and `Solo.step` is one turn: a step of the host thread
or one job of a worker. The turns may come in any order. A thread at a wait stays there until the
lane is drained; nothing else holds it up.

The history says which calls have begun and ended, which jobs have been submitted and completed, and
which bytes the host has stored and fetched. No turn reads it.
-/

set_option autoImplicit false

namespace DeviceCopy

namespace Emulated

namespace Solo

/-- What has happened. -/
inductive Entry
  | began (op : Op)
  | submitted (lane : Nat) (job : Launch)
  | completed (lane : Nat) (job : Launch)
  | stored (pointer : Nat) (bytes : Bytes)
  | fetched (pointer count : Nat)
  | ended (answer : Except Failure Bytes)

/-- Whose turn it is. -/
inductive Turn
  | host
  | worker (lane : Nat)
  deriving DecidableEq, Repr

end Solo

/-- The emulated device with one host thread. -/
structure Solo where
  world : World
  /-- What is left of the call the thread is at. -/
  steps : List HostStep
  todo : List Op
  history : List Solo.Entry

/-- The thread is held up at a step as long as there are jobs to wait for. -/
def HostStep.isHeldUp : HostStep → World → Bool
  | .wait client, w => !(w.laneAt client.lane).stream.isDrained
  | _, _ => false

/-- What there is to say about a step, the latest first. -/
def HostStep.entries : HostStep → World → List Solo.Entry
  | .submit client launch, w =>
      if w.lanes.size ≤ client.lane then []
      else if (w.laneAt client.lane).stream.hasWorker then [.submitted client.lane launch]
      else [.completed client.lane launch, .submitted client.lane launch]
  | .store pointer bytes, _ => [.stored pointer bytes]
  | .fetch pointer count, _ => [.fetched pointer count]
  | _, _ => []

namespace Solo

/-- A thread about to begin its program. -/
def start (w : World) (program : List Op) : Solo :=
  { world := w, steps := [], todo := program, history := [] }

/-- The thread begins a call. The default clients are those there are now. -/
def begin (listing : Listing) (op : Op) (rest : List Op) (s : Solo) : Solo :=
  { s with
    steps := op.steps (listing.clients s.world)
    todo := rest
    history := .began op :: s.history }

/-- What is left of a call after a step with this answer. -/
def stepsLeft (answer : Except Failure Bytes) (rest : List HostStep) : List HostStep :=
  match answer with
  | .ok _ => rest
  | .error _ => []

theorem length_stepsLeft_le (answer : Except Failure Bytes) (rest : List HostStep) :
    (stepsLeft answer rest).length ≤ rest.length := by
  cases answer with
  | ok bytes => exact le_rfl
  | error failure => exact Nat.zero_le _

/-- The thread takes a step of its call, which ends with the last step or with one that fails. -/
def goOn (step : HostStep) (rest : List HostStep) (s : Solo) : Solo :=
  let (answer, world) := step.act s.world
  let steps := stepsLeft answer rest
  let ending := if steps.isEmpty then [Entry.ended answer] else []
  { s with world, steps, history := ending ++ step.entries s.world ++ s.history }

/-- A worker runs a job and finishes it. -/
def complete (lane : Nat) (job : Launch) (s : Solo) : Solo :=
  { s with world := s.world.work lane, history := .completed lane job :: s.history }

/-- The turn of the host thread. -/
def advance (listing : Listing) (s : Solo) : Solo :=
  match s.steps with
  | step :: rest => if step.isHeldUp s.world then s else s.goOn step rest
  | [] =>
      match s.todo with
      | op :: rest => s.begin listing op rest
      | [] => s

/-- The turn of a worker. -/
def work (lane : Nat) (s : Solo) : Solo :=
  match s.world.unfinished lane with
  | job :: _ => s.complete lane job
  | [] => s

/-- One turn. -/
def step (listing : Listing) (s : Solo) : Turn → Solo
  | .host => s.advance listing
  | .worker lane => s.work lane

/-- Take turns in a given order. -/
def run (listing : Listing) (s : Solo) (turns : List Turn) : Solo :=
  turns.foldl (step listing) s

/-- The program has come to its end. -/
def isThrough (s : Solo) : Bool := s.steps.isEmpty && s.todo.isEmpty

/-! ## What a turn can be -/

/-- Everything a turn can do. -/
inductive Move (listing : Listing) (s : Solo) : Solo → Prop
  | stay : Move listing s s
  | begin {op : Op} {rest : List Op} (idle : s.steps = []) (next : s.todo = op :: rest) :
      Move listing s (s.begin listing op rest)
  | goOn {step : HostStep} {rest : List HostStep} (next : s.steps = step :: rest)
      (free : step.isHeldUp s.world = false) : Move listing s (s.goOn step rest)
  | complete {lane : Nat} {job : Launch} {rest : List Launch}
      (next : s.world.unfinished lane = job :: rest) : Move listing s (s.complete lane job)

variable {listing : Listing} {s s' : Solo}

theorem move_advance (listing : Listing) (s : Solo) : Move listing s (s.advance listing) := by
  unfold advance
  cases hsteps : s.steps with
  | cons step rest =>
    dsimp only
    split
    · exact .stay
    · next hfree => exact .goOn hsteps (Bool.of_not_eq_true hfree)
  | nil =>
    cases htodo : s.todo with
    | cons op rest => exact .begin hsteps htodo
    | nil => exact .stay

theorem move_work (listing : Listing) (s : Solo) (lane : Nat) : Move listing s (s.work lane) := by
  unfold work
  cases hjobs : s.world.unfinished lane with
  | cons job rest => exact .complete hjobs
  | nil => exact .stay

theorem move_step (listing : Listing) (s : Solo) (turn : Turn) :
    Move listing s (s.step listing turn) := by
  cases turn with
  | host => exact move_advance listing s
  | worker lane => exact move_work listing s lane

/-- What every move preserves holds however the turns come. -/
theorem run_induction {P : Solo → Prop} (hmove : ∀ s s', P s → Move listing s s' → P s') (h : P s)
    (turns : List Turn) : P (s.run listing turns) := by
  induction turns generalizing s with
  | nil => exact h
  | cons turn rest ih => exact ih (hmove s _ h (move_step listing s turn))

theorem run_append (first second : List Turn) :
    s.run listing (first ++ second) = (s.run listing first).run listing second :=
  List.foldl_append

end Solo

/-! ## What steps do to the lanes -/

section Act

variable {client : Client} {w : World} {lane : Nat}

/-- Putting a lane back with the same jobs. -/
theorem World.unfinished_putLane_same {l : Lane}
    (h : l.stream.unfinished = (w.laneAt client.lane).stream.unfinished) (lane : Nat) :
    (w.putLane client.lane l).unfinished lane = w.unfinished lane := by
  by_cases hlane : lane = client.lane
  · subst hlane
    rcases Nat.lt_or_ge client.lane w.lanes.size with hlt | hge
    · rw [World.unfinished_putLane hlt, h]
      rfl
    · rw [World.unfinished_of_size_le hge, World.unfinished_of_size_le (by simpa using hge)]
  · exact World.unfinished_congr (World.laneAt_putLane_of_ne hlane)

theorem unfinished_collect (client : Client) (w : World) (lane : Nat) :
    (collect client w).2.unfinished lane = w.unfinished lane := by
  let l := w.laneAt client.lane
  have hjobs : l.stream.takeFault.2.unfinished = l.stream.unfinished := rfl
  exact World.unfinished_putLane_same (l := { l with stream := l.stream.takeFault.2 }) hjobs lane

theorem World.Sound.collect (h : w.Sound) (client : Client) : (collect client w).2.Sound := by
  intro lane
  by_cases hlane : lane = client.lane
  · subst hlane
    rcases Nat.lt_or_ge client.lane w.lanes.size with hlt | hge
    · have hput : (Emulated.collect client w).2.laneAt client.lane = _ := World.laneAt_putLane hlt
      rw [hput]
      exact ⟨(h client.lane).accounted, (h client.lane).inline⟩
    · rw [World.laneAt_of_size_le (by simpa [Emulated.collect] using hge)]
      exact Stream.sound_idle false
  · have hput : (Emulated.collect client w).2.laneAt lane = w.laneAt lane :=
      World.laneAt_putLane_of_ne hlane
    rw [hput]
    exact h lane

theorem World.Sound.act (h : w.Sound) (step : HostStep) : (step.act w).2.Sound := by
  cases step with
  | reply answer => exact h
  | tell event => exact h
  | openDefault device => exact h.defaultClient device
  | screen client launch => exact (sameStreams_screen client launch w).sound h
  | submit client launch => exact h.submit client.lane launch
  | takeError client => exact (sameStreams_takeError client w).sound h
  | wait client => exact h.collect client
  | store pointer bytes => exact h
  | fetch pointer count => exact h

/-- Once nothing is pending on a lane, no job is left there. -/
theorem World.Sound.unfinished_of_free (h : w.Sound)
    (hfree : (HostStep.wait client).isHeldUp w = false) : w.unfinished client.lane = [] := by
  have hpending : (w.laneAt client.lane).stream.pending = 0 := by
    simpa [HostStep.isHeldUp, Stream.isDrained] using hfree
  have hlength := (h client.lane).accounted
  rw [hpending] at hlength
  exact List.eq_nil_of_length_eq_zero hlength.symm

theorem World.Sound.free_of_unfinished (h : w.Sound) (hnone : w.unfinished client.lane = []) :
    (HostStep.wait client).isHeldUp w = false := by
  have hlength := (h client.lane).accounted
  have hpending : (w.laneAt client.lane).stream.pending = 0 := by
    rw [hlength]
    exact List.length_eq_zero_iff.mpr hnone
  simp [HostStep.isHeldUp, Stream.isDrained, hpending]

end Act

namespace Solo

variable {listing : Listing} {s s' : Solo}

theorem sound_move (h : s.world.Sound) (hmove : Move listing s s') : s'.world.Sound := by
  cases hmove with
  | stay => exact h
  | begin idle next => exact h
  | @goOn step rest next free => exact h.act step
  | @complete lane job rest next => exact h.work lane

theorem sound_run (h : s.world.Sound) (turns : List Turn) : (s.run listing turns).world.Sound :=
  run_induction (fun _ _ hs hmove => sound_move hs hmove) h turns

/-! ## Every program comes to its end -/

/-- The worker of a lane may take turns until no job is left there. -/
theorem run_workers (lane : Nat) (jobs : Nat) (h : (s.world.unfinished lane).length = jobs) :
    ∃ turns, (s.run listing turns).world.unfinished lane = [] ∧
      (s.run listing turns).steps = s.steps ∧ (s.run listing turns).todo = s.todo := by
  induction jobs generalizing s with
  | zero => exact ⟨[], List.eq_nil_of_length_eq_zero h, rfl, rfl⟩
  | succ jobs ih =>
    obtain ⟨job, rest, hjobs⟩ : ∃ job rest, s.world.unfinished lane = job :: rest :=
      List.exists_cons_of_length_eq_add_one h
    have hstep : s.step listing (.worker lane) = s.complete lane job := by
      simp [step, work, hjobs]
    have hless : ((s.complete lane job).world.unfinished lane).length = jobs := by
      change ((s.world.work lane).unfinished lane).length = jobs
      rw [World.unfinished_work, List.length_tail, h]
      rfl
    obtain ⟨turns, hnone, hsteps, htodo⟩ := ih hless
    refine ⟨.worker lane :: turns, ?_⟩
    change ((s.step listing (.worker lane)).run listing turns).world.unfinished lane = [] ∧
      ((s.step listing (.worker lane)).run listing turns).steps = s.steps ∧
      ((s.step listing (.worker lane)).run listing turns).todo = s.todo
    rw [hstep]
    exact ⟨hnone, hsteps, htodo⟩

/-- A thread in the middle of a call can be brought a step further. -/
theorem exists_fewer_steps (h : s.world.Sound) {step : HostStep} {rest : List HostStep}
    (hsteps : s.steps = step :: rest) :
    ∃ turns, (s.run listing turns).steps.length < s.steps.length ∧
      (s.run listing turns).todo = s.todo := by
  -- First the lane the step may be a wait for is drained.
  obtain ⟨turns, hfree, hsame, htodo⟩ : ∃ turns, step.isHeldUp (s.run listing turns).world = false ∧
      (s.run listing turns).steps = s.steps ∧ (s.run listing turns).todo = s.todo := by
    cases step with
    | wait client =>
      obtain ⟨turns, hnone, hsame, htodo⟩ : ∃ turns, (s.run listing turns).world.unfinished
          client.lane = [] ∧ (s.run listing turns).steps = s.steps ∧
          (s.run listing turns).todo = s.todo := run_workers client.lane _ rfl
      exact ⟨turns, (sound_run h turns).free_of_unfinished hnone, hsame, htodo⟩
    | _ => exact ⟨[], rfl, rfl, rfl⟩
  have hnext : (s.run listing turns).advance listing =
      (s.run listing turns).goOn step rest := by
    simp [advance, hsame, hsteps, hfree]
  refine ⟨turns ++ [.host], ?_⟩
  rw [run_append]
  change ((s.run listing turns).advance listing).steps.length < s.steps.length ∧
    ((s.run listing turns).advance listing).todo = s.todo
  rw [hnext, hsteps, ← htodo]
  refine ⟨?_, rfl⟩
  change (stepsLeft (step.act (s.run listing turns).world).1 rest).length < rest.length + 1
  exact Nat.lt_succ_of_le (length_stepsLeft_le _ _)

theorem exists_idle (h : s.world.Sound) :
    ∃ turns, (s.run listing turns).steps = [] ∧ (s.run listing turns).todo = s.todo := by
  induction hlength : s.steps.length using Nat.strong_induction_on generalizing s with
  | _ length ih =>
    cases hsteps : s.steps with
    | nil => exact ⟨[], hsteps, rfl⟩
    | cons step rest =>
      obtain ⟨turns, hless, htodo⟩ : ∃ turns, (s.run listing turns).steps.length < s.steps.length ∧
        (s.run listing turns).todo = s.todo := exists_fewer_steps h hsteps
      obtain ⟨more, hidle, hsame⟩ := ih _ (hlength ▸ hless) (sound_run h turns) rfl
      refine ⟨turns ++ more, ?_⟩
      rw [run_append]
      exact ⟨hidle, hsame.trans htodo⟩

/-- From wherever the thread has got to, there are turns that bring it to the end of its program. -/
theorem exists_through (h : s.world.Sound) : ∃ more, (s.run listing more).isThrough = true := by
  induction htodo : s.todo generalizing s with
  | nil =>
    obtain ⟨turns, hidle, hsame⟩ : ∃ turns, (s.run listing turns).steps = [] ∧
      (s.run listing turns).todo = s.todo := exists_idle h
    exact ⟨turns, by simp [isThrough, hidle, hsame, htodo]⟩
  | cons op rest ih =>
    obtain ⟨turns, hidle, hsame⟩ : ∃ turns, (s.run listing turns).steps = [] ∧
      (s.run listing turns).todo = s.todo := exists_idle h
    have hbegins : (s.run listing turns).advance listing =
        (s.run listing turns).begin listing op rest := by
      simp [advance, hidle, hsame, htodo]
    have hmove := move_advance listing (s.run listing turns)
    obtain ⟨more, hthrough⟩ := ih (sound_move (sound_run h turns) hmove) (by rw [hbegins]; rfl)
    refine ⟨turns ++ .host :: more, ?_⟩
    rw [run_append]
    exact hthrough

end Solo

end Emulated

end DeviceCopy
