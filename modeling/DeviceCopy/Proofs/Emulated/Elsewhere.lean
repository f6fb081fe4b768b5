import DeviceCopy.Proofs.Emulated.Blocks

/-!
# Jobs on other lanes

While one lane is looked at, the workers of the others go on. What they do shows in memory, but not
where their jobs do not write: on the addresses that all of them spare, a lane ends up where it was
headed, however the workers take turns (`World.Calm.progress`). The fault a lane is headed for does
not depend on memory at all, so it is the same whatever happens elsewhere.

A job writes inside its destination only (`Launch.spares_of_outside`).
-/

set_option autoImplicit false

namespace DeviceCopy

/-- Two memories have the same bytes in a region. -/
def Memory.AgreeOn (region : Nat → Prop) (m m' : Memory) : Prop :=
  ∀ a, region a → m.get a = m'.get a

/-! ## What a thread leaves alone -/

namespace Program

/-- A register that is known to be loaded from a span holds as many bytes as the span. -/
def Filled (known : Origins) (r : Registers) : Prop :=
  ∀ slot span, known slot = some span → (r.get slot).length = span.width

theorem get_foldl_of_outside {extent src dst a : Nat} (hout : ¬ (dst ≤ a ∧ a < dst + extent))
    {known : Origins} {actions : List Action}
    (hinside : ∀ action ∈ actions, action.span.offset + action.span.width ≤ extent)
    (hfaithful : Faithful known actions) {r : Registers} (hfilled : Filled known r) (m : Memory) :
    (actions.foldl (fun state action => action.apply src dst state) (r, m)).2.get a = m.get a := by
  induction actions generalizing known r m with
  | nil => rfl
  | cons action rest ih =>
    have hrest : ∀ other ∈ rest, other.span.offset + other.span.width ≤ extent :=
      fun other hother => hinside other (List.mem_cons_of_mem action hother)
    have hfirst := hinside action List.mem_cons_self
    cases action with
    | load slot span =>
      have hloaded : Filled (known.load slot span)
          (r.set slot (m.read (src + span.offset) span.width)) := by
        intro other place hplace
        by_cases hother : other = slot
        · subst hother
          have hspan : place = span := by simpa [Origins.load, eq_comm] using hplace
          rw [Paged.get_set_self, Memory.length_read, hspan]
        · have hknown : known other = some place := by
            simpa [Origins.load, Function.update_of_ne hother] using hplace
          rw [Paged.get_set_ne _ _ (Ne.symm hother)]
          exact hfilled other place hknown
      exact ih hrest hfaithful hloaded m
    | store slot span =>
      -- As many bytes are stored as the span has, and the span lies inside the extent.
      have hlength := hfilled slot span hfaithful.1
      have hspan : span.offset + span.width ≤ extent := hfirst
      refine (ih hrest hfaithful.2 hfilled _).trans ?_
      rw [Memory.get_write, if_neg]
      omega

/-- A program that copies within an extent leaves everything outside the destination alone. -/
theorem Copies.get_run {p : Program} {extent src dst a : Nat} (h : p.Copies extent)
    (hout : ¬ (dst ≤ a ∧ a < dst + extent)) (m : Memory) : (p.run src dst m).get a = m.get a :=
  get_foldl_of_outside hout h.inside h.faithful (fun _ _ hknown => nomatch hknown) m

end Program

/-! ## What a job leaves alone -/

namespace Launch

/-- Wherever it starts from, the job leaves the byte at an address as it is. -/
def Spares (job : Launch) (a : Nat) : Prop := ∀ m : Memory, (job.run m).1.get a = m.get a

/-- What the job leaves in a region depends only on what it finds there. -/
def StaysIn (region : Nat → Prop) (job : Launch) : Prop :=
  ∀ m m' : Memory, m.AgreeOn region m' → (job.run m).1.AgreeOn region (job.run m').1

theorem get_runFrom_of_outside {l : Launch} (hk : l.kernel.HasSlots) {a : Nat}
    (hout : ¬ (l.dst ≤ a ∧ a < l.dst + l.extent)) {remaining rank : Nat}
    (hranks : rank + remaining ≤ l.geometry.threadCount) (m : Memory) :
    (l.runFrom remaining rank m).1.get a = m.get a := by
  induction remaining generalizing rank m with
  | zero => rfl
  | succ remaining ih =>
    have hrank : rank < l.geometry.threadCount := by omega
    have hthread : ((l.programAt rank).run l.src l.dst m).get a = m.get a :=
      (copies_programAt hk hrank).get_run hout m
    unfold runFrom
    -- A thread that gives up ends the launch, and has left the byte alone as well.
    cases hfault : (l.programAt rank).fault with
    | some f => simpa [hfault] using hthread
    | none => simpa [hfault] using (ih (by omega) _).trans hthread

/-- A job writes nowhere but in its destination, whether or not it faults. -/
theorem spares_of_outside {l : Launch} (hk : l.kernel.HasSlots) {a : Nat}
    (hout : ¬ (l.dst ≤ a ∧ a < l.dst + l.extent)) : l.Spares a :=
  fun m => get_runFrom_of_outside hk hout (Nat.le_of_eq (Nat.zero_add _)) m

theorem fault_runFrom (l : Launch) (remaining rank : Nat) (m m' : Memory) :
    (l.runFrom remaining rank m).2 = (l.runFrom remaining rank m').2 := by
  induction remaining generalizing rank m m' with
  | zero => rfl
  | succ remaining ih =>
    unfold runFrom
    cases hfault : (l.programAt rank).fault with
    | some f => simp [hfault]
    | none => simpa [hfault] using ih _ _ _

/-- Whether a job faults does not depend on the memory it finds. -/
theorem fault_run (l : Launch) (m m' : Memory) : (l.run m).2 = (l.run m').2 :=
  l.fault_runFrom _ _ m m'

theorem fault_runAll (jobs : List Launch) (m m' : Memory) : (runAll jobs m).2 = (runAll jobs m').2 := by
  induction jobs generalizing m m' with
  | nil => rfl
  | cons job rest ih =>
    simp only [runAll]
    rw [fault_run job m m', ih (job.run m).1 (job.run m').1]

theorem agreeOn_runAll {region : Nat → Prop} {jobs : List Launch}
    (h : ∀ job ∈ jobs, job.StaysIn region) {m m' : Memory} (hagree : m.AgreeOn region m') :
    (runAll jobs m).1.AgreeOn region (runAll jobs m').1 := by
  induction jobs generalizing m m' with
  | nil => exact hagree
  | cons job rest ih =>
    exact ih (fun other hother => h other (List.mem_cons_of_mem job hother))
      (h job List.mem_cons_self m m' hagree)

end Launch

namespace Emulated

namespace World

variable {w w' w'' : World} {lane : Nat} {region : Nat → Prop}

/-- No job that is left on another lane writes to the address. -/
def Quiet (w : World) (lane a : Nat) : Prop :=
  ∀ other, other ≠ lane → ∀ job ∈ w.unfinished other, job.Spares a

theorem Quiet.of_idle (h : ∀ other, other ≠ lane → w.unfinished other = []) (a : Nat) :
    w.Quiet lane a := by
  intro other hother job hjob
  rw [h other hother] at hjob
  cases hjob

/-- The jobs of other lanes spare a region, and those of this lane look no further. -/
structure Calm (w : World) (lane : Nat) (region : Nat → Prop) : Prop where
  others : ∀ a, region a → w.Quiet lane a
  own : ∀ job ∈ w.unfinished lane, job.StaysIn region

theorem Calm.of_subset (h : w.Calm lane region)
    (hjobs : ∀ other, w'.unfinished other ⊆ w.unfinished other) : w'.Calm lane region :=
  ⟨fun a ha other hother job hjob => h.others a ha other hother job (hjobs other hjob),
    fun job hjob => h.own job (hjobs lane hjob)⟩

/-- In a region of no addresses it is always calm. -/
theorem calm_nowhere (w : World) (lane : Nat) : w.Calm lane (fun _ => False) :=
  ⟨fun _ ha => ha.elim, fun _ _ _ _ _ _ ha => ha.elim⟩

/-- Two worlds whose lane is headed for the same bytes in a region and for the same fault. -/
structure SameCourse (lane : Nat) (region : Nat → Prop) (w w' : World) : Prop where
  memory : (w.settled lane).1.AgreeOn region (w'.settled lane).1
  fault : (w.settled lane).2 = (w'.settled lane).2

theorem SameCourse.refl (lane : Nat) (region : Nat → Prop) (w : World) :
    w.SameCourse lane region w := ⟨fun _ _ => rfl, rfl⟩

theorem SameCourse.of_settled_eq (h : w.settled lane = w'.settled lane) :
    w.SameCourse lane region w' := by
  refine ⟨?_, congrArg Prod.snd h⟩
  rw [h]
  exact fun _ _ => rfl

theorem SameCourse.trans (h : w.SameCourse lane region w') (h' : w'.SameCourse lane region w'') :
    w.SameCourse lane region w'' :=
  ⟨fun a ha => (h.memory a ha).trans (h'.memory a ha), h.fault.trans h'.fault⟩

theorem unfinished_work_subset (w : World) (turn other : Nat) :
    (w.work turn).unfinished other ⊆ w.unfinished other := by
  by_cases hother : other = turn
  · subst hother
    rw [unfinished_work]
    exact (List.tail_sublist _).subset
  · rw [unfinished_congr (laneAt_work_of_ne w hother)]
    exact List.Subset.refl _

/-- Whichever worker runs a job, the lane keeps its course. -/
theorem Calm.work (h : w.Calm lane region) (turn : Nat) :
    (w.work turn).SameCourse lane region w := by
  by_cases hturn : turn = lane
  · subst hturn
    exact .of_settled_eq (settled_work w turn)
  · cases hjobs : w.unfinished turn with
    | nil =>
      rw [work_of_idle hjobs]
      exact .refl lane region w
    | cons job rest =>
      -- A job of another lane: the lane has the same jobs before it, from a memory that is the
      -- same in the region.
      have hlane : (w.work turn).laneAt lane = w.laneAt lane := laneAt_work_of_ne w (Ne.symm hturn)
      have hleft : (w.work turn).unfinished lane = w.unfinished lane := unfinished_congr hlane
      have hkept : (w.work turn).faultAt lane = w.faultAt lane :=
        congrArg (fun l : Lane => l.stream.fault) hlane
      have hmemory : (w.work turn).memory = (job.run w.memory).1 := by rw [work_of_busy hjobs]
      have hagree : (w.work turn).memory.AgreeOn region w.memory := by
        intro a ha
        have hspares := h.others a ha turn hturn job (by rw [hjobs]; exact List.mem_cons_self)
        rw [hmemory]
        exact hspares w.memory
      refine ⟨?_, ?_⟩
      · simp only [settled, hleft]
        exact Launch.agreeOn_runAll h.own hagree
      · simp only [settled, hleft, hkept]
        rw [Launch.fault_runAll _ _ w.memory]

theorem Calm.workThrough (h : w.Calm lane region) (turn jobs : Nat) :
    (workThrough turn jobs w).SameCourse lane region w := by
  induction jobs generalizing w with
  | zero => exact .refl lane region w
  | succ jobs ih =>
    exact (ih (h.of_subset (unfinished_work_subset w turn))).trans (h.work turn)

theorem unfinished_workThrough_subset (w : World) (turn jobs other : Nat) :
    (workThrough turn jobs w).unfinished other ⊆ w.unfinished other := by
  by_cases hother : other = turn
  · subst hother
    rw [unfinished_workThrough]
    exact List.drop_subset _ _
  · rw [unfinished_workThrough_of_ne w hother]
    exact List.Subset.refl _

/-- However far the workers get between two steps of the host, the lane keeps its course. -/
theorem Calm.progress (h : w.Calm lane region) : w.progress.SameCourse lane region w := by
  have hfold : ∀ (moment : Nat) (turns : List Nat) (w : World), w.Calm lane region →
      (turns.foldl (advance moment) w).SameCourse lane region w := by
    intro moment turns
    induction turns with
    | nil => exact fun w _ => .refl lane region w
    | cons turn rest ih =>
      intro w hcalm
      have hnext : (advance moment w turn).Calm lane region :=
        hcalm.of_subset (unfinished_workThrough_subset w turn _)
      exact (ih _ hnext).trans (hcalm.workThrough turn _)
  have hstart : ({ w with moment := w.moment + 1 } : World).Calm lane region := ⟨h.others, h.own⟩
  rw [progress_eq_foldl]
  exact (hfold w.moment (List.range w.lanes.size) _ hstart).trans (.of_settled_eq rfl)

end World

/-! ## Waiting for the watched lane -/

variable {client : Client} {w : World}

/-- What a wait answers when the lane ends with a fault or without one. -/
def waitAnswer (lane : Nat) : Option Fault → Except Failure Unit
  | none => .ok ()
  | some f => .error (.error (.backend (.streamFaulted lane f)))

/-- A wait takes the lane where it is headed, answers with the fault it ends in, and leaves no job and
no fault behind. -/
theorem synchronize_settles (hlane : client.lane < w.lanes.size) :
    ((synchronize client).perform w).1 =
        waitAnswer client.lane (w.progress.settled client.lane).2 ∧
      ((synchronize client).perform w).2.memory = (w.progress.settled client.lane).1 ∧
      ((synchronize client).perform w).2.faultAt client.lane = none ∧
      ((synchronize client).perform w).2.flagAt client.lane = w.flagAt client.lane := by
  let drained := w.progress.drain client.lane
  have hsame : w.SameClients drained :=
    (World.sameClients_progress w).trans (World.sameClients_workThrough w.progress client.lane _)
  have hsize : client.lane < drained.lanes.size := hsame.size ▸ hlane
  have hsettled : w.progress.settled client.lane = (drained.memory, drained.faultAt client.lane) :=
    World.settled_eq_drain w.progress client.lane
  rw [perform_synchronize, hsettled]
  refine ⟨?_, rfl, World.faultAt_putLane hsize, ?_⟩
  · change (match drained.faultAt client.lane with
      | none => Except.ok ()
      | some f => Except.error (Failure.error (.backend (.streamFaulted client.lane f)))) = _
    cases drained.faultAt client.lane with
    | none => rfl
    | some f => rfl
  · exact (World.flagAt_putLane hsize).trans (hsame.flagAt client.lane)

end Emulated

end DeviceCopy
