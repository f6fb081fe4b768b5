import DeviceCopy.Proofs.Emulated.Reachable
import DeviceCopy.Proofs.Launch.Covering

/-!
# The copy entry points on the emulated device

An entry point derives its grid, enqueues one launch and asks for the last launch error. Carried out
on a world it therefore does one of three things: it gives up before anything is enqueued, it leaves
a report in the flag and takes it out again, or it puts its launch on the lane and takes whatever the
flag held.

With an empty flag, limits that admit the grid and buffers that are aligned and apart, it is the
third, and the job copies: `entryPoint_copies`.
-/

set_option autoImplicit false

namespace DeviceCopy

namespace Emulated

/-- The entry point that launches a kernel. -/
def entryPoint (client : Client) (kernel : Kernel) (count src dst : Nat) : Effect World Unit :=
  match kernel with
  | .scalar dtype => Copy.scalar backend client dtype count src dst
  | .vector dtype => Copy.vector backend client dtype count src dst
  | .blocked sweep factor => Copy.blocked backend client sweep factor count src dst

theorem entryPoint_eq_queueAndCheck (client : Client) (kernel : Kernel) (count src dst : Nat) :
    entryPoint client kernel count src dst =
      Copy.queueAndCheck backend client kernel count src dst := by
  cases kernel <;> rfl

variable {client : Client} {kernel : Kernel} {count src dst : Nat} {g : Geometry} {launch : Launch}
  {w : World}

/-! ## What carrying an entry point out does -/

/-- The world after a launch that passes the checks of the kernel code has been enqueued. -/
def afterEnqueue (client : Client) (launch : Launch) (w : World) : World :=
  match client.rejection launch with
  | none => (w.submit client.lane launch).progress
  | some _ => (screen client launch w).2

theorem perform_enqueue (hfault : launchFault launch = none) (w : World) :
    (enqueue client launch).perform w = (.ok (), afterEnqueue client launch w) := by
  unfold enqueue afterEnqueue
  rw [hfault, Effect.perform_update]
  cases hreport : client.rejection launch with
  | none => rw [screen_of_admitted hreport]
  | some e => rw [screen_of_rejected hreport]

/-- The event an entry point begins with. -/
def copyEvent (kernel : Kernel) (count : Nat) (g : Geometry) : Event :=
  .enqueueCopy backendName kernel count g

/-- Up to the query for errors nothing can go wrong, so an entry point answers what the flag held
after the launch was enqueued. -/
theorem perform_queueAndCheck
    (hgeometry : kernel.geometry client.device.limits.maxGroups count = .ok g)
    (hfault : launchFault { kernel, geometry := g, count, src, dst } = none) (w : World) :
    (Copy.queueAndCheck backend client kernel count src dst).perform w =
      let between := afterEnqueue client { kernel, geometry := g, count, src, dst }
        (w.tell (copyEvent kernel count g))
      ((flagAnswer (between.flagAt client.lane)).mapError .error, (takeError client between).2) := by
  have hlimits : backend.clientLimits client = client.device.limits := rfl
  have henqueue : (backend.enqueue client { kernel, geometry := g, count, src, dst }).perform
      (w.tell (copyEvent kernel count g)) = _ := perform_enqueue hfault _
  unfold Copy.queueAndCheck
  rw [hlimits, hgeometry]
  refine (Effect.perform_bind_ok (Effect.perform_pure g w)).trans ?_
  refine (Effect.perform_bind_ok (Effect.perform_update _ w)).trans ?_
  refine (Effect.perform_bind_ok henqueue).trans ?_
  have hanswer := congrArg Prod.fst (takeError_eq client
    (afterEnqueue client { kernel, geometry := g, count, src, dst }
      (w.tell (copyEvent kernel count g))))
  exact Prod.ext (congrArg (Except.mapError Failure.error) hanswer) rfl

/-! ## A launch the limits admit -/

theorem afterEnqueue_of_admitted (h : client.rejection launch = none) (w : World) :
    afterEnqueue client launch w = (w.submit client.lane launch).progress := by
  unfold afterEnqueue
  rw [h]

theorem afterEnqueue_of_rejected {e : Error} (h : client.rejection launch = some e) (w : World) :
    afterEnqueue client launch w = (screen client launch w).2 := by
  unfold afterEnqueue
  rw [h]

theorem flagAt_afterEnqueue_of_admitted (h : client.rejection launch = none) (w : World)
    (lane : Nat) : (afterEnqueue client launch w).flagAt lane = w.flagAt lane := by
  have hsame := (World.sameClients_submit w client.lane launch).trans
    (World.sameClients_progress (w.submit client.lane launch))
  rw [afterEnqueue_of_admitted h]
  exact hsame.flagAt lane

/-- The launch an entry point puts on the lane is the next thing to happen after all that was there
before. -/
theorem settled_afterEnqueue (hsound : w.Sound) (hlane : client.lane < w.lanes.size)
    (hreport : client.rejection launch = none)
    (hothers : ∀ other, other ≠ client.lane → w.unfinished other = []) :
    (afterEnqueue client launch w).settled client.lane =
      ((launch.run (w.settled client.lane).1).1,
        (w.settled client.lane).2 <|> (launch.run (w.settled client.lane).1).2) := by
  -- The other lanes have nothing to do after the submission either.
  have hstill : ∀ other, other ≠ client.lane →
      (w.submit client.lane launch).unfinished other = [] := by
    intro other hother
    exact (World.unfinished_submit_of_ne w hother launch).trans (hothers other hother)
  rw [afterEnqueue_of_admitted hreport, World.settled_progress hstill,
    World.settled_submit hsound hlane]

theorem launchFault_eq_none (hk : kernel.Launchable)
    (haligned : kernel.isWide = true → isWideAligned src = true ∧ isWideAligned dst = true) :
    launchFault { kernel, geometry := g, count, src, dst } = none := by
  cases kernel with
  | scalar dtype => rfl
  | vector dtype =>
    rcases haligned rfl with ⟨hsrc, hdst⟩
    simp [launchFault, hsrc, hdst]
  | blocked sweep factor =>
    rcases haligned rfl with ⟨hsrc, hdst⟩
    obtain ⟨slots, rfl⟩ : ∃ slots, factor = slots + 1 := by
      have hpos : 0 < factor := hk.1
      exact ⟨factor - 1, by omega⟩
    simp [launchFault, hsrc, hdst]

/-! ## The copy -/

/-- With an empty flag an entry point whose grid the limits admit succeeds, and its job copies: the
grid is derived without a fault, no thread faults on it, and once the lane is drained memory is what
draining the lane before the call would have made of it, with the range copied. On an idle lane that
is the memory at the call. -/
theorem entryPoint_copies (hreachable : World.Reachable w) (hlane : client.lane < w.lanes.size)
    (hflag : w.flagAt client.lane = none) (hk : kernel.Launchable)
    (hsize : count * kernel.dtype.size ≤ 2 ^ 63 - 1)
    (haligned : kernel.isWide = true → isWideAligned src = true ∧ isWideAligned dst = true)
    (hapart : Block.Apart ⟨src, count * kernel.dtype.size⟩ ⟨dst, count * kernel.dtype.size⟩) :
    ∃ g, kernel.geometry client.device.limits.maxGroups count = .ok g ∧
      (client.device.limits.Admits g →
        let launch : Launch := { kernel, geometry := g, count, src, dst }
        (∀ rank, rank < g.threadCount → (launch.programAt rank).fault = none) ∧
        (∀ m : Memory, (launch.run m).2 = none ∧
          m.Copied (launch.run m).1 src dst (count * kernel.dtype.size)) ∧
        ∃ w', (entryPoint client kernel count src dst).perform w = (.ok (), w') ∧
          ((∀ other, other ≠ client.lane → w.unfinished other = []) →
            (w.drain client.lane).memory.Copied (w'.drain client.lane).memory src dst
                (count * kernel.dtype.size) ∧
              (w'.drain client.lane).faultAt client.lane =
                (w.drain client.lane).faultAt client.lane)) := by
  refine ⟨kernel.grid client.device.limits.maxGroups count, Kernel.geometry_eq_ok hk, ?_⟩
  intro hadmits launch
  have hsound : launch.Sound := Launch.sound_grid hk hsize
  have hruns : ∀ m : Memory, (launch.run m).2 = none ∧
      m.Copied (launch.run m).1 src dst (count * kernel.dtype.size) :=
    Launch.run_grid hk hsize hapart
  refine ⟨hsound, hruns, ?_⟩
  have hreport : client.rejection launch = none := Client.rejection_eq_none_iff.mpr hadmits
  have hfault : launchFault launch = none := launchFault_eq_none hk haligned
  -- The event that begins the call does not touch the lanes.
  let told := w.tell (copyEvent kernel count launch.geometry)
  have htold : w.SameStreams told := World.sameStreams_tell _ w
  have hanswer : (afterEnqueue client launch told).flagAt client.lane = none :=
    (flagAt_afterEnqueue_of_admitted hreport told client.lane).trans hflag
  have hperform : (entryPoint client kernel count src dst).perform w =
      (.ok (), (takeError client (afterEnqueue client launch told)).2) := by
    rw [entryPoint_eq_queueAndCheck, perform_queueAndCheck (Kernel.geometry_eq_ok hk) hfault]
    exact Prod.ext (congrArg (fun e => (flagAnswer e).mapError Failure.error) hanswer) rfl
  refine ⟨_, hperform, ?_⟩
  intro hothers
  have hidle : ∀ other, other ≠ client.lane → told.unfinished other = [] :=
    fun other hother => (htold.unfinished other).trans (hothers other hother)
  have hsettled : (takeError client (afterEnqueue client launch told)).2.settled client.lane =
      ((launch.run (w.settled client.lane).1).1,
        (w.settled client.lane).2 <|> (launch.run (w.settled client.lane).1).2) := by
    rw [(sameStreams_takeError client _).settled,
      settled_afterEnqueue (htold.sound hreachable.sound) (htold.size ▸ hlane) hreport hidle,
      htold.settled]
  simp only [World.settled_eq_drain] at hsettled
  rcases hruns (w.drain client.lane).memory with ⟨hnone, hcopied⟩
  rcases Prod.ext_iff.mp hsettled with ⟨hmemory, hkept⟩
  refine ⟨?_, ?_⟩
  · intro a
    exact (congrArg (fun m : Memory => m.get a) hmemory).trans (hcopied a)
  · simpa [hnone] using hkept

/-- Two thousand floats on a device of two groups: the looping kernel covers them in two rounds. -/
theorem entryPoint_copies_capped :
    let device := Device.ofLimits { maxThreadsPerGroup := 64, maxGroups := 2 }
    let client : Client := { lane := 0, device }
    let w := ((World.initial .prompt).openLane true device).2
    World.Reachable w ∧
      ∃ w', (entryPoint client (.blocked .gridStride 2) 2000 64 8192).perform w = (.ok (), w') ∧
        w.memory.Copied (w'.drain 0).memory 64 8192 8000 := by
  intro device client w
  have hreachable : World.Reachable w := .next (.initial .prompt) (.openLane true device _)
  let kernel := Kernel.blocked .gridStride 2
  have hlane : client.lane < w.lanes.size := Nat.one_pos
  have hflag : w.flagAt client.lane = none := rfl
  have hk : kernel.Launchable := by decide
  have hsize : 2000 * kernel.dtype.size ≤ 2 ^ 63 - 1 := by decide
  have haligned : kernel.isWide = true → isWideAligned 64 = true ∧ isWideAligned 8192 = true := by
    decide
  have hapart : Block.Apart ⟨64, 2000 * kernel.dtype.size⟩ ⟨8192, 2000 * kernel.dtype.size⟩ := by
    decide
  rcases entryPoint_copies hreachable hlane hflag hk hsize haligned hapart with
    ⟨g, hgeometry, hcopies⟩
  have hgrid : g = kernel.grid 2 2000 :=
    Except.ok.inj (hgeometry.symm.trans (Kernel.geometry_eq_ok hk))
  subst hgrid
  rcases hcopies (by decide) with ⟨-, -, w', hperform, hdrained⟩
  have hothers : ∀ other, other ≠ 0 → w.unfinished other = [] := by
    intro other hother
    have hsize : w.lanes.size ≤ other := Nat.one_le_iff_ne_zero.mpr hother
    exact World.unfinished_of_size_le hsize
  have hidle : w.drain 0 = w := World.workThrough_of_idle rfl _
  have hcopied := (hdrained hothers).1
  rw [hidle] at hcopied
  exact ⟨hreachable, w', hperform, hcopied⟩

end Emulated

end DeviceCopy
