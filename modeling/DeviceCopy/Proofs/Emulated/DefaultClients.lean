import DeviceCopy.Proofs.Emulated.Intake
import DeviceCopy.Proofs.Emulated.Outline

/-!
# Default clients and their limits

A default client is kept under the limits that were asked for and handed out again whenever these are
asked for. `Defaults` is a program that asks for default clients and launches through those that it has
been handed, in any order; workers run jobs in between.

Whatever has happened before, limits and default clients then go together one to one
(`Defaults.Keyed`): nobody is held to limits that another one asked for, and the report on a rejected
launch never turns up in the flag of a client with other limits.
-/

set_option autoImplicit false

namespace DeviceCopy

namespace Emulated

/-! ## Asking for a default client -/

namespace World

variable {w : World} {device : Device} {client : Client}

theorem defaultClient_of_kept (h : w.defaults.lookup device.limits = some client) :
    w.defaultClient device = (client, w) := by
  unfold World.defaultClient
  rw [h]

/-- Limits that nobody has asked for get a client on a new lane. -/
theorem defaultClient_of_new (h : w.defaults.lookup device.limits = none) :
    (w.defaultClient device).1 = { lane := w.lanes.size, device } ∧
      (w.defaultClient device).2.defaults =
        w.defaults ++ [(device.limits, { lane := w.lanes.size, device })] ∧
      (w.defaultClient device).2.lanes.size = w.lanes.size + 1 := by
  obtain ⟨hclient, -, -, hsize, hdefaults⟩ :=
    openLane_outline (w.environment.grantsWorker w.lanes.size) device w
  unfold World.defaultClient
  rw [h]
  simp only [World.newClient, hclient, hdefaults]
  exact ⟨trivial, trivial, hsize⟩

/-- The lanes there are stay as they are. -/
theorem laneAt_defaultClient {lane : Nat} (hlane : lane < w.lanes.size) (device : Device) :
    (w.defaultClient device).2.laneAt lane = w.laneAt lane := by
  unfold World.defaultClient
  cases w.defaults.lookup device.limits with
  | some client => rfl
  | none => exact (laneAt_openLane _ device w lane).trans (if_neg (Nat.ne_of_lt hlane))

end World

/-! ## Launching through a client -/

/-- A launch through a client: one enqueued as it is, or what an entry point or a checked copy does. -/
inductive Launching
  | raw (launch : Launch)
  | call (call : CopyCall Device)

def Launching.effect (client : Client) : Launching → Effect World Unit
  | raw launch => enqueue client launch
  | call request => request.effect backend client

section Launching

variable {client : Client} {w : World}

theorem sameOutline_launching {start : World} (client : Client) (launching : Launching) :
    Effect.Keeps (start.SameOutline ·) (launching.effect client) := by
  cases launching with
  | raw launch => exact World.sameOutline_enqueue client launch
  | call request =>
    exact CopyCall.keeps_effect (fun event w h => h.trans ⟨rfl, rfl, rfl, rfl⟩)
      (World.sameOutline_enqueue client) (World.sameOutline_checkLastError client)
      (World.sameOutline_synchronize client) request

theorem flagAt_putLane_of_ne {lane other : Nat} (hother : other ≠ lane) (w : World) (l : Lane) :
    (w.putLane lane l).flagAt other = w.flagAt other := by
  rw [World.flagAt, World.laneAt_putLane_of_ne hother]
  rfl

section OtherFlags

variable {other : Nat} (hother : other ≠ client.lane) (report : Option Error)

include hother

theorem keeps_flag_enqueue (launch : Launch) :
    Effect.Keeps (fun w => w.flagAt other = report) (enqueue client launch) := by
  intro w h
  cases hfault : launchFault launch with
  | some f =>
    unfold Emulated.enqueue
    rw [hfault]
    exact h
  | none =>
    rw [perform_enqueue hfault]
    cases hreport : client.rejection launch with
    | none => exact (flagAt_afterEnqueue_of_admitted hreport w other).trans h
    | some e =>
      rw [afterEnqueue_of_rejected hreport, screen_of_rejected hreport]
      exact (flagAt_putLane_of_ne hother w _).trans h

theorem keeps_flag_checkLastError :
    Effect.Keeps (fun w => w.flagAt other = report) (checkLastError client) := by
  intro w h
  change (takeError client w).2.flagAt other = report
  rw [takeError_eq]
  exact (flagAt_putLane_of_ne hother w _).trans h

theorem keeps_flag_synchronize :
    Effect.Keeps (fun w => w.flagAt other = report) (synchronize client) := by
  intro w h
  have hdrained : w.SameClients (w.progress.drain client.lane) :=
    (World.sameClients_progress w).trans (World.sameClients_workThrough _ _ _)
  rw [perform_synchronize]
  exact (flagAt_putLane_of_ne hother _ _).trans ((hdrained.flagAt other).trans h)

/-- A launch through a client records reports in the flag of its own lane and takes them out of there. -/
theorem keeps_flag_launching (launching : Launching) :
    Effect.Keeps (fun w => w.flagAt other = report) (launching.effect client) := by
  cases launching with
  | raw launch => exact keeps_flag_enqueue hother report launch
  | call request =>
    exact CopyCall.keeps_effect (b := backend) (fun _ _ h => h) (keeps_flag_enqueue hother report)
      (keeps_flag_checkLastError hother report) (keeps_flag_synchronize hother report) request

end OtherFlags

/-- A launch through a client leads from sound worlds to sound worlds. -/
theorem sound_launching (client : Client) (launching : Launching) :
    Effect.Keeps World.Sound (launching.effect client) := by
  cases launching with
  | raw launch => exact World.sound_enqueue client launch
  | call request => exact sound_call client request

/-- A client accepts the launches that the limits admit and no others: those are jobs that its lane is
given to do, and on the others it reports with these limits. -/
def Client.Enforces (client : Client) (limits : Limits) (w : World) : Prop :=
  ∀ launch, launchFault launch = none →
    let after := ((enqueue client launch).perform w).2
    if limits.Admits launch.geometry then
      TakesJob client launch w after ∧ w.SameClients after
    else
      w.SameStreams after ∧ after.flagAt client.lane =
        some (.launchFailed backendName launch.kernel.name (limits.violation launch.geometry).message)

theorem Client.enforces (hlane : client.lane < w.lanes.size) :
    client.Enforces client.device.limits w := by
  intro launch hfault after
  have hafter : after = afterEnqueue client launch w := congrArg Prod.snd (perform_enqueue hfault w)
  have hreport : client.rejection launch = if _ then _ else _ := launchRejection_eq _ _ _ _
  by_cases hadmits : client.device.limits.Admits launch.geometry
  · rw [if_pos hadmits] at hreport ⊢
    rw [hafter, afterEnqueue_of_admitted hreport]
    exact ⟨takesJob_submit hlane launch,
      (World.sameClients_submit w client.lane launch).trans (World.sameClients_progress _)⟩
  · rw [if_neg hadmits] at hreport ⊢
    rw [hafter, afterEnqueue_of_rejected hreport]
    refine ⟨sameStreams_screen client launch w, (flagAt_screen hlane launch).trans ?_⟩
    rw [hreport]
    rfl

end Launching

/-! ## A program that asks for default clients -/

/-- The device with what uses it, and who has been handed which client, the latest first. -/
structure Defaults where
  world : World
  handed : List (Device × Client)

namespace Defaults

inductive Request
  | ask (device : Device)
  /-- A launch through the client at a place among those handed out. -/
  | launch (place : Nat) (launching : Launching)
  /-- The worker of a lane gets to run its next job. -/
  | work (lane : Nat)

def step (s : Defaults) : Request → Defaults
  | .ask device =>
      let (client, world) := s.world.defaultClient device
      { world, handed := (device, client) :: s.handed }
  | .launch place launching =>
      match s.handed[place]? with
      | none => s
      | some (_, client) => { s with world := ((launching.effect client).perform s.world).2 }
  | .work lane => { s with world := s.world.work lane }

def run (s : Defaults) (requests : List Request) : Defaults := requests.foldl step s

/-- Limits and default clients go together one to one. -/
structure Keyed (s : Defaults) : Prop where
  opened : s.world.DefaultsOpen
  keys : (s.world.defaults.map Prod.fst).Nodup
  lanes : (s.world.defaults.map (fun entry => entry.2.lane)).Nodup
  kept : ∀ entry ∈ s.handed, s.world.defaults.lookup entry.1.limits = some entry.2
  asked : ∀ entry ∈ s.world.defaults, ∃ demand ∈ s.handed, demand.1.limits = entry.1

variable {s : Defaults}

/-- Asking again for limits that somebody has asked for changes nothing but who has been handed what. -/
theorem step_ask_of_kept {device : Device} {client : Client}
    (h : s.world.defaults.lookup device.limits = some client) :
    s.step (.ask device) = { s with handed := (device, client) :: s.handed } := by
  simp only [step, World.defaultClient_of_kept h]

theorem Keyed.ask (h : s.Keyed) (device : Device) : (s.step (.ask device)).Keyed := by
  cases hlookup : s.world.defaults.lookup device.limits with
  | some client =>
    rw [step_ask_of_kept hlookup]
    refine ⟨h.opened, h.keys, h.lanes, ?_, ?_⟩
    · intro entry hentry
      rcases List.mem_cons.mp hentry with rfl | hearlier
      · exact hlookup
      · exact h.kept entry hearlier
    · intro entry hentry
      obtain ⟨demand, hdemand, hlimits⟩ := h.asked entry hentry
      exact ⟨demand, List.mem_cons_of_mem _ hdemand, hlimits⟩
  | none =>
    obtain ⟨hclient, hdefaults, -⟩ := World.defaultClient_of_new hlookup
    -- Neither the limits nor the lane have been in use before.
    have hkey : ∀ key ∈ s.world.defaults.map Prod.fst, key ≠ device.limits := by
      intro key hkey heq
      obtain ⟨entry, hentry, rfl⟩ := List.mem_map.mp hkey
      have hmissed := List.lookup_eq_none_iff.mp hlookup entry hentry
      simp [heq] at hmissed
    have hlane : ∀ lane ∈ s.world.defaults.map (fun entry => entry.2.lane),
        lane ≠ s.world.lanes.size := by
      intro lane hlane
      obtain ⟨entry, hentry, rfl⟩ := List.mem_map.mp hlane
      exact Nat.ne_of_lt (h.opened.lane entry hentry)
    have hstep : s.step (.ask device) =
        { world := (s.world.defaultClient device).2
          handed := (device, { lane := s.world.lanes.size, device }) :: s.handed } := by
      simp only [step, hclient]
    rw [hstep]
    refine ⟨(h.opened.defaultClient device).1, ?_, ?_, ?_, ?_⟩
    · simp only [hdefaults, List.map_append, List.map_cons, List.map_nil]
      exact List.nodup_append.mpr ⟨h.keys, List.nodup_singleton _, fun key hold fresh hfresh =>
        List.mem_singleton.mp hfresh ▸ hkey key hold⟩
    · simp only [hdefaults, List.map_append, List.map_cons, List.map_nil]
      exact List.nodup_append.mpr ⟨h.lanes, List.nodup_singleton _, fun lane hold fresh hfresh =>
        List.mem_singleton.mp hfresh ▸ hlane lane hold⟩
    · intro entry hentry
      simp only [hdefaults, List.lookup_append]
      rcases List.mem_cons.mp hentry with rfl | hearlier
      · rw [hlookup, Option.none_or, Table.lookup_cons, if_pos rfl]
      · rw [h.kept entry hearlier, Option.some_or]
    · intro entry hentry
      simp only [hdefaults] at hentry
      rcases List.mem_append.mp hentry with hold | hnew
      · obtain ⟨demand, hdemand, hlimits⟩ := h.asked entry hold
        exact ⟨demand, List.mem_cons_of_mem _ hdemand, hlimits⟩
      · exact ⟨_, List.mem_cons_self, by rw [List.mem_singleton.mp hnew]⟩

/-- What leaves the lanes there are and the default clients alone. -/
theorem Keyed.of_sameOutline (h : s.Keyed) {w : World} (hsame : s.world.SameOutline w) :
    ({ s with world := w } : Defaults).Keyed := by
  have hdefaults : w.defaults = s.world.defaults := hsame.defaults
  refine ⟨h.opened.of_le hdefaults hsame.size.ge, ?_, ?_, ?_, ?_⟩
  · exact hdefaults ▸ h.keys
  · exact hdefaults ▸ h.lanes
  · exact hdefaults ▸ h.kept
  · exact hdefaults ▸ h.asked

theorem Keyed.step (h : s.Keyed) (request : Request) : (s.step request).Keyed := by
  cases request with
  | ask device => exact h.ask device
  | launch place launching =>
    simp only [Defaults.step]
    cases s.handed[place]? with
    | none => exact h
    | some entry =>
      exact h.of_sameOutline (sameOutline_launching entry.2 launching s.world (.refl _))
  | work lane => exact h.of_sameOutline (World.sameClients_work s.world lane).sameOutline

theorem Keyed.run (h : s.Keyed) (requests : List Request) : (s.run requests).Keyed := by
  induction requests generalizing s with
  | nil => exact h
  | cons request rest ih => exact ih (h.step request)

theorem sound_step (h : s.world.Sound) (request : Request) : (s.step request).world.Sound := by
  cases request with
  | ask device => exact h.defaultClient device
  | launch place launching =>
    simp only [Defaults.step]
    cases s.handed[place]? with
    | none => exact h
    | some entry => exact sound_launching entry.2 launching s.world h
  | work lane => exact h.work lane

theorem sound_run (h : s.world.Sound) (requests : List Request) : (s.run requests).world.Sound := by
  induction requests generalizing s with
  | nil => exact h
  | cons request rest ih => exact ih (sound_step h request)

/-- Nobody has been handed anything by a device that keeps no default clients. -/
theorem keyed_of_empty {w : World} (h : w.defaults = []) : (Defaults.mk w []).Keyed := by
  refine ⟨⟨?_, ?_⟩, ?_, ?_, ?_, ?_⟩
  all_goals simp [h]

/-! ## What a client that was handed out stands for -/

section Handed

variable {entry other : Device × Client}

theorem Keyed.mem_defaults (h : s.Keyed) (hentry : entry ∈ s.handed) :
    (entry.1.limits, entry.2) ∈ s.world.defaults :=
  Table.mem_of_lookup (h.kept entry hentry)

theorem Keyed.lane_lt (h : s.Keyed) (hentry : entry ∈ s.handed) :
    entry.2.lane < s.world.lanes.size :=
  h.opened.lane _ (h.mem_defaults hentry)

theorem Keyed.limits_eq (h : s.Keyed) (hentry : entry ∈ s.handed) :
    entry.2.device.limits = entry.1.limits :=
  h.opened.limits _ (h.mem_defaults hentry)

/-- Two clients are on one lane just if the same limits were asked for. -/
theorem Keyed.lane_eq_iff (h : s.Keyed) (hentry : entry ∈ s.handed) (hother : other ∈ s.handed) :
    entry.2.lane = other.2.lane ↔ entry.1.limits = other.1.limits := by
  constructor
  · intro hlane
    have hsame := List.inj_on_of_nodup_map h.lanes (h.mem_defaults hentry) (h.mem_defaults hother) hlane
    exact congrArg Prod.fst hsame
  · intro hlimits
    have hlookup := h.kept entry hentry
    rw [hlimits, h.kept other hother] at hlookup
    rw [Option.some.inj hlookup]

theorem handed_step (s : Defaults) (request : Request) : s.handed <:+ (s.step request).handed := by
  cases request with
  | ask device => exact List.suffix_cons _ _
  | launch place launching =>
    simp only [step]
    cases s.handed[place]? with
    | none => exact List.suffix_rfl
    | some entry => exact List.suffix_rfl
  | work lane => exact List.suffix_rfl

theorem handed_run (s : Defaults) (requests : List Request) :
    s.handed <:+ (s.run requests).handed := by
  induction requests generalizing s with
  | nil => exact List.suffix_rfl
  | cons request rest ih => exact (handed_step s request).trans (ih _)

end Handed

/-- However many default clients have been asked for, and whatever has been launched through them, a
client that was handed out enforces the limits it was asked for with. Clients share a lane, and with it
stream and flag, just if the limits are the same. What was handed out once is handed out again whenever
its limits are asked for, and asking leaves its lane alone. There is one client for each set of limits
that was asked for and no other, and a launch through one of them leaves the flags of the others as they
are. The world stays sound all along. -/
theorem default_clients_follow_limits {start : World} (hstart : start.defaults = [])
    (requests : List Request) :
    let s := (Defaults.mk start []).run requests
    (∀ entry ∈ s.handed, entry.2.lane < s.world.lanes.size ∧
      entry.2.device.limits = entry.1.limits ∧ entry.2.Enforces entry.1.limits s.world) ∧
    (∀ entry ∈ s.handed, ∀ other ∈ s.handed,
      (entry.2.lane = other.2.lane ↔ entry.1.limits = other.1.limits)) ∧
    (∀ more, ∀ entry ∈ s.handed, ∀ device, device.limits = entry.1.limits →
      (s.run more).world.defaultClient device = (entry.2, (s.run more).world)) ∧
    (∀ device, ∀ entry ∈ s.handed,
      (s.world.defaultClient device).2.laneAt entry.2.lane = s.world.laneAt entry.2.lane) ∧
    ((s.world.defaults.map Prod.fst).Nodup ∧ ∀ limits,
      limits ∈ s.world.defaults.map Prod.fst ↔ ∃ entry ∈ s.handed, entry.1.limits = limits) ∧
    (∀ entry ∈ s.handed, ∀ other ∈ s.handed, entry.1.limits ≠ other.1.limits → ∀ launching : Launching,
      ((launching.effect entry.2).perform s.world).2.flagAt other.2.lane =
        s.world.flagAt other.2.lane) ∧
    (start.Sound → s.world.Sound) := by
  intro s
  have hkeyed : s.Keyed := (keyed_of_empty hstart).run requests
  refine ⟨fun entry hentry => ?_, fun entry hentry other hother => hkeyed.lane_eq_iff hentry hother,
    fun more entry hentry device hlimits => ?_,
    fun device entry hentry => World.laneAt_defaultClient (hkeyed.lane_lt hentry) device,
    ⟨hkeyed.keys, fun limits => ⟨fun hkept => ?_, fun ⟨entry, hentry, hlimits⟩ => ?_⟩⟩,
    fun entry hentry other hother hne launching => ?_, fun hsound => sound_run hsound requests⟩
  · have hlimits := hkeyed.limits_eq hentry
    exact ⟨hkeyed.lane_lt hentry, hlimits, hlimits ▸ entry.2.enforces (hkeyed.lane_lt hentry)⟩
  · have hlater := (hkeyed.run more).kept entry ((handed_run s more).mem hentry)
    exact World.defaultClient_of_kept (hlimits ▸ hlater)
  · obtain ⟨entry, hentry, rfl⟩ := List.mem_map.mp hkept
    exact hkeyed.asked entry hentry
  · exact List.mem_map.mpr ⟨_, hkeyed.mem_defaults hentry, hlimits⟩
  · have hlanes : other.2.lane ≠ entry.2.lane :=
      fun hlane => hne ((hkeyed.lane_eq_iff hother hentry).mp hlane).symm
    exact keeps_flag_launching hlanes _ launching s.world rfl

/-- The limits that a device is held to if it states none, stated, between two requests for tighter
ones: two clients, and an empty grid through the one does not show in the flag of the other. -/
theorem default_clients_follow_limits_stated :
    let tight : Limits := { maxThreadsPerGroup := 1024, maxGroups := 1 }
    let empty : Launch := ⟨.scalar .f32, ⟨0, 64, 0⟩, 4, 64, 128⟩
    let s := (Defaults.mk (.initial .prompt) []).run
      [.ask (.ofLimits tight), .ask .standard, .launch 0 (.raw empty), .ask (.ofLimits .standard),
        .ask (.ofLimits tight)]
    s.handed.map (fun entry => entry.2.lane) = [0, 1, 1, 0] ∧ s.world.defaults.length = 2 ∧
      (∃ entry ∈ s.handed, entry.2.lane = 0 ∧ entry.2.Enforces tight s.world) ∧
      s.world.flagAt 0 = none ∧ (s.world.flagAt 1).isSome := by
  intro tight empty s
  let entry : Device × Client := (.ofLimits tight, { lane := 0, device := .ofLimits tight })
  have hentry : entry ∈ s.handed := List.mem_cons_self
  have hfollow := default_clients_follow_limits (rfl : (World.initial .prompt).defaults = [])
    [.ask (.ofLimits tight), .ask .standard, .launch 0 (.raw empty), .ask (.ofLimits .standard),
      .ask (.ofLimits tight)]
  exact ⟨rfl, rfl, ⟨entry, hentry, rfl, (hfollow.1 entry hentry).2.2⟩, rfl, rfl⟩

end Defaults

end Emulated

end DeviceCopy
