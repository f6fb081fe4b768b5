import DeviceCopy.Proofs.Emulated.Intake

/-!
# Which copies the limits let through

On an empty flag the limits alone decide whether an entry point whose kernel has slots and aligned
buffers succeeds. They turn it away exactly where `Kernel.Exceeds` says so, whatever the device is
like: a kernel that loops is never turned away for the length of its copy, a single pass is as soon
as there are fewer groups than it takes. `entryPoint_rejected_iff` says so, and what is launched
otherwise.
-/

set_option autoImplicit false

namespace DeviceCopy

namespace Emulated

variable {client : Client} {kernel : Kernel} {count src dst : Nat} {w : World}

/-- The launch of an entry point on its grid. -/
def entryLaunch (client : Client) (kernel : Kernel) (count src dst : Nat) : Launch :=
  kernel.launch client.device.limits.maxGroups count src dst

/-- The report on a launch that an entry point finds rejected. -/
def entryReport (client : Client) (kernel : Kernel) (count : Nat) : Error :=
  .launchFailed "cpu" kernel.name
    (client.device.limits.violation (kernel.grid client.device.limits.maxGroups count)).message

/-- What an entry point comes to whose kernel code has nothing to object to. -/
theorem verdict_entryPoint (hk : kernel.Launchable)
    (haligned : kernel.isWide = true → isWideAligned src = true ∧ isWideAligned dst = true) :
    (intake client).verdict () (.launch kernel) count src dst =
      if client.device.limits.Admits (kernel.grid client.device.limits.maxGroups count) then
        .ok (entryLaunch client kernel count src dst)
      else .error (.error (entryReport client kernel count)) := by
  have hgeometry : kernel.geometry (backend.clientLimits client).maxGroups count =
      .ok (kernel.grid client.device.limits.maxGroups count) := Kernel.geometry_eq_ok hk
  have hfault : launchFault (entryLaunch client kernel count src dst) = none :=
    launchFault_eq_none hk haligned
  have hverdict : (intake client).verdict () (.launch kernel) count src dst =
      (client.outcome (entryLaunch client kernel count src dst)).verdict := by
    simp only [Intake.verdict, EntryPoint.verdict, EntryPoint.kernel_launch, hgeometry]
    rfl
  have hreport : client.rejection (entryLaunch client kernel count src dst) =
      if client.device.limits.Admits (kernel.grid client.device.limits.maxGroups count) then none
      else some (entryReport client kernel count) := launchRejection_eq _ _ _ _
  rw [hverdict, Client.outcome, hfault, hreport]
  split_ifs
  · rfl
  · rfl

/-- On an empty flag an entry point that is turned away answers with the report on its grid and has
not touched any stream; one that is let through succeeds and has put its launch on the lane. -/
theorem entryPoint_onEmpty (hlane : client.lane < w.lanes.size)
    (hflag : w.flagAt client.lane = none) (hk : kernel.Launchable)
    (haligned : kernel.isWide = true → isWideAligned src = true ∧ isWideAligned dst = true) :
    let result := (entryPoint client kernel count src dst).perform w
    (kernel.Exceeds client.device.limits count →
      result.1 = .error (.error (entryReport client kernel count)) ∧ w.SameStreams result.2) ∧
    (¬ kernel.Exceeds client.device.limits count →
      result.1 = .ok () ∧ TakesJob client (entryLaunch client kernel count src dst) w result.2) := by
  intro result
  have hanswered : (intake client).Answered ((intake client).verdict () (.launch kernel) count src dst)
      w result := by
    have hshows : (intake client).Poised () none w := ⟨hlane, hflag⟩
    have hentry := ((intake client).queueAndCheck_onEmpty hshows kernel count src dst).2
    rw [← entryPoint_eq_queueAndCheck] at hentry
    exact hentry
  rw [verdict_entryPoint hk haligned] at hanswered
  have hadmits := kernel.admits_grid_iff_not_exceeds client.device.limits count
  -- The verdict asks the limits about the one grid there is, and they reject it if they reject all.
  constructor
  · intro hexceeds
    rw [if_neg fun h => hadmits.mp h hexceeds] at hanswered
    exact hanswered
  · intro hfits
    rw [if_pos (hadmits.mpr hfits)] at hanswered
    exact hanswered

/-- On an empty flag an entry point whose kernel has slots, one group of which stays below the word
limit, and whose buffers are aligned where it moves wide words, is rejected exactly where the limits
reject every grid of its kernel. Kernels that loop meet that on a device without the threads for one
group or without a single group, whatever the length of the copy; a single pass meets it as well
where there are fewer groups than it takes to cover the copy. A rejected call has touched no stream.
Any other puts its launch on the lane; if that is a looping staged launch, then it has at most
sixty-four groups, at most as many as the device runs, and at most as many as cover the copy. -/
theorem entryPoint_rejected_iff (hlane : client.lane < w.lanes.size)
    (hflag : w.flagAt client.lane = none) (hk : kernel.Launchable)
    (haligned : kernel.isWide = true → isWideAligned src = true ∧ isWideAligned dst = true) :
    let limits := client.device.limits
    let result := (entryPoint client kernel count src dst).perform w
    ∃ g, kernel.geometry limits.maxGroups count = .ok g ∧
      (result.1 = .error (.error (.launchFailed "cpu" kernel.name (limits.violation g).message)) ↔
        kernel.Exceeds limits count) ∧
      (result.1 = .ok () ↔ ¬ kernel.Exceeds limits count) ∧
      (kernel.Exceeds limits count → w.SameStreams result.2) ∧
      (¬ kernel.Exceeds limits count →
        TakesJob client { kernel, geometry := g, count, src, dst } w result.2 ∧
        ∀ factor, kernel = .blocked .gridStride factor →
          g.groups ≤ min 64 limits.maxGroups ∧
          ∃ covering, Geometry.forCount count (4 * factor) = .ok covering ∧
            g.groups ≤ covering.groups) := by
  intro limits result
  obtain ⟨hrejected, haccepted⟩ :=
    @entryPoint_onEmpty client kernel count src dst w hlane hflag hk haligned
  refine ⟨kernel.grid limits.maxGroups count, Kernel.geometry_eq_ok hk, ?_, ?_, ?_, ?_⟩
  · refine ⟨fun h => ?_, fun h => (hrejected h).1⟩
    -- Where the limits do not reject every grid the call succeeds, so it has no report.
    by_contra hfits
    have hok : result.1 = .ok () := (haccepted hfits).1
    rw [hok] at h
    cases h
  · refine ⟨fun h hexceeds => ?_, fun h => (haccepted h).1⟩
    have herror : result.1 = .error _ := (hrejected hexceeds).1
    rw [herror] at h
    cases h
  · exact fun h => (hrejected h).2
  · refine fun hfits => ⟨(haccepted hfits).2, ?_⟩
    rintro factor rfl
    -- An accepted launch is on a device with groups, so the cap is one the grid keeps to.
    have hgroups : 0 < limits.maxGroups := by
      have hsome : ¬ limits.maxGroups = 0 := fun h => hfits (Or.inr h)
      exact Nat.pos_of_ne_zero hsome
    have hpositive : 0 < min loopedGroupCap limits.maxGroups := Nat.lt_min.mpr ⟨by decide, hgroups⟩
    have hcap : (Kernel.blocked .gridStride factor).groupCap limits.maxGroups =
        some (min loopedGroupCap limits.maxGroups) := rfl
    refine ⟨Kernel.gridGroups_le_cap hcap hpositive, _, Kernel.forCount_eq_ok hk, ?_⟩
    exact Kernel.gridGroups_le limits.maxGroups count (.blocked .gridStride factor)

/-- A device of two groups lets a single pass over 1024 floats through, two slots to a thread, but
not one over 1025; a looping launch over those makes do with the two groups. -/
theorem entryPoint_rejected_iff_two_groups :
    let device := Device.ofLimits { maxThreadsPerGroup := 64, maxGroups := 2 }
    let client : Client := { lane := 0, device }
    let w := ((World.initial .prompt).openLane true device).2
    ((entryPoint client (.blocked .singlePass 2) 1024 64 8192).perform w).1 = .ok () ∧
      ((entryPoint client (.blocked .singlePass 2) 1025 64 8192).perform w).1 ≠ .ok () ∧
      ((entryPoint client (.blocked .gridStride 2) 1025 64 8192).perform w).1 = .ok () := by
  intro device client w
  have hlane : client.lane < w.lanes.size := Nat.one_pos
  have hflag : w.flagAt client.lane = none := rfl
  have haligned : ∀ sweep, (Kernel.blocked sweep 2).isWide = true →
      isWideAligned 64 = true ∧ isWideAligned 8192 = true := fun _ _ => by decide
  have hsingle : (Kernel.blocked .singlePass 2).Launchable := by decide
  have hlooping : (Kernel.blocked .gridStride 2).Launchable := by decide
  have hcovered : ¬ (Kernel.blocked .singlePass 2).Exceeds client.device.limits 1024 := by
    change ¬ (64 < 64 ∨ 2 < max 1 ((1024 + 512 - 1) / 512))
    decide
  have hshort : (Kernel.blocked .singlePass 2).Exceeds client.device.limits 1025 := by
    change 64 < 64 ∨ 2 < max 1 ((1025 + 512 - 1) / 512)
    decide
  have hloops : ¬ (Kernel.blocked .gridStride 2).Exceeds client.device.limits 1025 := by
    change ¬ (64 < 64 ∨ 2 = 0)
    decide
  obtain ⟨_, _, _, hfirst, _⟩ :=
    @entryPoint_rejected_iff client _ 1024 64 8192 w hlane hflag hsingle (haligned _)
  obtain ⟨_, _, _, hsecond, _⟩ :=
    @entryPoint_rejected_iff client _ 1025 64 8192 w hlane hflag hsingle (haligned _)
  obtain ⟨_, _, _, hthird, _⟩ :=
    @entryPoint_rejected_iff client _ 1025 64 8192 w hlane hflag hlooping (haligned _)
  exact ⟨hfirst.mpr hcovered, fun h => hsecond.mp h hshort, hthird.mpr hloops⟩

end Emulated

end DeviceCopy
