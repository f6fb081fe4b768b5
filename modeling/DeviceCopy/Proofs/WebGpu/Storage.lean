import DeviceCopy.Proofs.Buffers.Storage
import DeviceCopy.Proofs.Tables
import DeviceCopy.WebGpu.Backend

/-!
# Registered buffers as storage

Handles come from a counter, so as long as that does not come round every allocation has a handle of
its own, above all those that are in use. Then transfers find the buffer they were meant for, and what
they move stays inside it: a registered buffer takes whole wide words, a transfer whole units of four
bytes (`guarded_copyToDevice`, `guarded_copyFromDevice`).
-/

set_option autoImplicit false

namespace DeviceCopy

namespace WebGpu

theorem le_roundUpTo {unit : Nat} (h : 0 < unit) (n : Nat) : n ≤ roundUpTo unit n := by
  unfold roundUpTo
  have hdivided := Nat.div_add_mod (n + unit - 1) unit
  have hrest := Nat.mod_lt (n + unit - 1) h
  rw [Nat.mul_comm] at hdivided
  omega

/-- Whole units of four bytes are no more than whole wide words. -/
theorem roundUpTo_transferUnit_le (n : Nat) :
    roundUpTo transferUnit n ≤ roundUpTo wideWordBytes n := by
  unfold roundUpTo transferUnit wideWordBytes
  omega

theorem roundUpTo_mono {unit n n' : Nat} (h : n ≤ n') : roundUpTo unit n ≤ roundUpTo unit n' := by
  unfold roundUpTo
  exact Nat.mul_le_mul_right _ (Nat.div_le_div_right (by omega))

theorem padded_of_whole {bytes : Bytes} (h : bytes.length % 4 = 0) : padded bytes = bytes := by
  have hround : roundUpTo transferUnit bytes.length = bytes.length := by
    unfold roundUpTo transferUnit
    omega
  rw [padded, hround, Nat.sub_self, List.replicate_zero, List.append_nil]

/-! ## What is registered -/

namespace Registry

/-- A buffer of at least so many bytes, rounded up to whole wide words, is registered under a handle
that has been handed out. No bytes are under no handle. -/
def Stored (r : Registry) (handle size : Nat) : Prop :=
  (handle = 0 ∧ size = 0) ∨
    (0 < handle ∧ handle < r.next ∧ 0 < size ∧
      ∃ buffer, r.buffers.lookup handle = some buffer ∧ roundUpTo wideWordBytes size ≤ buffer.size)

/-- The first bytes of the buffer under a handle. -/
def bytes (r : Registry) (handle size : Nat) : Bytes :=
  ((r.find? handle).elim Memory.empty GpuBuffer.contents).read 0 size

variable {r r' : Registry} {handle size : Nat} {buffer : GpuBuffer}

theorem find?_eq_lookup (h : 0 < handle) : r.find? handle = r.buffers.lookup handle :=
  if_neg (Nat.ne_of_gt h)

theorem lookup_insert (r : Registry) (fresh : Nat) (buffer : GpuBuffer) (handle : Nat) :
    (r.insert fresh buffer).buffers.lookup handle =
      if handle = fresh then some buffer else r.buffers.lookup handle := by
  unfold Registry.insert
  rw [Table.lookup_cons, Table.lookup_filter_ne]
  split
  · rfl
  · rfl

theorem bytes_of_lookup_eq (h : r'.buffers.lookup handle = r.buffers.lookup handle) (size : Nat) :
    r'.bytes handle size = r.bytes handle size := by
  unfold bytes find?
  rw [h]

theorem Stored.of_lookup_eq (h : r.Stored handle size) (hnext : r.next ≤ r'.next)
    (hlookup : 0 < handle → r'.buffers.lookup handle = r.buffers.lookup handle) :
    r'.Stored handle size ∧ r'.bytes handle size = r.bytes handle size := by
  rcases h with ⟨rfl, rfl⟩ | ⟨hpos, hbelow, hsize, buffer, hbuffer, hfits⟩
  · exact ⟨Or.inl ⟨rfl, rfl⟩, rfl⟩
  · have hsame := hlookup hpos
    exact ⟨Or.inr ⟨hpos, Nat.lt_of_lt_of_le hbelow hnext, hsize, buffer, hsame.trans hbuffer, hfits⟩,
      bytes_of_lookup_eq hsame size⟩

theorem Stored.handle_eq_zero_iff (h : r.Stored handle size) : handle = 0 ↔ size = 0 := by
  rcases h with ⟨hnull, hempty⟩ | ⟨hpos, -, hsize, -⟩
  · simp [hnull, hempty]
  · simp [Nat.ne_of_gt hpos, Nat.ne_of_gt hsize]

theorem Stored.handle_ne_zero (h : r.Stored handle size) (hsize : 0 < size) : handle ≠ 0 :=
  fun hnull => Nat.ne_of_gt hsize (h.handle_eq_zero_iff.mp hnull)

/-- Where bytes are stored there is a buffer with room for all that a transfer moves. -/
theorem Stored.exists_buffer (h : r.Stored handle size) (hhandle : handle ≠ 0) :
    ∃ buffer, r.find? handle = some buffer ∧ roundUpTo wideWordBytes size ≤ buffer.size := by
  rcases h with ⟨hnull, -⟩ | ⟨hpos, -, -, buffer, hbuffer, hfits⟩
  · exact absurd hnull hhandle
  · exact ⟨buffer, (find?_eq_lookup hpos).trans hbuffer, hfits⟩

theorem lookup_modify (r : Registry) (changed : Nat) (f : Memory → Memory) (handle : Nat) :
    (r.modify changed f).buffers.lookup handle =
      if handle = changed then
        (r.buffers.lookup handle).map (fun buffer => { buffer with contents := f buffer.contents })
      else r.buffers.lookup handle :=
  Table.lookup_map r.buffers changed handle
    (fun buffer => { buffer with contents := f buffer.contents })

theorem find?_modify (hhandle : handle ≠ 0) (h : r.find? handle = some buffer) (f : Memory → Memory) :
    (r.modify handle f).find? handle = some { buffer with contents := f buffer.contents } := by
  have hpos := Nat.pos_of_ne_zero hhandle
  rw [find?_eq_lookup hpos] at h ⊢
  rw [lookup_modify, if_pos rfl, h, Option.map_some]

/-- To change the bytes of one buffer changes no other, and leaves all of them registered. -/
theorem Stored.modify (h : r.Stored handle size) (changed : Nat) (f : Memory → Memory) :
    (r.modify changed f).Stored handle size ∧
      (handle ≠ changed → (r.modify changed f).bytes handle size = r.bytes handle size) := by
  have hlookup := lookup_modify r changed f handle
  refine ⟨?_, fun hne => bytes_of_lookup_eq (hlookup.trans (if_neg hne)) size⟩
  rcases h with hnull | ⟨hpos, hbelow, hsize, buffer, hbuffer, hroom⟩
  · exact Or.inl hnull
  · by_cases hchanged : handle = changed
    · refine Or.inr ⟨hpos, hbelow, hsize, { buffer with contents := f buffer.contents }, ?_, hroom⟩
      rw [hlookup, if_pos hchanged, hbuffer, Option.map_some]
    · have hsame := hlookup.trans (if_neg hchanged)
      exact Or.inr ⟨hpos, hbelow, hsize, buffer, hsame.trans hbuffer, hroom⟩

end Registry

/-! ## Carrying requests out -/

section Requests

variable {w : World} {device : Device} {handle size : Nat} {buffer : GpuBuffer}

theorem registry_defaultClient (device : Device) (w : World) :
    (w.defaultClient device).2.registry = w.registry := by
  unfold World.defaultClient
  cases w.defaults.lookup device.index with
  | some client => rfl
  | none => rfl

theorem perform_requireBuffer (h : w.registry.find? handle = some buffer) (argument : String) :
    (requireBuffer argument handle).perform w = (.ok buffer, w) := by
  unfold requireBuffer
  rw [Effect.perform_ofFun, h]

theorem perform_requireBuffer_none (h : w.registry.find? handle = none) (argument : String) :
    (requireBuffer argument handle).perform w =
      (.error (.error (.invalidArgument argument (.unregistered handle))), w) := by
  unfold requireBuffer
  rw [Effect.perform_ofFun, h]

/-- An allocation needs no buffer, or is too large to be rounded up, or registers a buffer under the
next handle. -/
theorem allocateOn_cases (device : Device) (size : Nat) (w : World) :
    (size = 0 ∧ (allocateOn device size).perform w = (.ok 0, w)) ∨
    (wordLimit ≤ roundUpTo wideWordBytes size ∧ (allocateOn device size).perform w =
      (.error (.fault .multiplyOverflow), (w.defaultClient device).2)) ∨
    (0 < size ∧ roundUpTo wideWordBytes size < wordLimit ∧ (allocateOn device size).perform w =
      (.ok w.registry.next,
        { (w.defaultClient device).2 with
          registry := (w.registry.reserve.2).insert w.registry.next
            { size := roundUpTo wideWordBytes size, contents := .empty } })) := by
  have hregistry := registry_defaultClient device w
  unfold allocateOn
  by_cases hzero : size = 0
  · rw [if_pos hzero]
    exact Or.inl ⟨hzero, rfl⟩
  · rw [if_neg hzero]
    refine Or.inr ?_
    have hrequire : (requireClient device).perform w = (.ok (), (w.defaultClient device).2) := rfl
    rw [Effect.perform_bind_ok hrequire]
    unfold allocate
    rw [if_neg hzero]
    have hwords : Checked.ceilDiv size wideWordBytes =
        .ok ((size + wideWordBytes - 1) / wideWordBytes) :=
      rfl
    rw [hwords]
    by_cases hfits : (size + wideWordBytes - 1) / wideWordBytes * wideWordBytes < wordLimit
    · refine Or.inr ⟨Nat.pos_of_ne_zero hzero, hfits, ?_⟩
      refine (Effect.perform_bind_ok (Effect.perform_pure _ _)).trans ?_
      rw [Checked.mul_of_lt hfits]
      refine (Effect.perform_bind_ok (Effect.perform_pure _ _)).trans ?_
      rw [Effect.perform_updateGet, hregistry]
      rfl
    · refine Or.inl ⟨Nat.le_of_not_lt hfits, ?_⟩
      have hoverflow : Checked.mul ((size + wideWordBytes - 1) / wideWordBytes) wideWordBytes =
          .error .multiplyOverflow := if_neg hfits
      refine (Effect.perform_bind_ok (Effect.perform_pure _ _)).trans ?_
      rw [hoverflow]
      exact Effect.perform_bind_error (Effect.perform_giveUp _ _)

/-- A transfer to a registered buffer puts the bytes over its beginning. -/
theorem perform_copyToDevice {data : Bytes} (hdata : data ≠ []) (hhandle : handle ≠ 0)
    (h : w.registry.find? handle = some buffer) :
    (copyToDevice device data handle).perform w =
      (.ok (), { (w.defaultClient device).2 with
        registry := w.registry.modify handle (fun m => m.write 0 (padded data)) }) := by
  have hregistry := registry_defaultClient device w
  have hnontrivial : ¬ (data.isEmpty = true ∨ handle = 0) := by simp [hdata, hhandle]
  have hfound : (w.defaultClient device).2.registry.find? handle = some buffer := hregistry ▸ h
  have hrequire : (requireClient device).perform w = (.ok (), (w.defaultClient device).2) := rfl
  unfold copyToDevice
  rw [if_neg hnontrivial, Effect.perform_bind_ok hrequire]
  have hdiscarded : (discard (requireBuffer "dst" handle)).perform (w.defaultClient device).2 =
      (.ok (), (w.defaultClient device).2) :=
    Effect.perform_bind_ok (perform_requireBuffer hfound "dst")
  rw [Effect.perform_bind_ok hdiscarded, Effect.perform_update, hregistry]

/-- A transfer from a registered buffer answers with its beginning. -/
theorem perform_copyFromDevice {host : Bytes} (hhost : host ≠ []) (hhandle : handle ≠ 0)
    (h : w.registry.find? handle = some buffer) :
    (copyFromDevice device handle host).perform w =
      (.ok (buffer.contents.read 0 host.length), (w.defaultClient device).2) := by
  have hregistry := registry_defaultClient device w
  have hnontrivial : ¬ (host.isEmpty = true ∨ handle = 0) := by simp [hhost, hhandle]
  have hfound : (w.defaultClient device).2.registry.find? handle = some buffer := hregistry ▸ h
  have hrequire : (requireClient device).perform w = (.ok (), (w.defaultClient device).2) := rfl
  have hunit : host.length ≤ roundUpTo transferUnit host.length := le_roundUpTo (by decide) _
  unfold copyFromDevice
  rw [if_neg hnontrivial, Effect.perform_bind_ok hrequire,
    Effect.perform_bind_ok (perform_requireBuffer hfound "src"), Effect.perform_pure,
    Memory.take_read buffer.contents hunit]

end Requests

/-! ## The promises of a storage -/

/-- The counter of handles has begun past the null handle, and does not come round for a number of
allocations. -/
def World.Ready (rooms : Nat) (w : World) : Prop :=
  0 < w.registry.next ∧ w.registry.next + rooms < wordLimit

section Promises

variable {rooms : Nat} {w w' : World} {handle size : Nat}

theorem World.Ready.of_next_eq (h : w.Ready rooms) (hnext : w'.registry.next = w.registry.next) :
    w'.Ready rooms := by
  unfold World.Ready
  rw [hnext]
  exact h

/-- Nothing that is stored is under the handle that comes next. -/
theorem storage_allocate_ok {device : Device} (hready : w.Ready (rooms + 1))
    (h : (allocateOn device size).perform w = (.ok handle, w')) :
    w'.Ready rooms ∧ w'.registry.Stored handle size ∧
      ∀ p n, w.registry.Stored p n →
        (p = handle → p = 0) ∧ w'.registry.Stored p n ∧
          w'.registry.bytes p n = w.registry.bytes p n := by
  obtain ⟨hpos, hroom⟩ := hready
  rcases allocateOn_cases device size w with ⟨rfl, hperform⟩ | ⟨-, hperform⟩ | ⟨hsize, -, hperform⟩
  · rw [hperform] at h
    cases h
    exact ⟨⟨hpos, by omega⟩, Or.inl ⟨rfl, rfl⟩, fun p n hstored => ⟨id, hstored, rfl⟩⟩
  · rw [hperform] at h
    cases h
  · rw [hperform] at h
    cases h
    -- The counter does not come round, so no buffer has had this handle before.
    have hnext : (w.registry.next + 1) % wordLimit = w.registry.next + 1 :=
      Nat.mod_eq_of_lt (by omega)
    let fresh : GpuBuffer := { size := roundUpTo wideWordBytes size, contents := .empty }
    let registry := (w.registry.reserve.2).insert w.registry.next fresh
    have hcounter : registry.next = w.registry.next + 1 := hnext
    have hlookup : ∀ p, registry.buffers.lookup p =
        if p = w.registry.next then some fresh else w.registry.buffers.lookup p :=
      Registry.lookup_insert w.registry.reserve.2 w.registry.next fresh
    refine ⟨⟨?_, ?_⟩, Or.inr ⟨hpos, ?_, hsize, fresh, ?_, Nat.le_refl _⟩, ?_⟩
    · change 0 < registry.next
      omega
    · change registry.next + rooms < wordLimit
      omega
    · change w.registry.next < registry.next
      omega
    · exact (hlookup _).trans (if_pos rfl)
    · intro p n hstored
      have hother : 0 < p → p ≠ w.registry.next := by
        intro hp
        rcases hstored with ⟨hnull, -⟩ | ⟨-, hbelow, -⟩
        · omega
        · omega
      refine ⟨?_, hstored.of_lookup_eq (by change w.registry.next ≤ registry.next; omega) ?_⟩
      · intro heq
        by_contra hne
        exact hother (Nat.pos_of_ne_zero hne) heq
      · intro hp
        exact (hlookup p).trans (if_neg (hother hp))

theorem storage_allocate_error {device : Device} {failure : Failure} (hready : w.Ready (rooms + 1))
    (h : (allocateOn device size).perform w = (.error failure, w')) :
    (failure.OutOfSpace ∧ wordLimit ≤ roundUpTo wideWordBytes size) ∧ w'.Ready rooms ∧
      ∀ p n, w.registry.Stored p n →
        w'.registry.Stored p n ∧ w'.registry.bytes p n = w.registry.bytes p n := by
  have hregistry := registry_defaultClient device w
  rcases allocateOn_cases device size w with ⟨-, hperform⟩ | ⟨hlarge, hperform⟩ | ⟨-, -, hperform⟩
  · rw [hperform] at h
    cases h
  · rw [hperform] at h
    cases h
    have hready' : w.Ready rooms := ⟨hready.1, Nat.lt_of_succ_lt hready.2⟩
    refine ⟨⟨trivial, hlarge⟩, hready'.of_next_eq (congrArg Registry.next hregistry), ?_⟩
    rw [hregistry]
    exact fun p n hstored => ⟨hstored, rfl⟩
  · rw [hperform] at h
    cases h

theorem storage_copyToDevice {data : Bytes} (device : Device) (hready : w.Ready rooms)
    (hstored : w.registry.Stored handle size) (hfits : data.length ≤ size)
    (hwhole : data.length % 4 = 0) :
    ∃ w', (copyToDevice device data handle).perform w = (.ok (), w') ∧ w'.Ready rooms ∧
      w'.registry.bytes handle size = (w.registry.bytes handle size).overlay data ∧
      ∀ p n, w.registry.Stored p n →
        w'.registry.Stored p n ∧ (p ≠ handle → w'.registry.bytes p n = w.registry.bytes p n) := by
  by_cases hdata : data = []
  · -- Nothing is moved.
    subst hdata
    exact ⟨w, rfl, hready, rfl, fun p n h => ⟨h, fun _ => rfl⟩⟩
  · have hpos : 0 < data.length := List.length_pos_iff.mpr hdata
    have hhandle := hstored.handle_ne_zero (Nat.lt_of_lt_of_le hpos hfits)
    obtain ⟨buffer, hbuffer, -⟩ := hstored.exists_buffer hhandle
    refine ⟨_, perform_copyToDevice hdata hhandle hbuffer, hready.of_next_eq rfl, ?_,
      fun p n h => h.modify handle _⟩
    change (w.registry.modify handle (fun m => m.write 0 (padded data))).bytes handle size = _
    unfold Registry.bytes
    rw [Registry.find?_modify hhandle hbuffer, hbuffer, Option.elim_some, Option.elim_some,
      padded_of_whole hwhole]
    exact Memory.read_write_overlay buffer.contents 0 hfits

theorem storage_copyFromDevice {host : Bytes} (device : Device) (hready : w.Ready rooms)
    (hstored : w.registry.Stored handle host.length) :
    ∃ w', (copyFromDevice device handle host).perform w =
        (.ok (w.registry.bytes handle host.length), w') ∧ w'.Ready rooms ∧
      ∀ p n, w.registry.Stored p n →
        w'.registry.Stored p n ∧ w'.registry.bytes p n = w.registry.bytes p n := by
  by_cases hhost : host = []
  · subst hhost
    exact ⟨w, rfl, hready, fun p n h => ⟨h, rfl⟩⟩
  · have hpos : 0 < host.length := List.length_pos_iff.mpr hhost
    have hhandle := hstored.handle_ne_zero hpos
    obtain ⟨buffer, hbuffer, -⟩ := hstored.exists_buffer hhandle
    have hregistry := registry_defaultClient device w
    refine ⟨(w.defaultClient device).2, ?_, hready.of_next_eq (congrArg Registry.next hregistry), ?_⟩
    · rw [perform_copyFromDevice hhost hhandle hbuffer, Registry.bytes, hbuffer, Option.elim_some]
    · rw [hregistry]
      exact fun p n h => ⟨h, rfl⟩

theorem storage_deallocate (device : Device) (hready : w.Ready rooms) (hhandle : handle ≠ 0) :
    (deallocateOn device handle w).Ready rooms ∧
      ∀ p n, w.registry.Stored p n → p ≠ handle →
        (deallocateOn device handle w).registry.Stored p n ∧
          (deallocateOn device handle w).registry.bytes p n = w.registry.bytes p n := by
  have hremoved : (deallocateOn device handle w).registry = w.registry.remove handle := by
    unfold deallocateOn deallocate
    rw [if_neg hhandle, if_neg hhandle]
    have hsame := congrArg (fun r : Registry => r.remove handle) (registry_defaultClient device w)
    cases (w.defaultClient device).2.registry.contains handle with
    | true => exact hsame
    | false => exact hsame
  refine ⟨hready.of_next_eq (by rw [hremoved]; rfl), ?_⟩
  rw [hremoved]
  intro p n hstored hne
  refine hstored.of_lookup_eq (Nat.le_refl _) (fun _ => ?_)
  exact (Table.lookup_filter_ne w.registry.buffers handle p).trans (if_neg hne)

end Promises

/-- Registered buffers keep what they are given. -/
def storage : Storage backend where
  Ready := World.Ready
  Stored w := w.registry.Stored
  bytes w := w.registry.bytes
  Tight size := wordLimit ≤ roundUpTo wideWordBytes size
  tight_of_le hlarge := Nat.le_trans hlarge (le_roundUpTo (by decide) _)
  ready_pred h := ⟨h.1, Nat.lt_of_succ_lt h.2⟩
  length_bytes _ _ _ := Memory.length_read _ _ _
  pointer_eq_zero_iff _ := Registry.Stored.handle_eq_zero_iff
  allocate_ok := storage_allocate_ok
  allocate_error := storage_allocate_error
  copyToDevice := storage_copyToDevice
  copyFromDevice := storage_copyFromDevice
  deallocate device hready _ := storage_deallocate device hready

/-! ## Transfers stay inside -/

/-- Fail if a transfer of a number of bytes, in whole units, passes the end of the buffer under a
handle. -/
def checkInside (handle length : Nat) : Effect World Unit :=
  .ofFun fun w =>
    match w.registry.find? handle with
    | none => (.ok (), w)
    | some buffer =>
        if roundUpTo transferUnit length ≤ buffer.size then (.ok (), w)
        else (.error (.error (.internal "transfer passes the end of the buffer")), w)

/-- The backend with every transfer checked against the end of the buffer first. -/
def guarded : Backend World Device Client :=
  { backend with
    copyToDevice := fun device bytes handle => do
      checkInside handle bytes.length
      copyToDevice device bytes handle
    copyFromDevice := fun device handle host => do
      checkInside handle host.length
      copyFromDevice device handle host }

section Guarded

variable {w : World} {handle size : Nat}

/-- Where bytes are stored, a transfer of no more of them stays inside, with its padding. -/
theorem perform_checkInside (hstored : w.registry.Stored handle size) {length : Nat}
    (h : length ≤ size) : (checkInside handle length).perform w = (.ok (), w) := by
  unfold checkInside
  rw [Effect.perform_ofFun]
  by_cases hhandle : handle = 0
  · subst hhandle
    rfl
  · obtain ⟨buffer, hbuffer, hroom⟩ := hstored.exists_buffer hhandle
    have hinside : roundUpTo transferUnit length ≤ buffer.size :=
      Nat.le_trans (roundUpTo_mono h) (Nat.le_trans (roundUpTo_transferUnit_le size) hroom)
    rw [hbuffer]
    exact if_pos hinside

theorem guarded_copyToDevice (hstored : w.registry.Stored handle size) (device : Device)
    {data : Bytes} (h : data.length ≤ size) :
    (guarded.copyToDevice device data handle).perform w =
      (backend.copyToDevice device data handle).perform w :=
  Effect.perform_bind_ok (perform_checkInside hstored h)

theorem guarded_copyFromDevice {host : Bytes} (hstored : w.registry.Stored handle host.length)
    (device : Device) :
    (guarded.copyFromDevice device handle host).perform w =
      (backend.copyFromDevice device handle host).perform w :=
  Effect.perform_bind_ok (perform_checkInside hstored (Nat.le_refl _))

end Guarded

end WebGpu

end DeviceCopy
