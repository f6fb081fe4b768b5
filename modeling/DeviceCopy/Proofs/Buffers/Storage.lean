import DeviceCopy.Buffer.Pool
import DeviceCopy.Proofs.Effects

/-!
# Storage behind buffers

What a backend has to promise about its memory for buffers to be worth anything: an allocation is
apart from everything in use, a transfer to the device changes what it is told to and nothing else,
and a transfer to the host answers with what is there. A `Storage` is a backend with these promises.

From them it follows, once for all backends, what making, writing, reading and releasing a buffer
do.
-/

set_option autoImplicit false

namespace DeviceCopy

variable {World Device Client : Type}

/-- What is left of some bytes once others have been put over their beginning. -/
def Bytes.overlay (old new : Bytes) : Bytes := new ++ old.drop new.length

theorem Bytes.overlay_of_length_eq {old new : Bytes} (h : old.length = new.length) :
    old.overlay new = new := by
  unfold overlay
  rw [List.drop_of_length_le (Nat.le_of_eq h), List.append_nil]

theorem Memory.take_read (m : Memory) {count more : Nat} (h : count ≤ more) (address : Nat) :
    (m.read address more).take count = m.read address count := by
  unfold Memory.read
  rw [← List.map_take, List.take_range, Nat.min_eq_left h]

/-- Reading back from where bytes were written: they are over what was there before. -/
theorem Memory.read_write_overlay (m : Memory) (address : Nat) {data : Bytes} {size : Nat}
    (h : data.length ≤ size) :
    (m.write address data).read address size = (m.read address size).overlay data := by
  apply List.ext_getElem?
  intro i
  rw [Memory.getElem?_read, Bytes.overlay, List.getElem?_append, List.getElem?_drop,
    Memory.getElem?_read, Memory.get_write]
  by_cases hi : i < data.length
  · have hsize : i < size := Nat.lt_of_lt_of_le hi h
    have hin : address ≤ address + i ∧ address + i < address + data.length := by omega
    have hoffset : address + i - address = i := by omega
    rw [if_pos hsize, if_pos hin, if_pos hi, hoffset, List.getD_eq_getElem?_getD,
      List.getElem?_eq_getElem hi, Option.getD_some]
  · have hout : ¬ (address ≤ address + i ∧ address + i < address + data.length) := by omega
    have hindex : data.length + (i - data.length) = i := by omega
    rw [if_neg hout, if_neg hi, hindex]

/-- There was no room: the size is more than there is or more than can be counted. -/
def Failure.OutOfSpace : Failure → Prop
  | .error (.outOfMemory _) => True
  | .fault .multiplyOverflow => True
  | _ => False

/-- A backend that keeps what it is given to store, in whole units of four bytes. Which worlds are in
order, which memory is in use and what it holds is up to the backend. -/
structure Storage (b : Backend World Device Client) where
  /-- The world is in order, and a number of allocations can still be made. -/
  Ready : (rooms : Nat) → World → Prop
  /-- A number of bytes at a pointer are in use. -/
  Stored : World → (pointer size : Nat) → Prop
  /-- The bytes at a pointer. -/
  bytes : World → (pointer size : Nat) → Bytes
  /-- For so many bytes there may be no room. -/
  Tight : (size : Nat) → Prop
  tight_of_le : ∀ {size}, wordLimit ≤ size → Tight size
  ready_pred : ∀ {rooms w}, Ready (rooms + 1) w → Ready rooms w
  length_bytes : ∀ w pointer size, (bytes w pointer size).length = size
  pointer_eq_zero_iff : ∀ {rooms w pointer size}, Ready rooms w → Stored w pointer size →
    (pointer = 0 ↔ size = 0)
  allocate_ok : ∀ {rooms w w' device size pointer}, Ready (rooms + 1) w →
    (b.allocate device size).perform w = (.ok pointer, w') →
      Ready rooms w' ∧ Stored w' pointer size ∧
        ∀ p n, Stored w p n → (p = pointer → p = 0) ∧ Stored w' p n ∧ bytes w' p n = bytes w p n
  allocate_error : ∀ {rooms w w' device size failure}, Ready (rooms + 1) w →
    (b.allocate device size).perform w = (.error failure, w') →
      (failure.OutOfSpace ∧ Tight size) ∧ Ready rooms w' ∧
        ∀ p n, Stored w p n → Stored w' p n ∧ bytes w' p n = bytes w p n
  copyToDevice : ∀ {rooms w data pointer size} (device), Ready rooms w → Stored w pointer size →
    data.length ≤ size → data.length % 4 = 0 →
      ∃ w', (b.copyToDevice device data pointer).perform w = (.ok (), w') ∧ Ready rooms w' ∧
        bytes w' pointer size = (bytes w pointer size).overlay data ∧
        ∀ p n, Stored w p n → Stored w' p n ∧ (p ≠ pointer → bytes w' p n = bytes w p n)
  copyFromDevice : ∀ {rooms w host pointer} (device), Ready rooms w → Stored w pointer host.length →
    ∃ w', (b.copyFromDevice device pointer host).perform w =
        (.ok (bytes w pointer host.length), w') ∧ Ready rooms w' ∧
      ∀ p n, Stored w p n → Stored w' p n ∧ bytes w' p n = bytes w p n
  deallocate : ∀ {rooms w pointer size} (device), Ready rooms w → Stored w pointer size →
    pointer ≠ 0 → Ready rooms (b.deallocate device pointer size w) ∧
      ∀ p n, Stored w p n → p ≠ pointer →
        Stored (b.deallocate device pointer size w) p n ∧
          bytes (b.deallocate device pointer size w) p n = bytes w p n

/-- The size is counted, and then the backend is asked for that many bytes. -/
theorem Buffer.perform_allocate (b : Backend World Device Client) (device : Device) (dtype : DType)
    (length : Nat) (w : World) :
    (Buffer.allocate b device dtype length).perform w =
      if length * dtype.size < wordLimit then
        match (b.allocate device (length * dtype.size)).perform w with
        | (.ok pointer, w') => (.ok { pointer, length, dtype, device }, w')
        | (.error failure, w') => (.error failure, w')
      else (.error (.error (.outOfMemory maxWord)), w) := by
  unfold Buffer.allocate Buffer.byteLength
  split
  · refine (Effect.perform_bind_ok (Effect.perform_pure _ w)).trans ?_
    rw [Effect.perform_bind]
    cases (b.allocate device (length * dtype.size)).perform w with
    | mk answer w' =>
      cases answer with
      | ok pointer => rfl
      | error failure => rfl
  · rfl

/-! ## What making a buffer keeps -/

section Keeping

variable {b : Backend World Device Client} {P : World → Prop}
  (hallocate : ∀ device size, Effect.Keeps P (b.allocate device size))
  (hcopy : ∀ device bytes pointer, Effect.Keeps P (b.copyToDevice device bytes pointer))
  (hdeallocate : ∀ device pointer size w, P w → P (b.deallocate device pointer size w))

include hallocate in
theorem Buffer.keeps_allocate (device : Device) (dtype : DType) (length : Nat) :
    Effect.Keeps P (Buffer.allocate b device dtype length) :=
  .bind (.answer _) (fun size => .bind (hallocate device size) (fun _ => .pure _))

include hcopy hdeallocate in
theorem Buffer.keeps_fillOrRelease (buffer : Buffer Device) (bytes : Bytes) :
    Effect.Keeps P (buffer.fillOrRelease b bytes) := by
  intro w h
  have hcopied := hcopy buffer.device bytes buffer.pointer w h
  unfold Buffer.fillOrRelease
  rw [Effect.perform_ofFun]
  split
  · next hperform =>
    rw [hperform] at hcopied
    exact hcopied
  · next hperform =>
    rw [hperform] at hcopied
    unfold Buffer.release
    split
    · exact hcopied
    · exact hdeallocate _ _ _ _ hcopied

include hallocate hcopy hdeallocate

theorem Buffer.keeps_zeros (device : Device) (dtype : DType) (length : Nat) :
    Effect.Keeps P (Buffer.zeros b device dtype length) := by
  refine .bind (Buffer.keeps_allocate hallocate device dtype length) (fun buffer => ?_)
  split
  · exact .pure buffer
  · exact Buffer.keeps_fillOrRelease hcopy hdeallocate buffer _

theorem Buffer.keeps_ofSlice (device : Device) (slice : HostSlice) :
    Effect.Keeps P (Buffer.ofSlice b device slice) :=
  .bind (Buffer.keeps_allocate hallocate device slice.dtype slice.length)
    (fun buffer => Buffer.keeps_fillOrRelease hcopy hdeallocate buffer slice.bytes)

end Keeping

namespace Storage

variable {b : Backend World Device Client} (s : Storage b)

/-- The memory of a buffer is in use. -/
def Holds (w : World) (buffer : Buffer Device) : Prop :=
  s.Stored w buffer.pointer buffer.sizeInBytes

/-- The bytes of a buffer. -/
def contents (w : World) (buffer : Buffer Device) : Bytes :=
  s.bytes w buffer.pointer buffer.sizeInBytes

/-- Everything in use stays in use and as it is, except perhaps at one pointer. -/
def KeepsBut (pointer : Nat) (w w' : World) : Prop :=
  ∀ buffer, s.Holds w buffer → buffer.pointer ≠ pointer →
    s.Holds w' buffer ∧ s.contents w' buffer = s.contents w buffer

/-- Everything in use stays in use and as it is. -/
def Keeps (w w' : World) : Prop :=
  ∀ buffer, s.Holds w buffer → s.Holds w' buffer ∧ s.contents w' buffer = s.contents w buffer

variable {s} {rooms : Nat} {w w' : World} {device : Device} {buffer : Buffer Device}

theorem Keeps.refl (w : World) : s.Keeps w w := fun _ h => ⟨h, rfl⟩

theorem length_contents (w : World) (buffer : Buffer Device) :
    (s.contents w buffer).length = buffer.sizeInBytes :=
  s.length_bytes w buffer.pointer buffer.sizeInBytes

/-- Buffers that share no memory with the one at the pointer are kept: another buffer there has no
bytes, as neither has that one. -/
theorem KeepsBut.of_separate {other : Buffer Device} (h : s.KeepsBut buffer.pointer w w')
    (hready : s.Ready rooms w) (hholds : s.Holds w buffer) (hafter : s.Holds w' buffer)
    (hother : s.Holds w other) (hseparate : other.pointer = buffer.pointer → other.pointer = 0) :
    s.Holds w' other ∧ s.contents w' other = s.contents w other := by
  by_cases hpointer : other.pointer = buffer.pointer
  · have hnull := hseparate hpointer
    have hempty := (s.pointer_eq_zero_iff hready hother).mp hnull
    have hempty' : buffer.sizeInBytes = 0 :=
      (s.pointer_eq_zero_iff hready hholds).mp (hpointer ▸ hnull)
    have hholds' : s.Holds w' other := by
      unfold Holds at hafter ⊢
      rw [hpointer, hempty, ← hempty']
      exact hafter
    refine ⟨hholds', ?_⟩
    rw [List.eq_nil_of_length_eq_zero ((length_contents w' other).trans hempty),
      List.eq_nil_of_length_eq_zero ((length_contents w other).trans hempty)]
  · exact h other hother hpointer

/-! ## Making a buffer -/

/-- A way to make a buffer with given contents either finds no room and leaves everything as it was,
or it makes one that is apart from all others. -/
def Makes (s : Storage b) (rooms : Nat) (w : World) (device : Device) (dtype : DType)
    (length : Nat) (bytes : Bytes) : Except Failure (Buffer Device) × World → Prop
  | (.ok buffer, w') =>
      (buffer.dtype = dtype ∧ buffer.length = length ∧ buffer.device = device) ∧
      s.Ready rooms w' ∧ s.Holds w' buffer ∧ s.contents w' buffer = bytes ∧ s.Keeps w w' ∧
      ∀ other, s.Holds w other → other.pointer = buffer.pointer → other.pointer = 0
  | (.error failure, w') =>
      (failure.OutOfSpace ∧ s.Tight (length * dtype.size)) ∧ s.Ready rooms w' ∧ s.Keeps w w'

/-- What an allocation alone leaves: the buffer is there, and holds whatever it holds. -/
theorem makes_allocate (hready : s.Ready (rooms + 1) w) (device : Device) (dtype : DType)
    (length : Nat) :
    ∃ bytes, s.Makes rooms w device dtype length bytes
      ((Buffer.allocate b device dtype length).perform w) := by
  rw [Buffer.perform_allocate]
  split
  · cases hallocate : (b.allocate device (length * dtype.size)).perform w with
    | mk answer w' =>
      cases answer with
      | ok pointer =>
        obtain ⟨hready', hstored, hkept⟩ := s.allocate_ok hready hallocate
        exact ⟨s.bytes w' pointer (length * dtype.size), ⟨rfl, rfl, rfl⟩, hready', hstored, rfl,
          fun other hother => (hkept _ _ hother).2, fun other hother => (hkept _ _ hother).1⟩
      | error failure =>
        obtain ⟨hspace, hready', hkept⟩ := s.allocate_error hready hallocate
        exact ⟨[], hspace, hready', fun other hother => hkept _ _ hother⟩
  · next hlarge =>
    exact ⟨[], ⟨trivial, s.tight_of_le (Nat.le_of_not_lt hlarge)⟩, s.ready_pred hready, .refl w⟩

theorem mul_size_mod_four (length : Nat) (dtype : DType) : length * dtype.size % 4 = 0 := by
  rw [← dtype.units_mul_four, ← Nat.mul_assoc]
  exact Nat.mul_mod_left _ 4

/-- A buffer that is there can be filled, and then it is not given back. -/
theorem perform_fillOrRelease (hready : s.Ready rooms w) (hholds : s.Holds w buffer) {data : Bytes}
    (hlength : data.length = buffer.sizeInBytes) :
    ∃ w', (buffer.fillOrRelease b data).perform w = (.ok buffer, w') ∧ s.Ready rooms w' ∧
      s.Holds w' buffer ∧ s.contents w' buffer = data ∧ s.KeepsBut buffer.pointer w w' := by
  have hunits : data.length % 4 = 0 := hlength ▸ mul_size_mod_four _ _
  obtain ⟨w', hperform, hready', hbytes, hkept⟩ :=
    s.copyToDevice buffer.device hready hholds (Nat.le_of_eq hlength) hunits
  refine ⟨w', ?_, hready', (hkept _ _ hholds).1, ?_, ?_⟩
  · unfold Buffer.fillOrRelease
    rw [Effect.perform_ofFun, hperform]
  · refine hbytes.trans (Bytes.overlay_of_length_eq ?_)
    rw [s.length_bytes, hlength]
  · intro other hother hne
    exact ⟨(hkept _ _ hother).1, (hkept _ _ hother).2 hne⟩

/-- Filling the buffer that was just made does not show in any other. -/
theorem Makes.filled {dtype : DType} {length : Nat} {bytes data : Bytes}
    (h : s.Makes rooms w device dtype length bytes (.ok buffer, w'))
    (hlength : data.length = length * dtype.size) :
    s.Makes rooms w device dtype length data ((buffer.fillOrRelease b data).perform w') := by
  obtain ⟨⟨hdtype, hcount, hdevice⟩, hready, hholds, -, hkept, hfresh⟩ := h
  have hsize : data.length = buffer.sizeInBytes := by
    rw [hlength, Buffer.sizeInBytes, hcount, hdtype]
  obtain ⟨w'', hperform, hready', hholds', hcontents, hbut⟩ :=
    perform_fillOrRelease hready hholds hsize
  rw [hperform]
  refine ⟨⟨hdtype, hcount, hdevice⟩, hready', hholds', hcontents, ?_, hfresh⟩
  intro other hother
  obtain ⟨hbetween, hsame⟩ := hkept other hother
  obtain ⟨hafter, hsame'⟩ := hbut.of_separate hready hholds hholds' hbetween (hfresh other hother)
  exact ⟨hafter, hsame'.trans hsame⟩

theorem makes_zeros (hready : s.Ready (rooms + 1) w) (device : Device) (dtype : DType)
    (length : Nat) :
    s.Makes rooms w device dtype length (List.replicate (length * dtype.size) 0)
      ((Buffer.zeros b device dtype length).perform w) := by
  obtain ⟨bytes, hmade⟩ := makes_allocate hready device dtype length
  unfold Buffer.zeros
  cases hallocate : (Buffer.allocate b device dtype length).perform w with
  | mk answer w' =>
    rw [hallocate] at hmade
    cases answer with
    | error failure =>
      rw [Effect.perform_bind_error hallocate]
      exact hmade
    | ok buffer =>
      have hsize : buffer.sizeInBytes = length * dtype.size := by
        rw [Buffer.sizeInBytes, hmade.1.1, hmade.1.2.1]
      rw [Effect.perform_bind_ok hallocate]
      split
      · next hempty =>
        -- There is nothing to fill, and no bytes are zero bytes.
        obtain ⟨hshape, hready', hholds, -, hkept, hfresh⟩ := hmade
        refine ⟨hshape, hready', hholds, ?_, hkept, hfresh⟩
        rw [← hsize, hempty, List.replicate_zero]
        exact List.eq_nil_of_length_eq_zero ((length_contents w' buffer).trans hempty)
      · rw [hsize]
        exact hmade.filled List.length_replicate

theorem makes_ofSlice (hready : s.Ready (rooms + 1) w) (device : Device) {slice : HostSlice}
    (hwhole : slice.bytes.length = slice.length * slice.dtype.size) :
    s.Makes rooms w device slice.dtype slice.length slice.bytes
      ((Buffer.ofSlice b device slice).perform w) := by
  obtain ⟨bytes, hmade⟩ := makes_allocate hready device slice.dtype slice.length
  unfold Buffer.ofSlice
  cases hallocate : (Buffer.allocate b device slice.dtype slice.length).perform w with
  | mk answer w' =>
    rw [hallocate] at hmade
    cases answer with
    | error failure =>
      rw [Effect.perform_bind_error hallocate]
      exact hmade
    | ok buffer =>
      rw [Effect.perform_bind_ok hallocate]
      exact hmade.filled hwhole

/-! ## Writing, reading and releasing -/

theorem write_mismatch {slice : HostSlice} (h : slice.dtype ≠ buffer.dtype) (w : World) :
    (buffer.write b slice).perform w =
      (.error (.error (.dtypeMismatch slice.dtype buffer.dtype)), w) := by
  unfold Buffer.write Buffer.expectDType
  rw [if_neg h]
  exact Effect.perform_bind_error (Effect.perform_fail _ w)

theorem write_tooLong {slice : HostSlice} (hdtype : slice.dtype = buffer.dtype)
    (h : buffer.length < slice.length) (w : World) :
    (buffer.write b slice).perform w =
      (.error (.error (.bufferTooSmall slice.length buffer.length)), w) := by
  unfold Buffer.write Buffer.expectDType Effect.failIf
  rw [if_pos hdtype, if_pos (by simpa using h)]
  refine (Effect.perform_bind_ok (Effect.perform_pure () w)).trans ?_
  exact Effect.perform_bind_error (Effect.perform_fail _ w)

/-- Past its checks a write is a transfer. -/
theorem write_fitting {slice : HostSlice} (hdtype : slice.dtype = buffer.dtype)
    (h : slice.length ≤ buffer.length) (w : World) :
    (buffer.write b slice).perform w =
      (b.copyToDevice buffer.device slice.bytes buffer.pointer).perform w := by
  unfold Buffer.write Buffer.expectDType Effect.failIf
  rw [if_pos hdtype, if_neg (by simpa using h)]
  refine (Effect.perform_bind_ok (Effect.perform_pure () w)).trans ?_
  exact Effect.perform_bind_ok (Effect.perform_pure () w)

theorem perform_write (hready : s.Ready rooms w) (hholds : s.Holds w buffer) {slice : HostSlice}
    (hdtype : slice.dtype = buffer.dtype) (hlength : slice.length ≤ buffer.length)
    (hwhole : slice.bytes.length = slice.length * slice.dtype.size) :
    ∃ w', (buffer.write b slice).perform w = (.ok (), w') ∧ s.Ready rooms w' ∧ s.Holds w' buffer ∧
      s.contents w' buffer = (s.contents w buffer).overlay slice.bytes ∧
      s.KeepsBut buffer.pointer w w' := by
  have hfits : slice.bytes.length ≤ buffer.sizeInBytes := by
    rw [hwhole, hdtype]
    exact Nat.mul_le_mul_right _ hlength
  have hunits : slice.bytes.length % 4 = 0 := hwhole ▸ mul_size_mod_four _ _
  obtain ⟨w', hperform, hready', hbytes, hkept⟩ :=
    s.copyToDevice buffer.device hready hholds hfits hunits
  refine ⟨w', (write_fitting hdtype hlength w).trans hperform, hready', (hkept _ _ hholds).1, hbytes,
    ?_⟩
  intro other hother hne
  exact ⟨(hkept _ _ hother).1, (hkept _ _ hother).2 hne⟩

theorem read_mismatch {dtype : DType} (h : dtype ≠ buffer.dtype) (w : World) :
    (buffer.read b dtype).perform w = (.error (.error (.dtypeMismatch dtype buffer.dtype)), w) := by
  unfold Buffer.read Buffer.expectDType
  rw [if_neg h]
  exact Effect.perform_bind_error (Effect.perform_fail _ w)

/-- Past its check a read is a transfer. -/
theorem read_matching (w : World) :
    (buffer.read b buffer.dtype).perform w =
      (b.copyFromDevice buffer.device buffer.pointer (List.replicate buffer.sizeInBytes 0)).perform
        w := by
  unfold Buffer.read Buffer.expectDType
  rw [if_pos rfl]
  exact Effect.perform_bind_ok (Effect.perform_pure () w)

theorem perform_read (hready : s.Ready rooms w) (hholds : s.Holds w buffer) :
    ∃ w', (buffer.read b buffer.dtype).perform w = (.ok (s.contents w buffer), w') ∧
      s.Ready rooms w' ∧ s.Keeps w w' := by
  have hlength : (List.replicate buffer.sizeInBytes (0 : UInt8)).length = buffer.sizeInBytes :=
    List.length_replicate
  have hstored : s.Stored w buffer.pointer (List.replicate buffer.sizeInBytes (0 : UInt8)).length := by
    rw [hlength]
    exact hholds
  obtain ⟨w', hperform, hready', hkept⟩ := s.copyFromDevice buffer.device hready hstored
  refine ⟨w', ?_, hready', fun other hother => hkept _ _ hother⟩
  rw [read_matching, hperform, hlength]
  rfl

/-- A buffer with bytes goes away without touching any other; there is nothing to give back of one
without. -/
theorem keeps_release (hready : s.Ready rooms w) (hholds : s.Holds w buffer) :
    s.Ready rooms (buffer.release b w) ∧
      ∀ other, s.Holds w other → (other.pointer = buffer.pointer → other.pointer = 0) →
        s.Holds (buffer.release b w) other ∧
          s.contents (buffer.release b w) other = s.contents w other := by
  unfold Buffer.release
  split
  · exact ⟨hready, fun other hother _ => ⟨hother, rfl⟩⟩
  · next hpointer =>
    obtain ⟨hready', hkept⟩ := s.deallocate buffer.device hready hholds hpointer
    refine ⟨hready', ?_⟩
    intro other hother hapart
    refine hkept _ _ hother ?_
    exact fun heq => hpointer (heq ▸ hapart heq)

end Storage

end DeviceCopy
