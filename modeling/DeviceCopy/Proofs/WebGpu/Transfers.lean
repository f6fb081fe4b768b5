import DeviceCopy.Proofs.WebGpu.Storage

/-!
# Transfers in whole units

A transfer to a buffer moves whole units of four bytes, padded with zeros, so up to three bytes past
the ones it was given become zero (`receives_copyToDevice`). A transfer back is cut to the bytes
that were asked for.

Neither moves anything under the null handle or under a handle that no buffer has. The null handle
is no error; every other handle without a buffer is.
-/

set_option autoImplicit false

namespace DeviceCopy

namespace WebGpu

section Padding

variable {data : Bytes} {i : Nat}

theorem length_padded (data : Bytes) :
    (padded data).length = roundUpTo transferUnit data.length := by
  have hle : data.length ≤ roundUpTo transferUnit data.length := le_roundUpTo (by decide) _
  simp only [padded, List.length_append, List.length_replicate]
  omega

theorem getD_padded_of_lt (h : i < data.length) : (padded data).getD i 0 = data[i] := by
  simp [padded, List.getD_eq_getElem?_getD, List.getElem?_append_left h, h]

theorem getD_padded_of_le (h : data.length ≤ i) : (padded data).getD i 0 = 0 := by
  simp only [padded, List.getD_eq_getElem?_getD, List.getElem?_append_right h,
    List.getElem?_replicate]
  split
  · rfl
  · rfl

end Padding

section Transfers

variable {w w' : World} {device : Device} {handle size : Nat} {data host : Bytes}
  {buffer : GpuBuffer}

/-! ## Handles without a buffer -/

theorem perform_copyToDevice_null (device : Device) (data : Bytes) (w : World) :
    (copyToDevice device data 0).perform w = (.ok (), w) := by
  unfold copyToDevice
  rw [if_pos (Or.inr rfl), Effect.perform_pure]

theorem perform_copyFromDevice_null (device : Device) (host : Bytes) (w : World) :
    (copyFromDevice device 0 host).perform w = (.ok host, w) := by
  unfold copyFromDevice
  rw [if_pos (Or.inr rfl), Effect.perform_pure]

/-- Both transfers open the default client of the device before they look at the handle. -/
theorem perform_requireClient (device : Device) (w : World) :
    (requireClient device).perform w = (.ok (), (w.defaultClient device).2) := rfl

theorem find?_defaultClient_eq_none (device : Device) (h : w.registry.find? handle = none) :
    (w.defaultClient device).2.registry.find? handle = none := by
  rw [registry_defaultClient]
  exact h

theorem perform_copyToDevice_unregistered (hdata : data ≠ []) (hhandle : handle ≠ 0)
    (h : w.registry.find? handle = none) :
    (copyToDevice device data handle).perform w =
      (.error (.error (.invalidArgument "dst" (.unregistered handle))),
        (w.defaultClient device).2) := by
  have hmissing := perform_requireBuffer_none (find?_defaultClient_eq_none device h) "dst"
  have hrefused : (discard (requireBuffer "dst" handle)).perform (w.defaultClient device).2 = _ :=
    Effect.perform_bind_error hmissing
  unfold copyToDevice
  rw [if_neg (by simp [hdata, hhandle]), Effect.perform_bind_ok (perform_requireClient device w),
    Effect.perform_bind_error hrefused]

theorem perform_copyFromDevice_unregistered (hhost : host ≠ []) (hhandle : handle ≠ 0)
    (h : w.registry.find? handle = none) :
    (copyFromDevice device handle host).perform w =
      (.error (.error (.invalidArgument "src" (.unregistered handle))),
        (w.defaultClient device).2) := by
  have hrefused := perform_requireBuffer_none (find?_defaultClient_eq_none device h) "src"
  unfold copyFromDevice
  rw [if_neg (by simp [hhost, hhandle]), Effect.perform_bind_ok (perform_requireClient device w),
    Effect.perform_bind_error hrefused]

/-! ## What a buffer holds -/

theorem Registry.find?_modify_of_ne {r : Registry} {changed other : Nat} (h : other ≠ changed)
    (f : Memory → Memory) : (r.modify changed f).find? other = r.find? other := by
  unfold Registry.find?
  rw [Registry.lookup_modify, if_neg h]

theorem Registry.bytes_of_find? {r : Registry} (h : r.find? handle = some buffer) (size : Nat) :
    r.bytes handle size = buffer.contents.read 0 size := by
  rw [Registry.bytes, h, Option.elim_some]

/-- From one world to the other bytes have been transferred to the beginning of a buffer. They are
there, with zeros up to the next unit of four bytes. Everything past that unit is as it was, and so
is every other buffer. A transfer back of any length up to the size asked for succeeds and answers
with what the buffer begins with. -/
structure World.Receives (w w' : World) (device : Device) (data : Bytes) (handle size : Nat) :
    Prop where
  written : w'.registry.bytes handle data.length = data
  padding : ∀ i < size, data.length ≤ i → i < roundUpTo transferUnit data.length →
    (w'.registry.bytes handle size)[i]? = some 0
  rest : ∀ i < size, roundUpTo transferUnit data.length ≤ i →
    (w'.registry.bytes handle size)[i]? = (w.registry.bytes handle size)[i]?
  kept : ∀ other ≠ handle, w'.registry.find? other = w.registry.find? other
  readBack : ∀ host : Bytes, host.length ≤ size →
    ∃ later, (copyFromDevice device handle host).perform w' =
      (.ok ((w'.registry.bytes handle size).take host.length), later)

/-- A transfer back from a buffer answers with what it begins with. -/
theorem exists_perform_copyFromDevice (hhandle : handle ≠ 0)
    (h : w.registry.find? handle = some buffer) (hfits : host.length ≤ size) :
    ∃ later, (copyFromDevice device handle host).perform w =
      (.ok ((w.registry.bytes handle size).take host.length), later) := by
  rw [Registry.bytes_of_find? h, Memory.take_read buffer.contents hfits]
  by_cases hhost : host = []
  · -- Nothing is asked for, so the default client is not even opened.
    subst hhost
    exact ⟨w, rfl⟩
  · exact ⟨_, perform_copyFromDevice hhost hhandle h⟩

/-- A transfer to a registered buffer succeeds. -/
theorem receives_copyToDevice (device : Device) (hhandle : handle ≠ 0)
    (h : w.registry.find? handle = some buffer) (hdata : data ≠ []) (size : Nat) :
    ∃ w', (copyToDevice device data handle).perform w = (.ok (), w') ∧
      w.Receives w' device data handle size := by
  refine ⟨_, perform_copyToDevice hdata hhandle h, ?_⟩
  let written : Registry := w.registry.modify handle (fun m => m.write 0 (padded data))
  have hfound : written.find? handle = some { buffer with
      contents := buffer.contents.write 0 (padded data) } :=
    Registry.find?_modify hhandle h _
  have hbytes := Registry.bytes_of_find? hfound
  -- The byte at every place is one of the padded data, or what it was.
  have hget : ∀ i, (buffer.contents.write 0 (padded data)).get (0 + i) =
      if i < roundUpTo transferUnit data.length then (padded data).getD i 0
      else buffer.contents.get (0 + i) := by
    intro i
    rw [Memory.get_write, length_padded]
    simp
  have hround : data.length ≤ roundUpTo transferUnit data.length := le_roundUpTo (by decide) _
  refine ⟨?_, fun i hi hpast hunit => ?_, fun i hi hpast => ?_,
    fun other hother => Registry.find?_modify_of_ne hother _,
    fun host hhost => exists_perform_copyFromDevice hhandle hfound hhost⟩
  · refine (hbytes data.length).trans (List.ext_getElem? fun i => ?_)
    rw [Memory.getElem?_read, hget]
    by_cases hi : i < data.length
    · rw [if_pos hi, if_pos (Nat.lt_of_lt_of_le hi hround), getD_padded_of_lt hi,
        List.getElem?_eq_getElem hi]
    · rw [if_neg hi, List.getElem?_eq_none (Nat.le_of_not_lt hi)]
  · change (written.bytes handle size)[i]? = some 0
    rw [hbytes, Memory.getElem?_read, hget, if_pos hi, if_pos hunit, getD_padded_of_le hpast]
  · change (written.bytes handle size)[i]? = _
    rw [hbytes, Registry.bytes_of_find? h, Memory.getElem?_read, Memory.getElem?_read, hget,
      if_neg (Nat.not_lt.mpr hpast)]

end Transfers

end WebGpu

end DeviceCopy
