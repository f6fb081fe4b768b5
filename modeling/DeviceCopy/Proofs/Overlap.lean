import DeviceCopy.Proofs.Emulated.Overlap
import DeviceCopy.Proofs.WebGpu.Overlap

/-!
# Pointers tell overlapping buffers

A checked copy finds overlapping buffers by comparing two pointers. On both backends that finds them
all and nothing else, in whatever order buffers are made, shared, released and copied: memory that
is given back may be granted again, and buffers without bytes are all at the null pointer.
-/

set_option autoImplicit false

namespace DeviceCopy

/-- Whatever a program comes to, buffers with elements overlap exactly if they are at one pointer, and
exactly if they are one buffer; checked copies refuse exactly the pairs that overlap. -/
theorem pointers_tell_overlap :
    (∀ h, Emulated.Attained h → h.TellsApart Emulated.backend Emulated.Attained.byteAt) ∧
    (∀ allocations h, WebGpu.Attained allocations h → allocations + 1 < wordLimit →
      h.TellsApart WebGpu.backend WebGpu.Attained.byteUnder) :=
  ⟨fun _ hattained => hattained.tellsApart, fun _ _ hattained hroom => hattained.tellsApart hroom⟩

/-- Two buffers, and a second handle for the first. -/
def twoAndClone {Device : Type} (device : Device) : List (BufferRequest Device) :=
  [.make device (.zeros .f32 2), .make device (.zeros .f32 2), .clone 0]

theorem pointers_tell_overlap_clone :
    let h : Holdings Emulated.World Emulated.Device :=
      (Effect.performAll (BufferRequest.carryOut Emulated.backend) (twoAndClone .standard)
        (.initial (.initial .prompt))).2
    let first : Buffer Emulated.Device :=
      { pointer := 64, length := 2, dtype := .f32, device := .standard }
    let second : Buffer Emulated.Device := { first with pointer := 128 }
    let v : Holdings WebGpu.World WebGpu.Device :=
      (Effect.performAll (BufferRequest.carryOut WebGpu.backend) (twoAndClone (.ofIndex 0))
        (.initial (.initial (fun _ => .noop) 1))).2
    let registered : Buffer WebGpu.Device :=
      { pointer := 1, length := 2, dtype := .f32, device := .ofIndex 0 }
    Emulated.Attained h ∧ WebGpu.Attained 2 v ∧
    (h.buffer? 0 = some first ∧ h.buffer? 1 = some second ∧ h.buffer? 2 = some first) ∧
    (h.ToldApart Emulated.backend Emulated.Attained.byteAt 0 1 first second ∧
      h.ToldApart Emulated.backend Emulated.Attained.byteAt 0 2 first first) ∧
    (v.buffer? 0 = some registered ∧ v.buffer? 2 = some registered) ∧
    v.ToldApart WebGpu.backend WebGpu.Attained.byteUnder 0 2 registered registered := by
  intro h first second v registered
  have hattained : Emulated.Attained h :=
    (Emulated.Attained.start Placement.ascending_lawful).program (twoAndClone .standard)
  have hattained' : WebGpu.Attained 2 v :=
    (WebGpu.Attained.start (fun _ => .noop)).program (twoAndClone (.ofIndex 0))
  have hfirst : h.buffer? 0 = some first := by decide +kernel
  have hsecond : h.buffer? 1 = some second := by decide +kernel
  have hclone : h.buffer? 2 = some first := by decide +kernel
  have hregistered : v.buffer? 0 = some registered := by decide +kernel
  have hregistered' : v.buffer? 2 = some registered := by decide +kernel
  have htold := pointers_tell_overlap.1 h hattained
  have htold' := pointers_tell_overlap.2 2 v hattained' (by decide)
  exact ⟨hattained, hattained', ⟨hfirst, hsecond, hclone⟩,
    ⟨htold 0 1 first second hfirst hsecond, htold 0 2 first first hfirst hclone⟩,
    ⟨hregistered, hregistered'⟩, htold' 0 2 registered registered hregistered hregistered'⟩

end DeviceCopy
