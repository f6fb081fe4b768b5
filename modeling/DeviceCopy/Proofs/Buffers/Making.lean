import DeviceCopy.Proofs.Buffers.Storage

/-!
# Elements, and buffers made of them

What a program puts into buffers are lists of elements of one type. A `BufferPlan` is one of the two
ways in which it makes a buffer, and on every storage the buffer then holds what the plan says.
-/

set_option autoImplicit false

namespace DeviceCopy

/-- Elements of one type, each with the bytes it has in memory. -/
structure Elements where
  dtype : DType
  values : List Bytes
  sized : ∀ value ∈ values, value.length = dtype.size

namespace Elements

variable {e old new : Elements}

def length (e : Elements) : Nat := e.values.length

/-- The elements as they lie in memory. -/
def bytes (e : Elements) : Bytes := e.values.flatten

def toSlice (e : Elements) : HostSlice := { dtype := e.dtype, bytes := e.bytes }

theorem length_flatten {values : List Bytes} {size : Nat}
    (h : ∀ value ∈ values, value.length = size) : values.flatten.length = values.length * size := by
  rw [List.length_flatten, List.map_congr_left h, List.map_const', List.sum_replicate_nat]

theorem length_bytes (e : Elements) : e.bytes.length = e.length * e.dtype.size :=
  length_flatten e.sized

@[simp] theorem length_toSlice (e : Elements) : e.toSlice.length = e.length := by
  unfold HostSlice.length toSlice
  rw [length_bytes]
  exact Nat.mul_div_cancel _ e.dtype.size_pos

theorem whole_toSlice (e : Elements) :
    e.toSlice.bytes.length = e.toSlice.length * e.toSlice.dtype.size := by
  rw [length_toSlice]
  exact e.length_bytes

/-- A number of zero elements. -/
def zeros (dtype : DType) (length : Nat) : Elements :=
  { dtype
    values := List.replicate length (List.replicate dtype.size 0)
    sized := by
      intro value hvalue
      rw [List.eq_of_mem_replicate hvalue, List.length_replicate] }

@[simp] theorem length_zeros (dtype : DType) (length : Nat) : (zeros dtype length).length = length :=
  List.length_replicate

theorem bytes_zeros (dtype : DType) (length : Nat) :
    (zeros dtype length).bytes = List.replicate (length * dtype.size) 0 := by
  refine List.eq_replicate_iff.mpr ⟨?_, ?_⟩
  · rw [length_bytes, length_zeros]
    rfl
  · intro byte hbyte
    obtain ⟨value, hvalue, hin⟩ := List.mem_flatten.mp hbyte
    rw [List.eq_of_mem_replicate hvalue] at hin
    exact List.eq_of_mem_replicate hin

/-- Elements with the first of them replaced. Elements of another type replace none. -/
def overlay (old new : Elements) : Elements :=
  if h : new.dtype = old.dtype then
    { dtype := old.dtype
      values := new.values ++ old.values.drop new.length
      sized := by
        intro value hvalue
        rcases List.mem_append.mp hvalue with hnew | hold
        · exact (new.sized value hnew).trans (congrArg DType.size h)
        · exact old.sized value (List.mem_of_mem_drop hold) }
  else old

/-- The first of some elements. -/
def take (e : Elements) (count : Nat) : Elements :=
  { dtype := e.dtype
    values := e.values.take count
    sized := fun value hvalue => e.sized value (List.mem_of_mem_take hvalue) }

theorem flatten_drop {values : List Bytes} {size : Nat}
    (h : ∀ value ∈ values, value.length = size) (count : Nat) :
    (values.drop count).flatten = values.flatten.drop (count * size) := by
  induction count generalizing values with
  | zero => simp
  | succ count ih =>
    cases values with
    | nil => simp
    | cons value rest =>
      have hvalue := h value List.mem_cons_self
      have hrest := ih (fun other hother => h other (List.mem_cons_of_mem value hother))
      have hsize : (count + 1) * size = value.length + count * size := by
        rw [hvalue, Nat.succ_mul, Nat.add_comm]
      rw [List.drop_succ_cons, hrest, List.flatten_cons, hsize, List.drop_append]
      simp

theorem bytes_take (e : Elements) (count : Nat) :
    (e.take count).bytes = e.bytes.take (count * e.dtype.size) := by
  have hsplit : e.bytes = (e.take count).bytes ++ (e.values.drop count).flatten := by
    unfold bytes take
    rw [← List.flatten_append, List.take_append_drop]
  have hrest := flatten_drop e.sized count
  rcases Nat.lt_or_ge e.length count with hshort | hlong
  · have hall : e.take count = e := by
      unfold take
      congr 1
      exact List.take_of_length_le (Nat.le_of_lt hshort)
    rw [hall, List.take_of_length_le]
    rw [length_bytes]
    exact Nat.mul_le_mul_right _ (Nat.le_of_lt hshort)
  · have hlength : (e.take count).bytes.length = count * e.dtype.size := by
      rw [length_bytes]
      congr 1
      exact List.length_take_of_le hlong
    rw [hsplit, ← hlength, List.take_left]

theorem values_overlay (h : new.dtype = old.dtype) :
    (old.overlay new).values = new.values ++ old.values.drop new.length := by
  unfold overlay
  rw [dif_pos h]

@[simp] theorem dtype_overlay (old new : Elements) : (old.overlay new).dtype = old.dtype := by
  unfold overlay
  split
  · rfl
  · rfl

theorem bytes_overlay (h : new.dtype = old.dtype) :
    (old.overlay new).bytes = old.bytes.overlay new.bytes := by
  unfold bytes Bytes.overlay
  rw [values_overlay h, List.flatten_append, flatten_drop old.sized, ← h, ← length_bytes]
  rfl

theorem length_overlay (h : new.dtype = old.dtype) (hlength : new.length ≤ old.length) :
    (old.overlay new).length = old.length := by
  unfold length at hlength ⊢
  rw [values_overlay h, List.length_append, List.length_drop, length]
  omega

end Elements

/-! ## Plans -/

/-- How a buffer is made. -/
inductive BufferPlan
  | zeros (dtype : DType) (length : Nat)
  | ofElements (elements : Elements)

namespace BufferPlan

variable {World Device Client : Type}

/-- What the buffer holds at first. -/
def contents : BufferPlan → Elements
  | zeros dtype length => .zeros dtype length
  | ofElements elements => elements

def make (b : Backend World Device Client) (device : Device) :
    BufferPlan → Effect World (Buffer Device)
  | zeros dtype length => Buffer.zeros b device dtype length
  | ofElements elements => Buffer.ofSlice b device elements.toSlice

theorem keeps_make {b : Backend World Device Client} {P : World → Prop}
    (hallocate : ∀ device size, Effect.Keeps P (b.allocate device size))
    (hcopy : ∀ device bytes pointer, Effect.Keeps P (b.copyToDevice device bytes pointer))
    (hdeallocate : ∀ device pointer size w, P w → P (b.deallocate device pointer size w))
    (device : Device) (plan : BufferPlan) : Effect.Keeps P (plan.make b device) := by
  cases plan with
  | zeros dtype length => exact Buffer.keeps_zeros hallocate hcopy hdeallocate device dtype length
  | ofElements elements => exact Buffer.keeps_ofSlice hallocate hcopy hdeallocate device _

/-- On every storage a plan makes a buffer that holds what the plan says. -/
theorem makes {b : Backend World Device Client} {s : Storage b} {rooms : Nat} {w : World}
    (hready : s.Ready (rooms + 1) w) (device : Device) (plan : BufferPlan) :
    s.Makes rooms w device plan.contents.dtype plan.contents.length plan.contents.bytes
      ((plan.make b device).perform w) := by
  cases plan with
  | zeros dtype length =>
    have hmade := Storage.makes_zeros hready device dtype length
    rw [← Elements.bytes_zeros] at hmade
    rw [contents, Elements.length_zeros]
    exact hmade
  | ofElements elements =>
    have hmade := Storage.makes_ofSlice hready device elements.whole_toSlice
    rw [Elements.length_toSlice] at hmade
    exact hmade

end BufferPlan

end DeviceCopy
