/-!
# Element types

The six element types a device buffer can hold, with the sizes every later module counts in: bytes
per element, elements per 16-byte wide word, and 32-bit units per element. All sizes divide the wide
word, so a wide word always holds a whole number of elements.
-/

set_option autoImplicit false

namespace DeviceCopy

/-- Bytes in one wide word, the unit the wide copy kernels move. -/
def wideWordBytes : Nat := 16

inductive DType
  | f64
  | f32
  | i64
  | i32
  | u64
  | u32
  deriving DecidableEq, Repr

namespace DType

def size : DType → Nat
  | f64 | i64 | u64 => 8
  | f32 | i32 | u32 => 4

def lanes (d : DType) : Nat := wideWordBytes / d.size

def units (d : DType) : Nat := d.size / 4

/-- Lower-case name, as kernel names and log fields spell it. -/
def shortName : DType → String
  | f64 => "f64"
  | f32 => "f32"
  | i64 => "i64"
  | i32 => "i32"
  | u64 => "u64"
  | u32 => "u32"

/-- Upper-case name, as error messages spell it. -/
def label : DType → String
  | f64 => "F64"
  | f32 => "F32"
  | i64 => "I64"
  | i32 => "I32"
  | u64 => "U64"
  | u32 => "U32"

/-- Stable numeric code: the tens digit is the family, the ones digit the width. -/
def code : DType → Nat
  | f64 => 0
  | f32 => 1
  | i64 => 10
  | i32 => 11
  | u64 => 20
  | u32 => 21

def all : List DType := [f64, f32, i64, i32, u64, u32]

def ofShortName? (name : String) : Option DType :=
  all.find? (fun d => d.shortName == name)

theorem size_pos (d : DType) : 0 < d.size := by
  cases d <;> decide

theorem lanes_pos (d : DType) : 0 < d.lanes := by
  cases d <;> decide

/-- A wide word is a whole number of elements. -/
theorem lanes_mul_size (d : DType) : d.lanes * d.size = wideWordBytes := by
  cases d <;> decide

/-- An element is a whole number of 32-bit units. -/
theorem units_mul_four (d : DType) : d.units * 4 = d.size := by
  cases d <;> decide

end DType

end DeviceCopy
