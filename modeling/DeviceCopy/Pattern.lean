import DeviceCopy.Checked
import DeviceCopy.WideWord

/-!
# Fill patterns

Short descriptions of the contents of a run of elements: listed values, one value repeated, evenly
spaced values, and a pseudo-random sequence. Every value is cut to the width of the element, low
bytes first.
-/

set_option autoImplicit false

namespace DeviceCopy

/-- A description of the contents of a run of elements. -/
inductive Pattern
  /-- Bytes as they are. -/
  | raw (content : Bytes)
  /-- The listed values; a negative one stands for its two's complement. -/
  | listed (values : List Int)
  /-- One value repeated. -/
  | fill (value : Int) (length : Nat)
  /-- `start`, `start + step`, `start + 2 step`, …. -/
  | evenly (start step : Int) (length : Nat)
  /-- The top bits of a linear congruential sequence of words. -/
  | congruential (seed : Int) (length : Nat)
  deriving Repr

namespace Pattern

/-- A number as a word in two's complement. -/
def wordOfInt (value : Int) : Nat := (value % (wordLimit : Int)).toNat

def nextWord (word : Nat) : Nat :=
  (word * 6364136223846793005 + 1442695040888963407) % wordLimit

/-- The words that follow a seed in the congruential sequence. -/
def congruentialWords (seed length : Nat) : List Nat :=
  let latestFirst := (List.range length).foldl
    (fun (words : List Nat) _ => nextWord (words.headD seed) :: words) []
  latestFirst.reverse

/-- The described bytes, for elements of `width` bytes. -/
def bytes (width : Nat) : Pattern → Bytes
  | raw content => content
  | listed values => values.flatMap (fun v => littleEndian width (wordOfInt v))
  | fill value length => (List.replicate length (littleEndian width (wordOfInt value))).flatten
  | evenly start step length =>
      (List.range length).flatMap (fun (i : Nat) =>
        littleEndian width (wordOfInt (start + step * i)))
  | congruential seed length =>
      (congruentialWords (wordOfInt seed) length).flatMap (fun word =>
        littleEndian width (word >>> (64 - 8 * width)))

end Pattern

end DeviceCopy
