import LteReceiver.Signal.Phasor

/-!
# Frequency rotation

A frequency offset turns a signal a little further with every sample; multiplying by the opposite
rotation undoes it. A `Rotator` keeps the rotations of one frequency in a table. It makes a new
table when a block is longer than the table, or when the frequency asked for is further from that of
the table than a tolerance; as long as neither is so, the table is used as it stands.
-/

namespace LteReceiver

/-- The rotation of a frequency, in turns per sample, at a position. The angle is taken in double
precision, so that it stays exact far into a block. -/
def rotation (frequency : Float32) (n : Nat) : Sample :=
  let step := 2 * 3.14159265358979323846 * frequency.toFloat
  let angle := step * n.toUInt64.toFloat
  ⟨angle.cos.toFloat32, angle.sin.toFloat32⟩

/-- A table of rotations. -/
structure Rotator where
  table : Array Sample
  /-- The frequency of the table. -/
  frequency : Float32
  /-- The deviation of frequency, in turns per sample, that the table is good for. -/
  tolerance : Float32

namespace Rotator

/-- The usual tolerance. -/
def defaultTolerance : Float32 := 1e-5

/-- The rotations of a frequency at the first positions. -/
def rotations (size : Nat) (frequency : Float32) : Array Sample :=
  .ofFn fun n : Fin size => rotation frequency n

/-- A table for blocks of a size, for frequency zero. -/
def ofSize (size : Nat) : Rotator :=
  ⟨rotations size 0, 0, defaultTolerance⟩

/-- Choose another tolerance. -/
def setTolerance (rotator : Rotator) (tolerance : Float32) : Rotator :=
  { rotator with tolerance := tolerance }

/-- Whether the table has to be made anew for a block of a size at a frequency. -/
def isStale (rotator : Rotator) (size : Nat) (frequency : Float32) : Bool :=
  rotator.table.size < size ||
    rotator.tolerance < Float32.abs (frequency - rotator.frequency)

/-- Make the table good for a block of a size at a frequency. It never gets shorter. -/
def prepare (rotator : Rotator) (size : Nat) (frequency : Float32) : Rotator :=
  if rotator.isStale size frequency then
    { rotator with
      table := rotations (max size rotator.table.size) frequency
      frequency := frequency }
  else rotator

/-- Rotate a block into another one, as far as both of them and the table reach. The rest of the
output stays as it is. -/
def rotateInto (rotator : Rotator) (input output : Array Sample) : Array Sample :=
  .ofFn fun i : Fin output.size =>
    match input[i.val]?, rotator.table[i.val]? with
    | some x, some r => x * r
    | _, _ => output[i]

/-- Rotate a block in place. -/
def correctInPlace (rotator : Rotator) (block : Array Sample) (frequency : Float32) :
    Array Sample × Rotator :=
  let ready := rotator.prepare block.size frequency
  (ready.rotateInto block block, ready)

/-- Rotate a block into another one. Where the blocks differ in size, the shorter one counts and the
rest of the output stays as it is. -/
def correct (rotator : Rotator) (input output : Array Sample) (frequency : Float32) :
    Array Sample × Rotator :=
  let ready := rotator.prepare (min input.size output.size) frequency
  (ready.rotateInto input output, ready)

/-- Rotate the chunks of a length that a buffer starts with, at most `count` of them, each in place
and on its own. The last chunk of the buffer may be shorter. -/
def correctChunks (rotator : Rotator) (length : Nat) (frequency : Float32) :
    (count : Nat) → (buffer : Array Sample) → Array Sample × Rotator
  | 0, buffer => (buffer, rotator)
  | count + 1, buffer =>
    if buffer.isEmpty then (buffer, rotator)
    else
      let (chunk, rotator) := rotator.correctInPlace (buffer.extract 0 length) frequency
      let (rest, rotator) :=
        rotator.correctChunks length frequency count (buffer.extract length buffer.size)
      (chunk ++ rest, rotator)

/-! ## Sizes -/

variable (rotator : Rotator)

theorem size_rotateInto (input output : Array Sample) :
    (rotator.rotateInto input output).size = output.size :=
  Array.size_ofFn

/-- No sample is lost between the chunks. -/
theorem size_correctChunks (length : Nat) (frequency : Float32) (count : Nat)
    (buffer : Array Sample) :
    (rotator.correctChunks length frequency count buffer).1.size = buffer.size := by
  induction count generalizing rotator buffer with
  | zero => rfl
  | succ count ih =>
    unfold correctChunks
    split
    · rfl
    · simp only [correctInPlace, Array.size_append, size_rotateInto, ih, Array.size_extract]
      omega

end Rotator

end LteReceiver
