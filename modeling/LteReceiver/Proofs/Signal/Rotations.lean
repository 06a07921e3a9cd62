import LteReceiver.Signal.Rotation

/-!
# Blocks that are rotated

A rotator goes through blocks and tolerances (`RotatorEvent`), in any order. `Rotator.after` is the
rotator after a history, which lists its events with the latest first.

Its table is only ever made as a whole, for one frequency, so it holds the rotations of the
frequency that goes with it (`Rotator.Coherent`), after every history (`coherent_after`). Made ready
for a block it is long enough for that block (`le_size_prepare`). So no block is cut, and every
sample of it is turned by the rotation at its own position (`correct_after`).

A buffer is rotated chunk by chunk. Once the table is made ready for the first chunk it serves all
of them as it stands (`ReadyFor`), so that each sample of the first chunks is turned by the rotation
at its position in its own chunk, and the samples behind these chunks are left alone
(`getElem?_correctChunks`).
-/

namespace LteReceiver

/-- What can be done with a rotator. -/
inductive RotatorEvent where
  | correct (input output : Array Sample) (frequency : Float32)
  | correctInPlace (block : Array Sample) (frequency : Float32)
  | setTolerance (tolerance : Float32)

namespace Rotator

/-- The rotator after an event. -/
def perform (rotator : Rotator) : RotatorEvent → Rotator
  | .correct input output frequency => (rotator.correct input output frequency).2
  | .correctInPlace block frequency => (rotator.correctInPlace block frequency).2
  | .setTolerance tolerance => rotator.setTolerance tolerance

/-- The rotator after a history. -/
def after (start : Rotator) : List RotatorEvent → Rotator
  | [] => start
  | event :: past => perform (after start past) event

/-- The table holds the rotations of the frequency that goes with it. -/
def Coherent (rotator : Rotator) : Prop :=
  rotator.table = rotations rotator.table.size rotator.frequency

variable {rotator : Rotator}

/-! ## The table -/

theorem size_rotations (size : Nat) (frequency : Float32) :
    (rotations size frequency).size = size :=
  Array.size_ofFn

theorem coherent_rotations (size : Nat) (frequency tolerance : Float32) :
    Coherent ⟨rotations size frequency, frequency, tolerance⟩ := by
  show rotations size frequency = rotations (rotations size frequency).size frequency
  rw [size_rotations]

theorem coherent_ofSize (size : Nat) : (ofSize size).Coherent :=
  coherent_rotations size 0 defaultTolerance

theorem Coherent.getElem?_table (h : rotator.Coherent) {n : Nat} (hn : n < rotator.table.size) :
    rotator.table[n]? = some (rotation rotator.frequency n) := by
  rw [h, rotations, Array.getElem?_ofFn, dif_pos hn]

/-! ## Making ready -/

theorem prepare_of_stale {size : Nat} {frequency : Float32}
    (h : rotator.isStale size frequency = true) :
    rotator.prepare size frequency =
      ⟨rotations (max size rotator.table.size) frequency, frequency, rotator.tolerance⟩ :=
  if_pos h

theorem prepare_of_fresh {size : Nat} {frequency : Float32}
    (h : rotator.isStale size frequency = false) : rotator.prepare size frequency = rotator := by
  rw [prepare, h]
  rfl

theorem Coherent.prepare (h : rotator.Coherent) (size : Nat) (frequency : Float32) :
    (rotator.prepare size frequency).Coherent := by
  cases hstale : rotator.isStale size frequency with
  | true =>
    rw [prepare_of_stale hstale]
    exact coherent_rotations _ _ _
  | false =>
    rw [prepare_of_fresh hstale]
    exact h

variable (rotator) in
/-- The table is long enough for the block that it is made ready for, and never gets shorter. -/
theorem le_size_prepare (size : Nat) (frequency : Float32) :
    size ≤ (rotator.prepare size frequency).table.size ∧
      rotator.table.size ≤ (rotator.prepare size frequency).table.size := by
  cases hstale : rotator.isStale size frequency with
  | true =>
    rw [prepare_of_stale hstale, size_rotations]
    exact ⟨Nat.le_max_left _ _, Nat.le_max_right _ _⟩
  | false =>
    have hsize : ¬ rotator.table.size < size := by
      simp only [isStale, Bool.or_eq_false_iff, decide_eq_false_iff_not] at hstale
      exact hstale.1
    rw [prepare_of_fresh hstale]
    exact ⟨Nat.not_lt.mp hsize, Nat.le_refl _⟩

variable (rotator) in
/-- The frequency of the table is the one asked for, or it was close enough before. -/
theorem frequency_prepare (size : Nat) (frequency : Float32) :
    (rotator.prepare size frequency).frequency = frequency ∨
      (rotator.prepare size frequency).frequency = rotator.frequency ∧
        ¬ rotator.tolerance < Float32.abs (frequency - rotator.frequency) := by
  cases hstale : rotator.isStale size frequency with
  | true =>
    rw [prepare_of_stale hstale]
    exact .inl rfl
  | false =>
    simp only [isStale, Bool.or_eq_false_iff, decide_eq_false_iff_not] at hstale
    refine .inr ⟨?_, hstale.2⟩
    rw [prepare, isStale, decide_eq_false hstale.1, decide_eq_false hstale.2]
    rfl

/-! ### A table that is ready -/

/-- The table serves blocks up to a size at a frequency as it stands. -/
def ReadyFor (rotator : Rotator) (size : Nat) (frequency : Float32) : Prop :=
  ∀ smaller ≤ size, rotator.prepare smaller frequency = rotator

theorem ReadyFor.mono {size smaller : Nat} {frequency : Float32}
    (h : rotator.ReadyFor size frequency) (hle : smaller ≤ size) :
    rotator.ReadyFor smaller frequency :=
  fun least hleast => h least (Nat.le_trans hleast hle)

variable (rotator) in
/-- Made ready for a block, it serves that block and all smaller ones. -/
theorem readyFor_prepare (size : Nat) (frequency : Float32) :
    (rotator.prepare size frequency).ReadyFor size frequency := by
  intro smaller hsmaller
  have hlong := (rotator.le_size_prepare size frequency).1
  cases hstale : rotator.isStale size frequency with
  | false =>
    have hfresh : rotator.isStale smaller frequency = false := by
      simp only [isStale, Bool.or_eq_false_iff, decide_eq_false_iff_not] at hstale ⊢
      exact ⟨by omega, hstale.2⟩
    rw [prepare_of_fresh hstale, prepare_of_fresh hfresh]
  | true =>
    rw [prepare_of_stale hstale] at hlong ⊢
    -- the frequency is now the very one asked for, so a table made anew is the same one
    cases hagain : isStale ⟨rotations (max size rotator.table.size) frequency, frequency,
      rotator.tolerance⟩ smaller frequency with
    | true =>
      rw [prepare_of_stale hagain, Nat.max_eq_right (Nat.le_trans hsmaller hlong), size_rotations]
    | false => rw [prepare_of_fresh hagain]

/-! ## Blocks -/

/-- Where both blocks have a sample, that of the input is turned. -/
theorem Coherent.getElem?_rotateInto (h : rotator.Coherent) {input output : Array Sample}
    (hlong : min input.size output.size ≤ rotator.table.size) {n : Nat} (hinput : n < input.size)
    (houtput : n < output.size) :
    (rotator.rotateInto input output)[n]? =
      (input[n]?).map (· * rotation rotator.frequency n) := by
  rw [rotateInto, Array.getElem?_ofFn, dif_pos houtput, Array.getElem?_eq_getElem hinput,
    Option.map_some]
  simp only [h.getElem?_table (by omega : n < rotator.table.size)]

/-- The rest of the output stays as it is. -/
theorem getElem?_rotateInto_of_le {input output : Array Sample} {n : Nat}
    (hn : min input.size output.size ≤ n) :
    (rotator.rotateInto input output)[n]? = output[n]? := by
  by_cases houtput : n < output.size
  · rw [rotateInto, Array.getElem?_ofFn, dif_pos houtput, Array.getElem?_eq_getElem houtput]
    simp only [Array.getElem?_eq_none (by omega : input.size ≤ n)]
    rfl
  · rw [Array.getElem?_eq_none (by rw [size_rotateInto]; omega),
      Array.getElem?_eq_none (by omega)]

/-- A block in place is turned sample by sample. -/
theorem Coherent.getElem?_correctInPlace (h : rotator.Coherent) (block : Array Sample)
    (frequency : Float32) (n : Nat) :
    (rotator.correctInPlace block frequency).1[n]? =
      (block[n]?).map (· * rotation (rotator.prepare block.size frequency).frequency n) := by
  by_cases hn : n < block.size
  · refine (h.prepare block.size frequency).getElem?_rotateInto ?_ hn hn
    rw [Nat.min_self]
    exact (rotator.le_size_prepare block.size frequency).1
  · rw [Array.getElem?_eq_none (Nat.not_lt.mp hn), Array.getElem?_eq_none]
    · rfl
    · rw [correctInPlace, size_rotateInto]
      exact Nat.not_lt.mp hn

section Correct

variable (rotator) (input output : Array Sample) (frequency : Float32)

theorem size_correct : (rotator.correct input output frequency).1.size = output.size :=
  size_rotateInto _ _ _

variable {rotator input output}

theorem Coherent.getElem?_correct (h : rotator.Coherent) {n : Nat} (hinput : n < input.size)
    (houtput : n < output.size) :
    (rotator.correct input output frequency).1[n]? = (input[n]?).map
      (· * rotation (rotator.correct input output frequency).2.frequency n) :=
  (h.prepare _ frequency).getElem?_rotateInto (rotator.le_size_prepare _ frequency).1 hinput houtput

theorem getElem?_correct_of_le {n : Nat} (hn : min input.size output.size ≤ n) :
    (rotator.correct input output frequency).1[n]? = output[n]? :=
  getElem?_rotateInto_of_le hn

/-- In place a block is turned as into a block that has room for it. -/
theorem Coherent.correctInPlace_eq (hcoherent : rotator.Coherent)
    (h : input.size ≤ output.size) :
    rotator.correctInPlace input frequency =
      ((rotator.correct input output frequency).1.extract 0 input.size,
        (rotator.correct input output frequency).2) := by
  have hnext : (rotator.correct input output frequency).2 =
      rotator.prepare input.size frequency := by
    rw [correct, Nat.min_eq_left h]
  refine Prod.ext (Array.ext_getElem? fun n => ?_) hnext.symm
  rw [hcoherent.getElem?_correctInPlace, Array.getElem?_extract]
  by_cases hn : n < input.size
  · have houtput : n < output.size := Nat.lt_of_lt_of_le hn h
    rw [if_pos (by rw [size_correct]; omega), Nat.zero_add,
      hcoherent.getElem?_correct frequency hn houtput, hnext]
  · rw [if_neg (by omega), Array.getElem?_eq_none (Nat.not_lt.mp hn)]
    rfl

end Correct

/-! ## Chunks -/

section Chunks

variable (rotator) {length : Nat} {frequency : Float32} {buffer : Array Sample}

theorem correctChunks_succ (hbuffer : 0 < buffer.size) (count : Nat) :
    rotator.correctChunks length frequency (count + 1) buffer =
      let first := rotator.correctInPlace (buffer.extract 0 length) frequency
      let rest := first.2.correctChunks length frequency count (buffer.extract length buffer.size)
      (first.1 ++ rest.1, rest.2) := by
  have hfilled : ¬ buffer.isEmpty = true := by
    rw [Array.isEmpty_iff_size_eq_zero]
    omega
  rw [correctChunks, if_neg hfilled]

theorem size_firstChunk : (buffer.extract 0 length).size = min length buffer.size := by
  rw [Array.size_extract, Nat.sub_zero]

/-- The first chunk makes the table ready for all of them. -/
theorem correctChunks_prepare (hbuffer : 0 < buffer.size) {count : Nat} (hcount : 0 < count) :
    rotator.correctChunks length frequency count buffer =
      (rotator.prepare (min length buffer.size) frequency).correctChunks length frequency count
        buffer := by
  have hagain := rotator.readyFor_prepare (min length buffer.size) frequency _ (Nat.le_refl _)
  have hfirst : rotator.correctInPlace (buffer.extract 0 length) frequency =
      (rotator.prepare (min length buffer.size) frequency).correctInPlace
        (buffer.extract 0 length) frequency := by
    simp only [correctInPlace, size_firstChunk, hagain]
  obtain ⟨later, rfl⟩ := Nat.exists_eq_succ_of_ne_zero (Nat.ne_of_gt hcount)
  rw [correctChunks_succ _ hbuffer, correctChunks_succ _ hbuffer, hfirst]

variable {rotator}

theorem ReadyFor.correctChunks_succ (h : rotator.ReadyFor (min length buffer.size) frequency)
    (hbuffer : 0 < buffer.size) (count : Nat) :
    rotator.correctChunks length frequency (count + 1) buffer =
      let chunk := (rotator.correctInPlace (buffer.extract 0 length) frequency).1
      let rest := rotator.correctChunks length frequency count (buffer.extract length buffer.size)
      (chunk ++ rest.1, rest.2) := by
  have hleft : (rotator.correctInPlace (buffer.extract 0 length) frequency).2 = rotator :=
    h _ (Nat.le_of_eq size_firstChunk)
  simp only [Rotator.correctChunks_succ _ hbuffer, hleft]

theorem ReadyFor.rest (h : rotator.ReadyFor (min length buffer.size) frequency) :
    rotator.ReadyFor (min length (buffer.extract length buffer.size).size) frequency :=
  h.mono (by rw [Array.size_extract]; omega)

/-- A table that is ready serves all chunks as it stands. -/
theorem ReadyFor.correctChunks (h : rotator.ReadyFor (min length buffer.size) frequency)
    (count : Nat) : (rotator.correctChunks length frequency count buffer).2 = rotator := by
  induction count generalizing buffer with
  | zero => rfl
  | succ count ih =>
    by_cases hbuffer : 0 < buffer.size
    · rw [h.correctChunks_succ hbuffer]
      exact ih h.rest
    · have hempty : buffer = #[] := Array.eq_empty_of_size_eq_zero (Nat.eq_zero_of_not_pos hbuffer)
      rw [hempty]
      rfl

/-- The samples of the first chunks are turned, each by the rotation at its position in its own
chunk. The others stay as they are. -/
theorem Coherent.getElem?_correctChunks (hcoherent : rotator.Coherent)
    (h : rotator.ReadyFor (min length buffer.size) frequency) (hlength : 0 < length)
    (count i : Nat) :
    (rotator.correctChunks length frequency count buffer).1[i]? =
      if i / length < count then (buffer[i]?).map (· * rotation rotator.frequency (i % length))
      else buffer[i]? := by
  induction count generalizing buffer i with
  | zero =>
    rw [if_neg (Nat.not_lt_zero _)]
    rfl
  | succ count ih =>
    by_cases hi : i < buffer.size
    · have hready : rotator.prepare (buffer.extract 0 length).size frequency = rotator :=
        h _ (Nat.le_of_eq size_firstChunk)
      have hchunk : (rotator.correctInPlace (buffer.extract 0 length) frequency).1.size =
          min length buffer.size := by
        rw [correctInPlace, size_rotateInto, size_firstChunk]
      rw [h.correctChunks_succ (by omega)]
      dsimp only
      by_cases hfirst : i < length
      · rw [Array.getElem?_append_left (by omega), hcoherent.getElem?_correctInPlace, hready,
          Array.getElem?_extract, if_pos (by omega), Nat.zero_add, Nat.div_eq_of_lt hfirst,
          Nat.mod_eq_of_lt hfirst, if_pos (Nat.succ_pos count)]
      · have hle : length ≤ i := Nat.not_lt.mp hfirst
        have hlater : (buffer.extract length buffer.size)[i - length]? = buffer[i]? := by
          rw [Array.getElem?_extract, if_pos (by omega), Nat.add_sub_cancel' hle]
        have hdiv : i / length = (i - length) / length + 1 := Nat.div_eq_sub_div hlength hle
        have hmod : i % length = (i - length) % length := Nat.mod_eq_sub_mod hle
        rw [Array.getElem?_append_right (by omega), hchunk, Nat.min_eq_left (by omega), ih h.rest,
          hlater, hdiv, hmod]
        simp only [Nat.add_lt_add_iff_right]
    · have hsize := rotator.size_correctChunks length frequency (count + 1) buffer
      rw [Array.getElem?_eq_none (by omega), Array.getElem?_eq_none (by omega)]
      split <;> rfl

end Chunks

/-! ## Histories -/

theorem Coherent.perform (h : rotator.Coherent) (event : RotatorEvent) :
    (rotator.perform event).Coherent := by
  cases event with
  | correct input output frequency => exact h.prepare _ frequency
  | correctInPlace block frequency => exact h.prepare _ frequency
  | setTolerance tolerance => exact h

theorem coherent_after {start : Rotator} (h : start.Coherent) (history : List RotatorEvent) :
    (after start history).Coherent := by
  induction history with
  | nil => exact h
  | cons event past ih => exact ih.perform event

variable (rotator) in
theorem size_le_perform (event : RotatorEvent) :
    rotator.table.size ≤ (rotator.perform event).table.size := by
  cases event with
  | correct input output frequency => exact (rotator.le_size_prepare _ frequency).2
  | correctInPlace block frequency => exact (rotator.le_size_prepare _ frequency).2
  | setTolerance tolerance => exact Nat.le_refl _

theorem size_le_after (start : Rotator) (history : List RotatorEvent) :
    start.table.size ≤ (after start history).table.size := by
  induction history with
  | nil => exact Nat.le_refl _
  | cons event past ih => exact Nat.le_trans ih (size_le_perform _ event)

/--
**Every sample is turned by the rotation at its position.**

Whatever was done with a rotator before, its table holds the rotations of one frequency, and it
never gets shorter. A block is rotated into another one as far as both reach, each of its samples by
the rotation of one frequency at its own position, however long the table was; the rest of the
output stays as it is. That frequency is the one asked for, or else that of the table before, which
then was no further from it than the tolerance. A block rotated in place has the same samples, and
leaves the same table.
-/
theorem correct_after (size : Nat) (history : List RotatorEvent) (input output : Array Sample)
    (frequency : Float32) :
    let rotator := after (ofSize size) history
    let corrected := (rotator.correct input output frequency).1
    let next := (rotator.correct input output frequency).2
    (∀ n, n < rotator.table.size → rotator.table[n]? = some (rotation rotator.frequency n)) ∧
    size ≤ rotator.table.size ∧
    (∀ event, rotator.table.size ≤ (rotator.perform event).table.size) ∧
    corrected.size = output.size ∧
    (∀ n, n < input.size → n < output.size →
      corrected[n]? = (input[n]?).map (· * rotation next.frequency n)) ∧
    (∀ n, min input.size output.size ≤ n → corrected[n]? = output[n]?) ∧
    (next.frequency = frequency ∨ next.frequency = rotator.frequency ∧
      ¬ rotator.tolerance < Float32.abs (frequency - rotator.frequency)) ∧
    (input.size ≤ output.size →
      rotator.correctInPlace input frequency = (corrected.extract 0 input.size, next)) := by
  intro rotator corrected next
  have hcoherent : rotator.Coherent := coherent_after (coherent_ofSize size) history
  have hsize : size ≤ rotator.table.size := by
    have hle := size_le_after (ofSize size) history
    rwa [ofSize, size_rotations] at hle
  exact ⟨fun n => hcoherent.getElem?_table, hsize, rotator.size_le_perform,
    rotator.size_correct input output frequency,
    fun n hinput houtput => hcoherent.getElem?_correct frequency hinput houtput,
    fun n => getElem?_correct_of_le frequency, rotator.frequency_prepare _ frequency,
    hcoherent.correctInPlace_eq frequency⟩

end Rotator

end LteReceiver
