import LteReceiver.Signal.Capture

/-!
# Reading and writing captures

A word is written as its digits to the base 256, the lowest first (`littleEndian`), and reading the
digits gives the word back. So a byte string begins with a sample as soon as it is long enough, and
what holds of all byte strings is shown sample by sample (`sampleInduction`).

Whether a reader stays inside a byte string is seen by a reader that notices (`readSamples?`): it
takes one word after the other while bytes are left, and has no answer if a word reaches past the
end. On whole samples no word does, and it reads what `decode` reads (`readSamples?_eq`).

The main result is that byte strings of whole samples and recordings are the same thing
(`recordings_of_bytes`).
-/

namespace LteReceiver

namespace Capture

/-! ## Words -/

/-- The digits of a word to the base 256, the lowest first. -/
def littleEndian (word : UInt32) : List UInt8 :=
  [word.toNat, word.toNat / 256, word.toNat / 65536, word.toNat / 16777216].map UInt8.ofNat

theorem wordBytes_eq (word : UInt32) : wordBytes word = littleEndian word := by
  simp [wordBytes, littleEndian, ← UInt8.toNat_inj, UInt32.toNat_shiftRight,
    Nat.shiftRight_eq_div_pow]

theorem toNat_wordOf (a b c d : UInt8) :
    (wordOf a b c d).toNat =
      a.toNat + b.toNat * 256 + c.toNat * 65536 + d.toNat * 16777216 := by
  have ha := a.toNat_lt
  have hb := b.toNat_lt
  have hc := c.toNat_lt
  have hd := d.toNat_lt
  -- each byte is put above those before it
  have habove {low high k : Nat} (h : low < 2 ^ k) : low ||| high * 2 ^ k = low + high * 2 ^ k := by
    rw [Nat.or_comm, ← Nat.shiftLeft_eq, ← Nat.shiftLeft_add_eq_or_of_lt h, Nat.add_comm]
  have hparts : (wordOf a b c d).toNat =
      a.toNat ||| b.toNat * 2 ^ 8 ||| c.toNat * 2 ^ 16 ||| d.toNat * 2 ^ 24 := by
    simp (disch := omega) [wordOf, Nat.shiftLeft_eq, Nat.mod_eq_of_lt]
  have hsum : (wordOf a b c d).toNat =
      a.toNat + b.toNat * 2 ^ 8 + c.toNat * 2 ^ 16 + d.toNat * 2 ^ 24 := by
    rw [hparts, habove ha, habove (k := 16) (by omega), habove (by omega)]
  omega

theorem wordBytes_wordOf (a b c d : UInt8) : wordBytes (wordOf a b c d) = [a, b, c, d] := by
  have ha := a.toNat_lt
  have hb := b.toNat_lt
  have hc := c.toNat_lt
  have hd := d.toNat_lt
  rw [wordBytes_eq, littleEndian, toNat_wordOf]
  simp [← UInt8.toNat_inj]
  omega

theorem wordOf_wordBytes (word : UInt32) :
    wordOf word.toUInt8 (word >>> 8).toUInt8 (word >>> 16).toUInt8 (word >>> 24).toUInt8 =
      word := by
  have hword := word.toNat_lt
  rw [← UInt32.toNat_inj, toNat_wordOf]
  simp [UInt32.toNat_shiftRight, Nat.shiftRight_eq_div_pow]
  omega

theorem length_wordBytes (word : UInt32) : (wordBytes word).length = 4 :=
  rfl

theorem exists_wordBytes_append {bytes : List UInt8} (h : 4 ≤ bytes.length) :
    ∃ word rest, bytes = wordBytes word ++ rest := by
  obtain _ | ⟨a, _ | ⟨b, _ | ⟨c, _ | ⟨d, rest⟩⟩⟩⟩ := bytes
  case cons.cons.cons.cons => exact ⟨wordOf a b c d, rest, by rw [wordBytes_wordOf]; rfl⟩
  all_goals simp at h

/-! ## Samples -/

variable {raw : RawSample} {bytes rest : List UInt8} {samples : Array RawSample}

theorem length_bytesOf (raw : RawSample) : (bytesOf raw).length = sampleBytes :=
  rfl

theorem exists_bytesOf_append (h : sampleBytes ≤ bytes.length) :
    ∃ raw rest, bytes = bytesOf raw ++ rest := by
  have hfirst : 4 ≤ bytes.length := Nat.le_trans (by decide) h
  obtain ⟨re, tail, rfl⟩ := exists_wordBytes_append hfirst
  have hsecond : 4 ≤ tail.length := by
    rw [List.length_append, length_wordBytes, sampleBytes] at h
    omega
  obtain ⟨im, rest, rfl⟩ := exists_wordBytes_append hsecond
  exact ⟨⟨re, im⟩, rest, (List.append_assoc ..).symm⟩

/-- What holds of byte strings shorter than a sample, and goes from a byte string to one with
another sample in front, holds of all byte strings. -/
theorem sampleInduction {motive : List UInt8 → Prop}
    (short : ∀ bytes, bytes.length < sampleBytes → motive bytes)
    (sample : ∀ raw rest, motive rest → motive (bytesOf raw ++ rest)) (bytes : List UInt8) :
    motive bytes := by
  induction hlength : bytes.length using Nat.strongRecOn generalizing bytes with
  | ind length ih =>
    by_cases hshort : bytes.length < sampleBytes
    · exact short bytes hshort
    · obtain ⟨raw, rest, rfl⟩ := exists_bytesOf_append (Nat.not_lt.mp hshort)
      rw [List.length_append, length_bytesOf] at hlength
      exact sample raw rest (ih rest.length (by unfold sampleBytes at hlength; omega) rest rfl)

theorem dvd_length_bytesOf_append :
    sampleBytes ∣ (bytesOf raw ++ rest).length ↔ sampleBytes ∣ rest.length := by
  rw [List.length_append, length_bytesOf]
  exact Nat.dvd_add_right (Nat.dvd_refl sampleBytes)

theorem eq_nil_of_dvd_length (hshort : bytes.length < sampleBytes)
    (h : sampleBytes ∣ bytes.length) : bytes = [] :=
  List.length_eq_zero_iff.mp (Nat.eq_zero_of_dvd_of_lt h hshort)

/-! ## Writing -/

theorem length_flatMap_bytesOf (written : List RawSample) :
    (written.flatMap bytesOf).length = sampleBytes * written.length := by
  induction written with
  | nil => rfl
  | cons raw written ih =>
    rw [List.flatMap_cons, List.length_append, length_bytesOf, ih, List.length_cons, Nat.mul_succ,
      Nat.add_comm]

theorem length_encode (samples : Array RawSample) :
    (encode samples).length = sampleBytes * samples.size :=
  length_flatMap_bytesOf samples.toList

/-- Each sample has its bytes at its place. -/
theorem take_drop_encode {i : Nat} (h : samples[i]? = some raw) :
    ((encode samples).drop (sampleBytes * i)).take sampleBytes =
      littleEndian raw.re ++ littleEndian raw.im := by
  obtain ⟨hi, hraw⟩ := Array.getElem?_eq_some_iff.mp h
  have hsplit : samples.toList =
      samples.toList.take i ++ raw :: samples.toList.drop (i + 1) := by
    rw [← hraw, ← Array.getElem_toList, ← List.drop_eq_getElem_cons hi, List.take_append_drop]
  have hfront : ((samples.toList.take i).flatMap bytesOf).length = sampleBytes * i := by
    rw [length_flatMap_bytesOf, List.length_take, Array.length_toList,
      Nat.min_eq_left (Nat.le_of_lt hi)]
  rw [encode, hsplit, List.flatMap_append, List.flatMap_cons, List.drop_left' hfront,
    List.take_left' (length_bytesOf raw), bytesOf, wordBytes_eq, wordBytes_eq]

/-! ## Reading -/

theorem pushSamples_of_lt (h : bytes.length < sampleBytes) (samples : Array RawSample) :
    pushSamples bytes samples = samples := by
  unfold pushSamples
  split
  · simp only [List.length_cons, sampleBytes] at h
    omega
  · rfl

theorem pushSamples_bytesOf_append (raw : RawSample) (rest : List UInt8)
    (samples : Array RawSample) :
    pushSamples (bytesOf raw ++ rest) samples = pushSamples rest (samples.push raw) := by
  show pushSamples rest (samples.push ⟨wordOf .., wordOf ..⟩) = _
  rw [wordOf_wordBytes, wordOf_wordBytes]

/-- What was written is read. -/
theorem pushSamples_flatMap (written : List RawSample) (samples : Array RawSample) :
    pushSamples (written.flatMap bytesOf) samples = samples ++ written := by
  induction written generalizing samples with
  | nil => exact pushSamples_of_lt (by decide) samples
  | cons raw written ih => simp [pushSamples_bytesOf_append, ih]

/-- What is read would be written the same. -/
theorem encode_pushSamples (h : sampleBytes ∣ bytes.length) (samples : Array RawSample) :
    encode (pushSamples bytes samples) = encode samples ++ bytes := by
  induction bytes using sampleInduction generalizing samples with
  | short bytes hshort =>
    rw [eq_nil_of_dvd_length hshort h, List.append_nil]
    rfl
  | sample raw rest ih =>
    rw [pushSamples_bytesOf_append, ih (dvd_length_bytesOf_append.mp h)]
    simp [encode]

/-! ## Staying inside -/

/-- A word from the start of a byte string, and what is left. There is none where it would reach
past the end. -/
def readWord? : List UInt8 → Option (UInt32 × List UInt8)
  | a :: b :: c :: d :: rest => some (wordOf a b c d, rest)
  | _ => none

/-- A sample from the start of a byte string, one word after the other, and what is left. -/
def readSample? (bytes : List UInt8) : Option (RawSample × List UInt8) := do
  let (re, rest) ← readWord? bytes
  let (im, rest) ← readWord? rest
  return (⟨re, im⟩, rest)

theorem readWord?_wordBytes_append (word : UInt32) (rest : List UInt8) :
    readWord? (wordBytes word ++ rest) = some (word, rest) := by
  show some (wordOf .., rest) = _
  rw [wordOf_wordBytes]

theorem readSample?_bytesOf_append (raw : RawSample) (rest : List UInt8) :
    readSample? (bytesOf raw ++ rest) = some (raw, rest) := by
  simp [readSample?, bytesOf, readWord?_wordBytes_append]

theorem readWord?_of_lt (h : bytes.length < 4) : readWord? bytes = none := by
  unfold readWord?
  split
  · simp only [List.length_cons] at h
    omega
  · rfl

theorem readSample?_of_lt (h : bytes.length < sampleBytes) : readSample? bytes = none := by
  by_cases hword : bytes.length < 4
  · simp [readSample?, readWord?_of_lt hword]
  · obtain ⟨re, rest, rfl⟩ := exists_wordBytes_append (Nat.not_lt.mp hword)
    have hrest : rest.length < 4 := by
      rw [List.length_append, length_wordBytes, sampleBytes] at h
      omega
    simp [readSample?, readWord?_wordBytes_append, readWord?_of_lt hrest]

theorem length_of_readSample? (h : readSample? bytes = some (raw, rest)) :
    rest.length < bytes.length := by
  by_cases hshort : bytes.length < sampleBytes
  · rw [readSample?_of_lt hshort] at h
    cases h
  · obtain ⟨first, tail, rfl⟩ := exists_bytesOf_append (Nat.not_lt.mp hshort)
    rw [readSample?_bytesOf_append] at h
    cases h
    simp [length_bytesOf, sampleBytes]

/-- Read samples while bytes are left. -/
def readSamples? (bytes : List UInt8) (samples : Array RawSample) : Option (Array RawSample) :=
  if bytes = [] then some samples
  else
    match _h : readSample? bytes with
    | none => none
    | some (raw, rest) => readSamples? rest (samples.push raw)
termination_by bytes.length
decreasing_by exact length_of_readSample? _h

/-- **Whole samples are read to their end and not further**, and nothing else is. -/
theorem readSamples?_eq (bytes : List UInt8) (samples : Array RawSample) :
    readSamples? bytes samples =
      if sampleBytes ∣ bytes.length then some (pushSamples bytes samples) else none := by
  induction bytes using sampleInduction generalizing samples with
  | short bytes hshort =>
    -- fewer bytes than a sample has are whole samples only if there are none
    rw [readSamples?]
    by_cases hnil : bytes = []
    · subst hnil
      rfl
    · have hdvd : ¬ sampleBytes ∣ bytes.length := fun h => hnil (eq_nil_of_dvd_length hshort h)
      rw [if_neg hnil, if_neg hdvd]
      split
      next => rfl
      next hread =>
        rw [readSample?_of_lt hshort] at hread
        cases hread
  | sample raw rest ih =>
    have hne : bytesOf raw ++ rest ≠ [] := by simp [bytesOf, wordBytes]
    rw [readSamples?, if_neg hne, pushSamples_bytesOf_append]
    simp only [dvd_length_bytesOf_append]
    rw [← ih]
    split
    next hread =>
      rw [readSample?_bytesOf_append] at hread
      cases hread
    next hread =>
      rw [readSample?_bytesOf_append] at hread
      cases hread
      rfl

/-! ## Recordings and byte strings -/

theorem decode_eq_error_iff {e : ExternalError} :
    decode bytes = .error e ↔ ¬ sampleBytes ∣ bytes.length ∧ e = partialSample bytes.length := by
  rw [decode, Nat.dvd_iff_mod_eq_zero]
  split <;> simp_all [eq_comm]

theorem decode_of_dvd (h : sampleBytes ∣ bytes.length) :
    decode bytes = .ok (pushSamples bytes #[]) :=
  if_pos (Nat.mod_eq_zero_of_dvd h)

/-- A byte string holds a recording exactly if it is what would be written of it. -/
theorem decode_eq_ok_iff : decode bytes = .ok samples ↔ encode samples = bytes := by
  constructor
  · intro h
    by_cases hdvd : sampleBytes ∣ bytes.length
    · rw [decode_of_dvd hdvd] at h
      cases h
      exact encode_pushSamples hdvd #[]
    · rw [decode_eq_error_iff.mpr ⟨hdvd, rfl⟩] at h
      cases h
  · rintro rfl
    have hdvd : sampleBytes ∣ (encode samples).length := ⟨samples.size, length_encode samples⟩
    rw [decode_of_dvd hdvd, encode, pushSamples_flatMap]
    simp

/--
**Recordings and byte strings.**

A recording is written with eight bytes for each sample, in the order of the samples: the bits of
the real part and then those of the imaginary part, each with the lowest byte first. Reading gives
back the same bits.

A byte string that does not hold whole samples is refused, and no other one is. From any other one
as many samples are read as it has room for, and they would be written as that byte string again.
Taking the words one after the other comes to the end of such a byte string and never goes past it.
-/
theorem recordings_of_bytes (samples : Array RawSample) (bytes : List UInt8) :
    decode (encode samples) = .ok samples ∧
    (encode samples).length = 8 * samples.size ∧
    (∀ i raw, samples[i]? = some raw →
      ((encode samples).drop (8 * i)).take 8 = littleEndian raw.re ++ littleEndian raw.im) ∧
    (∀ e, decode bytes = .error e ↔ ¬ 8 ∣ bytes.length ∧
      e = .invalidCapture s!"{bytes.length} bytes is not a whole number of samples") ∧
    (8 ∣ bytes.length → ∃ found, decode bytes = .ok found ∧ found.size = bytes.length / 8 ∧
      encode found = bytes ∧ readSamples? bytes #[] = some found) ∧
    (readSamples? bytes #[] = none ↔ ¬ 8 ∣ bytes.length) := by
  refine ⟨decode_eq_ok_iff.mpr rfl, length_encode samples, fun i raw h => take_drop_encode h,
    fun e => decode_eq_error_iff, fun hdvd => ?_, ?_⟩
  · have hread : decode bytes = .ok (pushSamples bytes #[]) := decode_of_dvd hdvd
    have hwritten : encode (pushSamples bytes #[]) = bytes := decode_eq_ok_iff.mp hread
    refine ⟨pushSamples bytes #[], hread, ?_, hwritten, ?_⟩
    · have hlength := length_encode (pushSamples bytes #[])
      rw [hwritten, sampleBytes] at hlength
      omega
    · rw [readSamples?_eq]
      exact if_pos hdvd
  · rw [readSamples?_eq]
    exact ite_eq_right_iff.trans (by simp [sampleBytes])

/-- The samples 1.5 - 0.25i and 2i. -/
example : encode #[⟨0x3fc00000, 0xbe800000⟩, ⟨0, 0x40000000⟩] =
    [0, 0, 0xc0, 0x3f, 0, 0, 0x80, 0xbe, 0, 0, 0, 0, 0, 0, 0, 0x40] := by
  decide

end Capture

end LteReceiver
