import LteReceiver.Error
import LteReceiver.Signal.Phasor

/-!
# Captures

A capture is a recording of samples without any header: for every sample its real and its imaginary
part, each a little-endian single precision number of four bytes.

Numbers are read and written as patterns of 32 bits (`RawSample`), so nothing is lost on the way,
not even the bits of a value that is not a number. Reading and writing are inverse to each other on
all byte strings that hold whole samples, and no other byte string is a capture.
-/

namespace LteReceiver

/-- A sample as it stands in a capture: the bit patterns of its parts. -/
structure RawSample where
  re : UInt32
  im : UInt32
deriving DecidableEq, Repr

namespace RawSample

/-- The sample with the given bits. -/
def toSample (raw : RawSample) : Sample :=
  ⟨Float32.ofBits raw.re, Float32.ofBits raw.im⟩

/-- The bits of a sample. -/
def ofSample (sample : Sample) : RawSample :=
  ⟨sample.re.toBits, sample.im.toBits⟩

end RawSample

namespace Capture

/-- Bytes of a sample. -/
def sampleBytes : Nat := 8

/-! ## Words -/

/-- The bytes of a word, the lowest first. -/
def wordBytes (word : UInt32) : List UInt8 :=
  [word.toUInt8, (word >>> 8).toUInt8, (word >>> 16).toUInt8, (word >>> 24).toUInt8]

/-- The word of four bytes, the lowest first. -/
def wordOf (a b c d : UInt8) : UInt32 :=
  a.toUInt32 ||| b.toUInt32 <<< 8 ||| c.toUInt32 <<< 16 ||| d.toUInt32 <<< 24

/-! ## Samples -/

/-- The bytes of a sample. -/
def bytesOf (raw : RawSample) : List UInt8 :=
  wordBytes raw.re ++ wordBytes raw.im

/-- The bytes of a recording. -/
def encode (samples : Array RawSample) : List UInt8 :=
  samples.toList.flatMap bytesOf

/-- Append the whole samples at the start of a byte string. -/
def pushSamples : List UInt8 → Array RawSample → Array RawSample
  | a :: b :: c :: d :: e :: f :: g :: h :: rest, samples =>
    pushSamples rest (samples.push ⟨wordOf a b c d, wordOf e f g h⟩)
  | _, samples => samples

/-- The error of a byte string that ends inside a sample. -/
def partialSample (length : Nat) : ExternalError :=
  .invalidCapture s!"{length} bytes is not a whole number of samples"

/-- The recording in a byte string. -/
def decode (bytes : List UInt8) : Except ExternalError (Array RawSample) :=
  if bytes.length % sampleBytes = 0 then .ok (pushSamples bytes #[])
  else .error (partialSample bytes.length)

/-- The error of a capture that is not there. -/
def notFound : ExternalError :=
  .io "No such file or directory (os error 2)"

end Capture

end LteReceiver
