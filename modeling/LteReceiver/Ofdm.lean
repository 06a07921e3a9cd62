import LteReceiver.Cell.Config

/-!
# Symbol timing

Lengths in samples of the parts of a symbol. A symbol has `fftSize` samples and a cyclic prefix in
front of it; the prefix lengths are defined for 2048 samples and scaled from there.
-/

namespace LteReceiver

/-! ## Transform sizes -/

/-- The smallest size of a transform. -/
def minFftSize : Nat := 64

/-- The largest size of a transform. -/
def maxFftSize : Nat := 2048

/-- The sizes synchronization works with: the multiples of 64 up to 2048. -/
def isFftSize (n : Nat) : Bool :=
  minFftSize ≤ n && n ≤ maxFftSize && n % 64 == 0

/-- The transform size of a bandwidth in resource blocks. -/
def fftSizeOf? (nofPrb : Nat) : Option Nat :=
  if nofPrb = 0 then none
  else if nofPrb ≤ 6 then some 128
  else if nofPrb ≤ 15 then some 256
  else if nofPrb ≤ 25 then some 512
  else if nofPrb ≤ 50 then some 1024
  else if nofPrb ≤ 75 then some 1536
  else if nofPrb ≤ 110 then some 2048
  else none

/-- Samples of a subframe. -/
def subframeSamples (fftSize : Nat) : Nat :=
  15 * fftSize

/-! ## Cyclic prefixes -/

/-- A prefix length for 2048 samples, scaled to another transform size. -/
def scaledCp (fftSize length2048 : Nat) : Nat :=
  length2048 * fftSize / 2048

/-- The normal prefix of a symbol; that of the first symbol of a slot is a little longer. -/
def normalCp (symbol fftSize : Nat) : Nat :=
  if symbol = 0 then scaledCp fftSize 160 else scaledCp fftSize 144

/-- The extended prefix. -/
def extendedCp (fftSize : Nat) : Nat :=
  scaledCp fftSize 512

/-- The prefix of the symbols after the first of a slot. -/
def CyclicPrefix.samples (cp : CyclicPrefix) (fftSize : Nat) : Nat :=
  match cp with
  | .normal => normalCp 1 fftSize
  | .extended => extendedCp fftSize

/-! ## Powers of two -/

/-- A word with every bit set from its highest one down. -/
def fillBelow (word : UInt32) : UInt32 :=
  let word := word ||| word >>> 1
  let word := word ||| word >>> 2
  let word := word ||| word >>> 4
  let word := word ||| word >>> 8
  word ||| word >>> 16

/-- The smallest power of two that is not below a word, when it is a word itself. -/
def nextPowerOfTwo? (n : UInt32) : Option UInt32 :=
  if n = 0 then some 1
  else
    let filled := fillBelow (n - 1)
    if filled = 0xFFFFFFFF then none else some (filled + 1)

end LteReceiver
