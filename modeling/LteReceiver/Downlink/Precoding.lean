import LteReceiver.Downlink.ChannelEstimate
import LteReceiver.Error

/-!
# Precoders

Which rank and which precoder a terminal with two antennas reports to a cell with two ports. The
signal to interference and noise ratio (SINR) of every entry of the codebook is averaged over
samples of the channel:

* an entry for one layer sends the same symbol from both ports, the second time with a weight, and
  the receiver combines its antennas at the maximal ratio;
* an entry for two layers sends two symbols at a time, and the receiver separates them with the
  least mean square error.

The best entry of each rank is the first of the largest SINR. Two layers are reported only if they
beat one layer by a margin.

The arithmetic is written over any type of numbers, so that the computation in single precision can
also be read over exact numbers. The rank can be chosen from the condition number of the channel
too, in single precision only, since that takes roots and logarithms.
-/

namespace LteReceiver

/-! ## The codebook -/

/-- Entries of the codebook for one layer and for two. -/
def codebookSizes : Vector Nat 2 := #v[4, 2]

/-- The positions in the codebook for a number of layers, less one. -/
def codebookEntries (rank : Fin 2) : List (Fin 4) :=
  (List.finRange 4).filter fun entry => entry.val < codebookSizes[rank]

section Precoders

variable {R : Type} [Add R] [Sub R] [Mul R] [Div R] [Neg R] [NatCast R]

/-- The weight of the second port for one layer. -/
def oneLayerWeight (entry : Fin 4) : Phasor R :=
  let zero : R := (0 : Nat)
  let one : R := (1 : Nat)
  match entry with
  | 0 => ⟨one, zero⟩
  | 1 => ⟨-one, zero⟩
  | 2 => ⟨zero, one⟩
  | 3 => ⟨zero, -one⟩

/-- The weight of the second port for the first of two layers. The second layer has its negative. -/
def twoLayerWeight (entry : Fin 4) : Phasor R :=
  if entry = 0 then ⟨(1 : Nat), (0 : Nat)⟩ else ⟨(0 : Nat), (1 : Nat)⟩

/-! ## SINR at one resource element -/

/-- One layer: the power of the combined gains, over the noise. -/
def oneLayerSinr (channel : ChannelMatrix R) (entry : Fin 4) (noise : R) : R :=
  let weight := oneLayerWeight entry
  let gain (antenna : Fin 2) : R := (channel[0][antenna] + weight * channel[1][antenna]).power
  (gain 0 + gain 1) / ((2 : Nat) * noise)

/-- The gains of both layers at an antenna. -/
def layerGains (channel : ChannelMatrix R) (entry : Fin 4) (antenna : Fin 2) :
    Phasor R × Phasor R :=
  let weight := twoLayerWeight entry
  let first := channel[0][antenna]
  let second := weight * channel[1][antenna]
  ((first + second).shrink (2 : Nat), (first - second).shrink (2 : Nat))

/-- Two layers: the mean SINR of the layers behind a receiver of least mean square error. -/
def twoLayerSinr (channel : ChannelMatrix R) (entry : Fin 4) (noise : R) : R :=
  let one : R := (1 : Nat)
  let (a, b) := layerGains channel entry 0
  let (c, d) := layerGains channel entry 1
  let first := one + (a.power + c.power) / noise
  let second := one + (b.power + d.power) / noise
  let cross := (a.conj * b + c.conj * d).shrink noise
  let det := first * second - cross.power
  ((det / second - one) + (det / first - one)) / (2 : Nat)

/-! ## SINR of the codebook -/

/-- The mean of a quantity over channel samples, zero over none. -/
def sampleMean (samples : List (ChannelMatrix R)) (quantity : ChannelMatrix R → R) : R :=
  let total := samples.foldl (fun total channel => total + quantity channel) (0 : Nat)
  if samples.isEmpty then total else total / (samples.length : Nat)

/-- The mean SINR of every entry for one layer and for two. Places without an entry hold zero. -/
def codebookSinr (samples : List (ChannelMatrix R)) (noise : R) : Vector (Vector R 4) 2 :=
  #v[Vector.ofFn fun entry => sampleMean samples (oneLayerSinr · entry noise),
    Vector.ofFn fun entry : Fin 4 =>
      if entry.val < codebookSizes[1] then sampleMean samples (twoLayerSinr · entry noise)
      else (0 : Nat)]

end Precoders

/-! ## The best precoders -/

/-- The best entry of each rank, and the SINR of all. -/
structure PrecoderSelection (R : Type) where
  /-- The best entry for one layer and for two. -/
  best : Vector (Fin 4) 2
  sinr : Vector (Vector R 4) 2

section Selection

variable {R : Type} [Add R] [Sub R] [Mul R] [Div R] [Neg R] [NatCast R] [LT R] [DecidableLT R]

/-- One step of the search for the best entry: a later one has to be better. -/
def laterBest (values : Vector R 4) (best entry : Fin 4) : Fin 4 :=
  if values[best] < values[entry] then entry else best

/-- The first of the best entries. -/
def firstBest (values : Vector R 4) (entries : List (Fin 4)) : Fin 4 :=
  entries.foldl (laterBest values) 0

/-- The least noise that is counted with, a millionth. -/
def noiseFloor : R :=
  (1 : Nat) / (1000000 : Nat)

/-- The noise of an estimate, or the least if that is more. -/
def flooredNoise (noise : R) : R :=
  if noiseFloor < noise then noise else noiseFloor

/-- The best precoders over the first resource elements of a channel with two ports and two
antennas. -/
def selectPrecoders {ports antennas elements : Nat}
    (estimate : ChannelEstimate R ports antennas elements) (limit : Nat) :
    Except UnsupportedFault (PrecoderSelection R) :=
  match ports, antennas, estimate with
  | 2, 2, estimate =>
    let sinr := codebookSinr (estimate.samples limit) (flooredNoise estimate.noise)
    .ok ⟨Vector.ofFn fun rank => firstBest sinr[rank] (codebookEntries rank), sinr⟩
  | ports, antennas, _ => .error (.precoderSelection ports antennas)

/-! ## The rank -/

/-- What is reported to the cell. -/
structure RankReport (R : Type) where
  rank : Nat
  entry : Fin 4
  /-- The SINR of the entry, times the rank. -/
  sinr : R
  /-- The SINR of the entry in use, where one is. -/
  currentSinr? : Option R

/-- What two layers have to be better by, a tenth. -/
def rankMargin : R :=
  (1 : Nat) / (10 : Nat)

/-- The rank to report, with the best precoder for it. -/
def PrecoderSelection.report (selection : PrecoderSelection R) : RankReport R :=
  let one := selection.sinr[0][selection.best[0]]
  let two := selection.sinr[1][selection.best[1]] * (2 : Nat)
  if one + rankMargin < two then ⟨2, selection.best[1], two, none⟩
  else ⟨1, selection.best[0], one, none⟩

end Selection

/-! ## The condition number -/

/-- The largest condition number that two layers are reported for, in decibels. -/
def conditionThreshold : Float32 := 3

/-- The condition number of a channel matrix in decibels: the ratio of the squares of its singular
values. There is none for a channel without gain, and it is infinite for a singular one. -/
def matrixCondition? (channel : ChannelMatrix Float32) : Option Float32 :=
  let a := channel[0][0].power + channel[0][1].power
  let d := channel[1][0].power + channel[1][1].power
  let b := channel[0][0].conj * channel[1][0] + channel[0][1].conj * channel[1][1]
  let trace := a + d
  let det := a * d - b.power
  let square := trace * trace - 4 * det
  let spread := Float32.sqrt (if 0 < square then square else 0)
  let largest := (trace + spread) / 2
  let smallest := (trace - spread) / 2
  if largest ≤ 0 then none
  else if 0 < smallest then some (10 * Float32.log10 (largest / smallest))
  else some (1 / 0)

/-- The mean condition number over the first resource elements of a channel with two ports and two
antennas, in decibels; zero if there is none. -/
def conditionNumber {ports antennas elements : Nat}
    (estimate : ChannelEstimate Float32 ports antennas elements) (limit : Nat) :
    Except UnsupportedFault Float32 :=
  match ports, antennas, estimate with
  | 2, 2, estimate =>
    let values := (estimate.samples limit).filterMap matrixCondition?
    .ok (if values.isEmpty then 0 else values.foldl (· + ·) 0 / (values.length : Nat))
  | ports, antennas, _ => .error (.precoderSelection ports antennas)

/-- The rank to report for a condition number in decibels. -/
def rankOfCondition (condition : Float32) : Nat :=
  if conditionThreshold < condition then 1 else 2

end LteReceiver
