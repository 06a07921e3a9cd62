import LteReceiver.Signal.Phasor

/-!
# Channel estimates

What a receiver knows of the air between a cell and itself in one subframe: a gain for each pair of
an antenna port and a receive antenna at each resource element, and the power of the noise. The
numbers of ports, antennas and elements are part of the type.

Feedback needs only samples of it. `ChannelEstimate.samples` takes the channel matrix of every
twelfth resource element, which is one per resource block.
-/

namespace LteReceiver

/-- The gains between the ports and the antennas, over the resource elements of a subframe. -/
structure ChannelEstimate (R : Type) (ports antennas elements : Nat) where
  gains : Vector (Vector (Vector (Phasor R) elements) antennas) ports
  noise : R

/-- The gains of two ports, each at two antennas. -/
abbrev ChannelMatrix (R : Type) := Vector (Vector (Phasor R) 2) 2

namespace ChannelEstimate

variable {R : Type} {ports antennas elements : Nat}

/-- No gain and no noise. -/
def silent [NatCast R] : ChannelEstimate R ports antennas elements :=
  ⟨.replicate ports (.replicate antennas (.replicate elements .zero)), (0 : Nat)⟩

/-- The distance between samples, in resource elements. -/
def sampleStride : Nat := 12

/-- The sampled ones among the first resource elements. -/
def sampledElements (limit : Nat) : List (Fin elements) :=
  (List.finRange elements).filter fun element =>
    element.val < limit ∧ element.val % sampleStride = 0

/-- The channel matrix at a resource element. -/
def matrixAt (estimate : ChannelEstimate R 2 2 elements) (element : Fin elements) :
    ChannelMatrix R :=
  estimate.gains.map fun port => port.map fun antenna => antenna[element]

/-- The sampled channel matrices of the first resource elements. -/
def samples (estimate : ChannelEstimate R 2 2 elements) (limit : Nat) : List (ChannelMatrix R) :=
  (sampledElements limit).map estimate.matrixAt

end ChannelEstimate

end LteReceiver
