import LteReceiver.Cell.Config

/-!
# Downlink control information

The control messages a base station sends: where in the control region one can stand
(`DciLocation`), which layout it has (`DciFormat`) and what it says once unpacked (`DciFields`).
-/

namespace LteReceiver

/-! ## Transmission modes and formats -/

/-- The transmission modes of the downlink shared channel. -/
inductive TransmissionMode where
  | tm1 | tm2 | tm3 | tm4 | tm5 | tm6 | tm7 | tm8
deriving DecidableEq, Repr

namespace TransmissionMode

/-- The modes in their order. -/
def all : List TransmissionMode :=
  [tm1, tm2, tm3, tm4, tm5, tm6, tm7, tm8]

/-- The number of a mode, from 1. -/
def number : TransmissionMode → Nat
  | tm1 => 1 | tm2 => 2 | tm3 => 3 | tm4 => 4 | tm5 => 5 | tm6 => 6 | tm7 => 7 | tm8 => 8

/-- The mode with a number, when there is one. -/
def ofNumber? (n : Nat) : Option TransmissionMode :=
  all.find? fun mode => mode.number == n

/-- The name of a mode. -/
def name (mode : TransmissionMode) : String :=
  s!"Tm{mode.number}"

end TransmissionMode

/-- The layouts of a control message. Format 0 grants uplink resources, the others downlink ones. -/
inductive DciFormat where
  | format0
  | format1
  | format1A
  | format1B
  | format1C
  | format1D
  | format2
  | format2A
  | format2B
deriving DecidableEq, Repr

namespace DciFormat

/-- Every format. -/
def all : List DciFormat :=
  [format0, format1, format1A, format1B, format1C, format1D, format2, format2A, format2B]

/-- The name of a format. -/
def name : DciFormat → String
  | format0 => "Format0"
  | format1 => "Format1"
  | format1A => "Format1A"
  | format1B => "Format1B"
  | format1C => "Format1C"
  | format1D => "Format1D"
  | format2 => "Format2"
  | format2A => "Format2A"
  | format2B => "Format2B"

end DciFormat

/-! ## Modulation and coding -/

/-- The symbol alphabets of the downlink shared channel. -/
inductive Modulation where
  | qpsk
  | qam16
  | qam64
deriving DecidableEq, Repr

namespace Modulation

/-- The alphabet of a modulation and coding index; the indices above 28 name none. -/
def ofMcsIndex? (index : Nat) : Option Modulation :=
  if index ≤ 9 then some qpsk
  else if index ≤ 16 then some qam16
  else if index ≤ 28 then some qam64
  else none

/-- Bits carried by one symbol. -/
def bitsPerSymbol : Modulation → Nat
  | qpsk => 2
  | qam16 => 4
  | qam64 => 6

end Modulation

/-- Modulation and coding of one transport block. -/
structure Mcs where
  index : Nat
  /-- Transport block size in bits. -/
  tbs : Nat
deriving DecidableEq, Repr

instance : Inhabited Mcs := ⟨⟨0, 0⟩⟩

/-- The alphabet a transport block is sent with. -/
def Mcs.modulation? (mcs : Mcs) : Option Modulation :=
  Modulation.ofMcsIndex? mcs.index

/-! ## Locations and messages -/

/-- A place in the control region: its first control channel element and the binary logarithm of
the number of elements it takes. -/
structure DciLocation where
  firstCce : Nat
  logLevel : Nat
deriving DecidableEq, Repr

instance : Inhabited DciLocation := ⟨⟨0, 0⟩⟩

/-- Control channel elements a location takes. -/
def DciLocation.aggregationLevel (location : DciLocation) : Nat :=
  Nat.pow 2 location.logLevel

/-- The fields of an unpacked message. -/
structure DciFields where
  /-- The process whose soft bits the transmission belongs to. -/
  harqProcess : Nat
  /-- Redundancy version of the first block; formats for broadcast data do not signal one. -/
  rv? : Option Nat
  /-- Redundancy version of the second block. -/
  secondRv : Nat
  /-- New data indicators. -/
  ndi : Vector Bool 2
  /-- Which transport blocks are sent. -/
  enabled : Vector Bool 2
  mcs : Vector Mcs 2
  /-- The precoding information field. -/
  precodingInfo : Nat
  /-- Resource blocks allocated. -/
  nofPrb : Nat
  /-- The lowest allocated resource block of an uplink grant. -/
  lowestPrb : Nat
  /-- The cyclic shift of an uplink grant. -/
  cyclicShift : Nat
deriving DecidableEq, Repr

instance : Inhabited DciFields :=
  ⟨⟨0, none, 0, .replicate 2 false, .replicate 2 false, .replicate 2 default, 0, 0, 0, 0⟩⟩

/-- A decoded message. Formats 0 and 1A have the same size, so the format found can differ from the
one searched for. -/
structure DciMessage where
  format : DciFormat
  fields : DciFields
deriving DecidableEq, Repr

/-- One decoding attempt: what the bits say, and the checksum remainder, which equals the identity
of the addressee when the bits are a message at all. -/
structure DecodedDci where
  message : DciMessage
  remainder : UInt16
deriving DecidableEq, Repr

end LteReceiver
