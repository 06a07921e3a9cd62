import LteReceiver.Control.Dci

/-!
# Search spaces

Where a control message can stand (3GPP TS 36.213, 9.1.1). The control region is a row of control
channel elements; its size follows from the bandwidth, the antenna ports and the number of control
symbols (`cceCount`). A terminal's own places are spread over the region by a hash of its identity
and the subframe (`ueLocations`); the places of broadcast messages are fixed (`commonLocations`).

`SearchSpaceTable` keeps the lists of the one terminal that is searched in every subframe. Looking
a list up never depends on which terminal that is: the lists of all others are made on demand.
-/

namespace LteReceiver

/-! ## The size of the control region -/

/-- The largest number of control symbols. -/
def maxCfi : Nat := 3

/-- Resource element groups of one resource block in a control symbol. Reference signals take one
of the three groups in the first symbol, and with four ports in the second as well. -/
def regsPerPrb (symbol nofPorts : Nat) : Nat :=
  if symbol = 0 then 2
  else if symbol = 1 ∧ nofPorts = 4 then 2
  else 3

namespace CellConfig

/-- Resource element groups in the first `cfi` control symbols. -/
def controlRegs (cell : CellConfig) (cfi : Nat) : Nat :=
  (List.range (min cfi maxCfi)).foldr (fun symbol regs =>
    regsPerPrb symbol cell.nofPorts * cell.nofPrb + regs) 0

/-- Groups that acknowledgements take, three for each group of them. With the extended prefix they
are sent in pairs over the same elements, so the prefix does not count here. -/
def acknowledgementRegs (cell : CellConfig) : Nat :=
  3 * cell.phichResources.groups cell.nofPrb .normal

/-- Control channel elements, of nine groups each, for a number of control symbols: what is left
after the four groups of the format indicator and those of the acknowledgements. -/
def cceCount (cell : CellConfig) (cfi : Nat) : Nat :=
  (cell.controlRegs cfi - (4 + cell.acknowledgementRegs)) / 9

end CellConfig

/-! ## Places of one terminal -/

/-- The multiplier of the hash. -/
def hashMultiplier : UInt64 := 39827

/-- The modulus of the hash, a prime. -/
def hashModulus : UInt64 := 65537

/-- The hash comes back to the same value after this many subframes, one less than the modulus. -/
def hashPeriod : Nat := 65536

/-- One multiplication of the hash, in 64-bit words. -/
def hashStep (word : UInt64) : UInt64 :=
  hashMultiplier * word % hashModulus

/-- An identity after a number of multiplications. -/
def hashWord (rnti : Rnti) : Nat → UInt64
  | 0 => rnti.value.toUInt64
  | steps + 1 => hashStep (hashWord rnti steps)

/-- The hash of an identity in a subframe: one multiplication for every subframe up to it. -/
def spaceHash (rnti : Rnti) (subframe : Nat) : UInt64 :=
  hashWord rnti (subframe + 1)

/-- Candidates of a terminal for each aggregation level. -/
def ueCandidates : Nat → Nat
  | 0 => 6
  | 1 => 6
  | _ => 2

/-- Whether a location ends inside a region. -/
def DciLocation.fits (location : DciLocation) (nofCce : Nat) : Bool :=
  location.firstCce + location.aggregationLevel ≤ nofCce

/-- The most candidates of a terminal. -/
def maxUeCandidates : Nat := 16

/-- The candidates of one aggregation level: consecutive aligned places from the hash on, turning
over at the end of the region. A level larger than the region has none. -/
def ueLevel (nofCce hash logLevel : Nat) : List DciLocation :=
  let level := Nat.pow 2 logLevel
  if nofCce < level then []
  else (List.range (ueCandidates logLevel)).map fun i =>
    ⟨level * ((hash + i) % (nofCce / level)), logLevel⟩

/-- The places of a terminal in a subframe, the highest aggregation level first. -/
def ueLocations (nofCce subframe : Nat) (rnti : Rnti) : List DciLocation :=
  let hash := (spaceHash rnti (subframe % hashPeriod)).toNat
  ([3, 2, 1, 0].flatMap (ueLevel nofCce hash)).filter (·.fits nofCce) |>.take maxUeCandidates

/-! ## Places of broadcast messages -/

/-- The most common candidates. -/
def maxCommonCandidates : Nat := 6

/-- The aligned places of a level in the first sixteen elements. -/
def commonLevel (nofCce logLevel : Nat) : List DciLocation :=
  let level := Nat.pow 2 logLevel
  (List.range (min nofCce 16 / level)).map fun i => ⟨level * i, logLevel⟩

/-- The places every terminal searches, of the two highest aggregation levels. -/
def commonLocations (nofCce : Nat) : List DciLocation :=
  ([3, 2].flatMap (commonLevel nofCce)).filter (·.fits nofCce) |>.take maxCommonCandidates

/-! ## The table of a cell -/

/-- The lists of one terminal, for every number of control symbols and every subframe. -/
structure TerminalSpaces where
  rnti : Rnti
  locations : Vector (Vector (List DciLocation) 10) 3

/-- The search spaces of a cell, with those of one terminal at hand. -/
structure SearchSpaceTable where
  cell : CellConfig
  /-- The size of the control region for one, two and three control symbols. -/
  cceCounts : Vector Nat 3
  common : Vector (List DciLocation) 3
  terminal? : Option TerminalSpaces

/-- The position of a number of control symbols in a table, when it is 1, 2 or 3. -/
def cfiIndex? (cfi : Nat) : Option (Fin 3) :=
  if h : 1 ≤ cfi ∧ cfi ≤ 3 then some ⟨cfi - 1, by omega⟩ else none

/-- The position of a subframe in a table, when there is such a subframe. -/
def subframeIndex? (subframe : Nat) : Option (Fin 10) :=
  if h : subframe < 10 then some ⟨subframe, h⟩ else none

namespace SearchSpaceTable

/-- The table of a cell, with no terminal chosen. -/
def ofCell (cell : CellConfig) : SearchSpaceTable :=
  let counts := Vector.ofFn fun i : Fin 3 => cell.cceCount (i.val + 1)
  { cell := cell
    cceCounts := counts
    common := counts.map commonLocations
    terminal? := none }

/-- Keep the lists of a terminal from now on. -/
def setRnti (table : SearchSpaceTable) (rnti : Rnti) : SearchSpaceTable :=
  let locations := table.cceCounts.map fun count =>
    Vector.ofFn fun subframe : Fin 10 => ueLocations count subframe.val rnti
  { table with terminal? := some ⟨rnti, locations⟩ }

/-- The terminal whose lists are kept. -/
def rnti? (table : SearchSpaceTable) : Option Rnti :=
  table.terminal?.map (·.rnti)

/-- The size of the control region, for 1, 2 or 3 control symbols. -/
def cceCount? (table : SearchSpaceTable) (cfi : Nat) : Option Nat :=
  (cfiIndex? cfi).map fun i => table.cceCounts[i]

/-- The places of a terminal, for 1, 2 or 3 control symbols and a subframe below 10. -/
def ue? (table : SearchSpaceTable) (rnti : Rnti) (cfi subframe : Nat) :
    Option (List DciLocation) := do
  let i ← cfiIndex? cfi
  let k ← subframeIndex? subframe
  match table.terminal? with
  | some kept =>
    if kept.rnti = rnti then some kept.locations[i][k]
    else some (ueLocations table.cceCounts[i] subframe rnti)
  | none => some (ueLocations table.cceCounts[i] subframe rnti)

/-- The places of broadcast messages, for 1, 2 or 3 control symbols. -/
def common? (table : SearchSpaceTable) (cfi : Nat) : Option (List DciLocation) :=
  (cfiIndex? cfi).map fun i => table.common[i]

end SearchSpaceTable

end LteReceiver
