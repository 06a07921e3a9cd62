/-!
# Radio identities

Who a transmission is for and who sends it.

* `Rnti`: the 16-bit identity that scrambles the checksum of a control message. Its value says which
  class of message it addresses (`Rnti.kind`), and the class says where the message is searched.
* `Pci`: the physical cell identity, `3 * group + sector`, of which there are 504.
-/

namespace LteReceiver

/-! ## Radio network temporary identities -/

/-- The identity a control message is addressed to. -/
structure Rnti where
  value : UInt16
deriving DecidableEq, Repr, Inhabited

/-- The classes of messages an identity can address. -/
inductive RntiKind where
  | systemInformation
  | paging
  | randomAccess
  | user
deriving DecidableEq, Repr

namespace Rnti

/-- The identity of system information. -/
def systemInformation : Rnti := ⟨0xFFFF⟩

/-- The identity of paging messages. -/
def paging : Rnti := ⟨0xFFFE⟩

/-- The largest identity of a random access response. -/
def lastRandomAccess : Rnti := ⟨0x003C⟩

/-- Zero is never handed out: it stands for an identity that is not configured. -/
def isAssigned (rnti : Rnti) : Bool :=
  rnti.value != 0

/-- The class of an identity, by the range it falls in. -/
def kind (rnti : Rnti) : RntiKind :=
  if rnti = systemInformation then .systemInformation
  else if rnti = paging then .paging
  else if rnti.value ≤ lastRandomAccess.value then .randomAccess
  else .user

end Rnti

/-- Only a user identity has a search space of its own; all other classes share the common one. -/
def RntiKind.isCommon : RntiKind → Bool
  | .user => false
  | _ => true

/-! ## Physical cell identities -/

/-- The physical identity of a cell. -/
structure Pci where
  value : Nat
deriving DecidableEq, Repr, Inhabited

namespace Pci

/-- The largest identity. -/
def largest : Nat := 503

/-- The number of identity groups. -/
def groupCount : Nat := 168

/-- The number of identities in a group, one for each primary synchronization signal. -/
def sectorCount : Nat := 3

/-- An identity, when the number is one. -/
def ofNat? (n : Nat) : Option Pci :=
  if n ≤ largest then some ⟨n⟩ else none

/-- The identity of a group and a sector, when both exist. -/
def ofParts? (group sector : Nat) : Option Pci :=
  if group < groupCount ∧ sector < sectorCount then some ⟨3 * group + sector⟩ else none

/-- The identity group. -/
def group (pci : Pci) : Nat :=
  pci.value / 3

/-- The identity within the group. -/
def sector (pci : Pci) : Nat :=
  pci.value % 3

end Pci

end LteReceiver
