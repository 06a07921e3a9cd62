import LteReceiver.Control.SearchSpace
import LteReceiver.Error

/-!
# Blind search

A terminal is not told where its control messages stand or which format they have: it tries the
places of its search space until one decodes with its own identity as the checksum remainder.

Formats 0 and 1A have the same size, so an uplink grant can turn up in a search for a downlink one.
It is parked (`PendingUplink`) and handed out by the next uplink lookup of the same terminal.

A decoder is a state machine of its own (`DciDecoder`). A search runs over the pair of the search
state and the decoder's state, and both are kept when it fails.
-/

namespace LteReceiver

/-- A decoder of single places, over states of type `σ`. -/
structure DciDecoder (σ : Type) where
  decodeAt : DciLocation → DciFormat → EStateM ExternalError σ DecodedDci

/-! ## The state between searches -/

/-- An uplink grant found by a search for a downlink message. -/
structure PendingUplink where
  rnti : Rnti
  message : DciMessage
  location : DciLocation
deriving DecidableEq, Repr

/-- What one search leaves for the next. -/
structure SearchState where
  pending? : Option PendingUplink
  /-- Where the last downlink message stood. -/
  lastDownlink : DciLocation
  /-- Where the last uplink message stood. -/
  lastUplink : DciLocation
deriving DecidableEq, Repr

instance : Inhabited SearchState := ⟨⟨none, default, default⟩⟩

namespace SearchState

/-- Park an uplink grant, unless one is parked already. -/
def park (state : SearchState) (rnti : Rnti) (message : DciMessage) (location : DciLocation) :
    SearchState :=
  match state.pending? with
  | some _ => state
  | none => { state with pending? := some ⟨rnti, message, location⟩, lastUplink := location }

/-- Note where a message of the searched format was found. -/
def note (state : SearchState) (format : DciFormat) (location : DciLocation) : SearchState :=
  if format = .format0 then { state with lastUplink := location }
  else { state with lastDownlink := location }

/--
What one decoded place means to a search: it ends the search when it holds a message of the searched
format for the terminal, an uplink grant in a search for format 1A is parked, and all else is
passed over.
-/
def consider (state : SearchState) (rnti : Rnti) (format : DciFormat) (location : DciLocation)
    (decoded : DecodedDci) : Option DciMessage × SearchState :=
  if decoded.remainder ≠ rnti.value then (none, state)
  else if decoded.message.format = .format0 ∧ format = .format1A then
    (none, state.park rnti decoded.message location)
  else if decoded.message.format = format then
    (some decoded.message, state.note format location)
  else (none, state)

end SearchState

/-! ## One search -/

variable {σ : Type}

/-- Try places in their order until one ends the search. An error of the decoder ends it too. -/
def scan (decoder : DciDecoder σ) (format : DciFormat) (rnti : Rnti) :
    List DciLocation → EStateM ReceiveError (SearchState × σ) (Option DciMessage)
  | [], (state, s) => .ok none (state, s)
  | location :: rest, (state, s) =>
    match decoder.decodeAt location format s with
    | .error e s => .error (.decode (.candidate location.firstCce e)) (state, s)
    | .ok decoded s =>
      match state.consider rnti format location decoded with
      | (some message, state) => .ok (some message) (state, s)
      | (none, state) => scan decoder format rnti rest (state, s)

/-- A search for one format. It needs an identity that is assigned. -/
def blindSearch (decoder : DciDecoder σ) (locations : List DciLocation) (format : DciFormat)
    (rnti : Rnti) : EStateM ReceiveError (SearchState × σ) (Option DciMessage) :=
  if rnti.isAssigned then scan decoder format rnti locations
  else throw (.configuration .rntiUnset)

/-- Searches one after the other, until one finds a message. -/
def scanPasses (decoder : DciDecoder σ) (rnti : Rnti) :
    List (DciFormat × List DciLocation) →
      EStateM ReceiveError (SearchState × σ) (Option DciMessage)
  | [], state => .ok none state
  | (format, locations) :: rest, state =>
    match scan decoder format rnti locations state with
    | .error e state => .error e state
    | .ok (some message) state => .ok (some message) state
    | .ok none state => scanPasses decoder rnti rest state

/-! ## Lookups in a cell -/

/-- The formats a transmission mode schedules a terminal with: format 1A, then that of the mode. -/
def TransmissionMode.formats : TransmissionMode → DciFormat × DciFormat
  | .tm1 => (.format1A, .format1)
  | .tm2 => (.format1A, .format1)
  | .tm3 => (.format1A, .format2A)
  | .tm4 => (.format1A, .format2)
  | .tm5 => (.format1A, .format1D)
  | .tm6 => (.format1A, .format1B)
  | .tm7 => (.format1A, .format1)
  | .tm8 => (.format1A, .format2B)

/-- The message lookups of a terminal in a cell. -/
structure DciSearch where
  space : SearchSpaceTable
  state : SearchState

namespace DciSearch

/-- No message looked up yet. -/
def ofCell (cell : CellConfig) : DciSearch :=
  ⟨.ofCell cell, default⟩

/-- Keep the search spaces of a terminal at hand. -/
def setRnti (search : DciSearch) (rnti : Rnti) : DciSearch :=
  { search with space := search.space.setRnti rnti }

/-- Drop a parked uplink grant. -/
def clearPending (search : DciSearch) : DciSearch :=
  { search with state := { search.state with pending? := none } }

/-- The arguments of a lookup: the number of control symbols is checked before the subframe, and the
subframe before the identity. -/
def check (cfi subframe : Nat) (rnti : Rnti) : Except ConfigurationFault Unit :=
  if cfi < 1 ∨ maxCfi < cfi then .error (.cfiRange cfi)
  else if subframesPerFrame ≤ subframe then .error (.subframeIndex subframe)
  else if rnti.isAssigned then .ok ()
  else .error .rntiUnset

/--
The places a downlink message is looked for, in their order. A terminal's own space is searched for
each format of the mode, then the common space for format 1A; identities of broadcast messages are
looked for in the common space only, with formats 1A and 1C.
-/
def downlinkPasses? (search : DciSearch) (mode : TransmissionMode) (cfi subframe : Nat)
    (rnti : Rnti) : Option (List (DciFormat × List DciLocation)) :=
  if rnti.kind.isCommon then do
    let common ← search.space.common? cfi
    return [(.format1A, common), (.format1C, common)]
  else do
    let own ← search.space.ue? rnti cfi subframe
    let common ← search.space.common? cfi
    return [(mode.formats.1, own), (mode.formats.2, own), (.format1A, common)]

/-- Run a search over the search state inside a lookup. -/
def onState (search : EStateM ReceiveError (SearchState × σ) (Option DciMessage)) :
    EStateM ReceiveError (DciSearch × σ) (Option DciMessage) := fun (lookup, s) =>
  match search (lookup.state, s) with
  | .ok found (state, s) => .ok found ({ lookup with state := state }, s)
  | .error e (state, s) => .error e ({ lookup with state := state }, s)

/-- Look for the downlink message of a terminal. -/
def findDownlink (decoder : DciDecoder σ) (mode : TransmissionMode) (cfi subframe : Nat)
    (rnti : Rnti) : EStateM ReceiveError (DciSearch × σ) (Option DciMessage) :=
  fun (lookup, s) =>
    match check cfi subframe rnti with
    | .error fault => .error (.configuration fault) (lookup, s)
    | .ok () =>
      match lookup.downlinkPasses? mode cfi subframe rnti with
      | none => .error (.configuration (.noSearchSpace cfi subframe)) (lookup, s)
      | some passes => onState (scanPasses decoder rnti passes) (lookup, s)

/-- Look for the uplink grant of a terminal. A parked grant of the same terminal is handed out
first, and without a look at the control region. -/
def findUplink (decoder : DciDecoder σ) (cfi subframe : Nat) (rnti : Rnti) :
    EStateM ReceiveError (DciSearch × σ) (Option DciMessage) :=
  fun (lookup, s) =>
    match check cfi subframe rnti with
    | .error fault => .error (.configuration fault) (lookup, s)
    | .ok () =>
      match lookup.state.pending?.filter (·.rnti = rnti) with
      | some pending => .ok (some pending.message) (lookup.clearPending, s)
      | none =>
        match lookup.space.ue? rnti cfi subframe with
        | none => .error (.configuration (.noSearchSpace cfi subframe)) (lookup, s)
        | some own => onState (scan decoder .format0 rnti own) (lookup, s)

end DciSearch

end LteReceiver
