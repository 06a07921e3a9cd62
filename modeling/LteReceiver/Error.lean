import LteReceiver.Control.Dci

/-!
# Failures of the receiver

Causes are kept as data and worded in one place. `ExternalError` comes from outside, from a
processing block or a capture; `ReceiveError` is what the receiver itself answers. The four kinds of
`ReceiveError` are told apart by what a caller can do about them: correct the arguments, try the
next subframe, or give the transmission up; an access outside the given samples is a fault of
its own kind.
-/

namespace LteReceiver

/-! ## Errors from outside -/

/-- What a processing block or a capture reports. -/
inductive ExternalError where
  | decodeFailed (text : String)
  | invalidInput (text : String)
  | io (text : String)
  | invalidCapture (text : String)
deriving DecidableEq, Repr

/-- The wording of an outside error. -/
def ExternalError.message : ExternalError → String
  | decodeFailed text => s!"Decode failed: {text}"
  | invalidInput text => s!"Invalid input: {text}"
  | io text => s!"I/O error: {text}"
  | invalidCapture text => s!"Invalid capture: {text}"

/-! ## Arguments and settings that are refused -/

/-- Why arguments or settings are refused. -/
inductive ConfigurationFault where
  | cell (fault : CellFault)
  | antennaCount (n : Nat)
  | noFftSize (nofPrb : Nat)
  | inputCount (expected actual : Nat)
  | subframeIndex (n : Nat)
  | rntiUnset
  | cfiRange (cfi : Nat)
  | noSearchSpace (cfi subframe : Nat)
  | fftSize (n : Nat)
  | primaryFftSize (n : Nat)
  | secondaryFftSize (n : Nat)
  | frameSize (frame fft : Nat)
  | sectorUnset
  | sectorRange (n : Nat)
  | searchSpan (samples offset fft : Nat)
  | primaryWindow (samples fft : Nat)
  | secondarySymbol (samples fft : Nat)
deriving DecidableEq, Repr

/-- The wording of a refusal. -/
def ConfigurationFault.message : ConfigurationFault → String
  | cell fault => fault.message
  | antennaCount n => s!"Invalid number of RX antennas {n}"
  | noFftSize nofPrb => s!"No FFT size for {nofPrb} PRB"
  | inputCount expected actual => s!"Expected {expected} input buffers, got {actual}"
  | subframeIndex n => s!"Invalid subframe index {n}"
  | rntiUnset => "RNTI not specified"
  | cfiRange cfi => s!"CFI must be 1 <= cfi <= 3, got {cfi}"
  | noSearchSpace cfi subframe => s!"No search space for cfi={cfi} sf_idx={subframe}"
  | fftSize n => s!"Invalid FFT size {n}"
  | primaryFftSize n => s!"Invalid FFT size {n} for PSS detection"
  | secondaryFftSize n => s!"Invalid FFT size {n} for SSS detection"
  | frameSize frame fft => s!"Invalid frame size {frame} for FFT size {fft}"
  | sectorUnset => "N_id_2 must be set before searching"
  | sectorRange n => s!"Invalid N_id_2 {n}"
  | searchSpan samples offset fft =>
    s!"{samples} samples are not enough to search from offset {offset} with FFT size {fft}"
  | primaryWindow samples fft =>
    s!"PSS window of {samples} samples is shorter than the FFT size {fft}"
  | secondarySymbol samples fft =>
    s!"SSS symbol of {samples} samples is shorter than the FFT size {fft}"

/-! ## Decoding that fails -/

/-- Which stage of decoding failed, and how. -/
inductive DecodeFault where
  | stage (error : ExternalError)
  | controlFormat (error : ExternalError)
  | cfi (value : Nat)
  | softBits (error : ExternalError)
  | candidate (firstCce : Nat) (error : ExternalError)
  | sharedChannel (error : ExternalError)
  | acknowledgement (error : ExternalError)
deriving DecidableEq, Repr

/-- The wording of a failure. -/
def DecodeFault.message : DecodeFault → String
  | stage error => error.message
  | controlFormat error => s!"PCFICH: {error.message}"
  | cfi value => s!"Invalid CFI {value}"
  | softBits error => s!"PDCCH LLR extraction: {error.message}"
  | candidate firstCce error => s!"DCI decode at ncce={firstCce}: {error.message}"
  | sharedChannel error => s!"PDSCH: {error.message}"
  | acknowledgement error => s!"PHICH: {error.message}"

/-! ## Transmissions that are not supported -/

/-- What a receiver of this kind does not do. -/
inductive UnsupportedFault where
  | format (found : DciFormat)
  | precoding (nofBlocks info : Nat)
  | noTransportBlock
  | precoderSelection (ports antennas : Nat)
deriving DecidableEq, Repr

/-- The wording of a limit. -/
def UnsupportedFault.message : UnsupportedFault → String
  | format found => s!"Transmission mode not supported for {found.name}"
  | precoding nofBlocks info =>
    s!"Not implemented number of transport blocks ({nofBlocks}) / pinfo ({info}) combination"
  | noTransportBlock => "Grant enables no transport block"
  | precoderSelection ports antennas =>
    s!"Precoder selection for {ports} ports and {antennas} RX antennas"

/-! ## The receiver's answer -/

/-- The failures of the receiver. -/
inductive ReceiveError where
  | configuration (fault : ConfigurationFault)
  | decode (fault : DecodeFault)
  | unsupported (fault : UnsupportedFault)
  /-- An access outside the samples or tables it is made to. -/
  | outOfRange
deriving DecidableEq, Repr

/-- The wording of a failure, its kind first. -/
def ReceiveError.message : ReceiveError → String
  | configuration fault => s!"Configuration error: {fault.message}"
  | decode fault => s!"Decode failure: {fault.message}"
  | unsupported fault => s!"Unsupported configuration: {fault.message}"
  | outOfRange => "Access out of range"

end LteReceiver
