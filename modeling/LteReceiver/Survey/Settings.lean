import LteReceiver.Survey.Document.Reader
import LteReceiver.Sync.Synchronizer

/-!
# Settings of a survey

What a survey of a capture is told: which capture, how to synchronize, and which sectors and how
many frames to search. All settings but the capture's file have a usual value.

Settings are taken from a document by readers of values (`Reader`). A field that is not known is
passed over, a known one that stands twice is refused, and a whole number is taken where a number
with a fraction is expected, but not the other way round.
-/

namespace LteReceiver

/-! ## Values of a document -/

/-- Why settings are refused. -/
inductive SettingsFault where
  | unreadable (fault : ReadFault)
  | wrongType (expected : String)
  | missing (field : String)
  | repeated (field : String)
  | unknownName (name : String)
deriving DecidableEq, Repr

/-- The wording of a refusal. -/
def SettingsFault.message : SettingsFault → String
  | unreadable fault => fault.message
  | wrongType expected => s!"expected {expected}"
  | missing field => s!"missing field {field}"
  | repeated field => s!"duplicate field {field}"
  | unknownName name => s!"unknown name {name}"

/-- A reader of values of a type. -/
abbrev Reader (α : Type) := Document → Except SettingsFault α

namespace Document

/-- A scalar that has a value of some kind. -/
def readAs {α : Type} (expected : String) (value? : Scalar → Option α) : Reader α
  | .scalar written =>
    match value? written with
    | some value => .ok value
    | none => .error (.wrongType expected)
  | _ => .error (.wrongType expected)

/-- A natural number below a limit. -/
def natBelow (limit : Nat) : Reader Nat :=
  readAs "a natural number" fun scalar => scalar.nat?.filter (· < limit)

/-- A count of samples or frames. -/
def count : Reader Nat :=
  natBelow UInt64.size

/-- A number, rounded to single precision. -/
def number : Reader Float32 :=
  readAs "a number" fun scalar => scalar.float?.map (·.toFloat32)

/-- A truth value. -/
def truth : Reader Bool :=
  readAs "true or false" Scalar.bool?

/-- A text. Every scalar has one, also one that could be read as something else. -/
def text : Reader String :=
  readAs "a text" fun scalar => some scalar.text

/-- A value that can be left open. -/
def optional {α : Type} (read : Reader α) : Reader (Option α)
  | .scalar written =>
    if written.isNull then .ok none else (read (.scalar written)).map some
  | document => (read document).map some

/-- A list of values. A scalar that is not there is the empty list. -/
def listOf {α : Type} (read : Reader α) : Reader (List α)
  | .list items => items.mapM read
  | .scalar written => if written = .absent then .ok [] else .error (.wrongType "a list")
  | .map _ => .error (.wrongType "a list")

/-- The entries of a map. A scalar that is not there is the empty map. -/
def entries : Reader (List (String × Document))
  | .map entries => .ok entries
  | .scalar written => if written = .absent then .ok [] else .error (.wrongType "a map")
  | .list _ => .error (.wrongType "a map")

end Document

/-- The value of a field, when it stands once; there is none when it is left out. -/
def field? {α : Type} (entries : List (String × Document)) (name : String) (read : Reader α) :
    Except SettingsFault (Option α) :=
  match entries.filter (·.1 == name) with
  | [] => .ok none
  | [(_, value)] => (read value).map some
  | _ => .error (.repeated name)

/-- The value of a field, or else its usual value. -/
def fieldOr {α : Type} (entries : List (String × Document)) (name : String) (read : Reader α)
    (usual : α) : Except SettingsFault α :=
  (field? entries name read).map (·.getD usual)

/-- The value of a field that must not be left out. -/
def field {α : Type} (entries : List (String × Document)) (name : String) (read : Reader α) :
    Except SettingsFault α := do
  match ← field? entries name read with
  | some value => return value
  | none => throw (.missing name)

/-! ## Synchronization -/

namespace SecondaryAlgorithm

/-- The algorithm of a name, with its parameters read on demand. -/
def ofName (name : String) (segments : Except SettingsFault Nat) :
    Except SettingsFault SecondaryAlgorithm :=
  match name with
  | "full" => .ok .full
  | "partial" => segments.map .segmented
  | "diff" => .ok .differential
  | name => .error (.unknownName name)

/-- An algorithm: a map with its kind and parameters, or a list of these. -/
def ofDocument : Reader SecondaryAlgorithm
  | .map entries => do
    ofName (← field entries "kind" Document.text) (field entries "segments" Document.count)
  | .list [kind] => do ofName (← Document.text kind) (.error (.missing "segments"))
  | .list [kind, segments] => do
    match ← Document.text kind with
    | "partial" => (Document.count segments).map .segmented
    | _ => throw (.wrongType "an algorithm")
  | _ => .error (.wrongType "an algorithm")

end SecondaryAlgorithm

/-- The settings of a synchronizer. -/
def SyncSettings.ofDocument : Reader SyncSettings := fun document => do
  let fields ← document.entries
  let usual : SyncSettings := default
  return {
    fftSize := ← fieldOr fields "fft_size" Document.count usual.fftSize
    frameSize := ← fieldOr fields "frame_size" Document.count usual.frameSize
    threshold := ← fieldOr fields "threshold" Document.number usual.threshold
    algorithm := ← fieldOr fields "sss_algorithm" SecondaryAlgorithm.ofDocument usual.algorithm
    detectCp := ← fieldOr fields "detect_cp" Document.truth usual.detectCp
    correctOffset := ← fieldOr fields "correct_cfo" Document.truth usual.correctOffset
    secondaryEnabled := ← fieldOr fields "sss_enabled" Document.truth usual.secondaryEnabled
    alpha := ← fieldOr fields "em_alpha" Document.number usual.alpha }

/-! ## Surveys -/

/-- The recording that is searched. -/
structure CaptureSettings where
  file : String
  /-- Samples passed over at its start. -/
  offset : Nat
deriving DecidableEq, Repr

/-- The limits of a search. -/
structure SearchSettings where
  /-- The sectors searched for; all three when there are none. -/
  sectors : List Nat
  /-- The most frames searched for each sector. -/
  maxFrames? : Option Nat
deriving DecidableEq, Repr

instance : Inhabited SearchSettings := ⟨⟨[], none⟩⟩

/-- The settings of a survey. -/
structure Settings where
  capture : CaptureSettings
  sync : SyncSettings
  search : SearchSettings
  logLevel : String

/-- The usual level of messages about the work. -/
def defaultLogLevel : String := "info"

/-- The recording to search. -/
def CaptureSettings.ofDocument : Reader CaptureSettings := fun document => do
  let fields ← document.entries
  return {
    file := ← field fields "file" Document.text
    offset := ← fieldOr fields "offset" Document.count 0 }

/-- The limits of a search. -/
def SearchSettings.ofDocument : Reader SearchSettings := fun document => do
  let fields ← document.entries
  return {
    sectors := ← fieldOr fields "n_id_2" (Document.listOf (Document.natBelow 256)) []
    maxFrames? := ← fieldOr fields "max_frames" (Document.optional Document.count) none }

/-- The level of messages. -/
def logLevelOfDocument : Reader String := fun document => do
  fieldOr (← document.entries) "level" Document.text defaultLogLevel

namespace Settings

/-- The settings in a document. -/
def ofDocument : Reader Settings := fun document => do
  let fields ← document.entries
  return {
    capture := ← field fields "capture" CaptureSettings.ofDocument
    sync := ← fieldOr fields "sync" SyncSettings.ofDocument default
    search := ← fieldOr fields "search" SearchSettings.ofDocument default
    logLevel := ← fieldOr fields "log" logLevelOfDocument defaultLogLevel }

/-- The settings in a text. -/
def read (text : String) : Except SettingsFault Settings := do
  match Document.read text with
  | .ok document => ofDocument document
  | .error fault => throw (.unreadable fault)

end Settings

end LteReceiver
