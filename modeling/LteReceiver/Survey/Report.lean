import LteReceiver.Decimal.Shortest
import LteReceiver.Survey.Document.Json
import LteReceiver.Survey.Search

/-!
# Reports

Detections and summaries as lines of JSON, one object each, with their fields in a fixed order. A
number in single precision is written with its shortest decimal; one that is not finite is null.
-/

namespace LteReceiver

/-! ## Numbers -/

/-- The point is written out from 1e-6 up to 1e13. -/
def reportRange : PointRange := ⟨13, 6⟩

/-- A number in single precision as text. -/
def numberText (x : Float32) : String :=
  match Binary.ofFloat32? x with
  | none => "null"
  | some number =>
    let sign := if number.negative then "-" else ""
    sign ++ ((number.shortest? .single).getD ⟨0, 0⟩).text reportRange

/-! ## Lines -/

/-- A count, or null. -/
def Document.ofCount? : Option Nat → Document
  | some n => ofPlain (toString n)
  | none => ofPlain "null"

/-- A detection as an object. -/
def Detection.document (detection : Detection) : Document :=
  .map [
    ("n_id_2", .ofCount? detection.sector),
    ("frame", .ofCount? detection.frame),
    ("position", .ofCount? detection.position),
    ("peak_value", .ofPlain (numberText detection.ratio)),
    ("cell_id", .ofCount? (detection.cellId?.map (·.value))),
    ("sf_idx", .ofCount? detection.subframe?),
    ("cfo", .ofPlain (numberText detection.frequencyOffset)),
    ("cp", .ofText detection.cp.name),
    ("sss", .ofText detection.secondaryStep.name)]

/-- A detection as a line. -/
def Detection.line (detection : Detection) : String :=
  detection.document.json

/-- A summary as an object. -/
def Summary.document (summary : Summary) : Document :=
  .map [
    ("cell_id", .ofCount? (summary.cellId?.map (·.value))),
    ("votes", .ofCount? summary.votes),
    ("detections", .ofCount? summary.detections)]

/-- A summary as a line. -/
def Summary.line (summary : Summary) : String :=
  summary.document.json

end LteReceiver
