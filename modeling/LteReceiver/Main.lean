import LteReceiver.Signal.Capture
import LteReceiver.Survey.Options
import LteReceiver.Survey.Report

/-!
# The command line

Searches the recording that a settings file names, and prints what was found as lines of JSON when
asked to. The settings are read first, then the recording.
-/

namespace LteReceiver

/-- An error of the system in the words of a capture's error. -/
def systemError (error : IO.Error) : ExternalError :=
  match error with
  | .noFileOrDirectory .. => Capture.notFound
  | error => .io error.toString

/-- The samples of a recording. -/
def readCapture (file : String) : IO (Except ExternalError (Array Sample)) := do
  try
    let bytes ← IO.FS.readBinFile file
    return (Capture.decode bytes.toList).map (·.map RawSample.toSample)
  catch error =>
    return .error (systemError error)

/-- Report a failure. -/
def fail (message : String) : IO UInt32 := do
  IO.eprintln s!"Error: {message}"
  return 1

/-- Run a survey with settings that were read. -/
def runSurvey (options : Options) (settings : Settings) : IO UInt32 := do
  let capture ← readCapture (options.input?.getD settings.capture.file)
  let print := fun line => if options.json then IO.println line else pure ()
  match survey settings capture options.sector? #[] with
  | .error fault detections =>
    detections.forM fun detection => print detection.line
    fail fault.message
  | .ok summary detections =>
    detections.forM fun detection => print detection.line
    print summary.line
    return 0

end LteReceiver

open LteReceiver in
/-- Search a recording for cells. -/
def main (arguments : List String) : IO UInt32 := do
  match Options.read arguments with
  | .error fault =>
    IO.eprintln s!"error: {fault.message}"
    return 2
  | .ok options =>
    let text ← try
        Except.ok <$> IO.FS.readFile options.config
      catch error => pure (Except.error (systemError error))
    match text.map Settings.read with
    | .error error => fail error.message
    | .ok (.error fault) => fail fault.message
    | .ok (.ok settings) => runSurvey options settings
