import LteReceiver.Receiver
import LteReceiver.Survey.Settings

/-!
# Surveys

A survey searches a recording for cells. For each sector it goes through the recording frame by
frame with one synchronizer; every frame in which a primary symbol is detected is reported, and each
identity decoded on the way is a vote for a cell. The cell with the most votes wins, and of several
with as many, the one with the smallest identity.

The findings are the state of the search, so that those made before a failure are kept: the
detections and the votes. The order in which the votes are kept is not part of what they mean.
-/

namespace LteReceiver

/-! ## Detections and failures -/

/-- A detection in one frame of a recording. -/
structure Detection where
  /-- The sector searched for. -/
  sector : Nat
  /-- The frame, counted from the start of the search. -/
  frame : Nat
  /-- The end of the primary symbol in the recording. -/
  position : Nat
  /-- The peak power over the mean power. -/
  ratio : Float32
  cellId? : Option Pci
  subframe? : Option Nat
  frequencyOffset : Float32
  cp : CyclicPrefix
  secondaryStep : StepOutcome

/-- Why a survey ends early. -/
inductive SurveyFault where
  | capture (error : ExternalError)
  | sector (n : Nat)
  | search (error : ReceiveError)
deriving DecidableEq, Repr

/-- The wording of a failure. -/
def SurveyFault.message : SurveyFault → String
  | capture error => error.message
  | sector n => s!"Invalid N_id_2: {n}"
  | search error => error.message

/-! ## Votes -/

/-- Count a vote among votes for cells. A cell without a vote is put at the end. -/
def addVote (id : Pci) : List (Pci × Nat) → List (Pci × Nat)
  | [] => [(id, 1)]
  | (other, votes) :: rest =>
    if other = id then (other, votes + 1) :: rest else (other, votes) :: addVote id rest

theorem keys_addVote (id : Pci) (entries : List (Pci × Nat)) :
    (addVote id entries).map (·.1) =
      if id ∈ entries.map (·.1) then entries.map (·.1) else entries.map (·.1) ++ [id] := by
  induction entries with
  | nil => rfl
  | cons entry rest ih =>
    obtain ⟨other, votes⟩ := entry
    by_cases hother : other = id
    · simp [addVote, hother]
    · have hne : ¬ id = other := fun h => hother h.symm
      simp only [addVote, if_neg hother, List.map_cons, ih, List.mem_cons, hne, false_or]
      split <;> rfl

/-- The votes for each cell that has any. -/
structure Tally where
  entries : List (Pci × Nat)
  /-- Every cell is listed once. -/
  nodup : (entries.map (·.1)).Nodup

namespace Tally

/-- No votes. -/
def empty : Tally := ⟨[], List.nodup_nil⟩

/-- Count a vote. -/
def add (tally : Tally) (id : Pci) : Tally where
  entries := addVote id tally.entries
  nodup := by
    rw [keys_addVote]
    split
    · exact tally.nodup
    next hnew =>
      refine List.nodup_append.mpr ⟨tally.nodup, by simp, ?_⟩
      rintro first hfirst second hsecond rfl
      exact hnew (List.mem_singleton.mp hsecond ▸ hfirst)

end Tally

/-- Of two cells with their votes, the one with more, or else the one with the smaller identity. -/
def moreVotes (a b : Pci × Nat) : Pci × Nat :=
  if a.2 < b.2 ∨ (a.2 = b.2 ∧ b.1.value < a.1.value) then b else a

/-- The winner among cells with their votes. -/
def winner? : List (Pci × Nat) → Option (Pci × Nat)
  | [] => none
  | first :: rest => some (rest.foldl moreVotes first)

/-! ## What is found -/

/-- What a survey has found so far. -/
structure Findings where
  detections : Array Detection
  votes : Tally

namespace Findings

/-- Nothing was found yet. -/
def empty : Findings := ⟨#[], .empty⟩

/-- Note a detection, which is a vote for its cell if it has one. -/
def note (findings : Findings) (detection : Detection) : Findings where
  detections := findings.detections.push detection
  votes :=
    match detection.cellId? with
    | some id => findings.votes.add id
    | none => findings.votes

end Findings

/-- Part of a survey, with the findings so far. -/
abbrev Search := EStateM SurveyFault Findings

/-! ## One sector -/

/-- The detection that an acquisition is, in the frame of a recording that starts at an offset. -/
def Acquisition.detection (found : Acquisition) (sector frame offset : Nat) : Detection :=
  { sector := sector
    frame := frame
    position := offset + found.outcome.position
    ratio := found.outcome.ratio
    cellId? := found.cellId?
    subframe? := found.subframe?
    frequencyOffset := found.frequencyOffset
    cp := found.cp
    secondaryStep := found.outcome.secondaryStep }

section Frames

variable {σ : Type} (attempt : Nat → EStateM ReceiveError σ Acquisition)

/-- Search one frame, and tell whether there is a detection in it. -/
def searchFrame (sector frame offset : Nat) (s : σ) : Search (Bool × σ) := do
  match attempt offset s with
  | .error e _ => throw (.search e)
  | .ok found s =>
    if found.outcome.detected then
      modify (·.note (found.detection sector frame offset))
    return (found.outcome.detected, s)

/-- A frame that is not among the first ones is not searched, where there is such a limit. -/
def withinLimit (most? : Option Nat) (frame : Nat) : Bool :=
  most?.all (frame < ·)

/-- Search the whole frames of a recording one after the other, from an offset on and with an
attempt in each, and count the detections. A frame has to have samples, or the search would not move
on. -/
def searchFrames (sector samples frameSize : Nat) (most? : Option Nat) (s : σ)
    (offset frame detections : Nat) : Search (Nat × σ) := do
  if _ : 0 < frameSize ∧ offset + frameSize ≤ samples ∧ withinLimit most? frame then
    let (detected, s) ← searchFrame attempt sector frame offset s
    searchFrames sector samples frameSize most? s (offset + frameSize) (frame + 1)
      (if detected then detections + 1 else detections)
  else return (detections, s)
termination_by samples - offset

end Frames

/-- The synchronizer for a sector. -/
def sectorSynchronizer (settings : SyncSettings) (transform : Transform) (sector : Nat) :
    Except ConfigurationFault Synchronizer := do
  let s ← Synchronizer.ofSettings settings transform
  s.setSector sector

/-- Search for one sector, and count the detections. -/
def searchSector (settings : Settings) (samples : Array Sample) (instruments : Instruments)
    (sector : Nat) : Search Nat := do
  match sectorSynchronizer settings.sync instruments.transform sector with
  | .error fault => throw (.search (.configuration fault))
  | .ok s =>
    let attempt := fun offset => Synchronizer.acquire samples offset instruments
    let (detections, _) ← searchFrames attempt sector samples.size s.frameSize
      settings.search.maxFrames? s settings.capture.offset 0 0
    return detections

/-! ## The survey -/

/-- What a survey found. -/
structure Summary where
  /-- The cell with the most votes. -/
  cellId? : Option Pci
  votes : Nat
  detections : Nat
deriving DecidableEq, Repr

/-- The outcome of a survey. -/
def summarize (votes : Tally) (detections : Nat) : Summary :=
  let winner := winner? votes.entries
  { cellId? := winner.map (·.1)
    votes := (winner.map (·.2)).getD 0
    detections := detections }

/-- Search for sectors one after the other, and count the detections. -/
def searchSectors (settings : Settings) (samples : Array Sample) (instruments : Instruments) :
    List Nat → Nat → Search Nat
  | [], detections => return detections
  | sector :: rest, detections => do
    let more ← searchSector settings samples instruments sector
    searchSectors settings samples instruments rest (detections + more)

/-- Search for sectors, and sum up. -/
def searchAll (settings : Settings) (samples : Array Sample) (instruments : Instruments)
    (sectors : List Nat) : Search Summary := do
  let detections ← searchSectors settings samples instruments sectors 0
  return summarize (← get).votes detections

/-- The sectors to search for: the one asked for, or those of the settings, or all three. -/
def Settings.sectors (settings : Settings) (asked? : Option Nat) : Except SurveyFault (List Nat) :=
  match asked? with
  | some n => if 2 < n then .error (.sector n) else .ok [n]
  | none => .ok (if settings.search.sectors.isEmpty then [0, 1, 2] else settings.search.sectors)

/-- Search a recording with given instruments, and with detections from before. The recording has to
be at hand before the sector is looked at. -/
def surveyWith (instruments : Instruments) (settings : Settings)
    (capture : Except ExternalError (Array Sample)) (asked? : Option Nat) :
    EStateM SurveyFault (Array Detection) Summary := fun earlier =>
  match capture, settings.sectors asked? with
  | .error e, _ => .error (.capture e) earlier
  | _, .error fault => .error fault earlier
  | .ok samples, .ok sectors =>
    match searchAll settings samples instruments sectors .empty with
    | .ok summary findings => .ok summary (earlier ++ findings.detections)
    | .error fault findings => .error fault (earlier ++ findings.detections)

/-- Search a recording with the instruments of the receiver. -/
def survey : Settings → Except ExternalError (Array Sample) → Option Nat →
    EStateM SurveyFault (Array Detection) Summary :=
  surveyWith .singlePrecision

end LteReceiver
