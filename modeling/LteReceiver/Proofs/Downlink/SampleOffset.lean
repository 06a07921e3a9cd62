import LteReceiver.Proofs.Downlink.Plan
import LteReceiver.Proofs.Downlink.Runs
import LteReceiver.Proofs.Signal.Rotations
import LteReceiver.Proofs.Transport.Combining

/-!
# Taking out the sampling offset

Between demodulation and channel estimation the grids of all antennas go through one rotator, one
after the other and each symbol by symbol. The first symbol makes it ready, and from there on it
stays as it is (`Settles`), so all symbols are turned by one table. It is coherent in every downlink
(`tableCoherent_after`).

A grid is one buffer, of which the symbols are the chunks. There are as many chunks in it as the
subframe has symbols, and nothing is left over (`CellConfig.resourceElements_eq`), so the limit on
their number cuts nothing off. `Downlink.elements_of_decodeSamples` says how each resource element
is turned before the channel is estimated.
-/

namespace LteReceiver

/-! ## States that settle -/

section Settling

variable {α β τ : Type} {n : Nat} {step : α → StateM τ β} {f : α → β} {start ready : τ}

/-- A step that leaves one state, from the start as well as from that state on, and answers the same
from both. -/
structure Settles (step : α → StateM τ β) (f : α → β) (start ready : τ) : Prop where
  first : ∀ item, step item start = (f item, ready)
  later : ∀ item, step item ready = (f item, ready)

theorem mapM_cons_eq {item : α} {rest : List α} {answer : β} {middle : τ}
    (h : step item start = (answer, middle)) :
    (item :: rest).mapM step start =
      (answer :: (rest.mapM step middle).1, (rest.mapM step middle).2) := by
  rw [List.mapM_cons]
  show (let (answer, middle) := step item start
    let (answers, last) := rest.mapM step middle
    (answer :: answers, last)) = _
  rw [h]
  rfl

theorem Settles.mapM_ready (h : Settles step f start ready) (items : List α) :
    items.mapM step ready = (items.map f, ready) := by
  induction items with
  | nil => rfl
  | cons item rest ih =>
    rw [mapM_cons_eq (h.later item), ih]
    rfl

theorem Settles.mapM_start (h : Settles step f start ready) {items : List α} (hne : items ≠ []) :
    items.mapM step start = (items.map f, ready) := by
  cases items with
  | nil => exact absurd rfl hne
  | cons item rest =>
    rw [mapM_cons_eq (h.first item), h.mapM_ready]
    rfl

/-- What a step does to a vector is what it does to the list of its entries. -/
theorem mapM_eq_of_toList {items : Vector α n} {last : τ}
    (h : items.toList.mapM step start = (items.toList.map f, last)) :
    items.mapM step start = (items.map f, last) := by
  have harray : Vector.toArray <$> items.mapM step =
      List.toArray <$> items.toList.mapM step := by
    rw [Vector.toArray_mapM, Array.mapM_eq_mapM_toList]
    rfl
  have hrun : ((items.mapM step start).1.toArray, (items.mapM step start).2) =
      ((items.toList.mapM step start).1.toArray, (items.toList.mapM step start).2) :=
    congrFun harray start
  rw [h, Prod.mk.injEq] at hrun
  refine Prod.ext (Vector.toArray_inj.mp (hrun.1.trans ?_)) hrun.2
  show (items.toArray.toList.map f).toArray = items.toArray.map f
  rw [← Array.toList_map, Array.toArray_toList]

/-- A step that settles also does so when it goes through vectors. -/
theorem Settles.mapM (h : Settles step f start ready) (hn : 0 < n) :
    Settles (fun items : Vector α n => items.mapM step) (·.map f) start ready where
  first items := by
    refine mapM_eq_of_toList (h.mapM_start fun hnil => ?_)
    have hlength : items.toList.length = n := by simp
    rw [hnil] at hlength
    exact absurd hlength (Nat.ne_of_lt hn)
  later items := mapM_eq_of_toList (h.mapM_ready _)

end Settling

/-! ## Symbols of a grid -/

namespace CellConfig

variable (cell : CellConfig)

theorem symbolsPerSubframe_pos : 0 < cell.symbolsPerSubframe := by
  unfold symbolsPerSubframe
  cases cell.cp <;> decide

/-- The symbols of a subframe fill its grid. -/
theorem resourceElements_eq :
    cell.resourceElements = cell.symbolsPerSubframe * cell.subcarriers := by
  rw [resourceElements, symbolsPerSubframe, subcarriers, Nat.mul_assoc, Nat.mul_comm]

/-- Every resource element lies in one of the symbols. -/
theorem div_subcarriers_lt {i : Nat} (hi : i < cell.resourceElements) :
    i / cell.subcarriers < cell.symbolsPerSubframe := by
  rw [resourceElements_eq, Nat.mul_comm] at hi
  exact Nat.div_lt_of_lt_mul hi

/-- A grid is at least one symbol long. -/
theorem min_subcarriers : min cell.subcarriers cell.resourceElements = cell.subcarriers := by
  rw [resourceElements_eq]
  exact Nat.min_eq_left (Nat.le_mul_of_pos_left _ cell.symbolsPerSubframe_pos)

end CellConfig

namespace Downlink

variable {σ : Type} {cell : CellConfig} {antennas : Nat} {blocks : Blocks σ cell antennas}

/-! ## Demodulated grids -/

/-- An antenna that is demodulated is left with what the demodulator makes of its input. -/
theorem grids_of_demodulate {antenna : Fin antennas} {samples : Array Sample}
    {downlink demodulated : Downlink σ cell antennas}
    (h : demodulate blocks antenna samples downlink = .ok () demodulated) :
    (∃ left, blocks.demodulate samples (downlink.grids.get antenna, downlink.blockState) =
      .ok () (demodulated.grids.get antenna, left)) ∧
    ∀ other ≠ antenna, demodulated.grids.get other = downlink.grids.get other := by
  unfold demodulate on at h
  cases hr : blocks.demodulate samples (downlink.grids.get antenna, downlink.blockState) with
  | error e rest =>
    rw [hr] at h
    cases h
  | ok answer rest =>
    rw [hr] at h
    obtain ⟨grid, left⟩ := rest
    cases h
    constructor
    · refine ⟨left, ?_⟩
      have hset : (downlink.grids.set antenna grid antenna.isLt).get antenna = grid :=
        Vector.getElem_set_self antenna.isLt
      rw [hset]
    · intro other hother
      exact Vector.getElem_set_ne antenna.isLt other.isLt (Fin.val_ne_of_ne hother.symm)

/-- A grid is set in its antenna's turn, and left alone in those of the others. -/
theorem grids_of_forM {inputs : Fin antennas → Array Sample} {order : List (Fin antennas)}
    (hnodup : order.Nodup) {downlink demodulated : Downlink σ cell antennas}
    (h : order.forM (m := Action σ cell antennas)
      (fun antenna => demodulate blocks antenna (inputs antenna)) downlink = .ok () demodulated) :
    (∀ other ∉ order, demodulated.grids.get other = downlink.grids.get other) ∧
    ∀ antenna ∈ order, ∃ before left, blocks.demodulate (inputs antenna)
      (downlink.grids.get antenna, before) = .ok () (demodulated.grids.get antenna, left) := by
  induction order generalizing downlink with
  | nil =>
    cases h
    exact ⟨fun _ _ => rfl, fun antenna hmem => absurd hmem List.not_mem_nil⟩
  | cons antenna rest ih =>
    obtain ⟨hnotMem, hrest⟩ := List.nodup_cons.mp hnodup
    change (demodulate blocks antenna (inputs antenna) >>= fun _ => rest.forM _) downlink = _ at h
    cases hr : demodulate blocks antenna (inputs antenna) downlink with
    | error e middle =>
      rw [bind_of_error hr] at h
      cases h
    | ok answer middle =>
      rw [bind_of_ok hr] at h
      obtain ⟨⟨left, hcall⟩, hothers⟩ := grids_of_demodulate hr
      obtain ⟨hkept, hmembers⟩ := ih hrest h
      constructor
      · intro other hother
        rw [hkept other (List.not_mem_of_not_mem_cons hother),
          hothers other (List.ne_of_not_mem_cons hother)]
      · intro member hmem
        rcases List.mem_cons.mp hmem with rfl | hlater
        · rw [hkept member hnotMem]
          exact ⟨_, left, hcall⟩
        · rw [← hothers member (fun heq => hnotMem (heq ▸ hlater))]
          exact hmembers member hlater

/-- Every antenna's grid is what the demodulator makes of that antenna's input. -/
theorem grids_of_demodulateAll {inputs : List (Array Sample)} (hinputs : antennas ≤ inputs.length)
    {downlink demodulated : Downlink σ cell antennas}
    (h : demodulateAll blocks inputs downlink = .ok () demodulated) (antenna : Fin antennas) :
    ∃ before left, blocks.demodulate (inputs.getD antenna.val #[])
      (downlink.grids.get antenna, before) = .ok () (demodulated.grids.get antenna, left) := by
  rw [demodulateAll_eq hinputs] at h
  exact (grids_of_forM (List.nodup_finRange antennas) h).2 antenna (List.mem_finRange antenna)

/-! ## Turning the symbols -/

section Turning

variable {rotator : Rotator} {frequency : Float32}

/-- The table is made ready for the first symbol, and is ready for all others then. -/
theorem settles_rotateGrid (hcell : 0 < cell.subcarriers) (frequency : Float32)
    (rotator : Rotator) :
    let ready := rotator.prepare cell.subcarriers frequency
    Settles (rotateGrid frequency : Grid cell → StateM Rotator (Grid cell))
      (fun grid => (rotateGrid frequency grid ready).1) rotator ready := by
  intro ready
  have hready (grid : Grid cell) :
      ready.ReadyFor (min cell.subcarriers grid.toArray.size) frequency := by
    rw [Vector.size_toArray, cell.min_subcarriers]
    exact rotator.readyFor_prepare _ _
  have hlater (grid : Grid cell) :
      rotateGrid frequency grid ready = ((rotateGrid frequency grid ready).1, ready) :=
    Prod.ext rfl ((hready grid).correctChunks _)
  refine ⟨fun grid => ?_, hlater⟩
  have hfilled : 0 < grid.toArray.size := by
    rw [Vector.size_toArray, cell.resourceElements_eq]
    exact Nat.mul_pos cell.symbolsPerSubframe_pos hcell
  have hchunks : rotator.correctChunks cell.subcarriers frequency cell.symbolsPerSubframe
      grid.toArray = _ := rotator.correctChunks_prepare hfilled cell.symbolsPerSubframe_pos
  rw [Vector.size_toArray, cell.min_subcarriers] at hchunks
  have hsamples := congrArg Prod.fst hchunks
  have hleft := congrArg Prod.snd hchunks
  have hfirst : rotateGrid frequency grid rotator = rotateGrid frequency grid ready :=
    Prod.ext (Vector.toArray_inj.mp hsamples) hleft
  exact hfirst.trans (hlater grid)

/-- All symbols of all antennas are turned by the table that is made ready for the first one. -/
theorem rotateGrids_eq (hcell : 0 < cell.subcarriers) (hantennas : 0 < antennas)
    (frequency : Float32) (grids : Grids cell antennas) (rotator : Rotator) :
    rotateGrids frequency grids rotator =
      let ready := rotator.prepare cell.subcarriers frequency
      (grids.map fun grid => (rotateGrid frequency grid ready).1, ready) :=
  ((settles_rotateGrid hcell frequency rotator).mapM hantennas).first grids

/-- Each resource element is turned by the rotation at its position in its symbol. -/
theorem getElem?_rotateGrid (hcell : 0 < cell.subcarriers) (hcoherent : rotator.Coherent)
    (hready : rotator.ReadyFor cell.subcarriers frequency) (grid : Grid cell) (i : Nat) :
    (rotateGrid frequency grid rotator).1[i]? =
      (grid[i]?).map (· * rotation rotator.frequency (i % cell.subcarriers)) := by
  have hchunks : rotator.ReadyFor (min cell.subcarriers grid.toArray.size) frequency :=
    hready.mono (Nat.min_le_left _ _)
  have hturned := hcoherent.getElem?_correctChunks hchunks hcell cell.symbolsPerSubframe i
  rw [← Vector.getElem?_toArray, ← Vector.getElem?_toArray]
  by_cases hi : i < cell.resourceElements
  · exact hturned.trans (if_pos (cell.div_subcarriers_lt hi))
  · rw [Array.getElem?_eq_none (by rw [Vector.size_toArray]; omega),
      Array.getElem?_eq_none (by rw [Vector.size_toArray]; omega)]
    rfl

end Turning

section RemoveOffset

variable {downlink : Downlink σ cell antennas}

theorem removeOffset_of_zero (h : (downlink.sampleOffset != 0) = false) :
    downlink.removeOffset = downlink := by
  rw [removeOffset, h]
  rfl

theorem removeOffset_of_offset (hcell : 0 < cell.subcarriers) (hantennas : 0 < antennas)
    (h : (downlink.sampleOffset != 0) = true) :
    downlink.removeOffset =
      let ready := downlink.rotator.prepare cell.subcarriers downlink.offsetFrequency
      { downlink with
        grids := downlink.grids.map fun grid =>
          (rotateGrid downlink.offsetFrequency grid ready).1
        rotator := ready } := by
  rw [removeOffset, if_pos h, rotateGrids_eq hcell hantennas]

end RemoveOffset

/-! ## The table of a downlink -/

/-- The table that turns the symbols is that of its frequency. -/
def TableCoherent (downlink : Downlink σ cell antennas) : Prop :=
  downlink.rotator.Coherent

section Cell

variable (hcell : 0 < cell.subcarriers) (hantennas : 0 < antennas)
include hcell hantennas

theorem TableCoherent.removeOffset {downlink : Downlink σ cell antennas}
    (h : downlink.TableCoherent) : downlink.removeOffset.TableCoherent := by
  cases hoffset : downlink.sampleOffset != 0 with
  | false => rwa [removeOffset_of_zero hoffset]
  | true =>
    rw [removeOffset_of_offset hcell hantennas hoffset]
    exact Rotator.Coherent.prepare h _ _

/-- Each element is turned by the rotation of its position in its symbol. -/
theorem TableCoherent.getElem?_removeOffset {downlink : Downlink σ cell antennas}
    (h : downlink.TableCoherent) (hoffset : (downlink.sampleOffset != 0) = true)
    (antenna : Fin antennas) (i : Nat) :
    (downlink.removeOffset.grids.get antenna)[i]? =
      ((downlink.grids.get antenna)[i]?).map
        (· * rotation downlink.removeOffset.rotator.frequency (i % cell.subcarriers)) := by
  rw [removeOffset_of_offset hcell hantennas hoffset]
  let ready := downlink.rotator.prepare cell.subcarriers downlink.offsetFrequency
  have hready : ready.Coherent := Rotator.Coherent.prepare h _ _
  have hgrid : (downlink.grids.map fun grid =>
      (rotateGrid downlink.offsetFrequency grid ready).1).get antenna =
        (rotateGrid downlink.offsetFrequency (downlink.grids.get antenna) ready).1 :=
    Vector.getElem_map _ antenna.isLt
  dsimp only
  rw [hgrid]
  exact getElem?_rotateGrid hcell hready (Rotator.readyFor_prepare _ _ _) _ i

end Cell

section Sustains

variable (hcell : 0 < cell.subcarriers) (hantennas : 0 < antennas) (blocks)

theorem sustains_of_keeps {α : Type} {action : Action σ cell antennas α}
    (h : Keeps (·.rotator) action) : Sustains TableCoherent action :=
  h.sustains _

theorem sustains_decodeEstimate (subframe : Nat) :
    Sustains TableCoherent (decodeEstimate blocks subframe) :=
  sustains_of_keeps (keeps_decodeEstimate subframe fun _ _ _ => rfl)

include hcell hantennas in
theorem sustains_decodeSamples (inputs : List (Array Sample)) (subframe : Nat) :
    Sustains TableCoherent (decodeSamples blocks inputs subframe) := by
  unfold decodeSamples
  split
  · exact fun _ h => h
  · exact (sustains_of_keeps (keeps_demodulateAll inputs fun _ _ _ => rfl)).bind fun _ =>
      (sustains_modify fun _ h => h.removeOffset hcell hantennas).bind fun _ =>
        sustains_decodeEstimate blocks subframe

include hcell hantennas in
theorem sustains_processSubframe (frame : UInt32) (subframe : Nat) (inputs : List (Array Sample))
    (rnti : Rnti) : Sustains TableCoherent (processSubframe blocks frame subframe inputs rnti) := by
  have hreceive : Sustains TableCoherent (receiveMessage blocks subframe inputs rnti) := by
    unfold receiveMessage
    split
    · exact fun _ h => h
    · exact (sustains_decodeSamples blocks hcell hantennas inputs subframe).bind fun cfi =>
        sustains_of_keeps ((keeps_takeSoftBits subframe cfi fun _ _ => rfl).bind fun _ =>
          (keeps_findDownlink cfi subframe rnti fun _ _ _ => rfl).bind fun _ => keeps_pure _)
  rw [processSubframe_eq]
  exact hreceive.bind fun found =>
    sustains_of_keeps (keeps_decodeMessage (fun _ _ _ _ _ => rfl) frame subframe rnti found)

include hcell hantennas in
theorem tableCoherent_perform {downlink : Downlink σ cell antennas} (h : downlink.TableCoherent)
    (event : DownlinkEvent) : (perform blocks downlink event).TableCoherent := by
  cases event with
  | process frame subframe inputs rnti =>
    exact sustains_processSubframe blocks hcell hantennas frame subframe inputs rnti downlink h
  | decodeSamples inputs subframe =>
    exact sustains_decodeSamples blocks hcell hantennas inputs subframe downlink h
  | decodeEstimate subframe => exact sustains_decodeEstimate blocks subframe downlink h
  | findDownlink cfi subframe rnti =>
    exact sustains_of_keeps (keeps_findDownlink cfi subframe rnti fun _ _ _ => rfl) downlink h
  | findUplink cfi subframe rnti =>
    have hkeeps : Keeps (·.rotator) (findUplink blocks cfi subframe rnti) :=
      keeps_on fun _ _ => rfl
    exact sustains_of_keeps hkeeps downlink h
  | decodeAcknowledgement subframe lowestPrb cyclicShift =>
    exact sustains_of_keeps (keeps_get.bind fun _ => keeps_onBlocks fun _ _ => rfl) downlink h
  | setRnti rnti =>
    simp only [perform, setRnti]
    split
    · exact h
    · exact h
  | setMode | setSampleOffset | reset => exact h

include hcell hantennas in
theorem tableCoherent_after {start : Downlink σ cell antennas} (h : start.TableCoherent)
    (history : List DownlinkEvent) : (after blocks start history).TableCoherent := by
  induction history with
  | nil => exact h
  | cons event past ih => exact tableCoherent_perform blocks hcell hantennas ih event

end Sustains

/-- A downlink is made for a cell with subcarriers, with antennas and with a coherent table. -/
theorem tableCoherent_ofCell {s : σ} {start : Downlink σ cell antennas}
    (h : ofCell cell antennas s = .ok start) :
    0 < cell.subcarriers ∧ 0 < antennas ∧ start.TableCoherent := by
  obtain ⟨fftSize, hfftSize, hstart⟩ := eq_of_ofCell h
  refine ⟨?_, Nat.pos_of_ne_zero fun hzero => ?_, ?_⟩
  · refine Nat.mul_pos (Nat.pos_of_ne_zero fun hzero => ?_) (by decide)
    rw [hzero] at hfftSize
    cases hfftSize
  · unfold ofCell at h
    rw [if_pos (.inl hzero)] at h
    split at h
    · cases h
    · cases h
  · rw [hstart]
    exact Rotator.coherent_ofSize _

/-! ## From samples to the estimate -/

section DecodeSamples

variable {downlink demodulated : Downlink σ cell antennas} {inputs : List (Array Sample)}

theorem decodeSamples_eq (hinputs : antennas ≤ inputs.length) (subframe : Nat) :
    decodeSamples blocks inputs subframe =
      demodulateAll blocks inputs >>= fun _ =>
        modify removeOffset >>= fun _ => decodeEstimate blocks subframe :=
  if_neg (Nat.not_lt.mpr hinputs)

theorem decodeSamples_of_demodulated (hinputs : antennas ≤ inputs.length)
    (h : demodulateAll blocks inputs downlink = .ok () demodulated) (subframe : Nat) :
    decodeSamples blocks inputs subframe downlink =
      decodeEstimate blocks subframe demodulated.removeOffset := by
  rw [decodeSamples_eq hinputs, bind_of_ok h]
  rfl

/-- Until then the estimate and the search are as they were. -/
theorem kept_of_demodulated (h : demodulateAll blocks inputs downlink = .ok () demodulated) :
    demodulated.removeOffset.estimate = downlink.estimate ∧
      demodulated.removeOffset.search = downlink.search := by
  have hkeeps : Keeps (fun d => (d.estimate, d.search)) (demodulateAll blocks inputs) :=
    keeps_demodulateAll inputs fun _ _ _ => rfl
  have hkept := hkeeps downlink
  rw [h] at hkept
  obtain ⟨_, _, hremoved⟩ := removeOffset_eq demodulated
  rw [hremoved]
  exact Prod.mk.inj hkept

/-- Antenna after antenna is demodulated, and then the channel is estimated from the grids without
the offset. -/
theorem requests_of_demodulated (hinputs : antennas ≤ inputs.length)
    (h : demodulateAll blocks inputs downlink = .ok () demodulated) {subframe : Nat}
    (hsubframe : subframe < subframesPerFrame) :
    (List.finRange antennas).map (demodulation inputs downlink.grids) ++
        [.estimate demodulated.removeOffset.grids downlink.estimate subframe] <+:
      (callsOf (decodeSamples blocks.recorded inputs subframe (downlink.noting []))).map
        (·.request) := by
  obtain ⟨calls, hcalls, hplan⟩ : Meets (demodulateAll blocks.recorded inputs)
      (demodulateAll blocks inputs) downlink _ := meets_demodulateAll (fun _ => False) hinputs
  obtain ⟨_, hremove, -, rfl, -⟩ :=
    (meets_removeOffset : Meets (modify removeOffset) (modify removeOffset) demodulated _)
  obtain ⟨more, hmore, estimate, hbegun, -⟩ : Meets (decodeEstimate blocks.recorded subframe)
      (decodeEstimate blocks subframe) demodulated.removeOffset _ :=
    meets_decodeEstimate (fun _ => False) hsubframe
  have hestimate := (kept_of_demodulated h).1
  have hmakes : Makes (decodeSamples blocks.recorded inputs subframe)
      (decodeSamples blocks inputs subframe) downlink (calls ++ ([] ++ more)) := by
    rw [decodeSamples_eq hinputs, decodeSamples_eq hinputs]
    exact hcalls.bind_ok h (hremove.bind_ok rfl hmore)
  rw [h] at hplan
  rw [hmakes.callsOf_eq, List.nil_append, List.map_append, hplan.requests_eq, ← hestimate]
  exact (List.prefix_append_right_inj _).mpr hbegun.first_request

end DecodeSamples

/--
**How the sampling offset is taken out.**

In every downlink, whatever it did before, once all antennas are demodulated the channel is
estimated from these grids. Without a sampling offset they are what the demodulator made of the
inputs. With one, each resource element of each antenna is what the demodulator made of it times one
rotation: the one of its position in its own symbol, for a frequency that is the same for all
symbols and antennas. That is the frequency of the offset, or else that of the table before, which
then was no further from it than the tolerance.
-/
theorem elements_of_decodeSamples {s : σ} {start demodulated : Downlink σ cell antennas}
    (hstart : ofCell cell antennas s = .ok start) (history : List DownlinkEvent)
    {inputs : List (Array Sample)} (hinputs : antennas ≤ inputs.length) (subframe : Nat)
    (hdemodulated : demodulateAll blocks inputs (after blocks start history) = .ok () demodulated) :
    let downlink := after blocks start history
    let left := stateAfter (decodeSamples blocks inputs subframe downlink)
    let frequency := left.rotator.frequency
    (∀ antenna, ∃ before rest, blocks.demodulate (inputs.getD antenna.val #[])
      (downlink.grids.get antenna, before) = .ok () (demodulated.grids.get antenna, rest)) ∧
    (subframe < subframesPerFrame →
      (List.finRange antennas).map (demodulation inputs downlink.grids) ++
          [.estimate left.grids downlink.estimate subframe] <+:
        (callsOf (decodeSamples blocks.recorded inputs subframe (downlink.noting []))).map
          (·.request)) ∧
    (∀ antenna, (left.grids.get antenna).toArray.size =
      cell.nofPrb * 12 * (2 * cell.cp.symbolsPerSlot)) ∧
    ((downlink.sampleOffset != 0) = false → left.grids = demodulated.grids) ∧
    ((downlink.sampleOffset != 0) = true →
      (∀ antenna i, (left.grids.get antenna)[i]? =
        ((demodulated.grids.get antenna)[i]?).map
          (· * rotation frequency (i % (cell.nofPrb * 12)))) ∧
      (frequency = downlink.offsetFrequency ∨ frequency = downlink.rotator.frequency ∧
        ¬ downlink.rotator.tolerance <
          Float32.abs (downlink.offsetFrequency - downlink.rotator.frequency))) := by
  intro downlink left frequency
  obtain ⟨hcell, hantennas, hcoherent⟩ := tableCoherent_ofCell hstart
  have htable : downlink.TableCoherent :=
    tableCoherent_after blocks hcell hantennas hcoherent history
  have hleft : left = stateAfter (decodeEstimate blocks subframe demodulated.removeOffset) :=
    congrArg stateAfter (decodeSamples_of_demodulated hinputs hdemodulated subframe)
  have hkeeps : Keeps (fun d => (d.grids, d.rotator)) (decodeEstimate blocks subframe) :=
    keeps_decodeEstimate subframe fun _ _ _ => rfl
  -- demodulation has no part in the settings and the table
  have hdemodulate : Keeps (fun d => (d.sampleOffset, d.fftSize, d.rotator))
      (demodulateAll blocks inputs) := keeps_demodulateAll inputs fun _ _ _ => rfl
  have hkept := hdemodulate downlink
  rw [hdemodulated] at hkept
  obtain ⟨hoffset, hfftSize, hrotator⟩ : demodulated.sampleOffset = downlink.sampleOffset ∧
      demodulated.fftSize = downlink.fftSize ∧ demodulated.rotator = downlink.rotator := by
    simpa only [stateAfter, Prod.mk.injEq] using hkept
  have hestimated := hkeeps demodulated.removeOffset
  rw [← hleft, Prod.mk.injEq] at hestimated
  obtain ⟨hgrids, hleftRotator⟩ := hestimated
  refine ⟨grids_of_demodulateAll hinputs hdemodulated, fun hsubframe => ?_,
    fun antenna => ?_, fun hzero => ?_, fun hnonzero => ⟨fun antenna i => ?_, ?_⟩⟩
  · rw [hgrids]
    exact requests_of_demodulated hinputs hdemodulated hsubframe
  · rw [Vector.size_toArray, cell.resourceElements_eq]
    exact Nat.mul_comm _ _
  · rw [hgrids, removeOffset_of_zero (hoffset ▸ hzero)]
  · have hcoherentAfter : demodulated.TableCoherent := by
      rw [TableCoherent, hrotator]
      exact htable
    rw [hgrids]
    show _ = ((demodulated.grids.get antenna)[i]?).map
      (· * rotation left.rotator.frequency (i % (cell.nofPrb * 12)))
    rw [hleftRotator]
    exact hcoherentAfter.getElem?_removeOffset hcell hantennas (hoffset ▸ hnonzero) antenna i
  · have hfrequency : demodulated.offsetFrequency = downlink.offsetFrequency := by
      rw [offsetFrequency, offsetFrequency, hoffset, hfftSize]
    have hprepared : left.rotator =
        downlink.rotator.prepare cell.subcarriers downlink.offsetFrequency := by
      rw [hleftRotator, removeOffset_of_offset hcell hantennas (hoffset ▸ hnonzero), ← hfrequency,
        ← hrotator]
    show left.rotator.frequency = _ ∨ left.rotator.frequency = _ ∧ _
    rw [hprepared]
    exact Rotator.frequency_prepare _ _ _

/-- Blocks that fill a grid with the first sample of its input. -/
def filling : Blocks Unit cellOfTwoPorts 2 where
  demodulate samples := modify fun (_, s) => (.replicate _ (samples.getD 0 .zero), s)
  estimate _ _ := pure ()
  controlFormat _ _ _ := pure 2
  softBits _ _ _ _ := pure ()
  messages := ⟨fun _ _ => throw (.decodeFailed "no message")⟩
  sharedData _ _ _ _ := pure ⟨[], []⟩
  phichResource _ _ := ⟨0, 0⟩
  acknowledgement _ _ _ _ := pure false

/-- Two samples, one for each antenna. -/
def twoSamples : List (Array Sample) :=
  [#[⟨1, 0⟩], #[⟨0, 1⟩]]

/-- With an offset of two samples both antennas are turned. -/
theorem elements_of_decodeSamples_twoAntennas : ∃ start demodulated,
    ofCell cellOfTwoPorts 2 () = .ok start ∧
    demodulateAll filling twoSamples (after filling start [.setSampleOffset 2]) =
      .ok () demodulated ∧
    ((after filling start [.setSampleOffset 2]).sampleOffset != 0) = true ∧
    let left := stateAfter
      (decodeSamples filling twoSamples 0 (after filling start [.setSampleOffset 2]))
    ∀ antenna i, (left.grids.get antenna)[i]? =
      ((demodulated.grids.get antenna)[i]?).map
        (· * rotation left.rotator.frequency (i % 600)) := by
  obtain ⟨start, demodulated, hstart, hdemodulated, hoffset⟩ : ∃ start demodulated,
      ofCell cellOfTwoPorts 2 () = .ok start ∧
      demodulateAll filling twoSamples (after filling start [.setSampleOffset 2]) =
        .ok () demodulated ∧
      ((after filling start [.setSampleOffset 2]).sampleOffset != 0) = true :=
    ⟨_, _, rfl, rfl, by decide +kernel⟩
  have hinputs : 2 ≤ twoSamples.length := by decide
  obtain ⟨-, -, -, -, hturned⟩ :=
    elements_of_decodeSamples hstart [.setSampleOffset 2] hinputs 0 hdemodulated
  exact ⟨start, demodulated, hstart, hdemodulated, hoffset, (hturned hoffset).1⟩

end Downlink

end LteReceiver
