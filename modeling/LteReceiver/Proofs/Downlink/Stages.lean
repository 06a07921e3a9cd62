import LteReceiver.Downlink.Subframe
import LteReceiver.Proofs.Action

/-!
# The stages of a subframe

Until a message is found, a subframe changes only what the search for it works with: the grids and
the channel estimate, the lookups and the state of the blocks (`receiveMessage`). The message is
then resolved and its data decoded (`decodeMessage`). `processSubframe_eq` puts the two together.

What the first part leaves alone is `Downlink.settled`. Until a message is looked for that goes for
the lookups too (`Downlink.beforeLookup`).
-/

namespace LteReceiver

namespace Downlink

variable {σ : Type} {cell : CellConfig} {antennas : Nat}

/-! ## Transmission times -/

section Times

variable {frame : UInt32} {subframe : Nat}

/-- Frame numbers start over long before a transmission time is too large. -/
theorem toNat_transmissionTime (hframe : subframe < subframesPerFrame) :
    (transmissionTime frame subframe).toNat = frame.toNat % 1024 * 10 + subframe := by
  have hlt : subframe < 10 := hframe
  simp only [transmissionTime, frameNumbers, UInt32.toNat_mod, UInt32.toNat_add, UInt32.toNat_mul,
    UInt32.reduceToNat, UInt32.toNat_ofNat']
  have htime : frame.toNat % 1024 * 10 % 2 ^ 32 = frame.toNat % 1024 * 10 :=
    Nat.mod_eq_of_lt (by omega)
  have hsubframe : subframe % 2 ^ 32 = subframe := Nat.mod_eq_of_lt (by omega)
  rw [htime, hsubframe, Nat.mod_eq_of_lt (by omega)]

/-- The transmission time of a subframe tells its number in the frame. -/
theorem transmissionTime_mod (hframe : subframe < subframesPerFrame) :
    (transmissionTime frame subframe % 10).toNat = subframe := by
  have hlt : subframe < 10 := hframe
  rw [UInt32.toNat_mod, toNat_transmissionTime hframe]
  show _ % 10 = subframe
  omega

end Times

/-! ## Two parts -/

/-- The first part of a subframe: the message found in it, and its number of control symbols. -/
def receiveMessage (blocks : Blocks σ cell antennas) (subframe : Nat)
    (inputs : List (Array Sample)) (rnti : Rnti) :
    Action σ cell antennas (Option (DciMessage × Nat)) := do
  if subframesPerFrame ≤ subframe then
    throw (.configuration (.subframeIndex subframe))
  let cfi ← decodeSamples blocks inputs subframe
  takeSoftBits blocks subframe cfi
  let found ← findDownlink blocks cfi subframe rnti
  return found.map (·, cfi)

/-- The second part: resolve the message and decode its data. -/
def decodeMessage (blocks : Blocks σ cell antennas) (frame : UInt32) (subframe : Nat)
    (rnti : Rnti) : Option (DciMessage × Nat) → Action σ cell antennas SubframeResult
  | none => pure .noMessage
  | some (message, cfi) => do
    let config ← resolveMessage message (transmissionTime frame subframe) cfi
    decodeData blocks config rnti

variable {blocks : Blocks σ cell antennas}

/-- The subframe that the stages work with is the one asked for. -/
theorem processSubframe_eq (frame : UInt32) (subframe : Nat) (inputs : List (Array Sample))
    (rnti : Rnti) :
    processSubframe blocks frame subframe inputs rnti =
      receiveMessage blocks subframe inputs rnti >>= decodeMessage blocks frame subframe rnti := by
  unfold processSubframe receiveMessage
  by_cases h : subframesPerFrame ≤ subframe
  · simp only [h, if_true]
    rfl
  · have hindex : (transmissionTime frame subframe % 10).toNat = subframe :=
      transmissionTime_mod (Nat.lt_of_not_le h)
    simp only [h, if_false, hindex, bind_assoc, pure_bind]
    refine bind_congr fun cfi => bind_congr fun _ => bind_congr fun found => ?_
    cases found <;> rfl

/-! ## What the first part leaves alone -/

/-- What is left alone until a message is resolved. -/
def settled (downlink : Downlink σ cell antennas) :
    HarqBuffers × Option PdschConfig × DownlinkMetrics × TransmissionMode × Option Rnti × Float32 :=
  (downlink.harq, downlink.config?, downlink.metrics, downlink.mode, downlink.rnti?,
    downlink.sampleOffset)

/-- A downlink before the first subframe. -/
theorem eq_of_ofCell {s : σ} {start : Downlink σ cell antennas}
    (h : ofCell cell antennas s = .ok start) :
    ∃ fftSize, fftSizeOf? cell.nofPrb = some fftSize ∧ start = {
      blockState := s
      search := .ofCell cell
      harq := .empty
      grids := .replicate antennas (.silent cell)
      estimate := .silent
      fftSize := fftSize
      rotator := .ofSize cell.subcarriers
      sampleOffset := 0
      mode := .tm1
      rnti? := none
      config? := none
      metrics := default } := by
  unfold ofCell at h
  split at h
  · cases h
  · split at h
    · cases h
    · split at h
      · cases h
      next fftSize hsize => exact ⟨fftSize, hsize, (Except.ok.inj h).symm⟩

/-- Nothing is settled before the first subframe. -/
theorem settled_ofCell {s : σ} {start : Downlink σ cell antennas}
    (h : ofCell cell antennas s = .ok start) :
    settled start = (.empty, none, default, .tm1, none, 0) := by
  obtain ⟨fftSize, -, rfl⟩ := eq_of_ofCell h
  rfl

theorem keeps_on {τ ε α γ : Type} {part : Downlink σ cell antennas → γ}
    {focus : Downlink σ cell antennas → τ}
    {update : Downlink σ cell antennas → τ → Downlink σ cell antennas} {fault : ε → ReceiveError}
    {action : EStateM ε τ α} (h : ∀ downlink rest, part (update downlink rest) = part downlink) :
    Keeps part (on focus update fault action) := by
  intro downlink
  unfold on
  split
  · exact h downlink _
  · exact h downlink _

section Parts

variable {γ : Type} {part : Downlink σ cell antennas → γ}

theorem keeps_onBlocks {α : Type} {fault : ExternalError → DecodeFault}
    {action : EStateM ExternalError σ α}
    (h : ∀ (downlink : Downlink σ cell antennas) state,
      part { downlink with blockState := state } = part downlink) :
    Keeps part (onBlocks fault action : Action σ cell antennas α) :=
  keeps_on h

theorem keeps_demodulateAll (inputs : List (Array Sample))
    (h : ∀ (downlink : Downlink σ cell antennas) grids state,
      part { downlink with grids := grids, blockState := state } = part downlink) :
    Keeps part (demodulateAll blocks inputs) := by
  refine keeps_forM fun antenna => ?_
  split
  · exact keeps_on fun downlink rest => h downlink _ rest.2
  · exact keeps_pure ()

theorem keeps_takeSoftBits (subframe cfi : Nat)
    (h : ∀ (downlink : Downlink σ cell antennas) state,
      part { downlink with blockState := state } = part downlink) :
    Keeps part (takeSoftBits blocks subframe cfi) :=
  keeps_get.bind fun _ => keeps_onBlocks h

theorem removeOffset_eq (downlink : Downlink σ cell antennas) : ∃ grids rotator,
    downlink.removeOffset = { downlink with grids := grids, rotator := rotator } := by
  unfold removeOffset
  split
  · exact ⟨_, _, rfl⟩
  · exact ⟨downlink.grids, downlink.rotator, rfl⟩

theorem keeps_decodeEstimate (subframe : Nat)
    (h : ∀ (downlink : Downlink σ cell antennas) estimate state,
      part { downlink with estimate := estimate, blockState := state } = part downlink) :
    Keeps part (decodeEstimate blocks subframe) := by
  have hestimate : Keeps part (estimateChannel blocks subframe) :=
    keeps_get.bind fun _ => keeps_on fun downlink rest => h downlink _ rest.2
  unfold decodeEstimate
  split
  · exact keeps_throw _
  · refine hestimate.bind fun _ => keeps_get.bind fun _ =>
      (keeps_onBlocks fun downlink state => h downlink downlink.estimate state).bind fun cfi => ?_
    split
    · exact keeps_throw _
    · exact keeps_pure cfi

theorem keeps_decodeSamples (inputs : List (Array Sample)) (subframe : Nat)
    (h : ∀ (downlink : Downlink σ cell antennas) grids estimate rotator state,
      part { downlink with
        grids := grids, estimate := estimate, rotator := rotator, blockState := state } =
          part downlink) :
    Keeps part (decodeSamples blocks inputs subframe) := by
  unfold decodeSamples
  split
  · exact keeps_throw _
  · refine (keeps_demodulateAll inputs fun downlink grids state => h downlink grids _ _ state).bind
      fun _ => (keeps_modify fun downlink => ?_).bind fun _ =>
        keeps_decodeEstimate subframe fun downlink estimate state => h downlink _ estimate _ state
    obtain ⟨grids, rotator, hremoved⟩ := removeOffset_eq downlink
    rw [hremoved]
    exact h downlink grids downlink.estimate rotator downlink.blockState

theorem keeps_findDownlink (cfi subframe : Nat) (rnti : Rnti)
    (h : ∀ (downlink : Downlink σ cell antennas) search state,
      part { downlink with search := search, blockState := state } = part downlink) :
    Keeps part (findDownlink blocks cfi subframe rnti) :=
  keeps_get.bind fun _ => keeps_on fun downlink rest => h downlink rest.1 rest.2

theorem keeps_receiveMessage (subframe : Nat) (inputs : List (Array Sample)) (rnti : Rnti)
    (h : ∀ (downlink : Downlink σ cell antennas) search grids estimate rotator state,
      part { downlink with
        search := search, grids := grids, estimate := estimate, rotator := rotator
        blockState := state } = part downlink) :
    Keeps part (receiveMessage blocks subframe inputs rnti) := by
  unfold receiveMessage
  split
  · exact keeps_throw _
  · exact (keeps_decodeSamples inputs subframe fun downlink => h downlink _).bind fun cfi =>
      (keeps_takeSoftBits subframe cfi fun downlink => h downlink _ _ _ _).bind fun _ =>
        (keeps_findDownlink cfi subframe rnti fun downlink search => h downlink search _ _ _).bind
          fun _ => keeps_pure _

end Parts

/-- What is left alone until a message is looked for. -/
def beforeLookup (downlink : Downlink σ cell antennas) :
    DciSearch × HarqBuffers × Option PdschConfig × DownlinkMetrics × TransmissionMode ×
      Option Rnti × Float32 :=
  (downlink.search, settled downlink)

theorem keeps_beforeLookup_decodeEstimate (subframe : Nat) :
    Keeps beforeLookup (decodeEstimate blocks subframe) :=
  keeps_decodeEstimate subframe fun _ _ _ => rfl

theorem keeps_beforeLookup_decodeSamples (inputs : List (Array Sample)) (subframe : Nat) :
    Keeps beforeLookup (decodeSamples blocks inputs subframe) :=
  keeps_decodeSamples inputs subframe fun _ _ _ _ _ => rfl

theorem keeps_settled_decodeEstimate (subframe : Nat) :
    Keeps settled (decodeEstimate blocks subframe) :=
  (keeps_beforeLookup_decodeEstimate subframe).comp Prod.snd

theorem keeps_settled_decodeSamples (inputs : List (Array Sample)) (subframe : Nat) :
    Keeps settled (decodeSamples blocks inputs subframe) :=
  (keeps_beforeLookup_decodeSamples inputs subframe).comp Prod.snd

theorem keeps_settled_findDownlink (cfi subframe : Nat) (rnti : Rnti) :
    Keeps settled (findDownlink blocks cfi subframe rnti) :=
  keeps_findDownlink cfi subframe rnti fun _ _ _ => rfl

theorem keeps_settled_findUplink (cfi subframe : Nat) (rnti : Rnti) :
    Keeps settled (findUplink blocks cfi subframe rnti) :=
  keeps_on fun _ _ => rfl

theorem keeps_settled_decodeAcknowledgement (subframe lowestPrb cyclicShift : Nat) :
    Keeps settled (decodeAcknowledgement blocks subframe lowestPrb cyclicShift) :=
  keeps_get.bind fun _ => keeps_onBlocks fun _ _ => rfl

/-- **The first part of a subframe leaves alone what is settled.** -/
theorem keeps_settled_receiveMessage (subframe : Nat) (inputs : List (Array Sample)) (rnti : Rnti) :
    Keeps settled (receiveMessage blocks subframe inputs rnti) :=
  keeps_receiveMessage subframe inputs rnti fun _ _ _ _ _ _ => rfl

end Downlink

end LteReceiver
