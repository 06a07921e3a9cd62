import LteReceiver.Proofs.Agreement
import LteReceiver.Proofs.Downlink.Runs

/-!
# Two downlinks side by side

Two downlinks of a cell, each with blocks of its own, are compared along a relation that the stages
of a subframe, the requests and the settings keep (`StagesAgree`). Then every event is answered the
same by both and leaves them related (`StagesAgree.act`), and so does every history
(`StagesAgree.after`). What is left to show for a relation is one fact about each stage.
-/

namespace LteReceiver

/-- What an event is answered. -/
inductive DownlinkAnswer where
  | subframe (result : SubframeResult)
  | cfi (count : Nat)
  | message (found : Option DciMessage)
  | acknowledgement (acknowledged : Bool)
  /-- Settings are not answered. -/
  | done

namespace Downlink

section Events

variable {σ : Type} {cell : CellConfig} {antennas : Nat} {blocks : Blocks σ cell antennas}

/-- Keep the search spaces of a terminal at hand, without a look at its identity. -/
def choose (downlink : Downlink σ cell antennas) (rnti : Rnti) : Downlink σ cell antennas :=
  { downlink with search := downlink.search.setRnti rnti, rnti? := some rnti }

/-- An event as an action, with its answer. -/
def act (blocks : Blocks σ cell antennas) : DownlinkEvent → Action σ cell antennas DownlinkAnswer
  | .process frame subframe inputs rnti => do
    return .subframe (← processSubframe blocks frame subframe inputs rnti)
  | .decodeSamples inputs subframe => do return .cfi (← decodeSamples blocks inputs subframe)
  | .decodeEstimate subframe => do return .cfi (← decodeEstimate blocks subframe)
  | .findDownlink cfi subframe rnti => do
    return .message (← findDownlink blocks cfi subframe rnti)
  | .findUplink cfi subframe rnti => do return .message (← findUplink blocks cfi subframe rnti)
  | .decodeAcknowledgement subframe lowestPrb cyclicShift => do
    return .acknowledgement (← decodeAcknowledgement blocks subframe lowestPrb cyclicShift)
  | .setRnti rnti => fun downlink =>
    match downlink.setRnti rnti with
    | .ok chosen => .ok .done chosen
    | .error fault => .error (.configuration fault) downlink
  | .setMode mode => do
    modify (·.setMode mode)
    return .done
  | .setSampleOffset offset => do
    modify (·.setSampleOffset offset)
    return .done
  | .reset => do
    modify (·.reset)
    return .done

theorem stateAfter_map {α β : Type} (action : Action σ cell antennas α) (f : α → β)
    (downlink : Downlink σ cell antennas) :
    stateAfter ((action >>= fun answer => pure (f answer)) downlink) =
      stateAfter (action downlink) := by
  cases h : action downlink with
  | ok answer after =>
    rw [bind_of_ok h]
    rfl
  | error e after =>
    rw [bind_of_error h]
    rfl

theorem stateAfter_act (event : DownlinkEvent) (downlink : Downlink σ cell antennas) :
    stateAfter (act blocks event downlink) = perform blocks downlink event := by
  cases event with
  | process | decodeSamples | decodeEstimate | findDownlink | findUplink | decodeAcknowledgement =>
    exact stateAfter_map _ _ downlink
  | setRnti rnti =>
    simp only [act, perform]
    cases downlink.setRnti rnti <;> rfl
  | setMode | setSampleOffset | reset => rfl

end Events

variable {σ τ : Type} {cell : CellConfig} {antennas : Nat}
  {related : Downlink σ cell antennas → Downlink τ cell antennas → Prop}
  {first : Blocks σ cell antennas} {second : Blocks τ cell antennas}

/-! ## Blocks -/

/-- Actions on parts of two downlinks agree if they agree along a relation of these parts. -/
theorem agree_on {κ μ ε α : Type} {inner : κ → μ → Prop} {part : Downlink σ cell antennas → κ}
    {otherPart : Downlink τ cell antennas → μ}
    {update : Downlink σ cell antennas → κ → Downlink σ cell antennas}
    {otherUpdate : Downlink τ cell antennas → μ → Downlink τ cell antennas}
    {fault : ε → ReceiveError} {action : EStateM ε κ α} {other : EStateM ε μ α}
    (h : Agree inner action other)
    (hpart : ∀ d e, related d e → inner (part d) (otherPart e))
    (hupdate : ∀ d e rest otherRest, related d e → inner rest otherRest →
      related (update d rest) (otherUpdate e otherRest)) :
    Agree related (on part update fault action) (on otherPart otherUpdate fault other) := by
  intro d e hde
  unfold Downlink.on
  rcases h.ends (hpart d e hde) with ⟨error, s, t, hfirst, hsecond, hafter⟩ |
    ⟨answer, s, t, hfirst, hsecond, hafter⟩
  · rw [hfirst, hsecond]
    exact ⟨rfl, hupdate d e s t hde hafter⟩
  · rw [hfirst, hsecond]
    exact ⟨rfl, hupdate d e s t hde hafter⟩

/-! ## Stages and events -/

variable (related first second) in
/-- The stages of a subframe, the requests and the settings agree along a relation. -/
structure StagesAgree : Prop where
  demodulate : ∀ antenna samples,
    Agree related (demodulate first antenna samples) (demodulate second antenna samples)
  removeOffset : ∀ d e, related d e → related d.removeOffset e.removeOffset
  estimateChannel : ∀ subframe,
    Agree related (estimateChannel first subframe) (estimateChannel second subframe)
  controlFormat : ∀ d e subframe, related d e →
    Agree related (onBlocks .controlFormat (first.controlFormat d.grids d.estimate subframe))
      (onBlocks .controlFormat (second.controlFormat e.grids e.estimate subframe))
  takeSoftBits : ∀ subframe cfi,
    Agree related (takeSoftBits first subframe cfi) (takeSoftBits second subframe cfi)
  findDownlink : ∀ cfi subframe rnti,
    Agree related (findDownlink first cfi subframe rnti) (findDownlink second cfi subframe rnti)
  findUplink : ∀ cfi subframe rnti,
    Agree related (findUplink first cfi subframe rnti) (findUplink second cfi subframe rnti)
  resolveMessage : ∀ message tti cfi,
    Agree related (resolveMessage message tti cfi) (resolveMessage message tti cfi)
  runSharedData : ∀ config rnti,
    Agree related (runSharedData first config rnti) (runSharedData second config rnti)
  count : ∀ d e acks, related d e → related (d.count acks) (e.count acks)
  decodeAcknowledgement : ∀ subframe lowestPrb cyclicShift,
    Agree related (decodeAcknowledgement first subframe lowestPrb cyclicShift)
      (decodeAcknowledgement second subframe lowestPrb cyclicShift)
  choose : ∀ d e rnti, related d e → related (d.choose rnti) (e.choose rnti)
  setMode : ∀ d e mode, related d e → related (d.setMode mode) (e.setMode mode)
  setSampleOffset : ∀ d e offset, related d e →
    related (d.setSampleOffset offset) (e.setSampleOffset offset)
  reset : ∀ d e, related d e → related d.reset e.reset

namespace StagesAgree

variable (h : StagesAgree related first second)

include h

theorem demodulateAll (inputs : List (Array Sample)) :
    Agree related (Downlink.demodulateAll first inputs) (Downlink.demodulateAll second inputs) := by
  refine agree_forM fun antenna => ?_
  split
  · exact h.demodulate antenna _
  · exact agree_pure ()

theorem decodeEstimate (subframe : Nat) :
    Agree related (Downlink.decodeEstimate first subframe)
      (Downlink.decodeEstimate second subframe) := by
  unfold Downlink.decodeEstimate
  split
  · exact agree_throw _
  · refine (h.estimateChannel subframe).bind fun _ => agree_get_bind fun d e hde => ?_
    refine (h.controlFormat d e subframe hde).bind fun cfi => ?_
    split
    · exact agree_throw _
    · exact agree_pure cfi

theorem decodeSamples (inputs : List (Array Sample)) (subframe : Nat) :
    Agree related (Downlink.decodeSamples first inputs subframe)
      (Downlink.decodeSamples second inputs subframe) := by
  unfold Downlink.decodeSamples
  split
  · exact agree_throw _
  · exact (h.demodulateAll inputs).bind fun _ => (agree_modify h.removeOffset).bind fun _ =>
      h.decodeEstimate subframe

theorem decodeData (config : PdschConfig) (rnti : Rnti) :
    Agree related (Downlink.decodeData first config rnti)
      (Downlink.decodeData second config rnti) := by
  intro d e hde
  unfold Downlink.decodeData
  rcases (h.runSharedData config rnti).ends hde with ⟨error, s, t, hfirst, hsecond, hafter⟩ |
    ⟨decoded, s, t, hfirst, hsecond, hafter⟩
  · rw [hfirst, hsecond]
    exact ⟨rfl, h.count s t _ hafter⟩
  · rw [hfirst, hsecond]
    exact ⟨rfl, h.count s t _ hafter⟩

theorem processSubframe (frame : UInt32) (subframe : Nat) (inputs : List (Array Sample))
    (rnti : Rnti) :
    Agree related (Downlink.processSubframe first frame subframe inputs rnti)
      (Downlink.processSubframe second frame subframe inputs rnti) := by
  unfold Downlink.processSubframe
  split
  · exact agree_throw _
  · refine (h.decodeSamples inputs _).bind fun cfi => (h.takeSoftBits _ cfi).bind fun _ =>
      (h.findDownlink cfi _ rnti).bind fun found => ?_
    cases found with
    | none => exact agree_pure _
    | some message =>
      exact (h.resolveMessage message _ cfi).bind fun config => h.decodeData config rnti

theorem setRnti (rnti : Rnti) :
    Agree related (Downlink.act first (.setRnti rnti)) (Downlink.act second (.setRnti rnti)) := by
  intro d e hde
  simp only [Downlink.act, Downlink.setRnti]
  by_cases hassigned : rnti.isAssigned
  · rw [if_pos hassigned, if_pos hassigned]
    exact ⟨rfl, h.choose d e rnti hde⟩
  · rw [if_neg hassigned, if_neg hassigned]
    exact ⟨rfl, hde⟩

/-- **Every event is answered the same, and leaves the downlinks related.** -/
theorem act (event : DownlinkEvent) :
    Agree related (Downlink.act first event) (Downlink.act second event) := by
  cases event with
  | process frame subframe inputs rnti =>
    exact (h.processSubframe frame subframe inputs rnti).bind fun _ => agree_pure _
  | decodeSamples inputs subframe =>
    exact (h.decodeSamples inputs subframe).bind fun _ => agree_pure _
  | decodeEstimate subframe => exact (h.decodeEstimate subframe).bind fun _ => agree_pure _
  | findDownlink cfi subframe rnti =>
    exact (h.findDownlink cfi subframe rnti).bind fun _ => agree_pure _
  | findUplink cfi subframe rnti =>
    exact (h.findUplink cfi subframe rnti).bind fun _ => agree_pure _
  | decodeAcknowledgement subframe lowestPrb cyclicShift =>
    exact (h.decodeAcknowledgement subframe lowestPrb cyclicShift).bind fun _ => agree_pure _
  | setRnti rnti => exact h.setRnti rnti
  | setMode mode => exact (agree_modify fun d e => h.setMode d e mode).bind fun _ => agree_pure _
  | setSampleOffset offset =>
    exact (agree_modify fun d e => h.setSampleOffset d e offset).bind fun _ => agree_pure _
  | reset => exact (agree_modify h.reset).bind fun _ => agree_pure _

theorem perform {d : Downlink σ cell antennas} {e : Downlink τ cell antennas} (hde : related d e)
    (event : DownlinkEvent) :
    related (Downlink.perform first d event) (Downlink.perform second e event) := by
  rw [← stateAfter_act, ← stateAfter_act]
  exact (h.act event d e hde).2

/-- **Related downlinks are related after every history.** -/
theorem after {d : Downlink σ cell antennas} {e : Downlink τ cell antennas} (hde : related d e)
    (history : List DownlinkEvent) :
    related (Downlink.after first d history) (Downlink.after second e history) := by
  induction history with
  | nil => exact hde
  | cons event past ih => exact h.perform ih event

end StagesAgree

end Downlink

end LteReceiver
