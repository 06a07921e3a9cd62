import Mathlib.Data.Nat.Init
import LteReceiver.Downlink.Feedback
import LteReceiver.Proofs.Downlink.Runs
import LteReceiver.Proofs.Transport.Combining
import LteReceiver.Proofs.Transport.Schemes
import LteReceiver.Signal.Average

/-!
# The precoder in use, in a report

The codebook for two layers starts with an entry that is not used. So a configuration keeps the
precoder of a grant shifted by one when it has two layers, and a report shifts it back. The two
agree (`PdschConfig.sinr?_of_ofMessage`): what is looked up is the precoder that the grant named,
and it is there, since a grant that names another one is not resolved.

The configuration that a report is about is that of the last grant (`config_after`), so the same
holds after every run (`rankReport_of_run`).
-/

namespace LteReceiver

/-! ## The best entry of a codebook -/

theorem codebookSizes_pos : ∀ rank : Fin 2, 0 < codebookSizes.get rank := by
  decide

section Selection

variable {R : Type} [LT R] [DecidableLT R]

theorem lt_codebookSizes_of_mem {rank : Fin 2} {entry : Fin 4} (h : entry ∈ codebookEntries rank) :
    entry.val < codebookSizes.get rank := by
  have hlisted := (List.mem_filter.mp h).2
  exact of_decide_eq_true hlisted

theorem laterBest_eq_or (values : Vector R 4) (best entry : Fin 4) :
    laterBest values best entry = best ∨ laterBest values best entry = entry := by
  unfold laterBest
  split
  · exact .inr rfl
  · exact .inl rfl

theorem firstBest_lt (values : Vector R 4) (rank : Fin 2) :
    (firstBest values (codebookEntries rank)).val < codebookSizes.get rank := by
  have hchoice : firstBest values (codebookEntries rank) = 0 ∨
      firstBest values (codebookEntries rank) ∈ codebookEntries rank :=
    choice_mem id (laterBest values) (laterBest_eq_or values) (codebookEntries rank) 0
  rcases hchoice with hzero | hmem
  · rw [hzero]
    exact codebookSizes_pos rank
  · exact lt_codebookSizes_of_mem hmem

/-- Entries of their codebooks stay so in a vector. -/
theorem get_ofFn_lt {best : Fin 2 → Fin 4} (h : ∀ rank, (best rank).val < codebookSizes.get rank)
    (rank : Fin 2) : ((Vector.ofFn best).get rank).val < codebookSizes.get rank := by
  have hget : (Vector.ofFn best).get rank = best rank := Vector.getElem_ofFn rank.isLt
  rw [hget]
  exact h rank

variable [Add R] [Mul R] [Div R] [NatCast R]

/-- What is reported is the best entry of the rank that is reported. -/
theorem PrecoderSelection.report_cases (selection : PrecoderSelection R) :
    (selection.report.rank = 1 ∧ selection.report.entry = selection.best.get 0) ∨
      (selection.report.rank = 2 ∧ selection.report.entry = selection.best.get 1) := by
  unfold report
  dsimp only
  split
  · exact .inr ⟨rfl, rfl⟩
  · exact .inl ⟨rfl, rfl⟩

variable [Sub R] [Neg R]

/-- The best entry of each rank is one of its codebook. -/
theorem best_of_selectPrecoders {ports antennas elements limit : Nat}
    {estimate : ChannelEstimate R ports antennas elements} {selection : PrecoderSelection R}
    (h : selectPrecoders estimate limit = .ok selection) (rank : Fin 2) :
    (selection.best.get rank).val < codebookSizes.get rank := by
  unfold selectPrecoders at h
  split at h
  · cases h
    exact get_ofFn_lt (fun rank => firstBest_lt _ rank) rank
  · cases h

end Selection

/-! ## The precoder of a configuration -/

section Message

variable {message : DciMessage} {tti : UInt32} {cfi : Nat} {cell : CellConfig}
  {config : PdschConfig} {R : Type}

/-- **The precoder in use is the one that the grant named**: with one layer the one of the precoding
information less one, with two layers that of the precoding information itself. Both are in the
table. -/
theorem PdschConfig.sinr?_of_ofMessage
    (h : PdschConfig.ofMessage message tti cfi cell = .ok config)
    (hscheme : config.scheme = .spatialMultiplexing) (selection : PrecoderSelection R) :
    (config.grant.nofBlocks = 1 ∧ 1 ≤ config.grant.precodingInfo ∧
      ∃ hinfo : config.grant.precodingInfo - 1 < 4, config.sinr? selection =
        some ((selection.sinr.get 0).get ⟨config.grant.precodingInfo - 1, hinfo⟩)) ∨
    (config.grant.nofBlocks = 2 ∧ config.grant.precodingInfo < 2 ∧
      ∃ hinfo : config.grant.precodingInfo < 4, config.sinr? selection =
        some ((selection.sinr.get 1).get ⟨config.grant.precodingInfo, hinfo⟩)) := by
  have htable := transmission_of_ofMessage h
  have hnot : ¬ config.scheme ≠ .spatialMultiplexing := not_not_intro hscheme
  rw [hscheme] at htable
  rcases htable.precoder with ⟨hone, hlow, hhigh, hlayers, hindex⟩ | ⟨htwo, hlow, hlayers, hindex⟩
  · have hinfo : config.grant.precodingInfo - 1 < 4 := by omega
    refine .inl ⟨hone, hlow, hinfo, ?_⟩
    rw [sinr?, if_neg hnot, hlayers, hindex]
    exact getElem?_pos (selection.sinr.get 0) _ hinfo
  · have hinfo : config.grant.precodingInfo < 4 := by omega
    refine .inr ⟨htwo, hlow, hinfo, ?_⟩
    rw [sinr?, if_neg hnot, hlayers, hindex]
    exact getElem?_pos (selection.sinr.get 1) _ hinfo

end Message

/-! ## A channel without fading -/

namespace ChannelEstimate

variable {R : Type} {elements : Nat}

/-- The same channel at every resource element. -/
def uniform (channel : ChannelMatrix R) (noise : R) : ChannelEstimate R 2 2 elements :=
  ⟨channel.map fun port => port.map (.replicate elements ·), noise⟩

theorem matrixAt_uniform (channel : ChannelMatrix R) (noise : R) (element : Fin elements) :
    (uniform channel noise).matrixAt element = channel := by
  ext port hport antenna hantenna
  simp [matrixAt, uniform]

theorem samples_uniform (channel : ChannelMatrix R) (noise : R) (limit : Nat) :
    (uniform channel noise : ChannelEstimate R 2 2 elements).samples limit =
      .replicate (sampledElements limit : List (Fin elements)).length channel := by
  rw [samples, List.map_congr_left fun element _ => matrixAt_uniform channel noise element,
    List.map_const']

end ChannelEstimate

/-! ## The configuration of a run -/

/-- The configuration that is left by what the soft buffers have seen, the latest first: that of the
last grant, unless everything was cleared after it. -/
def lastConfig? : List SoftEvent → Option PdschConfig
  | .decode record :: _ => some record.config
  | _ => none

theorem lastConfig?_eq_some {seen : List SoftEvent} {config : PdschConfig}
    (h : lastConfig? seen = some config) :
    ∃ record older, seen = .decode record :: older ∧ record.config = config := by
  cases seen with
  | nil => cases h
  | cons event older =>
    cases event with
    | decode record => exact ⟨record, older, rfl, Option.some.inj h⟩
    | clear => cases h

namespace Downlink

variable {σ : Type} {cell : CellConfig} {antennas : Nat} {blocks : Blocks σ cell antennas}
  {start : Downlink σ cell antennas} {s : σ}

/-- The configuration of a resolved message is kept until the end of the subframe. -/
theorem config_of_resolveMessage {message : DciMessage} {tti : UInt32} {cfi : Nat} {rnti : Rnti}
    {found ready : Downlink σ cell antennas} {config : PdschConfig}
    (h : resolveMessage message tti cfi found = .ok config ready) :
    (stateAfter (decodeData blocks config rnti ready)).config? = some config := by
  have hready : ready.config? = some config := by
    rw [resolveMessage_eq] at h
    split at h
    next => cases h; rfl
    next => cases h
  rw [decodeData, runSharedData_eq]
  cases blocks.sharedData config ready.grids ready.estimate rnti
    (ready.harq.buffers, ready.blockState) <;> exact hready

/-- An event that the soft buffers do not see keeps the configuration. -/
theorem config_perform_of_none {downlink : Downlink σ cell antennas} {event : DownlinkEvent}
    (h : softEvent? blocks downlink event = none) :
    (perform blocks downlink event).config? = downlink.config? := by
  cases event with
  | process frame subframe inputs rnti =>
    rcases process_cases blocks downlink frame subframe inputs rnti with
      ⟨-, hsettled⟩ | ⟨message, cfi, found, config, ready, -, -, -, hrecord⟩
    · exact (kept_of_settled hsettled).2.1
    · have hseen : softEvent? blocks downlink (.process frame subframe inputs rnti) =
          some (.decode _) := congrArg (Option.map SoftEvent.decode) hrecord
      cases hseen.symm.trans h
  | reset => cases h
  | _ => exact (kept_perform (by simp) (by simp)).2.1

/-- A grant that is decoded leaves its own configuration, which is that of its message. -/
theorem config_perform_of_record? {downlink : Downlink σ cell antennas} {event : DownlinkEvent}
    {record : DecodeRecord} (h : record? blocks downlink event = some record) :
    (perform blocks downlink event).config? = some record.config ∧
      ∃ tti cfi, PdschConfig.ofMessage record.message tti cfi cell = .ok record.config := by
  cases event with
  | process frame subframe inputs rnti =>
    rcases process_cases blocks downlink frame subframe inputs rnti with
      ⟨hnone, -⟩ | ⟨message, cfi, found, config, ready, -, hm, hafter, hrecord⟩
    · cases hnone.symm.trans h
    · obtain rfl := Option.some.inj (hrecord.symm.trans h)
      rw [hafter]
      exact ⟨config_of_resolveMessage hm, _, cfi,
        (resolve_eq_ok_iff.mp (resolve_of_resolveMessage hm)).1⟩
  | decodeSamples | decodeEstimate | findDownlink | findUplink | decodeAcknowledgement | setRnti
  | setMode | setSampleOffset | reset => cases h

/-- **The configuration at hand is that of the last grant**, unless the downlink was reset after
it. -/
theorem config_after (hstart : ofCell cell antennas s = .ok start) (history : List DownlinkEvent) :
    (after blocks start history).config? = lastConfig? (softEvents blocks start history) := by
  induction history with
  | nil =>
    obtain ⟨fftSize, -, rfl⟩ := eq_of_ofCell hstart
    rfl
  | cons event past ih =>
    simp only [after, softEvents]
    cases hseen : softEvent? blocks (after blocks start past) event with
    | none =>
      rw [config_perform_of_none hseen]
      exact ih
    | some seen =>
      rcases softEvent?_eq_some hseen with ⟨rfl, rfl⟩ | ⟨record, hrecord, rfl⟩
      · rfl
      · exact (config_perform_of_record? hrecord).1

/-- A grant that was decoded in a run has the configuration of its message. -/
theorem ofMessage_of_decode_mem {history : List DownlinkEvent} {record : DecodeRecord}
    (h : .decode record ∈ softEvents blocks start history) :
    ∃ tti cfi, PdschConfig.ofMessage record.message tti cfi cell = .ok record.config := by
  induction history with
  | nil => cases h
  | cons event past ih =>
    rcases List.mem_append.mp h with hlast | hpast
    · rw [Option.mem_toList] at hlast
      rcases softEvent?_eq_some hlast with ⟨-, hclear⟩ | ⟨decoded, hrecord, hdecode⟩
      · cases hclear
      · cases hdecode
        exact (config_perform_of_record? hrecord).2
    · exact ih hpast

/-! ## Reports -/

/-- A report is the one of the precoders selected from the estimate at hand, with the SINR of the
configuration at hand. -/
theorem rankReport?_eq_some {downlink : Downlink σ cell antennas} {report : RankReport Float32}
    (h : downlink.rankReport? = .ok (some report)) :
    ∃ selection, selectPrecoders downlink.estimate cell.resourceElements = .ok selection ∧
      report = { selection.report with
        currentSinr? := downlink.config?.bind (·.sinr? selection) } := by
  unfold rankReport? at h
  split at h
  · cases h
  · cases hs : selectPrecoders downlink.estimate cell.resourceElements with
    | error fault => rw [hs] at h; cases h
    | ok selection =>
      rw [hs] at h
      cases h
      exact ⟨selection, rfl, rfl⟩

/--
**What a report says of the precoder in use.**

After every run that leads to a report there is a table of the SINR of all precoders, computed from
the channel estimate at hand. The precoder reported is one of the codebook of the rank reported.

With a spatially multiplexed configuration at hand the report has the entry of the table that the
grant of the configuration named: with one transport block the one of the precoding information less
one, for one layer, and with two blocks that of the precoding information, for two layers. These
entries are always there. The grant is the last one that was decoded, with no reset after it. With
any other configuration at hand, or none, the report has no entry.
-/
theorem rankReport_of_run (hstart : ofCell cell antennas s = .ok start)
    (history : List DownlinkEvent) {report : RankReport Float32}
    (hreport : (after blocks start history).rankReport? = .ok (some report)) :
    let downlink := after blocks start history
    ∃ selection, selectPrecoders downlink.estimate cell.resourceElements = .ok selection ∧
      (report.rank = 1 ∧ report.entry.val < 4 ∨ report.rank = 2 ∧ report.entry.val < 2) ∧
      (downlink.config? = none → report.currentSinr? = none) ∧
      ∀ config, downlink.config? = some config →
        (∃ record older, softEvents blocks start history = .decode record :: older ∧
          record.config = config ∧ config.grant = .ofFields record.message.fields) ∧
        (config.scheme ≠ .spatialMultiplexing → report.currentSinr? = none) ∧
        (config.scheme = .spatialMultiplexing →
          (config.grant.nofBlocks = 1 ∧ 1 ≤ config.grant.precodingInfo ∧
            ∃ hinfo : config.grant.precodingInfo - 1 < 4, report.currentSinr? =
              some ((selection.sinr.get 0).get ⟨config.grant.precodingInfo - 1, hinfo⟩)) ∨
          (config.grant.nofBlocks = 2 ∧ config.grant.precodingInfo < 2 ∧
            ∃ hinfo : config.grant.precodingInfo < 4, report.currentSinr? =
              some ((selection.sinr.get 1).get ⟨config.grant.precodingInfo, hinfo⟩))) := by
  intro downlink
  obtain ⟨selection, hselection, rfl⟩ := rankReport?_eq_some hreport
  have hbest := best_of_selectPrecoders hselection
  refine ⟨selection, hselection, ?_, fun hnone => ?_, fun config hconfig => ?_⟩
  · dsimp only
    rcases selection.report_cases with ⟨hrank, hentry⟩ | ⟨hrank, hentry⟩
    · rw [hrank, hentry]
      exact .inl ⟨rfl, hbest 0⟩
    · rw [hrank, hentry]
      exact .inr ⟨rfl, hbest 1⟩
  · have hnone : (after blocks start history).config? = none := hnone
    rw [hnone, Option.bind_none]
  · have hconfig : (after blocks start history).config? = some config := hconfig
    obtain ⟨record, older, hseen, rfl⟩ :=
      lastConfig?_eq_some ((config_after hstart history).symm.trans hconfig)
    have hmem : .decode record ∈ softEvents blocks start history := by
      rw [hseen]
      exact List.mem_cons_self
    obtain ⟨tti, cfi, hmessage⟩ := ofMessage_of_decode_mem hmem
    rw [hconfig, Option.bind_some]
    exact ⟨⟨record, older, hseen, rfl, grant_of_ofMessage hmessage⟩, fun hscheme => if_pos hscheme,
      fun hscheme => PdschConfig.sinr?_of_ofMessage hmessage hscheme selection⟩

/-- A grant of two transport blocks over two layers, with the second precoder. -/
def twoLayerGrant : DciMessage :=
  { format := .format2
    fields := { (default : DciFields) with
      rv? := some 0
      enabled := #v[true, true]
      precodingInfo := 1
      mcs := #v[⟨0, 40⟩, ⟨0, 40⟩] } }

/-- A small cell of two ports. -/
def smallCell : CellConfig :=
  { cellOfTwoPorts with nofPrb := 6 }

/-- A channel on which the second antenna does not hear the first port. -/
def shadedChannel : ChannelMatrix Float32 :=
  #v[#v[⟨1, 0⟩, ⟨0, 0⟩], #v[⟨1, 0⟩, ⟨1, 0⟩]]

/-- Blocks that find this grant at every place, over that channel. -/
def findingTwoLayers : Blocks Unit smallCell 2 where
  demodulate _ := pure ()
  estimate _ _ := modify fun (_, s) => (.uniform shadedChannel 1, s)
  controlFormat _ _ _ := pure 3
  softBits _ _ _ _ := pure ()
  messages := ⟨fun _ _ => pure ⟨twoLayerGrant, 0x46⟩⟩
  sharedData _ _ _ _ := pure ⟨[], []⟩
  phichResource _ _ := ⟨0, 0⟩
  acknowledgement _ _ _ _ := pure false

/-- A subframe of the transmission mode with closed-loop spatial multiplexing. -/
def twoLayerTurn : List DownlinkEvent :=
  [.process 0 0 [#[], #[]] ⟨0x46⟩, .setMode .tm4]

/-- The entry of the second precoder is reported, which is not that of the first. -/
theorem rankReport_of_run_twoLayers : ∃ start report selection,
    ofCell smallCell 2 () = .ok start ∧
    (after findingTwoLayers start twoLayerTurn).rankReport? = .ok (some report) ∧
    selectPrecoders (after findingTwoLayers start twoLayerTurn).estimate
      smallCell.resourceElements = .ok selection ∧
    report.currentSinr? = some ((selection.sinr.get 1).get 1) ∧
    (selection.sinr.get 1).get 1 ≠ (selection.sinr.get 1).get 0 := by
  obtain ⟨start, report, config, hstart, hreport, hconfig, hscheme, hblocks, hinfo, hestimate⟩ :
      ∃ start report config, ofCell smallCell 2 () = .ok start ∧
        (after findingTwoLayers start twoLayerTurn).rankReport? = .ok (some report) ∧
        (after findingTwoLayers start twoLayerTurn).config? = some config ∧
        config.scheme = .spatialMultiplexing ∧
        config.grant.nofBlocks = 2 ∧ config.grant.precodingInfo = 1 ∧
        (after findingTwoLayers start twoLayerTurn).estimate = .uniform shadedChannel 1 :=
    ⟨_, _, _, rfl, rfl, rfl, rfl, rfl, rfl, rfl⟩
  obtain ⟨selection, hselection, -, -, hentries⟩ :=
    rankReport_of_run hstart twoLayerTurn hreport
  have hsinr : selection.sinr = codebookSinr (.replicate 84 shadedChannel) (flooredNoise 1) := by
    have hcount : (ChannelEstimate.sampledElements smallCell.resourceElements :
        List (Fin smallCell.resourceElements)).length = 84 := by decide +kernel
    rw [hestimate] at hselection
    rw [← Except.ok.inj hselection, ← hcount, ← ChannelEstimate.samples_uniform shadedChannel 1]
    rfl
  refine ⟨start, report, selection, hstart, hreport, hselection, ?_, ?_⟩
  · rcases (hentries config hconfig).2.2 hscheme with ⟨hone, -⟩ | ⟨-, -, hbound, hentry⟩
    · cases hblocks.symm.trans hone
    · rw [hentry]
      congr 2
      exact Fin.ext hinfo
  · rw [hsinr]
    decide +kernel

end Downlink

end LteReceiver
