import LteReceiver.Proofs.Downlink.Terminals
import LteReceiver.Proofs.Transport.Appearance

/-!
# Starting over

`Downlink.reset` leaves a lot behind: the grids, the channel estimate, the places of the last
messages, the terminal, the sampling offset, the counters, and storage that the soft buffers do not
show. None of it comes to light again. From a reset on, a downlink is in step (`InStep`) with one
that was just made, and stays so with every event, as long as the blocks answer alike
(`BlocksAgree`): by what they were asked since and by what the soft buffers show.

The relation is kept by each stage (`stagesAgree_inStep`). As blocks that note their calls answer
alike too (`BlocksAgree.recorded`), the calls to the decoder of control messages are the same.
-/

namespace LteReceiver

variable {σ τ : Type} {cell : CellConfig} {antennas : Nat}

/-! ## Blocks that answer alike -/

/-- The soft buffers of both slots look alike. -/
def BuffersAlike (first second : Vector SoftBuffer 2) : Prop :=
  ∀ slot : Slot, (first.get slot).Alike (second.get slot)

/-- Two decoders of shared data answer alike when they are handed buffers that look alike, and do
the same to these. -/
def SharedDataAgree (related : σ → τ → Prop)
    (first : EStateM ExternalError (Vector SoftBuffer 2 × σ) DecodedData)
    (second : EStateM ExternalError (Vector SoftBuffer 2 × τ) DecodedData) : Prop :=
  ∀ buffers others s t, BuffersAlike buffers others → related s t →
    answerOf (first (buffers, s)) = answerOf (second (others, t)) ∧
    related (stateAfter (first (buffers, s))).2 (stateAfter (second (others, t))).2 ∧
    ∃ operations : Slot → List SoftOperation, ∀ slot,
      (stateAfter (first (buffers, s))).1.get slot =
          (buffers.get slot).operateAll (operations slot) ∧
        (stateAfter (second (others, t))).1.get slot =
          (others.get slot).operateAll (operations slot)

/-- Blocks answer alike along a relation of their states, whatever the grids and the channel
estimate are. -/
structure BlocksAgree (related : σ → τ → Prop) (first : Blocks σ cell antennas)
    (second : Blocks τ cell antennas) : Prop where
  demodulate : ∀ samples,
    Agree (Alongside (fun _ _ => True) related) (first.demodulate samples)
      (second.demodulate samples)
  estimate : ∀ grids others subframe,
    Agree (Alongside (fun _ _ => True) related) (first.estimate grids subframe)
      (second.estimate others subframe)
  controlFormat : ∀ grids others estimate other subframe,
    Agree related (first.controlFormat grids estimate subframe)
      (second.controlFormat others other subframe)
  softBits : ∀ grids others estimate other subframe cfi,
    Agree related (first.softBits grids estimate subframe cfi)
      (second.softBits others other subframe cfi)
  messages : DecodersAgree related first.messages second.messages
  sharedData : ∀ config grids others estimate other rnti,
    SharedDataAgree related (first.sharedData config grids estimate rnti)
      (second.sharedData config others other rnti)
  phichResource : ∀ lowestPrb cyclicShift,
    first.phichResource lowestPrb cyclicShift = second.phichResource lowestPrb cyclicShift
  acknowledgement : ∀ grids others estimate other resource subframe,
    Agree related (first.acknowledgement grids estimate resource subframe)
      (second.acknowledgement others other resource subframe)

/-- Buffers that look alike do so after the same operations. -/
theorem SharedDataAgree.agree {related : σ → τ → Prop}
    {first : EStateM ExternalError (Vector SoftBuffer 2 × σ) DecodedData}
    {second : EStateM ExternalError (Vector SoftBuffer 2 × τ) DecodedData}
    (h : SharedDataAgree related first second) :
    Agree (Alongside BuffersAlike related) first second := by
  rintro ⟨buffers, s⟩ ⟨others, t⟩ ⟨hbuffers, hst⟩
  obtain ⟨hanswer, hafter, operations, hleft⟩ := h buffers others s t hbuffers hst
  refine ⟨hanswer, fun slot => ?_, hafter⟩
  obtain ⟨hfirst, hsecond⟩ := hleft slot
  rw [hfirst, hsecond]
  exact (hbuffers slot).operateAll (operations slot)

/-! ## Their calls -/

/-- A call to the decoder of control messages. -/
def BlockCall.decoding? : BlockCall cell antennas → Option DecoderCall
  | ⟨.message location format, answer⟩ => some ⟨location, format, answer⟩
  | _ => none

/-- The calls to the decoder of control messages among all calls. -/
def decodings (calls : List (BlockCall cell antennas)) : List DecoderCall :=
  calls.filterMap (·.decoding?)

theorem decodings_note {notes others : List (BlockCall cell antennas)}
    {call other : BlockCall cell antennas} (h : decodings notes = decodings others)
    (hcall : call.decoding? = other.decoding?) :
    decodings (notes ++ [call]) = decodings (others ++ [other]) := by
  unfold decodings at h ⊢
  rw [List.filterMap_append, List.filterMap_append, h]
  simp only [List.filterMap_cons, hcall]

/-- Related states, and notes of the same calls to the decoder of control messages. -/
def SameDecodings (related : σ → τ → Prop) (s : σ × List (BlockCall cell antennas))
    (t : τ × List (BlockCall cell antennas)) : Prop :=
  related s.1 t.1 ∧ decodings s.2 = decodings t.2

section Noted

variable {related : σ → τ → Prop} {ε α κ : Type}

theorem agree_noted {note other : Except ε α → BlockCall cell antennas} {first : EStateM ε σ α}
    {second : EStateM ε τ α} (h : Agree related first second)
    (hnote : ∀ answer, (note answer).decoding? = (other answer).decoding?) :
    Agree (SameDecodings related) (noted note first) (noted other second) := by
  rintro ⟨s, notes⟩ ⟨t, others⟩ ⟨hst, hnotes⟩
  simp only [noted]
  rcases h.ends hst with ⟨e, s', t', hfirst, hsecond, hafter⟩ |
    ⟨answer, s', t', hfirst, hsecond, hafter⟩
  · rw [hfirst, hsecond]
    exact ⟨rfl, hafter, decodings_note hnotes (hnote _)⟩
  · rw [hfirst, hsecond]
    exact ⟨rfl, hafter, decodings_note hnotes (hnote _)⟩

theorem agree_notedOn {alike : κ → κ → Prop} {note other : κ → Except ε α → BlockCall cell antennas}
    {first : EStateM ε (κ × σ) α} {second : EStateM ε (κ × τ) α}
    (h : Agree (Alongside alike related) first second)
    (hnote : ∀ handed handed' answer,
      (note handed answer).decoding? = (other handed' answer).decoding?) :
    Agree (Alongside alike (SameDecodings related)) (notedOn note first)
      (notedOn other second) := by
  rintro ⟨handed, s, notes⟩ ⟨handed', t, others⟩ ⟨halike, hst, hnotes⟩
  simp only [notedOn]
  rcases h.ends (s := (handed, s)) (t := (handed', t)) ⟨halike, hst⟩ with
    ⟨e, ⟨left, s'⟩, ⟨left', t'⟩, hfirst, hsecond, hleft, hafter⟩ |
    ⟨answer, ⟨left, s'⟩, ⟨left', t'⟩, hfirst, hsecond, hleft, hafter⟩
  · rw [hfirst, hsecond]
    exact ⟨rfl, hleft, hafter, decodings_note hnotes (hnote ..)⟩
  · rw [hfirst, hsecond]
    exact ⟨rfl, hleft, hafter, decodings_note hnotes (hnote ..)⟩

/-- A decoder of shared data that notes its calls does the same to the buffers. -/
theorem SharedDataAgree.notedOn
    {note other : Vector SoftBuffer 2 → Except ExternalError DecodedData → BlockCall cell antennas}
    {first : EStateM ExternalError (Vector SoftBuffer 2 × σ) DecodedData}
    {second : EStateM ExternalError (Vector SoftBuffer 2 × τ) DecodedData}
    (h : SharedDataAgree related first second)
    (hnote : ∀ handed handed' answer,
      (note handed answer).decoding? = (other handed' answer).decoding?) :
    SharedDataAgree (SameDecodings related) (LteReceiver.notedOn note first)
      (LteReceiver.notedOn other second) := by
  have hstate : ∀ {υ : Type} {action : EStateM ExternalError (Vector SoftBuffer 2 × υ) DecodedData}
      {note : Vector SoftBuffer 2 → Except ExternalError DecodedData → BlockCall cell antennas}
      buffers s notes, (stateAfter (LteReceiver.notedOn note action (buffers, s, notes))).1 =
        (stateAfter (action (buffers, s))).1 := by
    intro υ action note buffers s notes
    simp only [LteReceiver.notedOn]
    cases action (buffers, s) <;> rfl
  rintro buffers others ⟨s, notes⟩ ⟨t, otherNotes⟩ hbuffers hst
  obtain ⟨hanswer, -, hafter⟩ := agree_notedOn h.agree hnote (buffers, s, notes)
    (others, t, otherNotes) ⟨hbuffers, hst⟩
  obtain ⟨-, -, operations, hleft⟩ := h buffers others s t hbuffers hst.1
  refine ⟨hanswer, hafter, operations, fun slot => ?_⟩
  rw [hstate, hstate]
  exact hleft slot

end Noted

/-- **Blocks that answer alike also do so when they note their calls**, and then note the same calls
to the decoder of control messages. -/
theorem BlocksAgree.recorded {related : σ → τ → Prop} {first : Blocks σ cell antennas}
    {second : Blocks τ cell antennas} (h : BlocksAgree related first second) :
    BlocksAgree (SameDecodings related) first.recorded second.recorded where
  demodulate samples := by
    simp only [Blocks.recorded]
    exact agree_notedOn (h.demodulate samples) fun _ _ _ => rfl
  estimate grids others subframe := by
    simp only [Blocks.recorded]
    exact agree_notedOn (h.estimate grids others subframe) fun _ _ _ => rfl
  controlFormat grids others estimate other subframe :=
    agree_noted (h.controlFormat grids others estimate other subframe) fun _ => rfl
  softBits grids others estimate other subframe cfi :=
    agree_noted (h.softBits grids others estimate other subframe cfi) fun _ => rfl
  messages location format := agree_noted (h.messages location format) fun _ => rfl
  sharedData config grids others estimate other rnti :=
    (h.sharedData config grids others estimate other rnti).notedOn fun _ _ _ => rfl
  phichResource := h.phichResource
  acknowledgement grids others estimate other resource subframe :=
    agree_noted (h.acknowledgement grids others estimate other resource subframe) fun _ => rfl

namespace DownlinkMetrics

/-- Counters increased by further ones. -/
def plus (metrics gained : DownlinkMetrics) : DownlinkMetrics :=
  ⟨metrics.grants + gained.grants, metrics.blocks + gained.blocks, metrics.errors + gained.errors⟩

theorem plus_default (metrics : DownlinkMetrics) : metrics.plus default = metrics :=
  rfl

theorem default_plus (metrics : DownlinkMetrics) :
    (default : DownlinkMetrics).plus metrics = metrics := by
  simp [plus, default]

theorem plus_countGrant (metrics gained : DownlinkMetrics) :
    (metrics.plus gained).countGrant = metrics.plus gained.countGrant :=
  rfl

theorem plus_countBlocks (metrics gained : DownlinkMetrics) (acks : List Bool) :
    (metrics.plus gained).countBlocks acks = metrics.plus (gained.countBlocks acks) := by
  simp only [plus, countBlocks, Nat.add_assoc]

end DownlinkMetrics

namespace Downlink

/-! ## Downlinks in step -/

/-- Two downlinks are in step: nothing that they act on tells them apart. The first one has counted
more than the second, and always the same amount more. -/
structure InStep (related : σ → τ → Prop) (before : DownlinkMetrics)
    (first : Downlink σ cell antennas) (second : Downlink τ cell antennas) : Prop where
  blocks : related first.blockState second.blockState
  search : LookupsAlongside (SearchSpaceTable.BothServe cell)
    (fun state other => state.pending? = other.pending?) first.search second.search
  harq : first.harq.Alike second.harq
  fftSize : first.fftSize = second.fftSize
  mode : first.mode = second.mode
  config? : first.config? = second.config?
  metrics : first.metrics = before.plus second.metrics

variable {related : σ → τ → Prop} {before : DownlinkMetrics} {d : Downlink σ cell antennas}
  {e : Downlink τ cell antennas}

/-- The grids, the channel estimate and the sampling offset have no part in it. -/
theorem InStep.working (h : InStep related before d e) {s : σ} {t : τ} (hst : related s t)
    (grids others : Grids cell antennas) (estimate other : CellEstimate cell antennas)
    (rotator turned : Rotator) (offset shifted : Float32) :
    InStep related before
      { d with
        blockState := s, grids := grids, estimate := estimate, rotator := rotator
        sampleOffset := offset }
      { e with
        blockState := t, grids := others, estimate := other, rotator := turned
        sampleOffset := shifted } :=
  ⟨hst, h.search, h.harq, h.fftSize, h.mode, h.config?, h.metrics⟩

theorem InStep.removeOffset (h : InStep related before d e) :
    InStep related before d.removeOffset e.removeOffset := by
  obtain ⟨grids, rotator, hd⟩ := removeOffset_eq d
  obtain ⟨others, turned, he⟩ := removeOffset_eq e
  rw [hd, he]
  exact h.working h.blocks ..

section Stages

variable {first : Blocks σ cell antennas} {second : Blocks τ cell antennas}

theorem agree_onBlocks_inStep {α : Type} {fault : ExternalError → DecodeFault}
    {action : EStateM ExternalError σ α} {other : EStateM ExternalError τ α}
    (h : Agree related action other) :
    Agree (InStep related before) (onBlocks fault action : Action σ cell antennas α)
      (onBlocks fault other : Action τ cell antennas α) :=
  agree_on h (fun _ _ hde => hde.blocks) fun _ _ _ _ hde hst => hde.working hst ..

theorem agree_onSearch_inStep {lookup : EStateM ReceiveError (DciSearch × σ) (Option DciMessage)}
    {other : EStateM ReceiveError (DciSearch × τ) (Option DciMessage)}
    (h : Agree (Alongside (LookupsAlongside (SearchSpaceTable.BothServe cell)
      (fun state other => state.pending? = other.pending?)) related) lookup other) :
    Agree (InStep related before) (onSearch lookup : Action σ cell antennas _)
      (onSearch other : Action τ cell antennas _) :=
  agree_on h (fun _ _ hde => ⟨hde.search, hde.blocks⟩) fun _ _ _ _ hde hafter =>
    ⟨hafter.2, hafter.1, hde.harq, hde.fftSize, hde.mode, hde.config?, hde.metrics⟩

theorem agree_resolveMessage_inStep (message : DciMessage) (tti : UInt32) (cfi : Nat) :
    Agree (InStep related before)
      (resolveMessage message tti cfi : Action σ cell antennas PdschConfig)
      (resolveMessage message tti cfi : Action τ cell antennas PdschConfig) := by
  refine Agree.bind (agree_on (agree_resolve message tti cfi cell) (fun _ _ hde => hde.harq)
    fun _ _ _ _ hde hafter => ?_) fun config => Agree.bind (agree_modify fun d e hde => ?_)
      fun _ => agree_pure config
  · exact ⟨hde.blocks, hde.search, hafter, hde.fftSize, hde.mode, hde.config?, hde.metrics⟩
  · refine ⟨hde.blocks, hde.search, hde.harq, hde.fftSize, hde.mode, rfl, ?_⟩
    rw [hde.metrics]
    exact DownlinkMetrics.plus_countGrant _ _

/-- **Downlinks in step stay in step**, if their blocks answer alike. -/
theorem stagesAgree_inStep (h : BlocksAgree related first second) (before : DownlinkMetrics) :
    StagesAgree (InStep related before) first second where
  demodulate antenna samples := agree_on (h.demodulate samples)
    (fun _ _ hde => ⟨trivial, hde.blocks⟩) fun _ _ _ _ hde hafter => hde.working hafter.2 ..
  removeOffset _ _ hde := hde.removeOffset
  estimateChannel subframe := agree_get_bind fun d e _ =>
    agree_on (h.estimate d.grids e.grids subframe) (fun _ _ hde => ⟨trivial, hde.blocks⟩)
      fun _ _ _ _ hde hafter => hde.working hafter.2 ..
  controlFormat d e subframe _ := agree_onBlocks_inStep (h.controlFormat _ _ _ _ _)
  takeSoftBits subframe cfi :=
    agree_get_bind fun _ _ _ => agree_onBlocks_inStep (h.softBits _ _ _ _ _ _)
  findDownlink cfi subframe rnti := agree_get_bind fun d e hde => by
    rw [hde.mode]
    exact agree_onSearch_inStep (agree_findDownlink_alongside
      SearchSpaceTable.sameLists_of_bothServe indistinct_pending h.messages _ _ _ _)
  findUplink cfi subframe rnti := agree_onSearch_inStep (agree_findUplink_alongside
    SearchSpaceTable.sameLists_of_bothServe indistinct_pending h.messages cfi subframe rnti)
  resolveMessage := agree_resolveMessage_inStep
  runSharedData config rnti := agree_get_bind fun d e _ =>
    agree_on (h.sharedData config d.grids e.grids d.estimate e.estimate rnti).agree
      (fun _ _ hde => ⟨hde.harq.buffer, hde.blocks⟩) fun _ _ _ _ hde hafter =>
        ⟨hafter.2, hde.search, ⟨hde.harq.mark?, hafter.1⟩, hde.fftSize, hde.mode, hde.config?,
          hde.metrics⟩
  count d e acks hde := by
    refine ⟨hde.blocks, hde.search, hde.harq, hde.fftSize, hde.mode, hde.config?, ?_⟩
    rw [count, hde.metrics]
    exact DownlinkMetrics.plus_countBlocks _ _ acks
  decodeAcknowledgement subframe lowestPrb cyclicShift := agree_get_bind fun d e _ => by
    rw [h.phichResource]
    exact agree_onBlocks_inStep (h.acknowledgement _ _ _ _ _ _)
  choose _ _ rnti hde :=
    ⟨hde.blocks, ⟨⟨.setRnti rnti hde.search.space.left, .setRnti rnti hde.search.space.right⟩,
      hde.search.state⟩, hde.harq, hde.fftSize, hde.mode, hde.config?, hde.metrics⟩
  setMode _ _ _ hde :=
    ⟨hde.blocks, hde.search, hde.harq, hde.fftSize, rfl, hde.config?, hde.metrics⟩
  setSampleOffset _ _ _ hde := hde.working hde.blocks ..
  reset _ _ hde :=
    ⟨hde.blocks, ⟨hde.search.space, rfl⟩, HarqBuffers.alike_resetAll _ _, hde.fftSize, hde.mode,
      rfl, hde.metrics⟩

end Stages

/-! ## After a reset -/

/-- No event changes the size of the transform. -/
theorem fftSize_perform (blocks : Blocks σ cell antennas) (downlink : Downlink σ cell antennas)
    (event : DownlinkEvent) : (perform blocks downlink event).fftSize = downlink.fftSize := by
  cases event with
  | process frame subframe inputs rnti =>
    have hkeeps : Keeps (·.fftSize) (processSubframe blocks frame subframe inputs rnti) := by
      rw [processSubframe_eq]
      exact (keeps_receiveMessage subframe inputs rnti fun _ _ _ _ _ _ => rfl).bind fun found =>
        keeps_decodeMessage (fun _ _ _ _ _ => rfl) frame subframe rnti found
    exact hkeeps downlink
  | decodeSamples inputs subframe =>
    have hkeeps : Keeps (·.fftSize) (decodeSamples blocks inputs subframe) :=
      keeps_decodeSamples inputs subframe fun _ _ _ _ _ => rfl
    exact hkeeps downlink
  | decodeEstimate subframe =>
    have hkeeps : Keeps (·.fftSize) (decodeEstimate blocks subframe) :=
      keeps_decodeEstimate subframe fun _ _ _ => rfl
    exact hkeeps downlink
  | findDownlink cfi subframe rnti =>
    have hkeeps : Keeps (·.fftSize) (findDownlink blocks cfi subframe rnti) :=
      keeps_findDownlink cfi subframe rnti fun _ _ _ => rfl
    exact hkeeps downlink
  | findUplink cfi subframe rnti =>
    have hkeeps : Keeps (·.fftSize) (findUplink blocks cfi subframe rnti) :=
      keeps_on fun _ _ => rfl
    exact hkeeps downlink
  | decodeAcknowledgement subframe lowestPrb cyclicShift =>
    have hkeeps : Keeps (·.fftSize) (decodeAcknowledgement blocks subframe lowestPrb cyclicShift) :=
      keeps_get.bind fun _ => keeps_onBlocks fun _ _ => rfl
    exact hkeeps downlink
  | setRnti rnti =>
    simp only [perform, setRnti]
    split <;> rfl
  | setMode | setSampleOffset | reset => rfl

theorem fftSize_after (blocks : Blocks σ cell antennas) (start : Downlink σ cell antennas)
    (history : List DownlinkEvent) : (after blocks start history).fftSize = start.fftSize := by
  induction history with
  | nil => rfl
  | cons event past ih => exact (fftSize_perform blocks _ event).trans ih

variable {blocks : Blocks σ cell antennas} {others : Blocks τ cell antennas}
  {start : Downlink σ cell antennas} {fresh : Downlink τ cell antennas} {s : σ} {t : τ}

/-- **After any history, a reset brings a downlink in step with one that was just made.** -/
theorem inStep_reset (hstart : ofCell cell antennas s = .ok start)
    (hfresh : ofCell cell antennas t = .ok fresh) (history : List DownlinkEvent)
    (hst : related (after blocks start history).blockState t) :
    let used := after blocks start (.reset :: history)
    InStep related used.metrics used (fresh.setMode used.mode) := by
  intro used
  have hserves : (after blocks start history).search.space.Serves cell := by
    refine (sameBesidesTerminal_after_unchosen blocks ?_ history).1.first_serves
    rw [space_ofCell hstart]
    exact .ofCell
  have hsize : used.fftSize = start.fftSize := fftSize_after blocks start (.reset :: history)
  obtain ⟨size, hfirst, rfl⟩ := eq_of_ofCell hstart
  obtain ⟨size', hsecond, rfl⟩ := eq_of_ofCell hfresh
  have hsizes : size = size' := Option.some.inj (hfirst.symm.trans hsecond)
  exact ⟨hst, ⟨⟨hserves, .ofCell⟩, rfl⟩, HarqBuffers.alike_resetAll_empty _, hsize.trans hsizes,
    rfl, rfl, (DownlinkMetrics.plus_default _).symm⟩

theorem InStep.noting {before : DownlinkMetrics} {d : Downlink σ cell antennas}
    {e : Downlink τ cell antennas} (h : InStep related before d e) :
    InStep (SameDecodings related) before (d.noting []) (e.noting []) :=
  ⟨⟨h.blocks, rfl⟩, h.search, h.harq, h.fftSize, h.mode, h.config?, h.metrics⟩

/--
**A reset makes a downlink behave as new.**

After any history, a downlink that is reset and one that was just made for the same cell, with the
same number of antennas and in the same transmission mode, answer all further events the same, with
results and errors, and make the same calls to the decoder of control messages. The blocks of both
have to answer alike: by what they are asked since the reset and by what the soft buffers show.

After any further events the two have the same configuration, the same parked uplink grant, the same
marks on both slots and soft buffers that show the same, the same mode and size of the transform,
and the same lists in their tables. Their counters have increased by the same amounts.
-/
theorem reset_renews (hblocks : BlocksAgree related blocks others)
    (hstart : ofCell cell antennas s = .ok start) (hfresh : ofCell cell antennas t = .ok fresh)
    (history : List DownlinkEvent) (hst : related (after blocks start history).blockState t)
    (events : List DownlinkEvent) :
    let used := after blocks start (.reset :: history)
    let unused := fresh.setMode used.mode
    let one := after blocks used events
    let other := after others unused events
    (∀ event, answerOf (act blocks event one) = answerOf (act others event other)) ∧
    decodings (callsAfter blocks used events) = decodings (callsAfter others unused events) ∧
    one.config? = other.config? ∧
    one.search.state.pending? = other.search.state.pending? ∧
    (∀ slot, one.harq.mark? slot = other.harq.mark? slot ∧
      (one.harq.buffer slot).LooksLike (other.harq.buffer slot)) ∧
    one.mode = other.mode ∧ one.fftSize = other.fftSize ∧
    one.search.space.SameLists other.search.space ∧
    ∃ gained, one.metrics = used.metrics.plus gained ∧
      other.metrics = unused.metrics.plus gained := by
  intro used unused one other
  have hreset : InStep related used.metrics used unused := inStep_reset hstart hfresh history hst
  have hstages := stagesAgree_inStep hblocks used.metrics
  have hafter : InStep related used.metrics one other := hstages.after hreset events
  have hrecorded := (stagesAgree_inStep hblocks.recorded used.metrics).after hreset.noting events
  have hunused : unused.metrics = default := by
    obtain ⟨size, -, rfl⟩ := eq_of_ofCell hfresh
    rfl
  refine ⟨fun event => (hstages.act event one other hafter).1, hrecorded.blocks.2, hafter.config?,
    hafter.search.state, fun slot => ⟨hafter.harq.mark? slot, (hafter.harq.buffer slot).looks⟩,
    hafter.mode, hafter.fftSize, SearchSpaceTable.sameLists_of_bothServe _ _ hafter.search.space,
    other.metrics, hafter.metrics, ?_⟩
  rw [hunused, DownlinkMetrics.default_plus]

/-! ## A second turn, with and without a reset -/

theorem takingTurns_agree : BlocksAgree Eq takingTurns takingTurns where
  demodulate _ := fun _ _ hst => ⟨rfl, hst⟩
  estimate _ _ _ := fun _ _ hst => ⟨rfl, hst⟩
  controlFormat _ _ _ _ _ := fun _ _ hst => ⟨rfl, hst⟩
  softBits _ _ _ _ _ _ := fun _ _ hst => ⟨rfl, congrArg (· + 1) hst⟩
  messages _ _ := fun _ _ hst => hst ▸ ⟨rfl, rfl⟩
  sharedData config _ _ _ _ _ := by
    rintro buffers others s t - rfl
    refine ⟨rfl, rfl, fun slot =>
      if slot.val < config.grant.nofBlocks then [.write (.bit 0 0 7)] else [], fun slot => ?_⟩
    rw [get_sharedData_takingTurns, get_sharedData_takingTurns]
    by_cases hused : slot.val < config.grant.nofBlocks
    · simp only [if_pos hused]
      exact ⟨rfl, rfl⟩
    · simp only [if_neg hused]
      exact ⟨rfl, rfl⟩
  phichResource _ _ := rfl
  acknowledgement _ _ _ _ _ _ := fun _ _ hst => ⟨rfl, hst⟩

/-- After the first turn and a reset, the next one goes as it does in an unused downlink. -/
theorem reset_renews_firstTurn : ∃ start fresh,
    ofCell cellOfTwoPorts 1 (0 : UInt16) = .ok start ∧
    ofCell cellOfTwoPorts 1 (1 : UInt16) = .ok fresh ∧
    let used := after takingTurns start (.reset :: firstTurn)
    let unused := fresh.setMode used.mode
    let one := after takingTurns used [secondTurn]
    let other := after takingTurns unused [secondTurn]
    used.metrics = ⟨1, 1, 1⟩ ∧ one.metrics = ⟨2, 2, 2⟩ ∧ other.metrics = ⟨1, 1, 1⟩ ∧
      one.config? = other.config? ∧
      (∀ slot, (one.harq.buffer slot).LooksLike (other.harq.buffer slot)) ∧
      decodings (callsAfter takingTurns used [secondTurn]) =
        decodings (callsAfter takingTurns unused [secondTurn]) := by
  obtain ⟨start, fresh, hstart, hfresh, hstate, hused, hone, hother⟩ : ∃ start fresh,
      ofCell cellOfTwoPorts 1 (0 : UInt16) = .ok start ∧
      ofCell cellOfTwoPorts 1 (1 : UInt16) = .ok fresh ∧
      (after takingTurns start firstTurn).blockState = 1 ∧
      (after takingTurns start (.reset :: firstTurn)).metrics = ⟨1, 1, 1⟩ ∧
      (after takingTurns start ([secondTurn, .reset] ++ firstTurn)).metrics = ⟨2, 2, 2⟩ ∧
      (after takingTurns
        (fresh.setMode (after takingTurns start (.reset :: firstTurn)).mode)
        [secondTurn]).metrics = ⟨1, 1, 1⟩ :=
    ⟨_, _, rfl, rfl, rfl, rfl, rfl, rfl⟩
  obtain ⟨-, hcalls, hconfig, -, hslots, -⟩ :=
    reset_renews takingTurns_agree hstart hfresh firstTurn hstate [secondTurn]
  exact ⟨start, fresh, hstart, hfresh, hused, hone, hother, hconfig, fun slot => (hslots slot).2,
    hcalls⟩

/-- **A reset does not forget everything else.** The terminal, the sampling offset and the channel
estimate stay as well. -/
theorem not_always_unused :
    ¬ ∀ (σ τ : Type) (cell : CellConfig) (antennas : Nat) (related : σ → τ → Prop)
      (blocks : Blocks σ cell antennas) (others : Blocks τ cell antennas) (s : σ) (t : τ)
      (start : Downlink σ cell antennas) (fresh : Downlink τ cell antennas)
      (history events : List DownlinkEvent),
      BlocksAgree related blocks others → ofCell cell antennas s = .ok start →
      ofCell cell antennas t = .ok fresh → related (after blocks start history).blockState t →
      let used := after blocks start (.reset :: history)
      let one := after blocks used events
      let other := after others (fresh.setMode used.mode) events
      one.rnti? = other.rnti? ∧ one.sampleOffset = other.sampleOffset ∧
        one.estimate = other.estimate := by
  intro h
  obtain ⟨start, hstart, hstate, hused, hfresh⟩ : ∃ start,
      ofCell cellOfTwoPorts 1 (0 : UInt16) = .ok start ∧
      (after takingTurns start [.setRnti ⟨0x46⟩]).blockState = 0 ∧
      (after takingTurns start [.reset, .setRnti ⟨0x46⟩]).rnti? = some ⟨0x46⟩ ∧
      start.rnti? = none := ⟨_, rfl, rfl, rfl, rfl⟩
  have hsame := (h UInt16 UInt16 cellOfTwoPorts 1 Eq takingTurns takingTurns 0 0 start start
    [.setRnti ⟨0x46⟩] [] takingTurns_agree hstart hstart hstate).1
  have hnone : (after takingTurns start [.reset, .setRnti ⟨0x46⟩]).rnti? = start.rnti? := hsame
  rw [hused, hfresh] at hnone
  cases hnone

end Downlink

end LteReceiver
