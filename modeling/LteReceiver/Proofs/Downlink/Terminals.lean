import LteReceiver.Proofs.Downlink.Agreement
import LteReceiver.Proofs.Downlink.Calls
import LteReceiver.Proofs.Downlink.Provenance

/-!
# Choosing a terminal

Keeping the search spaces of a terminal at hand saves work and does nothing else. Two downlinks of a
cell that differ in the terminal at most (`SameBesidesTerminal`) answer every event alike, make the
same calls and stay so (`stagesAgree_besidesTerminal`). So choices of terminals can be taken out of
a history (`sameBesidesTerminal_after_unchosen`), and two histories that differ in choices only
cannot be told apart (`choosing_unobservable`).
-/

namespace LteReceiver

/-! ## Events and their answers -/

/-- An event is the choice of a terminal. -/
def DownlinkEvent.isChoice : DownlinkEvent → Bool
  | .setRnti _ => true
  | _ => false

/-- A history without the choices of terminals. -/
def unchosen (history : List DownlinkEvent) : List DownlinkEvent :=
  history.filter fun event => !event.isChoice

variable {σ : Type} {cell : CellConfig} {antennas : Nat}

namespace Downlink

variable (blocks : Blocks σ cell antennas)

/-- What the events of a history are answered, the latest first and choices of terminals apart. -/
def answers (start : Downlink σ cell antennas) :
    List DownlinkEvent → List (Except ReceiveError DownlinkAnswer)
  | [] => []
  | event :: past =>
    if event.isChoice then answers start past
    else answerOf (act blocks event (after blocks start past)) :: answers start past

/-- The calls to the blocks in a history, in their order. -/
def callsAfter (start : Downlink σ cell antennas) (history : List DownlinkEvent) :
    List (BlockCall cell antennas) :=
  (after blocks.recorded (start.noting []) history).blockState.2

variable {blocks}

/-! ## The terminal at hand -/

/-- A downlink with no terminal at hand. -/
def withoutTerminal (downlink : Downlink σ cell antennas) : Downlink σ cell antennas :=
  { downlink with
    search := { downlink.search with space := .ofCell cell }
    rnti? := none }

/-- Two downlinks of a cell differ in the terminal at hand at most. -/
structure SameBesidesTerminal (first second : Downlink σ cell antennas) : Prop where
  first_serves : first.search.space.Serves cell
  second_serves : second.search.space.Serves cell
  same : first.withoutTerminal = second.withoutTerminal

/-- Two states of a lookup differ in the terminal at hand at most. -/
structure LookupsAlike (cell : CellConfig) (first second : DciSearch × σ) : Prop where
  first_serves : first.1.space.Serves cell
  second_serves : second.1.space.Serves cell
  state : first.1.state = second.1.state
  rest : first.2 = second.2

variable {first second : Downlink σ cell antennas}

theorem SameBesidesTerminal.refl (h : first.search.space.Serves cell) :
    SameBesidesTerminal first first :=
  ⟨h, h, rfl⟩

theorem SameBesidesTerminal.lookupsAlike (h : SameBesidesTerminal first second) :
    LookupsAlike cell (first.search, first.blockState) (second.search, second.blockState) :=
  ⟨h.first_serves, h.second_serves, congrArg (·.search.state) h.same,
    congrArg (·.blockState) h.same⟩

/-- A choice changes nothing but the terminal at hand, and neither does one that is refused. -/
theorem SameBesidesTerminal.setRnti (h : SameBesidesTerminal first second) (rnti : Rnti) :
    SameBesidesTerminal (perform blocks first (.setRnti rnti)) second := by
  simp only [perform, Downlink.setRnti]
  split
  · exact ⟨.setRnti rnti h.first_serves, h.second_serves, h.same⟩
  · exact h

/-- A change that the terminal has no part in. -/
theorem SameBesidesTerminal.map {f : Downlink σ cell antennas → Downlink σ cell antennas}
    (h : SameBesidesTerminal first second)
    (hf : ∀ downlink, (f downlink).withoutTerminal = f downlink.withoutTerminal)
    (hspace : ∀ downlink, (f downlink).search.space = downlink.search.space) :
    SameBesidesTerminal (f first) (f second) where
  first_serves := by rw [hspace]; exact h.first_serves
  second_serves := by rw [hspace]; exact h.second_serves
  same := by rw [hf, hf, h.same]

/-! ## Lookups -/

theorem lookupsAlike_iff {s t : DciSearch × σ} :
    LookupsAlike cell s t ↔
      Alongside (LookupsAlongside (SearchSpaceTable.BothServe cell) Eq) Eq s t :=
  ⟨fun h => ⟨⟨⟨h.first_serves, h.second_serves⟩, h.state⟩, h.rest⟩,
    fun ⟨h, hrest⟩ => ⟨h.space.left, h.space.right, h.state, hrest⟩⟩

/-- A decoder agrees with itself. -/
theorem decodersAgree_refl (decoder : DciDecoder σ) : DecodersAgree Eq decoder decoder :=
  fun _ _ _ _ hst => hst ▸ ⟨rfl, rfl⟩

theorem agree_findDownlink_alike (decoder : DciDecoder σ) (mode : TransmissionMode)
    (cfi subframe : Nat) (rnti : Rnti) :
    Agree (LookupsAlike cell) (DciSearch.findDownlink decoder mode cfi subframe rnti)
      (DciSearch.findDownlink decoder mode cfi subframe rnti) :=
  (agree_findDownlink_alongside SearchSpaceTable.sameLists_of_bothServe indistinct_eq
    (decodersAgree_refl decoder) mode cfi subframe rnti).congr fun _ _ => lookupsAlike_iff

theorem agree_findUplink_alike (decoder : DciDecoder σ) (cfi subframe : Nat) (rnti : Rnti) :
    Agree (LookupsAlike cell) (DciSearch.findUplink decoder cfi subframe rnti)
      (DciSearch.findUplink decoder cfi subframe rnti) :=
  (agree_findUplink_alongside SearchSpaceTable.sameLists_of_bothServe indistinct_eq
    (decodersAgree_refl decoder) cfi subframe rnti).congr fun _ _ => lookupsAlike_iff

theorem agree_onSearch {lookup : EStateM ReceiveError (DciSearch × σ) (Option DciMessage)}
    (h : Agree (LookupsAlike cell) lookup lookup) :
    Agree SameBesidesTerminal (onSearch lookup : Action σ cell antennas _) (onSearch lookup) := by
  intro first second hsame
  simp only [onSearch, on]
  rcases h.ends hsame.lookupsAlike with
    ⟨e, ⟨search, s⟩, ⟨other, t⟩, hfirst, hsecond, halike⟩ |
    ⟨found, ⟨search, s⟩, ⟨other, t⟩, hfirst, hsecond, halike⟩
  all_goals
    rw [hfirst, hsecond]
    have hstate : search.state = other.state := halike.state
    obtain rfl : s = t := halike.rest
    refine ⟨rfl, halike.first_serves, halike.second_serves, ?_⟩
    have hrest := congrArg (fun downlink : Downlink σ cell antennas =>
      { downlink with search := ⟨.ofCell cell, other.state⟩, blockState := s }) hsame.same
    simp only [withoutTerminal, stateAfter, hstate] at hrest ⊢
    exact hrest

/-! ## Stages that the terminal has no part in -/

/-- An action on a part that the terminal has no part in. -/
theorem agree_on_besidesTerminal {τ ε α : Type} {part : Downlink σ cell antennas → τ}
    {update : Downlink σ cell antennas → τ → Downlink σ cell antennas} {fault : ε → ReceiveError}
    {action : EStateM ε τ α} (hpart : ∀ downlink, part downlink = part downlink.withoutTerminal)
    (hupdate : ∀ downlink rest,
      (update downlink rest).withoutTerminal = update downlink.withoutTerminal rest)
    (hspace : ∀ downlink rest, (update downlink rest).search.space = downlink.search.space) :
    Agree SameBesidesTerminal (on part update fault action) (on part update fault action) := by
  have haction : Agree Eq action action := fun _ _ hst => hst ▸ ⟨rfl, rfl⟩
  refine agree_on haction (fun first second h => ?_) fun first second rest other h hrest => ?_
  · rw [hpart first, h.same, ← hpart second]
  · rw [← hrest]
    exact h.map (f := (update · rest)) (hupdate · rest) (hspace · rest)

theorem agree_onBlocks {α : Type} {fault : ExternalError → DecodeFault}
    {action : EStateM ExternalError σ α} :
    Agree SameBesidesTerminal (onBlocks fault action : Action σ cell antennas α)
      (onBlocks fault action) :=
  agree_on_besidesTerminal (fun _ => rfl) (fun _ _ => rfl) fun _ _ => rfl

theorem SameBesidesTerminal.removeOffset (h : SameBesidesTerminal first second) :
    SameBesidesTerminal first.removeOffset second.removeOffset := by
  refine h.map (fun downlink => ?_) fun downlink => ?_
  · have hoffset : downlink.withoutTerminal.sampleOffset = downlink.sampleOffset := rfl
    unfold Downlink.removeOffset
    rw [hoffset]
    split <;> rfl
  · unfold Downlink.removeOffset
    split <;> rfl

theorem SameBesidesTerminal.grids (h : SameBesidesTerminal first second) :
    first.grids = second.grids :=
  congrArg (·.grids) h.same

theorem SameBesidesTerminal.estimate (h : SameBesidesTerminal first second) :
    first.estimate = second.estimate :=
  congrArg (·.estimate) h.same

theorem agree_modify_besidesTerminal
    {f : Downlink σ cell antennas → Downlink σ cell antennas}
    (hf : ∀ downlink, (f downlink).withoutTerminal = f downlink.withoutTerminal)
    (hspace : ∀ downlink, (f downlink).search.space = downlink.search.space) :
    Agree SameBesidesTerminal (modify f : Action σ cell antennas PUnit) (modify f) :=
  agree_modify fun _ _ h => h.map hf hspace

theorem agree_resolveMessage (message : DciMessage) (tti : UInt32) (cfi : Nat) :
    Agree SameBesidesTerminal
      (resolveMessage message tti cfi : Action σ cell antennas PdschConfig)
      (resolveMessage message tti cfi) := by
  unfold resolveMessage
  refine Agree.bind (agree_on_besidesTerminal (fun _ => rfl) (fun _ _ => rfl) fun _ _ => rfl)
    fun config => ?_
  refine Agree.bind (agree_modify_besidesTerminal (fun _ => ?_) fun _ => ?_) fun _ =>
    agree_pure config
  · rfl
  · rfl

/-- **The terminal at hand has no part in any stage.** -/
theorem stagesAgree_besidesTerminal (blocks : Blocks σ cell antennas) :
    StagesAgree SameBesidesTerminal blocks blocks where
  demodulate _ _ := agree_on_besidesTerminal (fun _ => rfl) (fun _ _ => rfl) fun _ _ => rfl
  removeOffset _ _ h := h.removeOffset
  estimateChannel subframe := agree_get_bind fun first second h => by
    rw [h.grids]
    exact agree_on_besidesTerminal (fun _ => rfl) (fun _ _ => rfl) fun _ _ => rfl
  controlFormat first second subframe h := by
    rw [h.grids, h.estimate]
    exact agree_onBlocks
  takeSoftBits subframe cfi := agree_get_bind fun first second h => by
    rw [h.grids, h.estimate]
    exact agree_onBlocks
  findDownlink cfi subframe rnti := agree_get_bind fun first second h => by
    have hmode : first.mode = second.mode := congrArg (·.mode) h.same
    rw [hmode]
    exact agree_onSearch (agree_findDownlink_alike _ _ _ _ _)
  findUplink cfi subframe rnti := agree_onSearch (agree_findUplink_alike _ _ _ _)
  resolveMessage message tti cfi := agree_resolveMessage message tti cfi
  runSharedData config rnti := agree_get_bind fun first second h => by
    rw [h.grids, h.estimate]
    exact agree_on_besidesTerminal (fun _ => rfl) (fun _ _ => rfl) fun _ _ => rfl
  count _ _ acks h := h.map (f := count acks) (fun _ => rfl) fun _ => rfl
  decodeAcknowledgement subframe lowestPrb cyclicShift := agree_get_bind fun first second h => by
    rw [h.grids, h.estimate]
    exact agree_onBlocks
  choose _ _ rnti h := ⟨.setRnti rnti h.first_serves, .setRnti rnti h.second_serves, h.same⟩
  setMode _ _ mode h := h.map (f := (·.setMode mode)) (fun _ => rfl) fun _ => rfl
  setSampleOffset _ _ offset h :=
    h.map (f := (·.setSampleOffset offset)) (fun _ => rfl) fun _ => rfl
  reset _ _ h := h.map (f := Downlink.reset) (fun _ => rfl) fun _ => rfl

/-! ## Histories -/

variable {start : Downlink σ cell antennas}

/-- Choices of terminals can be taken out of a history: the events that stay are answered the same,
and the downlink is the same but for its terminal. -/
theorem sameBesidesTerminal_after_unchosen (blocks : Blocks σ cell antennas)
    (hstart : start.search.space.Serves cell) (history : List DownlinkEvent) :
    SameBesidesTerminal (after blocks start history) (after blocks start (unchosen history)) ∧
      answers blocks start history = answers blocks start (unchosen history) := by
  induction history with
  | nil => exact ⟨.refl hstart, rfl⟩
  | cons event past ih =>
    obtain ⟨hsame, hanswers⟩ := ih
    cases hchoice : event.isChoice with
    | true =>
      have hdropped : unchosen (event :: past) = unchosen past := by
        simp [unchosen, hchoice]
      rw [hdropped, answers, if_pos hchoice]
      refine ⟨?_, hanswers⟩
      cases event with
      | setRnti rnti => exact hsame.setRnti rnti
      | process | decodeSamples | decodeEstimate | findDownlink | findUplink
      | decodeAcknowledgement | setMode | setSampleOffset | reset => cases hchoice
    | false =>
      have hkept : unchosen (event :: past) = event :: unchosen past := by
        simp [unchosen, hchoice]
      have hnot : ¬ event.isChoice = true := by rw [hchoice]; decide
      obtain ⟨hanswer, hafter⟩ := (stagesAgree_besidesTerminal blocks).act event _ _ hsame
      rw [stateAfter_act, stateAfter_act] at hafter
      rw [hkept, answers, answers, if_neg hnot, if_neg hnot, hanswer, hanswers]
      exact ⟨hafter, rfl⟩

theorem space_ofCell {s : σ} (h : ofCell cell antennas s = .ok start) :
    start.search.space = .ofCell cell := by
  obtain ⟨fftSize, -, rfl⟩ := eq_of_ofCell h
  rfl

/--
**Choosing a terminal cannot be observed.**

In every table of a cell, whichever terminals were chosen, there is a list for 1, 2 or 3 control
symbols and a subframe of the frame, and for nothing else. It is the list that is made for the cell
at hand, for the terminal chosen last and for any other.

So two histories of a downlink that differ in the choices of terminals only are answered the same,
make the same calls to the blocks with the same answers, and leave the same downlink but for its
terminal.
-/
theorem choosing_unobservable (cell : CellConfig) :
    (∀ choices : List Rnti,
      let table := choices.foldl SearchSpaceTable.setRnti (.ofCell cell)
      ∀ rnti cfi subframe,
        (table.ue? rnti cfi subframe = none ↔ ¬ (1 ≤ cfi ∧ cfi ≤ 3) ∨ 9 < subframe) ∧
        ((1 ≤ cfi ∧ cfi ≤ 3) ∧ subframe ≤ 9 →
          table.ue? rnti cfi subframe = some (ueLocations (cell.cceCount cfi) subframe rnti)) ∧
        (table.common? cfi = none ↔ ¬ (1 ≤ cfi ∧ cfi ≤ 3)) ∧
        (1 ≤ cfi ∧ cfi ≤ 3 → table.common? cfi = some (commonLocations (cell.cceCount cfi)))) ∧
    ∀ (σ : Type) (antennas : Nat) (blocks : Blocks σ cell antennas) (s : σ)
      (start : Downlink σ cell antennas), ofCell cell antennas s = .ok start →
      ∀ first second : List DownlinkEvent, unchosen first = unchosen second →
        answers blocks start first = answers blocks start second ∧
        callsAfter blocks start first = callsAfter blocks start second ∧
        (after blocks start first).withoutTerminal =
          (after blocks start second).withoutTerminal := by
  constructor
  · intro choices table rnti cfi subframe
    have htable : table.Serves cell := .setRntis choices .ofCell
    exact ⟨table.ue?_eq_none_iff rnti cfi subframe,
      fun hcovered => htable.ue?_eq rnti hcovered.1 (by omega), table.common?_eq_none_iff cfi,
      htable.common?_eq⟩
  · intro σ antennas blocks s start hstart first second hsame
    have hserves : start.search.space.Serves cell := by
      rw [space_ofCell hstart]
      exact .ofCell
    obtain ⟨hfirst, hfirstAnswers⟩ :=
      sameBesidesTerminal_after_unchosen blocks hserves first
    obtain ⟨hsecond, hsecondAnswers⟩ :=
      sameBesidesTerminal_after_unchosen blocks hserves second
    refine ⟨by rw [hfirstAnswers, hsecondAnswers, hsame], ?_, by
      rw [hfirst.same, hsecond.same, hsame]⟩
    have hnoting : (start.noting []).search.space.Serves cell := hserves
    obtain ⟨hfirst, -⟩ :=
      sameBesidesTerminal_after_unchosen blocks.recorded hnoting first
    obtain ⟨hsecond, -⟩ :=
      sameBesidesTerminal_after_unchosen blocks.recorded hnoting second
    have hstates := hfirst.same.trans
      ((congrArg (fun rest => (after blocks.recorded (start.noting []) rest).withoutTerminal)
        hsame).trans hsecond.same.symm)
    exact congrArg (·.blockState.2) hstates

/-- The first turn, with its terminal chosen before it and another one after it. -/
def chosenTurn : List DownlinkEvent :=
  [.setRnti ⟨0x47⟩, .process 0 0 [#[]] ⟨0x46⟩, .setRnti ⟨0x46⟩]

theorem choosing_unobservable_firstTurn :
    ∃ start, ofCell cellOfTwoPorts 1 (0 : UInt16) = .ok start ∧
      unchosen chosenTurn = unchosen firstTurn ∧
      (after takingTurns start chosenTurn).rnti? = some ⟨0x47⟩ ∧
      (after takingTurns start firstTurn).rnti? = none ∧
      answers takingTurns start chosenTurn = answers takingTurns start firstTurn ∧
      callsAfter takingTurns start chosenTurn = callsAfter takingTurns start firstTurn := by
  obtain ⟨start, hstart, hchosen, hunchosen⟩ : ∃ start,
      ofCell cellOfTwoPorts 1 (0 : UInt16) = .ok start ∧
      (after takingTurns start chosenTurn).rnti? = some ⟨0x47⟩ ∧
      (after takingTurns start firstTurn).rnti? = none := ⟨_, rfl, rfl, rfl⟩
  have hsame : unchosen chosenTurn = unchosen firstTurn := rfl
  obtain ⟨hanswers, hcalls, -⟩ :=
    (choosing_unobservable cellOfTwoPorts).2 UInt16 1 takingTurns 0 start hstart _ _ hsame
  exact ⟨start, hstart, hsame, hchosen, hunchosen, hanswers, hcalls⟩

end Downlink

end LteReceiver
