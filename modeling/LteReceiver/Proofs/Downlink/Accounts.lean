import Mathlib
import LteReceiver.Proofs.Downlink.Commitment
import LteReceiver.Proofs.Downlink.Provenance

/-!
# The counters of a downlink

Every grant that a run resolves has an outcome: its configuration and what the decoder of shared
data answers to it (`GrantOutcome`). The counters are totals over these outcomes, whatever the
decoder answers and however many blocks it reports on (`metrics_of_run`).

One event counts a grant with all its blocks or nothing at all (`metrics_perform`), which keeps the
books balanced (`Balanced`) over every history.
-/

namespace LteReceiver

/-! ## The blocks of a grant -/

theorem length_firstEntries {α : Type} (length : Nat) (fill : α) (list : List α) :
    (firstEntries length fill list).length = length := by
  simp [firstEntries]

namespace GrantOutcome

/-- Whether the decoder reports a transport block as decoded. It may say nothing about a block, and
says nothing about any when it fails. -/
def acknowledges (outcome : GrantOutcome) (block : Nat) : Bool :=
  match outcome.answer with
  | .ok decoded => decoded.acks.getD block false
  | .error _ => false

/-- The transport blocks of a grant. -/
def nofBlocks (outcome : GrantOutcome) : Nat :=
  outcome.config.grant.nofBlocks

/-- The transport blocks of a grant that are not reported as decoded. -/
def unacknowledged (outcome : GrantOutcome) : Nat :=
  (List.range outcome.nofBlocks).countP fun block => !outcome.acknowledges block

theorem acks_eq (outcome : GrantOutcome) :
    outcome.acks = (List.range outcome.nofBlocks).map outcome.acknowledges := by
  unfold acks acknowledges nofBlocks
  cases outcome.answer with
  | ok decoded => rfl
  | error e => simp only [List.map_const', List.length_range]

theorem length_acks (outcome : GrantOutcome) : outcome.acks.length = outcome.nofBlocks := by
  rw [acks_eq, List.length_map, List.length_range]

theorem count_acks (outcome : GrantOutcome) :
    outcome.acks.count false = outcome.unacknowledged := by
  rw [acks_eq, List.count_eq_countP, List.countP_map, unacknowledged]
  refine List.countP_congr fun block _ => ?_
  simp

theorem unacknowledged_le (outcome : GrantOutcome) :
    outcome.unacknowledged ≤ outcome.nofBlocks := by
  have hle := List.countP_le_length (p := fun block => !outcome.acknowledges block)
    (l := List.range outcome.nofBlocks)
  rw [List.length_range] at hle
  exact hle

end GrantOutcome

namespace Downlink

variable {σ : Type} {cell : CellConfig} {antennas : Nat}

/-! ## The outcomes of a run -/

/-- The outcome of the grant that an event resolves, if it resolves one. -/
def outcome? (blocks : Blocks σ cell antennas) (downlink : Downlink σ cell antennas) :
    DownlinkEvent → Option GrantOutcome
  | .process frame subframe inputs rnti =>
    match receiveMessage blocks subframe inputs rnti downlink with
    | .ok (some (message, cfi)) found =>
      match resolve message (transmissionTime frame subframe) cfi cell found.harq with
      | .ok config harq => some ⟨config, answerOf (sharedRun blocks found rnti config harq)⟩
      | .error _ _ => none
    | _ => none
  | _ => none

/-- The outcomes of a history, the latest first. -/
def outcomes (blocks : Blocks σ cell antennas) (start : Downlink σ cell antennas) :
    List DownlinkEvent → List GrantOutcome
  | [] => []
  | event :: past =>
    (outcome? blocks (after blocks start past) event).toList ++ outcomes blocks start past

/-- A run has no more outcomes than events. -/
theorem length_outcomes_le (blocks : Blocks σ cell antennas) (start : Downlink σ cell antennas)
    (history : List DownlinkEvent) : (outcomes blocks start history).length ≤ history.length := by
  induction history with
  | nil => exact Nat.le_refl 0
  | cons event past ih =>
    have hone := Option.length_toList_le (o := outcome? blocks (after blocks start past) event)
    rw [outcomes, List.length_append, List.length_cons]
    omega

/-! ## One event -/

variable {blocks : Blocks σ cell antennas} {downlink : Downlink σ cell antennas}

/-- A subframe without an outcome counts nothing. An outcome is answered, and is counted as one
grant with all its blocks. -/
theorem Course.outcome {frame : UInt32} {subframe : Nat} {inputs : List (Array Sample)}
    {rnti : Rnti} {answer : Except ReceiveError SubframeResult} {after : Downlink σ cell antennas}
    {calls : List (BlockCall cell antennas)}
    (h : Course blocks downlink frame subframe inputs rnti answer after calls) :
    (outcome? blocks downlink (.process frame subframe inputs rnti) = none ∧
      fromSharedData answer = false ∧ after.metrics = downlink.metrics) ∨
    ∃ outcome, outcome? blocks downlink (.process frame subframe inputs rnti) = some outcome ∧
      (1 ≤ outcome.nofBlocks ∧ outcome.nofBlocks ≤ 2) ∧ answer = outcome.result ∧
      after.metrics = downlink.metrics.countGrant.countBlocks outcome.acks := by
  have hkept (hanswer : fromSharedData answer = false) :=
    kept_of_settled (h.settled_of_fromSharedData_eq_false hanswer).1
  cases h with
  | failed hreceived hrun =>
    have hanswer := hreceived.fromSharedData_error
    refine .inl ⟨?_, hanswer, (hkept hanswer).2.2⟩
    simp only [outcome?, hrun]
  | silent hreceived hrun =>
    refine .inl ⟨?_, rfl, (hkept rfl).2.2⟩
    simp only [outcome?, hrun]
  | rejected hreceived hrun hresolve =>
    refine .inl ⟨?_, rfl, (hkept rfl).2.2⟩
    have hharq : after.harq = downlink.harq := (hkept rfl).1
    simp only [outcome?, hrun, hharq, hresolve]
  | @decoded _ _ config harq found _ given _ _ hreceived hrun hresolve hgiven hleft =>
    have hkeeps : settled (stateAfter (receiveMessage blocks subframe inputs rnti downlink)) =
        settled downlink := keeps_settled_receiveMessage subframe inputs rnti downlink
    rw [hrun] at hkeeps
    obtain ⟨hharq, -, hmetrics⟩ : found.harq = downlink.harq ∧ _ ∧
      found.metrics = downlink.metrics := kept_of_settled hkeeps
    refine .inr ⟨⟨config, given⟩, ?_, nofBlocks_of_ofMessage (resolve_eq_ok_iff.mp hresolve).1, rfl,
      ?_⟩
    · simp only [outcome?, hrun, hharq, hresolve, hgiven]
    · rw [← hmetrics]
      rfl

/-- **An event counts a grant with all its blocks, or nothing.** -/
theorem metrics_perform (blocks : Blocks σ cell antennas) (downlink : Downlink σ cell antennas)
    (event : DownlinkEvent) :
    (outcome? blocks downlink event = none ∧
      (perform blocks downlink event).metrics = downlink.metrics) ∨
    ∃ outcome, outcome? blocks downlink event = some outcome ∧
      (1 ≤ outcome.nofBlocks ∧ outcome.nofBlocks ≤ 2) ∧
      (perform blocks downlink event).metrics =
        downlink.metrics.countGrant.countBlocks outcome.acks := by
  cases event with
  | process frame subframe inputs rnti =>
    rcases (course_subframeCalls blocks downlink frame subframe inputs rnti).outcome with
      ⟨hnone, -, hmetrics⟩ | ⟨outcome, hsome, hblocks, -, hmetrics⟩
    · exact .inl ⟨hnone, hmetrics⟩
    · exact .inr ⟨outcome, hsome, hblocks, hmetrics⟩
  | reset => exact .inl ⟨rfl, rfl⟩
  | _ => exact .inl ⟨rfl, (kept_perform (by simp) (by simp)).2.2⟩

end Downlink

/-! ## Balanced books -/

/-- Counters agree with outcomes. -/
structure Balanced (metrics : DownlinkMetrics) (outcomes : List GrantOutcome) : Prop where
  grants : metrics.grants = outcomes.length
  blocks : metrics.blocks = (outcomes.map (·.nofBlocks)).sum
  errors : metrics.errors = (outcomes.map (·.unacknowledged)).sum
  errors_le : metrics.errors ≤ metrics.blocks
  grants_le : metrics.grants ≤ metrics.blocks
  blocks_le : metrics.blocks ≤ 2 * metrics.grants

namespace Balanced

variable {metrics : DownlinkMetrics} {outcomes : List GrantOutcome}

theorem empty : Balanced default [] where
  grants := rfl
  blocks := rfl
  errors := rfl
  errors_le := Nat.le_refl 0
  grants_le := Nat.le_refl 0
  blocks_le := Nat.le_refl 0

theorem count (h : Balanced metrics outcomes) {outcome : GrantOutcome}
    (hblocks : 1 ≤ outcome.nofBlocks ∧ outcome.nofBlocks ≤ 2) :
    Balanced (metrics.countGrant.countBlocks outcome.acks) (outcome :: outcomes) := by
  obtain ⟨hlow, hhigh⟩ := hblocks
  have hgrants : (metrics.countGrant.countBlocks outcome.acks).grants = metrics.grants + 1 := rfl
  have hblocks : (metrics.countGrant.countBlocks outcome.acks).blocks =
      metrics.blocks + outcome.nofBlocks := congrArg (metrics.blocks + ·) outcome.length_acks
  have herrors : (metrics.countGrant.countBlocks outcome.acks).errors =
      metrics.errors + outcome.unacknowledged := congrArg (metrics.errors + ·) outcome.count_acks
  have hunacknowledged := outcome.unacknowledged_le
  have herrorsLe := h.errors_le
  have hgrantsLe := h.grants_le
  have hblocksLe := h.blocks_le
  exact
    { grants := by rw [hgrants, h.grants, List.length_cons]
      blocks := by rw [hblocks, h.blocks, List.map_cons, List.sum_cons, Nat.add_comm]
      errors := by rw [herrors, h.errors, List.map_cons, List.sum_cons, Nat.add_comm]
      errors_le := by omega
      grants_le := by omega
      blocks_le := by omega }

end Balanced

namespace Downlink

variable {σ : Type} {cell : CellConfig} {antennas : Nat} {blocks : Blocks σ cell antennas}
  {start : Downlink σ cell antennas}

theorem balanced_after {s : σ} (hstart : ofCell cell antennas s = .ok start)
    (history : List DownlinkEvent) :
    Balanced (after blocks start history).metrics (outcomes blocks start history) := by
  induction history with
  | nil =>
    show Balanced start.metrics []
    have hmetrics : start.metrics = default := congrArg (·.2.2.1) (settled_ofCell hstart)
    rw [hmetrics]
    exact .empty
  | cons event past ih =>
    show Balanced (perform blocks (after blocks start past) event).metrics
      ((outcome? blocks (after blocks start past) event).toList ++ outcomes blocks start past)
    rcases metrics_perform blocks (after blocks start past) event with
      ⟨hnone, hmetrics⟩ | ⟨outcome, hsome, hblocks, hmetrics⟩
    · rw [hnone, hmetrics]
      exact ih
    · rw [hsome, hmetrics]
      exact ih.count hblocks

/-- Counters only grow. -/
theorem metrics_le_perform (blocks : Blocks σ cell antennas) (downlink : Downlink σ cell antennas)
    (event : DownlinkEvent) :
    downlink.metrics.grants ≤ (perform blocks downlink event).metrics.grants ∧
    downlink.metrics.blocks ≤ (perform blocks downlink event).metrics.blocks ∧
    downlink.metrics.errors ≤ (perform blocks downlink event).metrics.errors := by
  rcases metrics_perform blocks downlink event with
    ⟨-, hmetrics⟩ | ⟨outcome, -, -, hmetrics⟩
  · rw [hmetrics]
    exact ⟨Nat.le_refl _, Nat.le_refl _, Nat.le_refl _⟩
  · rw [hmetrics]
    exact ⟨Nat.le_add_right _ _, Nat.le_add_right _ _, Nat.le_add_right _ _⟩

/-- Data that are answered have an entry for each block of their grant, and the blocks answered as
not decoded are the errors that are counted. -/
theorem counted_of_data {downlink : Downlink σ cell antennas} {frame : UInt32} {subframe : Nat}
    {inputs : List (Array Sample)} {rnti : Rnti} {tbs : Nat} {acks : List Bool}
    {payloads : List (Option (List UInt8))}
    (h : answerOf (processSubframe blocks frame subframe inputs rnti downlink) =
      .ok (.data tbs acks payloads)) :
    ∃ outcome, outcome? blocks downlink (.process frame subframe inputs rnti) = some outcome ∧
      acks.length = outcome.nofBlocks ∧ payloads.length = outcome.nofBlocks ∧
      (perform blocks downlink (.process frame subframe inputs rnti)).metrics.errors =
        downlink.metrics.errors + acks.count false := by
  rcases (course_subframeCalls blocks downlink frame subframe inputs rnti).outcome with
    ⟨-, hanswer, -⟩ | ⟨outcome, hsome, -, hresult, hmetrics⟩
  · rw [h] at hanswer
    cases hanswer
  · rw [h] at hresult
    refine ⟨outcome, hsome, ?_⟩
    obtain ⟨hacks, hpayloads⟩ : acks = outcome.acks ∧ payloads.length = outcome.nofBlocks := by
      unfold GrantOutcome.result at hresult
      split at hresult
      · cases hresult
        exact ⟨rfl, length_firstEntries _ _ _⟩
      · cases hresult
    refine ⟨by rw [hacks, outcome.length_acks], hpayloads, ?_⟩
    have herrors := congrArg (·.errors) hmetrics
    rw [hacks]
    exact herrors

/--
**The counters of a run.**

The grants counted are those that were resolved, the blocks counted are all theirs, and the errors
counted are the blocks that the decoder of shared data did not report as decoded: all of a grant
when it failed, and those that it said nothing about.

So there are at most as many errors as blocks, and one or two blocks for each grant. There are at
most two blocks for each event too, so counters of 64 bits hold every run of fewer than `2 ^ 63`
events. No event takes a count back. Data that are answered have exactly one entry for each block of
the grant, and the blocks answered as not decoded are exactly the errors counted for it.
-/
theorem metrics_of_run (blocks : Blocks σ cell antennas) {s : σ}
    (hstart : ofCell cell antennas s = .ok start) (history : List DownlinkEvent) :
    let last := after blocks start history
    let all := outcomes blocks start history
    last.metrics.grants = all.length ∧
    last.metrics.blocks = (all.map (·.nofBlocks)).sum ∧
    last.metrics.errors = (all.map (·.unacknowledged)).sum ∧
    last.metrics.errors ≤ last.metrics.blocks ∧
    (last.metrics.grants ≤ last.metrics.blocks ∧
      last.metrics.blocks ≤ 2 * last.metrics.grants) ∧
    last.metrics.blocks ≤ 2 * history.length ∧
    (∀ event,
      last.metrics.grants ≤ (perform blocks last event).metrics.grants ∧
      last.metrics.blocks ≤ (perform blocks last event).metrics.blocks ∧
      last.metrics.errors ≤ (perform blocks last event).metrics.errors) ∧
    ∀ frame subframe inputs rnti tbs acks payloads,
      answerOf (processSubframe blocks frame subframe inputs rnti last) =
        .ok (.data tbs acks payloads) →
      ∃ outcome, outcome? blocks last (.process frame subframe inputs rnti) = some outcome ∧
        acks.length = outcome.nofBlocks ∧ payloads.length = outcome.nofBlocks ∧
        (perform blocks last (.process frame subframe inputs rnti)).metrics.errors =
          last.metrics.errors + acks.count false := by
  intro last all
  have hbalanced : Balanced last.metrics all := balanced_after hstart history
  have hevents : last.metrics.grants ≤ history.length :=
    hbalanced.grants ▸ length_outcomes_le blocks start history
  exact ⟨hbalanced.grants, hbalanced.blocks, hbalanced.errors, hbalanced.errors_le,
    ⟨hbalanced.grants_le, hbalanced.blocks_le⟩,
    hbalanced.blocks_le.trans (Nat.mul_le_mul_left 2 hevents), metrics_le_perform blocks last,
    fun _ _ _ _ _ _ _ hdata => counted_of_data hdata⟩

/-- A grant whose block the decoder says nothing about is counted with one error. -/
theorem metrics_of_run_firstTurn :
    ∃ start, ofCell cellOfTwoPorts 1 (0 : UInt16) = .ok start ∧
      (after takingTurns start firstTurn).metrics = ⟨1, 1, 1⟩ ∧
      (after takingTurns start firstTurn).metrics.grants =
        (outcomes takingTurns start firstTurn).length ∧
      (after takingTurns start firstTurn).metrics.errors =
        ((outcomes takingTurns start firstTurn).map (·.unacknowledged)).sum := by
  obtain ⟨start, hstart, hmetrics⟩ : ∃ start, ofCell cellOfTwoPorts 1 (0 : UInt16) = .ok start ∧
      (after takingTurns start firstTurn).metrics = ⟨1, 1, 1⟩ := ⟨_, rfl, rfl⟩
  obtain ⟨hgrants, -, herrors, -⟩ := metrics_of_run takingTurns hstart firstTurn
  exact ⟨start, hstart, hmetrics, hgrants, herrors⟩

end Downlink

end LteReceiver
