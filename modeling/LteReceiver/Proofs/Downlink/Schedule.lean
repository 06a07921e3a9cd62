import LteReceiver.Proofs.Downlink.Course
import LteReceiver.Proofs.Downlink.Provenance
import LteReceiver.Proofs.Transport.Schemes

/-!
# The schedule of redundancy versions

A message without a redundancy version gets the one that is scheduled for its frame. On its way
there the frame is counted in three ways: the caller counts in 32 bits, the frame number of the air
interface starts over at 1024, and the transmission time counts subframes, from which the frame
number is taken back.

The schedule repeats after eight frames, and whatever starts over after a multiple of eight is as
good as a count that never does (`frameVersion_mod`). So the versions follow the count of the caller
(`scheduledRv_transmissionTime`), and go on without a break where any of the counters starts over
(`version_of_processSubframe`).
-/

namespace LteReceiver

/-! ## Frames counted without end -/

/-- The redundancy version of a frame, by its place among four pairs of frames. -/
def frameVersion (frame : Nat) : Nat :=
  ceilDiv (3 * (frame / 2 % 4)) 2 % 4

/-- The versions in their order. -/
def versionCycle : List Nat :=
  [0, 2, 3, 1]

theorem frameVersion_eq (frame : Nat) :
    versionCycle[frame / 2 % 4]? = some (frameVersion frame) := by
  have hplace : frame / 2 % 4 < 4 := Nat.mod_lt _ (by decide)
  unfold frameVersion
  generalize frame / 2 % 4 = place at hplace
  match place, hplace with
  | 0, _ | 1, _ | 2, _ | 3, _ => rfl

/-- A counter that starts over after some rounds of the schedule gives the same versions. -/
theorem frameVersion_mod {period : Nat} (h : 8 ∣ period) (frame : Nat) :
    frameVersion (frame % period) = frameVersion frame := by
  have hplace (frame : Nat) : frame / 2 % 4 = frame % 8 / 2 := by omega
  unfold frameVersion
  rw [hplace, Nat.mod_mod_of_dvd frame h, ← hplace]

theorem scheduledRv_eq (frame : UInt32) : scheduledRv frame = frameVersion frame.toNat := by
  have hplace : (frame / 2 % 4).toNat = frame.toNat / 2 % 4 := by simp
  rw [scheduledRv, hplace]
  rfl

namespace Downlink

variable {σ : Type} {cell : CellConfig} {antennas : Nat} {blocks : Blocks σ cell antennas}
  {downlink after : Downlink σ cell antennas} {frame : UInt32} {subframe : Nat}
  {inputs : List (Array Sample)} {rnti : Rnti}

/-- The version that is scheduled for a transmission time is that of the frame as the caller counts
it. -/
theorem scheduledRv_transmissionTime (hframe : subframe < subframesPerFrame) :
    scheduledRv (transmissionTime frame subframe / 10) = frameVersion frame.toNat := by
  have hnumber : (transmissionTime frame subframe / 10).toNat = frame.toNat % 1024 := by
    have hlt : subframe < 10 := hframe
    rw [UInt32.toNat_div, toNat_transmissionTime hframe]
    show _ / 10 = _
    omega
  rw [scheduledRv_eq, hnumber, frameVersion_mod (by decide)]

/-! ## Messages that are found -/

/-- A message that is found and not refused is resolved, and its configuration is kept, whatever
becomes of its data. -/
theorem Course.resolved_of_finds {answer : Except ReceiveError SubframeResult}
    {calls : List (BlockCall cell antennas)} {message : DciMessage} {cfi : Nat}
    (h : Course blocks downlink frame subframe inputs rnti answer after calls)
    (hfinds : Finds rnti calls message cfi) (hserved : ¬ message.Refused) :
    ∃ config harq,
      resolve message (transmissionTime frame subframe) cfi cell downlink.harq = .ok config harq ∧
        after.config? = some config := by
  cases h with
  | failed hreceived _ => cases hreceived.finds_iff.mp hfinds
  | silent hreceived _ => cases hreceived.finds_iff.mp hfinds
  | rejected hreceived _ hresolve =>
    cases hreceived.finds_iff.mp hfinds
    rcases ofMessage_cases message (transmissionTime frame subframe) cfi cell with
      ⟨hrefused, -⟩ | ⟨-, config, hconfig, -⟩
    · exact absurd hrefused hserved
    · cases (resolve_eq_ok_iff.mpr ⟨hconfig, rfl⟩).symm.trans hresolve
  | @decoded _ _ config harq _ _ _ _ _ hreceived _ hresolve _ _ =>
    cases hreceived.finds_iff.mp (finds_append_shared.mp hfinds)
    exact ⟨config, harq, hresolve, rfl⟩

/--
**The schedule of redundancy versions follows the frames as the caller counts them.**

The transmission time of a subframe is worked out without a number that is too large for it. A
message that is found in the subframe, and that is not refused, is resolved for that subframe.

If the message has no redundancy version, both slots get the one scheduled for the frame. The
schedule knows nothing of the points where counters start over: whatever number the caller has got
to when he shows its last 32 bits, the versions are `0, 2, 3, 1`, each for two frames.
-/
theorem version_of_processSubframe (blocks : Blocks σ cell antennas)
    (downlink : Downlink σ cell antennas) (frame : UInt32) {subframe : Nat} (hframe : subframe < 10)
    (inputs : List (Array Sample)) (rnti : Rnti) :
    (transmissionTime frame subframe).toNat = frame.toNat % 1024 * 10 + subframe ∧
    ∀ message cfi,
      Finds rnti (subframeCalls blocks downlink frame subframe inputs rnti) message cfi →
      ¬ message.Refused →
      ∃ config harq,
        resolve message (transmissionTime frame subframe) cfi cell downlink.harq =
          .ok config harq ∧
        (stateAfter (processSubframe blocks frame subframe inputs rnti downlink)).config? =
          some config ∧
        config.subframe = subframe ∧
        (message.fields.rv? = none →
          config.rv = .replicate 2 (ceilDiv (3 * (frame.toNat / 2 % 4)) 2 % 4) ∧
          ∀ count : Nat, frame = .ofNat count →
            ∃ version, versionCycle[count / 2 % 4]? = some version ∧
              config.rv = .replicate 2 version) := by
  refine ⟨toNat_transmissionTime hframe, fun message cfi hfinds hserved => ?_⟩
  obtain ⟨config, harq, hresolve, hconfig⟩ :=
    (course_subframeCalls blocks downlink frame subframe inputs rnti).resolved_of_finds hfinds
      hserved
  refine ⟨config, harq, hresolve, hconfig, subframe_of_resolve hframe hresolve, fun hnone => ?_⟩
  -- the frame number is taken back from the transmission time, and 1024 is a multiple of eight
  have hversion : config.rv = .replicate 2 (frameVersion frame.toNat) := by
    rw [(ofMessage_fields (resolve_eq_ok_iff.mp hresolve).1).2.2, PdschConfig.redundancyVersions,
      hnone, ← scheduledRv_transmissionTime hframe]
  -- and so is the number of values that the counter has
  refine ⟨hversion, fun count hcount => ⟨_, frameVersion_eq count, ?_⟩⟩
  rw [hversion, hcount, UInt32.toNat_ofNat', frameVersion_mod (by decide)]

/-- A grant without a redundancy version. -/
def unversionedGrant : DciMessage :=
  { shortGrant with fields := { shortGrant.fields with rv? := none } }

/-- Blocks that find this grant for one identity. -/
def findingUnversioned : Blocks UInt16 cellOfTwoPorts 1 :=
  { takingTurns with messages := ⟨fun _ _ s => .ok ⟨unversionedGrant, 0x46⟩ s⟩ }

/-- The last frame before the counter starts over has the last version. -/
theorem version_of_processSubframe_lastFrame :
    (3 < 10) ∧ ∃ start config, ofCell cellOfTwoPorts 1 (0 : UInt16) = .ok start ∧
      (stateAfter (processSubframe findingUnversioned 0xffffffff 3 [#[]] ⟨0x46⟩ start)).config? =
        some config ∧
      config.subframe = 3 ∧ config.rv = .replicate 2 1 := by
  have hframe : 3 < 10 := by decide
  obtain ⟨start, hstart, hmessages, hformats⟩ : ∃ start,
      ofCell cellOfTwoPorts 1 (0 : UInt16) = .ok start ∧
      (subframeCalls findingUnversioned start 0xffffffff 3 [#[]] ⟨0x46⟩).filterMap
        (·.found? ⟨0x46⟩) = [unversionedGrant] ∧
      (subframeCalls findingUnversioned start 0xffffffff 3 [#[]] ⟨0x46⟩).filterMap
        (·.cfi?) = [3] :=
    ⟨_, rfl, by decide +kernel, by decide +kernel⟩
  have hfinds : Finds ⟨0x46⟩
      (subframeCalls findingUnversioned start 0xffffffff 3 [#[]] ⟨0x46⟩) unversionedGrant 3 := by
    unfold Finds
    rw [← List.mem_filterMap, ← List.mem_filterMap, hmessages, hformats]
    exact ⟨List.mem_singleton_self _, List.mem_singleton_self _⟩
  obtain ⟨config, -, -, hconfig, hsubframe, hversion⟩ :=
    (version_of_processSubframe findingUnversioned start 0xffffffff hframe [#[]] ⟨0x46⟩).2
      unversionedGrant 3 hfinds (by decide)
  exact ⟨hframe, start, config, hstart, hconfig, hsubframe, (hversion rfl).1⟩

end Downlink

end LteReceiver
