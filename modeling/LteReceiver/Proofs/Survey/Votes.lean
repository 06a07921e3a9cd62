import LteReceiver.Proofs.Survey.Frames

/-!
# The votes of a survey

A tally of votes counts the identities that were read (`Tally.Counts`), in whatever order it keeps
them. Of two cells with their votes one always leads, and only of itself and of no other cell does a
cell lead both ways (`Leads.antisymm`), so the winner is known from the votes alone
(`Tally.Counts.winner?_eq_some_iff`): neither the order of the tally nor the order in which the
votes came in has a part in it.

What is found in a sector does not depend on what was found before (`searchSector_eq`), so the
sectors can be searched in any order.
-/

namespace LteReceiver

/-! ## Counting votes -/

/-- An entry after a vote is an old one of another cell, or the one of the cell with a vote more. -/
theorem of_mem_addVote {id other : Pci} {votes : Nat} {entries : List (Pci × Nat)}
    (hnodup : (entries.map (·.1)).Nodup) (h : (other, votes) ∈ addVote id entries) :
    (other ≠ id ∧ (other, votes) ∈ entries) ∨
      (other = id ∧ ((∃ before, (id, before) ∈ entries ∧ votes = before + 1) ∨
        (id ∉ entries.map (·.1) ∧ votes = 1))) := by
  induction entries with
  | nil =>
    obtain ⟨rfl, rfl⟩ : other = id ∧ votes = 1 := by simpa [addVote] using h
    exact .inr ⟨rfl, .inr ⟨List.not_mem_nil, rfl⟩⟩
  | cons entry rest ih =>
    obtain ⟨first, before⟩ := entry
    obtain ⟨hnew, hrest⟩ := List.nodup_cons.mp hnodup
    rw [addVote] at h
    split at h
    next hsame =>
      subst hsame
      rcases List.mem_cons.mp h with hhere | hthere
      · cases hhere
        exact .inr ⟨rfl, .inl ⟨before, List.mem_cons_self, rfl⟩⟩
      · refine .inl ⟨?_, List.mem_cons_of_mem _ hthere⟩
        -- no cell is listed twice, so none of the other entries is for this one
        rintro rfl
        exact hnew (List.mem_map.mpr ⟨(other, votes), hthere, rfl⟩)
    next hdiffer =>
      rcases List.mem_cons.mp h with hhere | hthere
      · cases hhere
        exact .inl ⟨hdiffer, List.mem_cons_self⟩
      · rcases ih hrest hthere with ⟨hother, hmem⟩ | ⟨rfl, ⟨old, hmem, rfl⟩ | ⟨hnone, rfl⟩⟩
        · exact .inl ⟨hother, List.mem_cons_of_mem _ hmem⟩
        · exact .inr ⟨rfl, .inl ⟨old, List.mem_cons_of_mem _ hmem, rfl⟩⟩
        · refine .inr ⟨rfl, .inr ⟨?_, rfl⟩⟩
          rw [List.map_cons, List.mem_cons, not_or]
          exact ⟨fun heq => hdiffer heq.symm, hnone⟩

theorem sum_addVote (id : Pci) (entries : List (Pci × Nat)) :
    ((addVote id entries).map (·.2)).sum = (entries.map (·.2)).sum + 1 := by
  induction entries with
  | nil => rfl
  | cons entry rest ih =>
    rw [addVote]
    split
    · simp only [List.map_cons, List.sum_cons]
      omega
    · simp only [List.map_cons, List.sum_cons, ih]
      omega

/-- A tally lists the identities that were read, each with how often it was. -/
structure Tally.Counts (tally : Tally) (ids : List Pci) : Prop where
  mem_keys : ∀ id, id ∈ tally.entries.map (·.1) ↔ id ∈ ids
  votes : ∀ id votes, (id, votes) ∈ tally.entries → votes = ids.count id
  sum : (tally.entries.map (·.2)).sum = ids.length

namespace Tally

variable {tally other : Tally} {ids : List Pci}

theorem counts_empty : Tally.empty.Counts [] where
  mem_keys _ := Iff.rfl
  votes _ _ h := by cases h
  sum := rfl

theorem Counts.add (h : tally.Counts ids) (id : Pci) : (tally.add id).Counts (ids ++ [id]) where
  mem_keys other := by
    rw [Tally.add, keys_addVote, List.mem_append, ← h.mem_keys]
    split
    next hknown =>
      refine (or_iff_left_of_imp fun hlast => ?_).symm
      rw [List.mem_singleton.mp hlast]
      exact hknown
    next => exact List.mem_append
  votes other votes hmem := by
    rw [List.count_append]
    rcases of_mem_addVote tally.nodup hmem with ⟨hother, hold⟩ | ⟨rfl, hvotes⟩
    · rw [h.votes other votes hold, List.count_singleton, if_neg (by simpa using hother.symm)]
      rfl
    · rw [List.count_singleton_self]
      rcases hvotes with ⟨before, hold, rfl⟩ | ⟨hnew, rfl⟩
      · rw [h.votes other before hold]
      · rw [List.count_eq_zero_of_not_mem fun hread => hnew ((h.mem_keys other).mpr hread)]
  sum := by
    rw [Tally.add, sum_addVote, h.sum, List.length_append, List.length_singleton]

/-- The order of the entries has no part in what a tally counts. -/
theorem Counts.of_perm (h : tally.Counts ids) (hperm : other.entries.Perm tally.entries) :
    other.Counts ids where
  mem_keys id := (hperm.map _).mem_iff.trans (h.mem_keys id)
  votes id votes hmem := h.votes id votes (hperm.mem_iff.mp hmem)
  sum := (hperm.map _).sum_nat.trans h.sum

theorem Counts.mem_iff (h : tally.Counts ids) {id : Pci} {votes : Nat} :
    (id, votes) ∈ tally.entries ↔ id ∈ ids ∧ votes = ids.count id := by
  constructor
  · intro hmem
    exact ⟨(h.mem_keys id).mp (List.mem_map_of_mem hmem), h.votes id votes hmem⟩
  · rintro ⟨hread, rfl⟩
    obtain ⟨entry, hmem, rfl⟩ := List.mem_map.mp ((h.mem_keys id).mpr hread)
    rw [← h.votes entry.1 entry.2 hmem]
    exact hmem

end Tally

/-! ## The winner -/

/-- A cell with its votes leads another one: it has more, or as many and no larger identity. -/
def Leads (a b : Pci × Nat) : Prop :=
  b.2 < a.2 ∨ (b.2 = a.2 ∧ a.1.value ≤ b.1.value)

section Leads

variable {a b c : Pci × Nat}

theorem Leads.refl (a : Pci × Nat) : Leads a a :=
  .inr ⟨rfl, Nat.le_refl _⟩

theorem Leads.trans (hab : Leads a b) (hbc : Leads b c) : Leads a c := by
  unfold Leads at *
  omega

/-- Two cells that lead each other are the same. -/
theorem Leads.antisymm (hab : Leads a b) (hba : Leads b a) : a = b := by
  obtain ⟨⟨first⟩, votes⟩ := a
  obtain ⟨⟨second⟩, others⟩ := b
  simp only [Leads] at hab hba
  obtain ⟨rfl, rfl⟩ : first = second ∧ votes = others := by omega
  rfl

theorem moreVotes_eq_or (a b : Pci × Nat) : moreVotes a b = a ∨ moreVotes a b = b := by
  unfold moreVotes
  split
  · exact .inr rfl
  · exact .inl rfl

theorem leads_moreVotes (a b : Pci × Nat) :
    Leads (moreVotes a b) a ∧ Leads (moreVotes a b) b := by
  unfold moreVotes
  split
  next hbehind => exact ⟨by unfold Leads; omega, .refl b⟩
  next hahead => exact ⟨.refl a, by unfold Leads; omega⟩

end Leads

/-- The leader among cells leads them all. -/
theorem leads_foldl_moreVotes (first : Pci × Nat) (rest : List (Pci × Nat)) :
    ∀ entry ∈ first :: rest, Leads (rest.foldl moreVotes first) entry := by
  induction rest generalizing first with
  | nil =>
    intro entry hentry
    rw [List.mem_singleton.mp hentry]
    exact .refl first
  | cons next rest ih =>
    have hrest := ih (moreVotes first next)
    have hmore := hrest _ List.mem_cons_self
    obtain ⟨hfirst, hnext⟩ := leads_moreVotes first next
    intro entry hentry
    rcases List.mem_cons.mp hentry with rfl | hentry
    · exact hmore.trans hfirst
    · rcases List.mem_cons.mp hentry with rfl | hentry
      · exact hmore.trans hnext
      · exact hrest entry (List.mem_cons_of_mem _ hentry)

/-- The winner is one of the cells and leads them all, and it is the only one that does. -/
theorem winner?_eq_some_iff {entries : List (Pci × Nat)} {best : Pci × Nat} :
    winner? entries = some best ↔ best ∈ entries ∧ ∀ entry ∈ entries, Leads best entry := by
  cases entries with
  | nil => exact iff_of_false (by simp [winner?]) fun h => List.not_mem_nil h.1
  | cons first rest =>
    have hleads := leads_foldl_moreVotes first rest
    have hmem : rest.foldl moreVotes first ∈ first :: rest :=
      List.mem_cons.mpr (choice_mem id moreVotes moreVotes_eq_or rest first)
    rw [winner?, Option.some.injEq]
    constructor
    · rintro rfl
      exact ⟨hmem, hleads⟩
    · rintro ⟨hbest, hall⟩
      exact (hleads best hbest).antisymm (hall _ hmem)

namespace Tally

variable {tally other : Tally} {ids ids' : List Pci}

/-- The winner was read most often, and of those that were read as often it is the smallest. -/
theorem Counts.winner?_eq_some_iff (h : tally.Counts ids) {best : Pci × Nat} :
    winner? tally.entries = some best ↔ best.1 ∈ ids ∧ best.2 = ids.count best.1 ∧
      ∀ other ∈ ids, Leads best (other, ids.count other) := by
  rw [LteReceiver.winner?_eq_some_iff, h.mem_iff, and_assoc]
  refine and_congr_right fun _ => and_congr_right fun _ => ?_
  constructor
  · intro hleads other hother
    exact hleads _ (h.mem_iff.mpr ⟨hother, rfl⟩)
  · rintro hleads ⟨other, votes⟩ hentry
    obtain ⟨hother, rfl⟩ := h.mem_iff.mp hentry
    exact hleads other hother

/-- Tallies of the same identities, read in any order, have the same winner. -/
theorem Counts.winner?_eq (h : tally.Counts ids) (h' : other.Counts ids')
    (hperm : ids.Perm ids') : winner? tally.entries = winner? other.entries := by
  refine Option.ext fun best => ?_
  rw [h.winner?_eq_some_iff, h'.winner?_eq_some_iff]
  simp only [hperm.mem_iff, hperm.count_eq]

/-- Where any identity was read, there is a winner. -/
theorem Counts.exists_winner (h : tally.Counts ids) (hread : ids ≠ []) :
    ∃ best, winner? tally.entries = some best := by
  cases hentries : tally.entries with
  | nil =>
    obtain ⟨id, hid⟩ := List.exists_mem_of_ne_nil ids hread
    have hkey := (h.mem_keys id).mpr hid
    rw [hentries] at hkey
    cases hkey
  | cons first rest => exact ⟨_, rfl⟩

theorem Counts.winner?_nil (h : tally.Counts []) : winner? tally.entries = none := by
  refine Option.eq_none_iff_forall_ne_some.mpr fun best hbest => ?_
  exact List.not_mem_nil (h.winner?_eq_some_iff.mp hbest).1

end Tally

/-! ## What was found -/

section Found

variable {findings : Findings} {ids : List Pci}

theorem Findings.noteAll_append (findings : Findings) (first second : List Detection) :
    findings.noteAll (first ++ second) = (findings.noteAll first).noteAll second :=
  List.foldl_append

theorem Findings.detections_noteAll (findings : Findings) (detections : List Detection) :
    (findings.noteAll detections).detections.toList =
      findings.detections.toList ++ detections := by
  induction detections generalizing findings with
  | nil => exact (List.append_nil _).symm
  | cons detection rest ih =>
    have hfirst : (findings.note detection).detections.toList =
        findings.detections.toList ++ [detection] := Array.toList_push
    rw [Findings.noteAll, List.foldl_cons]
    refine (ih (findings.note detection)).trans ?_
    rw [hfirst, List.append_assoc, List.singleton_append]

theorem counts_note (h : findings.votes.Counts ids) (detection : Detection) :
    (findings.note detection).votes.Counts (ids ++ detection.cellId?.toList) := by
  unfold Findings.note
  cases detection.cellId? with
  | none =>
    rw [Option.toList_none, List.append_nil]
    exact h
  | some id => exact h.add id

/-- The votes count the identities of the detections. -/
theorem counts_noteAll (h : findings.votes.Counts ids) (detections : List Detection) :
    (findings.noteAll detections).votes.Counts (ids ++ detections.filterMap (·.cellId?)) := by
  induction detections generalizing findings ids with
  | nil =>
    rw [List.filterMap_nil, List.append_nil]
    exact h
  | cons detection rest ih =>
    have hrest := ih (counts_note h detection)
    rw [List.append_assoc] at hrest
    cases hcell : detection.cellId? with
    | none =>
      rw [List.filterMap_cons_none hcell]
      rw [hcell] at hrest
      exact hrest
    | some id =>
      rw [List.filterMap_cons_some hcell]
      rw [hcell] at hrest
      exact hrest

end Found

/-! ## Summaries -/

section Summaries

variable {tally other : Tally} {ids ids' : List Pci}

theorem Leads.strict {id other : Pci} {votes others : Nat} (h : Leads (id, votes) (other, others))
    (hne : other ≠ id) : others < votes ∨ (others = votes ∧ id.value < other.value) := by
  rcases h with hmore | ⟨heq, hle⟩
  · exact .inl hmore
  · refine .inr ⟨heq, Nat.lt_of_le_of_ne hle fun hvalue => hne ?_⟩
    cases id
    cases other
    exact congrArg Pci.mk hvalue.symm

/-- A summary names the winner with its votes. -/
theorem summarize_spec (h : tally.Counts ids) (detections : Nat) :
    let summary := summarize tally detections
    (ids = [] → summary.cellId? = none ∧ summary.votes = 0) ∧
    (ids ≠ [] → ∃ id ∈ ids, summary.cellId? = some id ∧ summary.votes = ids.count id ∧
      ∀ other ∈ ids, other ≠ id → ids.count other < ids.count id ∨
        (ids.count other = ids.count id ∧ id.value < other.value)) ∧
    summary.votes ≤ ids.length := by
  intro summary
  by_cases hread : ids = []
  · subst hread
    have hnone : summary.cellId? = none ∧ summary.votes = 0 := by
      simp only [summary, summarize, h.winner?_nil, Option.map_none, Option.getD_none, and_self]
    exact ⟨fun _ => hnone, fun hsome => absurd rfl hsome, Nat.le_of_eq hnone.2⟩
  · obtain ⟨⟨id, votes⟩, hbest⟩ := h.exists_winner hread
    obtain ⟨hid, hcount, hleads⟩ := h.winner?_eq_some_iff.mp hbest
    obtain rfl : votes = ids.count id := hcount
    have hvotes : summary.votes = ids.count id := by
      simp only [summary, summarize, hbest, Option.map_some, Option.getD_some]
    refine ⟨fun hnone => absurd hnone hread, fun _ => ⟨id, hid, ?_, hvotes, ?_⟩, ?_⟩
    · simp only [summary, summarize, hbest, Option.map_some]
    · exact fun other hother hne => (hleads other hother).strict hne
    · rw [hvotes]
      exact List.count_le_length

theorem summarize_congr (h : tally.Counts ids) (h' : other.Counts ids') (hperm : ids.Perm ids')
    (detections : Nat) : summarize tally detections = summarize other detections := by
  rw [summarize, summarize, h.winner?_eq h' hperm]

/-- The summary of a list of detections. -/
def summaryOf (detections : List Detection) : Summary :=
  summarize (Findings.empty.noteAll detections).votes detections.length

theorem counts_of_detections (detections : List Detection) :
    (Findings.empty.noteAll detections).votes.Counts (detections.filterMap (·.cellId?)) :=
  have hnone : Findings.empty.votes.Counts [] := Tally.counts_empty
  counts_noteAll hnone detections

/-- The order of the detections has no part in their summary. -/
theorem summaryOf_perm {first second : List Detection} (h : first.Perm second) :
    summaryOf first = summaryOf second := by
  rw [summaryOf, summaryOf, h.length_eq]
  exact summarize_congr (counts_of_detections first) (counts_of_detections second)
    (h.filterMap _) _

end Summaries

/-! ## Sectors in a row -/

/-- What a search for a sector alone finds. -/
def foundIn (settings : Settings) (samples : Array Sample) (instruments : Instruments)
    (sector : Nat) : List Detection :=
  (stateAfter (searchSector settings samples instruments sector .empty)).detections.toList

section Sectors

variable {settings : Settings} {made : Synchronizer} (samples : Array Sample)
  (instruments : Instruments)
  (hmade : Synchronizer.ofSettings settings.sync instruments.transform = .ok made)
include hmade

/-- What was found before has no part in what is found in a sector. -/
theorem searchSector_eq {sector : Nat} (hsector : sector < 3) (findings : Findings) :
    searchSector settings samples instruments sector findings =
      .ok (foundIn settings samples instruments sector).length
        (findings.noteAll (foundIn settings samples instruments sector)) := by
  obtain ⟨s, last, calls, -, -, -, -, -, -, hsearch⟩ :=
    exists_searchSector samples instruments hmade ⟨sector, hsector⟩
  have hfound : foundIn settings samples instruments sector = reported sector 0 calls := by
    rw [foundIn, hsearch .empty, stateAfter, Findings.detections_noteAll]
    rfl
  rw [hfound]
  exact hsearch findings

theorem searchSectors_eq {sectors : List Nat} (hsectors : ∀ sector ∈ sectors, sector < 3)
    (detections : Nat) (findings : Findings) :
    let found := (sectors.map (foundIn settings samples instruments)).flatten
    searchSectors settings samples instruments sectors detections findings =
      .ok (detections + found.length) (findings.noteAll found) := by
  induction sectors generalizing detections findings with
  | nil => rfl
  | cons sector rest ih =>
    intro found
    have hfirst := searchSector_eq samples instruments hmade
      (hsectors sector List.mem_cons_self) findings
    rw [searchSectors, bind_of_ok hfirst,
      ih fun later hlater => hsectors later (List.mem_cons_of_mem _ hlater)]
    simp only [found, List.map_cons, List.flatten_cons, List.length_append,
      Findings.noteAll_append, Nat.add_assoc]

theorem searchAll_eq {sectors : List Nat} (hsectors : ∀ sector ∈ sectors, sector < 3) :
    let found := (sectors.map (foundIn settings samples instruments)).flatten
    searchAll settings samples instruments sectors .empty =
      .ok (summaryOf found) (Findings.empty.noteAll found) := by
  intro found
  rw [searchAll, bind_of_ok (searchSectors_eq samples instruments hmade hsectors 0 .empty),
    Nat.zero_add]
  rfl

end Sectors

/-! ## Surveys -/

/--
**A survey names the cell that was read most often.**

Whatever the searches detect, with the identities that were read among the detections,

* the summary has no cell and no votes where none was read; otherwise it has one that was read as
  often as the votes say, and every other one was read less often, or as often and is larger;
* it is the same in whatever order the tally of the votes is kept, and in whatever order the
  searches are run;
* the votes for all cells together are the detections with an identity.

With settings from which a synchronizer is made, and whatever its instruments measure, a survey of
sectors of which there are three, some of them more than once perhaps, answers with the summary of
what is found in each of them, and sums up to the same in every other order of the sectors.
-/
theorem summary_of_survey :
    (∀ searches : List (List Detection),
      let found := searches.flatten
      let ids := found.filterMap (·.cellId?)
      let votes := (Findings.empty.noteAll found).votes
      let summary := summarize votes found.length
      (ids = [] → summary.cellId? = none ∧ summary.votes = 0) ∧
      (ids ≠ [] → ∃ id ∈ ids, summary.cellId? = some id ∧ summary.votes = ids.count id ∧
        ∀ other ∈ ids, other ≠ id → ids.count other < ids.count id ∨
          (ids.count other = ids.count id ∧ id.value < other.value)) ∧
      (∀ tally : Tally, tally.entries.Perm votes.entries →
        summarize tally found.length = summary) ∧
      (∀ others : List (List Detection), others.Perm searches →
        summarize (Findings.empty.noteAll others.flatten).votes others.flatten.length = summary) ∧
      (votes.entries.map (·.2)).sum = ids.length ∧ summary.votes ≤ ids.length ∧
      ids.length ≤ summary.detections) ∧
    ∀ (settings : Settings) (made : Synchronizer) (samples : Array Sample)
      (instruments : Instruments),
      Synchronizer.ofSettings settings.sync instruments.transform = .ok made →
      ∃ inSector : Nat → List Detection,
        (∀ sector < 3, ∀ findings, searchSector settings samples instruments sector findings =
          .ok (inSector sector).length (findings.noteAll (inSector sector))) ∧
        ∀ sectors : List Nat, (∀ sector ∈ sectors, sector < 3) →
          let found := (sectors.map inSector).flatten
          let summary := summarize (Findings.empty.noteAll found).votes found.length
          (∀ asked? earlier, settings.sectors asked? = .ok sectors →
            surveyWith instruments settings (.ok samples) asked? earlier =
              .ok summary (earlier ++ found.toArray)) ∧
          ∀ others : List Nat, others.Perm sectors →
            answerOf (searchAll settings samples instruments others .empty) = .ok summary := by
  constructor
  · intro searches found ids votes summary
    have hcounts : votes.Counts ids := counts_of_detections found
    obtain ⟨hnone, hsome, hle⟩ := summarize_spec hcounts found.length
    refine ⟨hnone, hsome, ?_, ?_, hcounts.sum, hle, List.length_filterMap_le ..⟩
    · intro tally hperm
      exact summarize_congr (hcounts.of_perm hperm) hcounts (.refl ids) found.length
    · intro others hperm
      exact summaryOf_perm hperm.flatten
  · intro settings made samples instruments hmade
    refine ⟨foundIn settings samples instruments,
      fun sector => searchSector_eq samples instruments hmade, ?_⟩
    intro sectors hsectors found summary
    have hall := searchAll_eq samples instruments hmade hsectors
    constructor
    · intro asked? earlier hasked
      have hdetections : (Findings.empty.noteAll found).detections = found.toArray :=
        Array.toList_inj.mp (Findings.empty.detections_noteAll found)
      unfold surveyWith
      rw [hasked, ← hdetections]
      dsimp only
      rw [hall]
      rfl
    · intro others hperm
      have hothers := searchAll_eq samples instruments hmade fun sector hsector =>
        hsectors sector (hperm.mem_iff.mp hsector)
      rw [hothers]
      exact congrArg Except.ok (summaryOf_perm (hperm.map _).flatten)

open Synchronizer (foundEverywhere silence)

/-- Two cells with two votes each, of which the smaller one wins either way around. -/
theorem summary_of_survey_silence : ∃ made : Synchronizer,
    Synchronizer.ofSettings silentSurvey.sync = .ok made ∧
    answerOf (searchAll silentSurvey silence foundEverywhere [1, 0] .empty) =
      .ok ⟨some ⟨0⟩, 2, 6⟩ ∧
    answerOf (searchAll silentSurvey silence foundEverywhere [0, 1] .empty) =
      .ok ⟨some ⟨0⟩, 2, 6⟩ := by
  obtain ⟨made, hmade⟩ : ∃ made, Synchronizer.ofSettings silentSurvey.sync = .ok made := ⟨_, rfl⟩
  obtain ⟨inSector, -, hsectors⟩ :=
    summary_of_survey.2 silentSurvey made silence foundEverywhere hmade
  obtain ⟨-, horders⟩ := hsectors [1, 0] (by decide)
  have hgiven := horders [1, 0] (.refl _)
  have hswapped := horders [0, 1] (.swap ..)
  have hsummary : (answerOf (searchAll silentSurvey silence foundEverywhere [1, 0]
      .empty)).toOption = some ⟨some ⟨0⟩, 2, 6⟩ := by decide +kernel
  rw [hgiven] at hsummary
  refine ⟨made, hmade, hgiven.trans ?_, hswapped.trans ?_⟩ <;>
    exact congrArg Except.ok (Option.some.inj hsummary)

end LteReceiver
