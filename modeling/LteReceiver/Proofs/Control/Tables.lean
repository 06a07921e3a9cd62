import LteReceiver.Control.SearchSpace

/-!
# Tables of search spaces

A table starts with no terminal (`ofCell`) and keeps the lists of the one chosen last (`setRnti`).
`SearchSpaceTable.Serves` are the tables that come about in this way for a cell. In all of them a
list that is looked up is the one made for the cell at hand, kept or not
(`SearchSpaceTable.Serves.ue?_eq`, `SearchSpaceTable.Serves.common?_eq`).
-/

namespace LteReceiver

namespace SearchSpaceTable

/-- The tables of a cell: the first one, and all after it as terminals are chosen. -/
inductive Serves (cell : CellConfig) : SearchSpaceTable → Prop where
  | ofCell : Serves cell (.ofCell cell)
  | setRnti {table : SearchSpaceTable} (rnti : Rnti) (h : Serves cell table) :
      Serves cell (table.setRnti rnti)

namespace Serves

variable {cell : CellConfig} {table : SearchSpaceTable}

theorem cceCounts_eq (h : table.Serves cell) :
    table.cceCounts = Vector.ofFn fun i : Fin 3 => cell.cceCount (i.val + 1) := by
  induction h with
  | ofCell => rfl
  | setRnti _ _ ih => exact ih

theorem common_eq (h : table.Serves cell) : table.common = table.cceCounts.map commonLocations := by
  induction h with
  | ofCell => rfl
  | setRnti _ _ ih => exact ih

/-- The lists that are kept are those of their terminal. -/
theorem locations_eq (h : table.Serves cell) {kept : TerminalSpaces}
    (hkept : table.terminal? = some kept) :
    kept.locations = table.cceCounts.map fun count =>
      Vector.ofFn fun subframe : Fin 10 => ueLocations count subframe.val kept.rnti := by
  cases h with
  | ofCell => cases hkept
  | setRnti rnti _ => cases hkept; rfl

theorem cceCount_eq (h : table.Serves cell) (i : Fin 3) :
    table.cceCounts.get i = cell.cceCount (i.val + 1) := by
  rw [h.cceCounts_eq]
  exact Vector.getElem_ofFn i.isLt

end Serves

/-! ## Looking a list up -/

theorem cfiIndex?_eq {cfi : Nat} (h : 1 ≤ cfi ∧ cfi ≤ 3) :
    ∃ i, cfiIndex? cfi = some i ∧ i.val + 1 = cfi :=
  ⟨⟨cfi - 1, by omega⟩, dif_pos h, by dsimp only; omega⟩

namespace Serves

variable {cell : CellConfig} {table : SearchSpaceTable} {cfi subframe : Nat}

/-- **A terminal's places are those of the cell, whichever terminal is kept.** -/
theorem ue?_eq (h : table.Serves cell) (rnti : Rnti) (hcfi : 1 ≤ cfi ∧ cfi ≤ 3)
    (hsubframe : subframe < 10) :
    table.ue? rnti cfi subframe = some (ueLocations (cell.cceCount cfi) subframe rnti) := by
  obtain ⟨i, hi, rfl⟩ := cfiIndex?_eq hcfi
  have hk : subframeIndex? subframe = some ⟨subframe, hsubframe⟩ := dif_pos hsubframe
  have hmade : ueLocations (table.cceCounts.get i) subframe rnti =
      ueLocations (cell.cceCount (i.val + 1)) subframe rnti := by rw [h.cceCount_eq]
  simp only [ue?, hi, hk, Option.bind_eq_bind, Option.bind_some]
  cases hkept : table.terminal? with
  | none => exact congrArg some hmade
  | some kept =>
    dsimp only
    split
    next hrnti =>
      have hlist : kept.locations[i][(⟨subframe, hsubframe⟩ : Fin 10)] =
          ueLocations (table.cceCounts.get i) subframe kept.rnti := by
        simp only [h.locations_eq hkept, Fin.getElem_fin, Vector.getElem_map, Vector.getElem_ofFn]
        rfl
      rw [hlist, hrnti, hmade]
    next => exact congrArg some hmade

/-- The places of broadcast messages are those of the cell. -/
theorem common?_eq (h : table.Serves cell) (hcfi : 1 ≤ cfi ∧ cfi ≤ 3) :
    table.common? cfi = some (commonLocations (cell.cceCount cfi)) := by
  obtain ⟨i, hi, rfl⟩ := cfiIndex?_eq hcfi
  have hlist : table.common[i] = commonLocations (table.cceCounts.get i) := by
    simp only [h.common_eq, Fin.getElem_fin, Vector.getElem_map]
    rfl
  rw [common?, hi, Option.map_some, hlist, h.cceCount_eq]

end Serves

/-! ## Any table -/

section AnyTable

variable {cfi subframe : Nat}

/-- In every table there is a list for arguments that it covers. -/
theorem exists_ue? (table : SearchSpaceTable) (rnti : Rnti) (hcfi : 1 ≤ cfi ∧ cfi ≤ 3)
    (hsubframe : subframe < 10) : ∃ own, table.ue? rnti cfi subframe = some own := by
  obtain ⟨i, hi, rfl⟩ := cfiIndex?_eq hcfi
  have hk : subframeIndex? subframe = some ⟨subframe, hsubframe⟩ := dif_pos hsubframe
  simp only [ue?, hi, hk, Option.bind_eq_bind, Option.bind_some]
  split
  · split <;> exact ⟨_, rfl⟩
  · exact ⟨_, rfl⟩

theorem exists_common? (table : SearchSpaceTable) (hcfi : 1 ≤ cfi ∧ cfi ≤ 3) :
    ∃ common, table.common? cfi = some common := by
  obtain ⟨i, hi, -⟩ := cfiIndex?_eq hcfi
  exact ⟨_, congrArg (Option.map _) hi⟩

/-- A table covers the numbers of control symbols from 1 to 3 and the subframes of a frame. -/
theorem ue?_eq_none_iff (table : SearchSpaceTable) (rnti : Rnti) (cfi subframe : Nat) :
    table.ue? rnti cfi subframe = none ↔ ¬ (1 ≤ cfi ∧ cfi ≤ 3) ∨ 9 < subframe := by
  by_cases hcfi : 1 ≤ cfi ∧ cfi ≤ 3
  · by_cases hsubframe : subframe < 10
    · obtain ⟨own, hown⟩ := table.exists_ue? rnti hcfi hsubframe
      rw [hown]
      simp only [reduceCtorEq, false_iff]
      omega
    · have hk : subframeIndex? subframe = none := dif_neg hsubframe
      obtain ⟨i, hi, -⟩ := cfiIndex?_eq hcfi
      simp only [ue?, hi, hk, Option.bind_eq_bind, Option.bind_some, Option.bind_none, true_iff]
      omega
  · have hi : cfiIndex? cfi = none := dif_neg hcfi
    simp only [ue?, hi, Option.bind_eq_bind, Option.bind_none, true_iff]
    exact .inl hcfi

theorem common?_eq_none_iff (table : SearchSpaceTable) (cfi : Nat) :
    table.common? cfi = none ↔ ¬ (1 ≤ cfi ∧ cfi ≤ 3) := by
  by_cases hcfi : 1 ≤ cfi ∧ cfi ≤ 3
  · obtain ⟨common, hcommon⟩ := table.exists_common? hcfi
    rw [hcommon]
    exact iff_of_false (by simp) fun h => h hcfi
  · have hi : cfiIndex? cfi = none := dif_neg hcfi
    rw [common?, hi]
    exact iff_of_true rfl hcfi

end AnyTable

/-! ## Two tables -/

/-- Two tables give out the same lists. -/
structure SameLists (table other : SearchSpaceTable) : Prop where
  ue? : ∀ rnti cfi subframe, table.ue? rnti cfi subframe = other.ue? rnti cfi subframe
  common? : ∀ cfi, table.common? cfi = other.common? cfi

/-- Two tables are tables of the same cell. -/
structure BothServe (cell : CellConfig) (table other : SearchSpaceTable) : Prop where
  left : table.Serves cell
  right : other.Serves cell

namespace Serves

variable {cell : CellConfig} {table other : SearchSpaceTable}

/-- All tables of a cell answer alike, whichever terminal they keep. -/
theorem ue?_congr (h : table.Serves cell) (hother : other.Serves cell) (rnti : Rnti)
    (cfi subframe : Nat) : table.ue? rnti cfi subframe = other.ue? rnti cfi subframe := by
  by_cases hcovered : (1 ≤ cfi ∧ cfi ≤ 3) ∧ subframe < 10
  · rw [h.ue?_eq rnti hcovered.1 hcovered.2, hother.ue?_eq rnti hcovered.1 hcovered.2]
  · have hnone : ¬ (1 ≤ cfi ∧ cfi ≤ 3) ∨ 9 < subframe := by omega
    rw [(ue?_eq_none_iff table rnti cfi subframe).mpr hnone,
      (ue?_eq_none_iff other rnti cfi subframe).mpr hnone]

theorem common?_congr (h : table.Serves cell) (hother : other.Serves cell) (cfi : Nat) :
    table.common? cfi = other.common? cfi := by
  by_cases hcfi : 1 ≤ cfi ∧ cfi ≤ 3
  · rw [h.common?_eq hcfi, hother.common?_eq hcfi]
  · rw [(common?_eq_none_iff table cfi).mpr hcfi, (common?_eq_none_iff other cfi).mpr hcfi]

theorem sameLists (h : table.Serves cell) (hother : other.Serves cell) : table.SameLists other :=
  ⟨h.ue?_congr hother, h.common?_congr hother⟩

theorem setRntis (rntis : List Rnti) (h : table.Serves cell) :
    (rntis.foldl SearchSpaceTable.setRnti table).Serves cell := by
  induction rntis generalizing table with
  | nil => exact h
  | cons rnti rest ih => exact ih (.setRnti rnti h)

end Serves

end SearchSpaceTable

/-! ## Bounds -/

theorem length_ueLocations_le (nofCce subframe : Nat) (rnti : Rnti) :
    (ueLocations nofCce subframe rnti).length ≤ maxUeCandidates :=
  List.length_take_le _ _

theorem length_commonLocations_le (nofCce : Nat) :
    (commonLocations nofCce).length ≤ maxCommonCandidates :=
  List.length_take_le _ _

end LteReceiver
