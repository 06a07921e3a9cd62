import LteReceiver.Proofs.Transport.BlockSlots

/-!
# The schemes of a message

Which antenna scheme a message stands for, with which precoder and over how many layers, is a table
over its format, the number of its blocks and its precoding information, and the ports of the cell
(`Transmission`). The code goes through three stages instead: the blocks are counted, the format
gives a scheme, and a precoder is looked up for one of the schemes only. Each stage may refuse the
message.

The two agree (`ofMessage_cases`): what no row covers is refused at one of the stages, and all else
gets its row. So the messages that are refused can be listed (`DciMessage.Refused`), and what holds
of every row holds of every configuration. No row compares blocks, layers and ports with each other,
and `layers_of_resolve` says where they do not fit.
-/

namespace LteReceiver

/-! ## The table -/

/-- The transport blocks that a message sends. -/
def DciMessage.blockCount (message : DciMessage) : Nat :=
  message.fields.enabled.toList.count true

/-- Formats that grant uplink resources, or downlink ones of a kind that is not supported. -/
def unsupportedFormats : List DciFormat :=
  [.format0, .format1B, .format1C, .format1D, .format2B]

/-- A message is refused if it sends no block, or is of a format that is not supported, or is to be
precoded in a way that is not. -/
def DciMessage.Refused (message : DciMessage) : Prop :=
  message.blockCount = 0 ∨ message.format ∈ unsupportedFormats ∨
    message.format = .format2 ∧
      (message.blockCount = 1 ∧ 4 < message.fields.precodingInfo ∨
        message.blockCount = 2 ∧ 1 < message.fields.precodingInfo)

instance DciMessage.decidableRefused : DecidablePred DciMessage.Refused := fun message =>
  inferInstanceAs (Decidable (message.blockCount = 0 ∨ message.format ∈ unsupportedFormats ∨
    message.format = .format2 ∧
      (message.blockCount = 1 ∧ 4 < message.fields.precodingInfo ∨
        message.blockCount = 2 ∧ 1 < message.fields.precodingInfo)))

/-- The table of transmissions: format, blocks and precoding information of a message and the ports
of the cell, then scheme, position in the codebook and layers. -/
inductive Transmission : DciFormat → (blocks info ports : Nat) → MimoScheme →
    (codebookIndex layers : Nat) → Prop where
  | onePort {format : DciFormat} {blocks info : Nat} (h : format = .format1 ∨ format = .format1A) :
      Transmission format blocks info 1 .singleAntenna 0 1
  | severalPorts {format : DciFormat} {blocks info ports : Nat}
      (h : format = .format1 ∨ format = .format1A) (hports : ports ≠ 1) :
      Transmission format blocks info ports .transmitDiversity 0 ports
  /-- One block without precoding information. -/
  | fallback {format : DciFormat} {ports : Nat} (h : format = .format2 ∨ format = .format2A) :
      Transmission format 1 0 ports .transmitDiversity 0 ports
  | oneLayer {info ports : Nat} (hlow : 1 ≤ info) (hhigh : info ≤ 4) :
      Transmission .format2 1 info ports .spatialMultiplexing (info - 1) 1
  | twoLayers {info ports : Nat} (h : info ≤ 1) :
      Transmission .format2 2 info ports .spatialMultiplexing (info + 1) 2
  | delayed {blocks info ports : Nat} (h : ¬ (blocks = 1 ∧ info = 0)) :
      Transmission .format2A blocks info ports .cyclicDelayDiversity 0 2

/-! ## The stages of reading a message -/

/-- A grant has the blocks that its message sends. -/
theorem nofBlocks_ofFields (message : DciMessage) :
    (DlGrant.ofFields message.fields).nofBlocks = message.blockCount := by
  show message.fields.enabledBlocks.length = _
  have hlist : message.fields.enabled.toList =
      [message.fields.enabled.get 0, message.fields.enabled.get 1] := by
    obtain ⟨⟨sent⟩, hsize⟩ := message.fields.enabled
    match sent, hsize with
    | [_, _], _ => rfl
  rw [enabledBlocks_eq, DciMessage.blockCount, hlist]
  cases message.fields.enabled.get 0 <;> cases message.fields.enabled.get 1 <;> rfl

theorem blockCount_le (message : DciMessage) : message.blockCount ≤ 2 := by
  rw [← nofBlocks_ofFields]
  exact nofBlocks_ofFields_le message.fields

theorem precoderIndex_eq_ok_iff {nofBlocks info pmi : Nat} :
    precoderIndex nofBlocks info = .ok pmi ↔
      (nofBlocks = 1 ∧ 1 ≤ info ∧ info ≤ 4 ∧ pmi = info - 1) ∨
        (nofBlocks = 2 ∧ info < 2 ∧ pmi = info) := by
  unfold precoderIndex
  split
  · rw [Except.ok.injEq]
    omega
  · split
    · rw [Except.ok.injEq]
      omega
    · constructor
      · rintro ⟨⟩
      · omega

/-- A format is not supported, or gives a scheme without precoder and a row of the table with it, or
it is format 2 and a precoder is to be looked up. -/
theorem mimoScheme_cases (format : DciFormat) (blocks info ports : Nat) :
    (format ∈ unsupportedFormats ∧ mimoScheme format blocks info ports = .error (.format format)) ∨
    (∃ scheme, mimoScheme format blocks info ports = .ok scheme ∧ scheme ≠ .spatialMultiplexing ∧
      Transmission format blocks info ports scheme 0 (scheme.layers blocks ports)) ∨
    (format = .format2 ∧ ¬ (blocks = 1 ∧ info = 0) ∧
      mimoScheme format blocks info ports = .ok .spatialMultiplexing) := by
  have hbasic : ∀ format, format = .format1 ∨ format = .format1A →
      ∃ scheme, mimoScheme format blocks info ports = .ok scheme ∧
        scheme ≠ .spatialMultiplexing ∧
        Transmission format blocks info ports scheme 0 (scheme.layers blocks ports) := by
    intro format h
    by_cases hports : ports = 1
    · subst hports
      exact ⟨.singleAntenna, by rcases h with rfl | rfl <;> rfl, by decide, .onePort h⟩
    · refine ⟨.transmitDiversity, ?_, by decide, .severalPorts h hports⟩
      rcases h with rfl | rfl <;> simp [mimoScheme, hports]
  cases format with
  | format0 | format1B | format1C | format1D | format2B => exact .inl ⟨by decide, rfl⟩
  | format1 => exact .inr (.inl (hbasic _ (.inl rfl)))
  | format1A => exact .inr (.inl (hbasic _ (.inr rfl)))
  | format2 =>
    by_cases h : blocks = 1 ∧ info = 0
    · obtain ⟨rfl, rfl⟩ := h
      exact .inr (.inl ⟨.transmitDiversity, rfl, by decide, .fallback (.inl rfl)⟩)
    · exact .inr (.inr ⟨rfl, h, by simp [mimoScheme, h]⟩)
  | format2A =>
    by_cases h : blocks = 1 ∧ info = 0
    · obtain ⟨rfl, rfl⟩ := h
      exact .inr (.inl ⟨.transmitDiversity, rfl, by decide, .fallback (.inr rfl)⟩)
    · exact .inr (.inl ⟨.cyclicDelayDiversity, by simp [mimoScheme, h], by decide, .delayed h⟩)

/-- A scheme without precoder takes position 0. -/
theorem ofGrant_of_ne {scheme : MimoScheme} (h : scheme ≠ .spatialMultiplexing) (grant : DlGrant)
    (cfi subframe : Nat) (rv : Vector Nat 2) (ports : Nat) :
    PdschConfig.ofGrant grant cfi subframe rv scheme ports =
      .ok ⟨grant, cfi, subframe, rv, scheme, 0, scheme.layers grant.nofBlocks ports⟩ := by
  simp only [PdschConfig.ofGrant, if_neg h, if_neg fun hc : _ ∧ _ => h hc.1]
  rfl

/-- One or two blocks with a precoder have one layer each, unless the precoding information names no
precoder. -/
theorem ofGrant_spatialMultiplexing (grant : DlGrant)
    (hblocks : grant.nofBlocks = 1 ∨ grant.nofBlocks = 2)
    (hinfo : ¬ (grant.nofBlocks = 1 ∧ grant.precodingInfo = 0)) (cfi subframe : Nat)
    (rv : Vector Nat 2) (ports : Nat) :
    ((grant.nofBlocks = 1 ∧ 4 < grant.precodingInfo ∨
        grant.nofBlocks = 2 ∧ 1 < grant.precodingInfo) ∧
      ∃ fault, PdschConfig.ofGrant grant cfi subframe rv .spatialMultiplexing ports =
        .error fault) ∨
    ∃ config, PdschConfig.ofGrant grant cfi subframe rv .spatialMultiplexing ports = .ok config ∧
      Transmission .format2 grant.nofBlocks grant.precodingInfo ports config.scheme
        config.codebookIndex config.layers := by
  simp only [PdschConfig.ofGrant, if_true]
  cases hpmi : precoderIndex grant.nofBlocks grant.precodingInfo with
  | error fault =>
    refine .inl ⟨?_, fault, rfl⟩
    unfold precoderIndex at hpmi
    split at hpmi
    next => cases hpmi
    next hone =>
      split at hpmi
      next => cases hpmi
      next htwo =>
        rcases hblocks with h | h
        · rw [h] at hinfo hone
          exact .inl ⟨h, by omega⟩
        · rw [h] at htwo
          exact .inr ⟨h, by omega⟩
  | ok pmi =>
    refine .inr ⟨_, rfl, ?_⟩
    rcases precoderIndex_eq_ok_iff.mp hpmi with ⟨hone, hlow, hhigh, rfl⟩ | ⟨htwo, hinfo, rfl⟩
    · simp only [MimoScheme.layers, hone]
      exact .oneLayer hlow hhigh
    · simp only [MimoScheme.layers, htwo]
      exact .twoLayers (Nat.lt_succ_iff.mp hinfo)

/-- A precoder is that of the precoding information less one for one layer, and that of the
precoding information itself, shifted by one, for two. -/
theorem Transmission.precoder {format : DciFormat} {blocks info ports codebookIndex layers : Nat}
    (h : Transmission format blocks info ports .spatialMultiplexing codebookIndex layers) :
    (blocks = 1 ∧ 1 ≤ info ∧ info ≤ 4 ∧ layers = 1 ∧ codebookIndex = info - 1) ∨
      (blocks = 2 ∧ info < 2 ∧ layers = 2 ∧ codebookIndex = info + 1) := by
  cases h with
  | oneLayer hlow hhigh => exact .inl ⟨rfl, hlow, hhigh, rfl, rfl⟩
  | twoLayers h => exact .inr ⟨rfl, Nat.lt_succ_of_le h, rfl, rfl⟩

/-! ## What becomes of a message -/

/-- No row of the table is for a message that is refused. -/
theorem Transmission.supported {format : DciFormat} {blocks info ports codebookIndex layers : Nat}
    {scheme : MimoScheme} (h : Transmission format blocks info ports scheme codebookIndex layers) :
    format ∉ unsupportedFormats ∧
      ¬ (format = .format2 ∧ (blocks = 1 ∧ 4 < info ∨ blocks = 2 ∧ 1 < info)) := by
  cases h with
  | onePort h | severalPorts h _ =>
    rcases h with rfl | rfl <;> exact ⟨by decide, fun hc => by cases hc.1⟩
  | fallback h => rcases h with rfl | rfl <;> exact ⟨by decide, by omega⟩
  | oneLayer hlow hhigh => exact ⟨by decide, by omega⟩
  | twoLayers h => exact ⟨by decide, by omega⟩
  | delayed h => exact ⟨by decide, fun hc => by cases hc.1⟩

/-- **A message is refused, or its configuration is a row of the table.** -/
theorem ofMessage_cases (message : DciMessage) (tti : UInt32) (cfi : Nat) (cell : CellConfig) :
    (message.Refused ∧ ∃ fault, PdschConfig.ofMessage message tti cfi cell = .error fault) ∨
    (¬ message.Refused ∧ ∃ config, PdschConfig.ofMessage message tti cfi cell = .ok config ∧
      Transmission message.format message.blockCount message.fields.precodingInfo cell.nofPorts
        config.scheme config.codebookIndex config.layers) := by
  have hblocks := nofBlocks_ofFields message
  have hle := blockCount_le message
  have hinfo : (DlGrant.ofFields message.fields).precodingInfo = message.fields.precodingInfo := rfl
  rw [ofMessage_eq]
  by_cases hzero : message.blockCount = 0
  · rw [if_pos (hblocks.trans hzero)]
    exact .inl ⟨.inl hzero, _, rfl⟩
  rw [if_neg fun hc => hzero (hblocks.symm.trans hc)]
  -- a row keeps its message from being refused, so it is enough to find the row
  have hrow : ∀ {scheme codebookIndex layers}, Transmission message.format message.blockCount
      message.fields.precodingInfo cell.nofPorts scheme codebookIndex layers →
      ¬ message.Refused := by
    rintro _ _ _ hrow (hnone | hformat | hprecoder)
    · exact hzero hnone
    · exact hrow.supported.1 hformat
    · exact hrow.supported.2 hprecoder
  rcases mimoScheme_cases message.format message.blockCount message.fields.precodingInfo
    cell.nofPorts with
    ⟨hformat, hscheme⟩ | ⟨scheme, hscheme, hne, htable⟩ | ⟨hformat, hone, hscheme⟩
  · rw [hblocks, hinfo, hscheme]
    exact .inl ⟨.inr (.inl hformat), _, rfl⟩
  · rw [hblocks, hinfo, hscheme]
    dsimp only
    rw [ofGrant_of_ne hne, hblocks]
    exact .inr ⟨hrow htable, _, rfl, htable⟩
  · rw [hblocks, hinfo, hscheme]
    dsimp only
    rcases ofGrant_spatialMultiplexing (.ofFields message.fields) (by omega)
      (by rw [hblocks]; exact hone) cfi (tti % 10).toNat
      (PdschConfig.redundancyVersions message.fields tti) cell.nofPorts with
      ⟨hprecoder, fault, hfault⟩ | ⟨config, hconfig, htable⟩
    · rw [hblocks] at hprecoder
      exact .inl ⟨.inr (.inr ⟨hformat, hprecoder⟩), fault, hfault⟩
    · rw [hblocks, hinfo, ← hformat] at htable
      exact .inr ⟨hrow htable, config, hconfig, htable⟩

/-- The row of a configuration, by its own grant. -/
theorem transmission_of_ofMessage {message : DciMessage} {tti : UInt32} {cfi : Nat}
    {cell : CellConfig} {config : PdschConfig}
    (h : PdschConfig.ofMessage message tti cfi cell = .ok config) :
    Transmission message.format config.grant.nofBlocks config.grant.precodingInfo cell.nofPorts
      config.scheme config.codebookIndex config.layers := by
  rcases ofMessage_cases message tti cfi cell with
    ⟨-, fault, hfault⟩ | ⟨-, config', hconfig', htable⟩
  · cases hfault.symm.trans h
  · obtain rfl : config' = config := Except.ok.inj (hconfig'.symm.trans h)
    rw [grant_of_ofMessage h, nofBlocks_ofFields]
    exact htable

/--
**Which messages are resolved, and to what.**

The messages that are refused are refused as not supported, and leave the soft buffers as they were,
with their storage and all that they remember. Every other message is resolved, for the subframe of
its transmission time, and its scheme, position in the codebook and layers are a row of the table.
-/
theorem outcome_of_resolve (message : DciMessage) (tti : UInt32) (cfi : Nat) (cell : CellConfig)
    (harq : HarqBuffers) :
    ((∃ fault, resolve message tti cfi cell harq = .error (.unsupported fault) harq) ↔
      message.Refused) ∧
    (¬ message.Refused → ∃ config harq', resolve message tti cfi cell harq = .ok config harq' ∧
      config.subframe = tti.toNat % subframesPerFrame ∧
      Transmission message.format message.blockCount message.fields.precodingInfo cell.nofPorts
        config.scheme config.codebookIndex config.layers) := by
  rcases ofMessage_cases message tti cfi cell with
    ⟨hrefused, fault, hfault⟩ | ⟨hserved, config, hconfig, htable⟩
  · have hresolve : resolve message tti cfi cell harq = .error (.unsupported fault) harq := by
      rw [resolve, hfault]
    exact ⟨iff_of_true ⟨fault, hresolve⟩ hrefused, fun hserved => absurd hrefused hserved⟩
  · have hresolve : resolve message tti cfi cell harq = .ok config _ :=
      resolve_eq_ok_iff.mpr ⟨hconfig, rfl⟩
    refine ⟨iff_of_false ?_ hserved, fun _ => ⟨config, _, hresolve, ?_, htable⟩⟩
    · rintro ⟨fault, hfault⟩
      cases hresolve.symm.trans hfault
    · rw [(ofMessage_fields hconfig).2.1]
      exact UInt32.toNat_mod tti 10

/-- Two blocks of format 2 are resolved to two layers with a precoder, and refused in format 2B. -/
theorem outcome_of_resolve_bothBlocks :
    ¬ (repeatable true true false false).Refused ∧
    (∃ config harq,
      resolve (repeatable true true false false) 10 2 cellOfTwoPorts .empty = .ok config harq ∧
        config.subframe = 0 ∧ config.scheme = .spatialMultiplexing ∧ config.codebookIndex = 1 ∧
        config.layers = 2) ∧
    ∃ fault, resolve { repeatable true true false false with format := .format2B } 10 2
      cellOfTwoPorts .empty = .error (.unsupported fault) .empty := by
  have hserved : ¬ (repeatable true true false false).Refused := by decide
  obtain ⟨config, harq, hr, hsubframe, hrow⟩ :=
    (outcome_of_resolve (repeatable true true false false) 10 2 cellOfTwoPorts .empty).2 hserved
  refine ⟨hserved, ⟨config, harq, hr, hsubframe, ?_⟩,
    (outcome_of_resolve { repeatable true true false false with format := .format2B } 10 2
      cellOfTwoPorts .empty).1.mpr (by decide)⟩
  have htwo : Transmission .format2 2 0 2 config.scheme config.codebookIndex config.layers := hrow
  generalize config.scheme = scheme, config.codebookIndex = index, config.layers = layers at htwo ⊢
  cases htwo with
  | severalPorts h => rcases h with h | h <;> cases h
  | twoLayers => exact ⟨rfl, rfl, rfl⟩

/-! ## Blocks, layers and ports -/

section Layers

variable {format : DciFormat} {blocks info ports codebookIndex layers : Nat} {scheme : MimoScheme}

/-- Formats for one block are sent over as many layers as there are ports, however many blocks a
message enables. -/
theorem Transmission.blocks_le_layers_iff
    (h : Transmission format blocks info ports scheme codebookIndex layers)
    (hblocks : blocks = 1 ∨ blocks = 2) (hports : 1 ≤ ports) :
    blocks ≤ layers ↔
      ¬ (ports = 1 ∧ blocks = 2 ∧ (format = .format1 ∨ format = .format1A)) := by
  cases h with
  | onePort h => simp only [h, and_true, true_and]; omega
  | severalPorts h hne => simp only [h, and_true]; omega
  | fallback h => rcases h with rfl | rfl <;> simp [hports]
  | oneLayer | twoLayers => simp
  | delayed => simp; omega

/-- Formats 2 and 2A send two layers, or one layer for each block, without a look at the ports. -/
theorem Transmission.layers_le_ports_iff
    (h : Transmission format blocks info ports scheme codebookIndex layers)
    (hports : 1 ≤ ports) :
    layers ≤ ports ↔ ¬ (ports = 1 ∧ (format = .format2 ∧ blocks = 2 ∨
      format = .format2A ∧ ¬ (blocks = 1 ∧ info = 0))) := by
  cases h with
  | onePort h => rcases h with rfl | rfl <;> simp
  | severalPorts h hne => simp [hne]
  | fallback h => rcases h with rfl | rfl <;> simp
  | oneLayer => simp [hports]
  | twoLayers => simp; omega
  | delayed h => simp [h]; omega

end Layers

/-- A cell that passes the check has one, two or four ports. -/
theorem nofPorts_of_check {cell : CellConfig} (h : cell.check = .ok ()) :
    cell.nofPorts = 1 ∨ cell.nofPorts = 2 ∨ cell.nofPorts = 4 := by
  unfold CellConfig.check at h
  split at h
  · cases h
  · split at h
    · cases h
    · omega

/--
**When blocks, layers and ports fit.**

A configuration in a cell that passes the check has one or two blocks. Each of them has a layer,
unless a message of format 1 or 1A enables both blocks in a cell of one port. Each layer has a port,
unless the cell has one port and the message is of format 2 with both blocks, or of format 2A with
both blocks or with precoding information.
-/
theorem layers_of_resolve {message : DciMessage} {tti : UInt32} {cfi : Nat} {cell : CellConfig}
    {harq harq' : HarqBuffers} {config : PdschConfig} (hcell : cell.check = .ok ())
    (h : resolve message tti cfi cell harq = .ok config harq') :
    let blocks := config.grant.nofBlocks
    let info := config.grant.precodingInfo
    1 ≤ blocks ∧ blocks ≤ 2 ∧
    (blocks ≤ config.layers ↔ ¬ (cell.nofPorts = 1 ∧ blocks = 2 ∧
      (message.format = .format1 ∨ message.format = .format1A))) ∧
    (config.layers ≤ cell.nofPorts ↔ ¬ (cell.nofPorts = 1 ∧
      (message.format = .format2 ∧ blocks = 2 ∨
        message.format = .format2A ∧ ¬ (blocks = 1 ∧ info = 0)))) := by
  intro blocks info
  have hconfig := (resolve_eq_ok_iff.mp h).1
  have hports := nofPorts_of_check hcell
  obtain ⟨hone, htwo⟩ := nofBlocks_of_ofMessage hconfig
  have htable := transmission_of_ofMessage hconfig
  exact ⟨hone, htwo, htable.blocks_le_layers_iff (by omega) (by omega),
    htable.layers_le_ports_iff (by omega)⟩

/-- A cell of one port. -/
def cellOfOnePort : CellConfig :=
  { cellOfTwoPorts with nofPorts := 1 }

/-- Both blocks in a message of format 1. -/
def bothInFormat1 : DciMessage :=
  { repeatable true true false false with format := .format1 }

/-- In a cell of two ports both blocks have a layer. -/
theorem layers_of_resolve_bothInFormat1 :
    ∃ config harq, cellOfTwoPorts.check = .ok () ∧
      resolve bothInFormat1 10 2 cellOfTwoPorts .empty = .ok config harq ∧
      config.grant.nofBlocks = 2 ∧ config.grant.nofBlocks ≤ config.layers ∧
      config.layers ≤ cellOfTwoPorts.nofPorts := by
  have hcell : cellOfTwoPorts.check = .ok () := rfl
  have hr : resolve bothInFormat1 10 2 cellOfTwoPorts .empty = .ok _ _ :=
    resolve_eq_ok_iff.mpr ⟨rfl, rfl⟩
  obtain ⟨-, -, hlayers, hports⟩ := layers_of_resolve hcell hr
  exact ⟨_, _, hcell, hr, by decide, hlayers.mpr (by decide), hports.mpr (by decide)⟩

/-- **Blocks do not always have a layer each, or layers a port each.** -/
theorem not_always_layers :
    ¬ ∀ (message : DciMessage) (tti : UInt32) (cfi : Nat) (cell : CellConfig)
      (harq harq' : HarqBuffers) (config : PdschConfig),
      cell.check = .ok () → resolve message tti cfi cell harq = .ok config harq' →
      1 ≤ config.grant.nofBlocks ∧ config.grant.nofBlocks ≤ config.layers ∧
        config.layers ≤ cell.nofPorts := by
  intro h
  have hfits := h bothInFormat1 10 2 cellOfOnePort .empty _ _ rfl
    (resolve_eq_ok_iff.mpr ⟨rfl, rfl⟩)
  exact absurd hfits.2.1 (by decide)

end LteReceiver
