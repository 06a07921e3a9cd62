import LteReceiver.Proofs.Control.Agreement
import LteReceiver.Proofs.Control.Lookups
import LteReceiver.Proofs.Downlink.Stages

/-!
# The calls of a downlink

Which blocks a downlink calls, in which order and with what, is seen by running it with blocks that
write their calls down (`Blocks.recorded`). Such a run is the run with the blocks themselves, with
some calls added to the notes: `Makes` says which ones.

`Meets` puts this together with what holds of the answer and of the downlink that is left. It goes
through sequences of actions (`Meets.bind`), so that the calls of a subframe can be read off its
stages.
-/

namespace LteReceiver

/-! ## Calls -/

/-- What a block is asked, with all it is handed. -/
inductive BlockRequest (cell : CellConfig) (antennas : Nat) where
  | demodulate (samples : Array Sample) (grid : Grid cell)
  | estimate (grids : Grids cell antennas) (before : CellEstimate cell antennas) (subframe : Nat)
  | controlFormat (grids : Grids cell antennas) (estimate : CellEstimate cell antennas)
      (subframe : Nat)
  | softBits (grids : Grids cell antennas) (estimate : CellEstimate cell antennas)
      (subframe cfi : Nat)
  | message (location : DciLocation) (format : DciFormat)
  | sharedData (config : PdschConfig) (grids : Grids cell antennas)
      (estimate : CellEstimate cell antennas) (rnti : Rnti) (buffers : Vector SoftBuffer 2)
  | acknowledgement (grids : Array (Grid cell)) (estimate : CellEstimate cell antennas)
      (resource : PhichResource) (subframe : Nat)

/-- What a block answers to a request. -/
abbrev BlockRequest.Answer {cell : CellConfig} {antennas : Nat} :
    BlockRequest cell antennas → Type
  | .demodulate .. | .estimate .. | .softBits .. => Unit
  | .controlFormat .. => Nat
  | .message .. => DecodedDci
  | .sharedData .. => DecodedData
  | .acknowledgement .. => Bool

/-- A call to a block and its answer. -/
structure BlockCall (cell : CellConfig) (antennas : Nat) where
  request : BlockRequest cell antennas
  answer : Except ExternalError request.Answer

variable {cell : CellConfig} {antennas : Nat}

/-- A call to the decoder of control messages, as one to a block. -/
def DecoderCall.toBlockCall (call : DecoderCall) : BlockCall cell antennas :=
  ⟨.message call.location call.format, call.answer⟩

/-! ## Blocks that take notes -/

variable {ε τ κ σ α β : Type}

/-- Blocks that note their calls, the first one first. -/
def Blocks.recorded (blocks : Blocks σ cell antennas) :
    Blocks (σ × List (BlockCall cell antennas)) cell antennas where
  demodulate samples :=
    notedOn (fun grid answer => ⟨.demodulate samples grid, answer⟩) (blocks.demodulate samples)
  estimate grids subframe :=
    notedOn (fun before answer => ⟨.estimate grids before subframe, answer⟩)
      (blocks.estimate grids subframe)
  controlFormat grids estimate subframe :=
    noted (⟨.controlFormat grids estimate subframe, ·⟩)
      (blocks.controlFormat grids estimate subframe)
  softBits grids estimate subframe cfi :=
    noted (⟨.softBits grids estimate subframe cfi, ·⟩)
      (blocks.softBits grids estimate subframe cfi)
  messages := ⟨fun location format =>
    noted (⟨.message location format, ·⟩) (blocks.messages.decodeAt location format)⟩
  sharedData config grids estimate rnti :=
    notedOn (fun buffers answer => ⟨.sharedData config grids estimate rnti buffers, answer⟩)
      (blocks.sharedData config grids estimate rnti)
  phichResource := blocks.phichResource
  acknowledgement grids estimate resource subframe :=
    noted (⟨.acknowledgement grids estimate resource subframe, ·⟩)
      (blocks.acknowledgement grids estimate resource subframe)

namespace Downlink

/-- A downlink with notes. -/
def noting (downlink : Downlink σ cell antennas) (notes : List (BlockCall cell antennas)) :
    Downlink (σ × List (BlockCall cell antennas)) cell antennas :=
  { downlink with blockState := (downlink.blockState, notes) }

/-- A run with notes. -/
def withNotes (notes : List (BlockCall cell antennas)) :
    EStateM.Result ReceiveError (Downlink σ cell antennas) α →
      EStateM.Result ReceiveError (Downlink (σ × List (BlockCall cell antennas)) cell antennas) α
  | .ok answer downlink => .ok answer (downlink.noting notes)
  | .error e downlink => .error e (downlink.noting notes)

/-- The notes at the end of a run. -/
def callsOf
    (result : EStateM.Result ReceiveError
      (Downlink (σ × List (BlockCall cell antennas)) cell antennas) α) :
    List (BlockCall cell antennas) :=
  (stateAfter result).blockState.2

theorem callsOf_withNotes (notes : List (BlockCall cell antennas))
    (result : EStateM.Result ReceiveError (Downlink σ cell antennas) α) :
    callsOf (withNotes notes result) = notes := by
  cases result <;> rfl

/-! ## The calls of an action -/

/-- An action, given with and without notes, makes calls: with notes it is the same, and the calls
are added to them. -/
def Makes (recorded : Action (σ × List (BlockCall cell antennas)) cell antennas α)
    (plain : Action σ cell antennas α) (downlink : Downlink σ cell antennas)
    (calls : List (BlockCall cell antennas)) : Prop :=
  ∀ notes, recorded (downlink.noting notes) = withNotes (notes ++ calls) (plain downlink)

variable {recorded : Action (σ × List (BlockCall cell antennas)) cell antennas α}
  {plain : Action σ cell antennas α} {downlink : Downlink σ cell antennas}
  {calls more : List (BlockCall cell antennas)}

theorem Makes.callsOf_eq (h : Makes recorded plain downlink calls) :
    callsOf (recorded (downlink.noting [])) = calls := by
  rw [h [], callsOf_withNotes, List.nil_append]

theorem makes_pure (answer : α) : Makes (pure answer) (pure answer) downlink [] := by
  intro notes
  rw [List.append_nil]
  rfl

theorem makes_throw (e : ReceiveError) :
    Makes (throw e : Action _ cell antennas α) (throw e) downlink [] := by
  intro notes
  rw [List.append_nil]
  rfl

theorem Makes.bind_ok
    {recordedNext : α → Action (σ × List (BlockCall cell antennas)) cell antennas β}
    {plainNext : α → Action σ cell antennas β} {answer : α} {middle : Downlink σ cell antennas}
    (h : Makes recorded plain downlink calls) (hok : plain downlink = .ok answer middle)
    (hnext : Makes (recordedNext answer) (plainNext answer) middle more) :
    Makes (recorded >>= recordedNext) (plain >>= plainNext) downlink (calls ++ more) := by
  intro notes
  have hrecorded : recorded (downlink.noting notes) =
      .ok answer (middle.noting (notes ++ calls)) := by rw [h notes, hok]; rfl
  rw [bind_of_ok hok, bind_of_ok hrecorded, ← List.append_assoc]
  exact hnext (notes ++ calls)

theorem Makes.bind_error
    {recordedNext : α → Action (σ × List (BlockCall cell antennas)) cell antennas β}
    {plainNext : α → Action σ cell antennas β} {e : ReceiveError}
    {middle : Downlink σ cell antennas} (h : Makes recorded plain downlink calls)
    (herror : plain downlink = .error e middle) :
    Makes (recorded >>= recordedNext) (plain >>= plainNext) downlink calls := by
  intro notes
  have hrecorded : recorded (downlink.noting notes) =
      .error e (middle.noting (notes ++ calls)) := by rw [h notes, herror]; rfl
  rw [bind_of_error herror, bind_of_error hrecorded]
  rfl

/-- Looking at the downlink is no call, as long as what follows does not depend on the notes. -/
theorem makes_get {recordedNext : Downlink (σ × List (BlockCall cell antennas)) cell antennas →
      Action (σ × List (BlockCall cell antennas)) cell antennas α}
    {plainNext : Downlink σ cell antennas → Action σ cell antennas α}
    (h : ∀ notes, recordedNext (downlink.noting notes) = recordedNext (downlink.noting []))
    (hnext : Makes (recordedNext (downlink.noting [])) (plainNext downlink) downlink calls) :
    Makes (get >>= recordedNext) (get >>= plainNext) downlink calls := by
  intro notes
  rw [get_bind, get_bind, h notes]
  exact hnext notes

theorem makes_modify
    {recordedChange : Downlink (σ × List (BlockCall cell antennas)) cell antennas →
      Downlink (σ × List (BlockCall cell antennas)) cell antennas}
    {change : Downlink σ cell antennas → Downlink σ cell antennas}
    (h : ∀ notes, recordedChange (downlink.noting notes) = (change downlink).noting notes) :
    Makes (modify recordedChange) (modify change) downlink [] := by
  intro notes
  show EStateM.Result.ok () (recordedChange (downlink.noting notes)) = _
  rw [h notes, List.append_nil]
  rfl

/-- A block that works on a part of the downlink is called once. -/
theorem makes_on {recordedPart : Downlink (σ × List (BlockCall cell antennas)) cell antennas →
      τ × σ × List (BlockCall cell antennas)}
    {recordedUpdate : Downlink (σ × List (BlockCall cell antennas)) cell antennas →
      τ × σ × List (BlockCall cell antennas) →
      Downlink (σ × List (BlockCall cell antennas)) cell antennas}
    {part : Downlink σ cell antennas → τ × σ}
    {update : Downlink σ cell antennas → τ × σ → Downlink σ cell antennas}
    {fault : ExternalError → ReceiveError}
    {note : τ → Except ExternalError α → BlockCall cell antennas}
    {action : EStateM ExternalError (τ × σ) α}
    (hpart : ∀ notes, recordedPart (downlink.noting notes) =
      ((part downlink).1, (part downlink).2, notes))
    (hupdate : ∀ notes more left s, recordedUpdate (downlink.noting notes) (left, s, more) =
      (update downlink (left, s)).noting more) :
    Makes (on recordedPart recordedUpdate fault (notedOn note action)) (on part update fault action)
      downlink [note (part downlink).1 (answerOf (action (part downlink)))] := by
  intro notes
  simp only [on, hpart, notedOn]
  cases action (part downlink) with
  | ok answer after => simp only [hupdate]; rfl
  | error e after => simp only [hupdate]; rfl

/-- A block that changes nothing but its own state is called once. -/
theorem makes_onBlocks {fault : ExternalError → DecodeFault}
    {note : Except ExternalError α → BlockCall cell antennas} {action : EStateM ExternalError σ α} :
    Makes (onBlocks fault (noted note action)) (onBlocks fault action) downlink
      [note (answerOf (action downlink.blockState))] := by
  intro notes
  simp only [onBlocks, on, noted, noting]
  cases action downlink.blockState <;> rfl

/-! ## What an action meets -/

/-- An action makes calls that meet a condition together with its answer and the downlink that it
leaves. -/
def Meets (recorded : Action (σ × List (BlockCall cell antennas)) cell antennas α)
    (plain : Action σ cell antennas α) (downlink : Downlink σ cell antennas)
    (post : Except ReceiveError α → Downlink σ cell antennas →
      List (BlockCall cell antennas) → Prop) : Prop :=
  ∃ calls, Makes recorded plain downlink calls ∧
    post (answerOf (plain downlink)) (stateAfter (plain downlink)) calls

theorem Meets.bind
    {recordedNext : α → Action (σ × List (BlockCall cell antennas)) cell antennas β}
    {plainNext : α → Action σ cell antennas β}
    {middle : Except ReceiveError α → Downlink σ cell antennas →
      List (BlockCall cell antennas) → Prop}
    {post : Except ReceiveError β → Downlink σ cell antennas →
      List (BlockCall cell antennas) → Prop}
    (h : Meets recorded plain downlink middle)
    (hok : ∀ answer after calls, middle (.ok answer) after calls →
      Meets (recordedNext answer) (plainNext answer) after
        fun last final more => post last final (calls ++ more))
    (herror : ∀ e after calls, middle (.error e) after calls → post (.error e) after calls) :
    Meets (recorded >>= recordedNext) (plain >>= plainNext) downlink post := by
  obtain ⟨calls, hmakes, hmiddle⟩ := h
  cases hplain : plain downlink with
  | ok answer after =>
    rw [hplain] at hmiddle
    obtain ⟨more, hmore, hpost⟩ := hok answer after calls hmiddle
    refine ⟨calls ++ more, hmakes.bind_ok hplain hmore, ?_⟩
    rw [bind_of_ok hplain]
    exact hpost
  | error e after =>
    rw [hplain] at hmiddle
    refine ⟨calls, hmakes.bind_error hplain, ?_⟩
    rw [bind_of_error hplain]
    exact herror e after calls hmiddle

theorem Meets.mono {post weaker : Except ReceiveError α → Downlink σ cell antennas →
      List (BlockCall cell antennas) → Prop}
    (h : Meets recorded plain downlink post)
    (himp : ∀ answer after calls, post answer after calls → weaker answer after calls) :
    Meets recorded plain downlink weaker := by
  obtain ⟨calls, hmakes, hpost⟩ := h
  exact ⟨calls, hmakes, himp _ _ calls hpost⟩

/-- What an action meets, with the run itself. -/
theorem Meets.run {post : Except ReceiveError α → Downlink σ cell antennas →
      List (BlockCall cell antennas) → Prop} (h : Meets recorded plain downlink post) :
    Meets recorded plain downlink fun answer after calls =>
      post answer after calls ∧ answerOf (plain downlink) = answer ∧
        stateAfter (plain downlink) = after := by
  obtain ⟨calls, hmakes, hpost⟩ := h
  exact ⟨calls, hmakes, hpost, rfl, rfl⟩

theorem meets_get {recordedNext : Downlink (σ × List (BlockCall cell antennas)) cell antennas →
      Action (σ × List (BlockCall cell antennas)) cell antennas α}
    {plainNext : Downlink σ cell antennas → Action σ cell antennas α}
    {post : Except ReceiveError α → Downlink σ cell antennas →
      List (BlockCall cell antennas) → Prop}
    (h : ∀ notes, recordedNext (downlink.noting notes) = recordedNext (downlink.noting []))
    (hnext : Meets (recordedNext (downlink.noting [])) (plainNext downlink) downlink post) :
    Meets (get >>= recordedNext) (get >>= plainNext) downlink post := by
  obtain ⟨calls, hmakes, hpost⟩ := hnext
  exact ⟨calls, makes_get h hmakes, hpost⟩

theorem Meets.map {f : α → β} {post : Except ReceiveError β → Downlink σ cell antennas →
      List (BlockCall cell antennas) → Prop}
    (h : Meets recorded plain downlink fun answer after calls => post (answer.map f) after calls) :
    Meets (recorded >>= fun answer => pure (f answer)) (plain >>= fun answer => pure (f answer))
      downlink post := by
  refine h.bind (fun answer after calls hpost => ⟨[], makes_pure (f answer), ?_⟩)
    fun e after calls hpost => hpost
  show post (.ok (f answer)) after (calls ++ [])
  rw [List.append_nil]
  exact hpost

/-- What an action keeps is part of what it meets. -/
theorem Meets.keeping {γ : Type} {part : Downlink σ cell antennas → γ}
    {post : Except ReceiveError α → Downlink σ cell antennas →
      List (BlockCall cell antennas) → Prop}
    (h : Meets recorded plain downlink post) (hkeeps : Keeps part plain) :
    Meets recorded plain downlink
      fun answer after calls => post answer after calls ∧ part after = part downlink := by
  obtain ⟨calls, hmakes, hpost⟩ := h
  exact ⟨calls, hmakes, hpost, hkeeps downlink⟩

/-! ## Lookups -/

/-- The calls of a downlink lookup, as they are seen of the lookup alone. -/
def lookupCalls (blocks : Blocks σ cell antennas) (downlink : Downlink σ cell antennas)
    (cfi subframe : Nat) (rnti : Rnti) : List DecoderCall :=
  (downlink.search.perform (.downlink blocks.messages downlink.blockState downlink.mode cfi subframe
    rnti)).1.calls

variable (blocks : Blocks σ cell antennas)

/-- The notes of calls to the decoder of messages alone, and those among the calls to all blocks. -/
theorem decodersAgree_recorded (notes : List (BlockCall cell antennas)) :
    DecodersAgree
      (fun (s : σ × List DecoderCall) (t : σ × List (BlockCall cell antennas)) =>
        t = (s.1, notes ++ s.2.map (·.toBlockCall)))
      blocks.messages.recorded blocks.recorded.messages := by
  rintro location format ⟨s, calls⟩ _ rfl
  simp only [DciDecoder.recorded, Blocks.recorded, noted]
  cases blocks.messages.decodeAt location format s with
  | ok decoded s' =>
    refine ⟨rfl, ?_⟩
    simp only [stateAfter, List.map_append, List.append_assoc]
    rfl
  | error e s' =>
    refine ⟨rfl, ?_⟩
    simp only [stateAfter, List.map_append, List.append_assoc]
    rfl

theorem makes_findDownlink (cfi subframe : Nat) (rnti : Rnti) :
    Makes (findDownlink blocks.recorded cfi subframe rnti) (findDownlink blocks cfi subframe rnti)
      downlink ((lookupCalls blocks downlink cfi subframe rnti).map (·.toBlockCall)) := by
  have hlookup : Makes
      (onSearch (DciSearch.findDownlink blocks.recorded.messages downlink.mode cfi subframe rnti))
      (onSearch (DciSearch.findDownlink blocks.messages downlink.mode cfi subframe rnti))
      downlink ((lookupCalls blocks downlink cfi subframe rnti).map (·.toBlockCall)) := by
    intro notes
    have hplain : DciSearch.findDownlink blocks.messages downlink.mode cfi subframe rnti
        (downlink.search, downlink.blockState) =
        forgetCalls (DciSearch.findDownlink blocks.messages.recorded downlink.mode cfi subframe rnti
          (downlink.search, downlink.blockState, [])) :=
      (forgetCalls_findDownlink _ _ _).symm
    simp only [onSearch, on, noting, hplain, lookupCalls, DciSearch.perform]
    have hagree := agree_findDownlink (decodersAgree_recorded blocks notes) downlink.mode cfi
      subframe rnti
    -- the run with notes of messages alone tells which calls the run with all notes adds
    rcases hagree.ends (s := (downlink.search, downlink.blockState, []))
        (t := (downlink.search, downlink.blockState, notes)) ⟨rfl, by simp⟩ with
      ⟨e, ⟨search, s, calls⟩, ⟨_, _⟩, hfirst, hsecond, rfl, rfl⟩ |
      ⟨found, ⟨search, s, calls⟩, ⟨_, _⟩, hfirst, hsecond, rfl, rfl⟩
    · rw [hfirst, hsecond]
      rfl
    · rw [hfirst, hsecond]
      rfl
  exact makes_get (fun _ => rfl) hlookup

end Downlink

end LteReceiver
