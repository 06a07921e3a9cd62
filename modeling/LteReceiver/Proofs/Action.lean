import LteReceiver.Error

/-!
# Actions that leave a state even when they fail

An action of the receiver answers or fails, and leaves a state in either case. `answerOf` and
`stateAfter` take the two apart. `Keeps` says that a part of the state is never changed; it goes
through sequences, so that a long action keeps what each of its stages keeps. `Sustains` says the
same of a condition on the state. `noted` is an action with notes of its answers beside its state.
-/

namespace LteReceiver

variable {ε τ α β γ : Type}

/-- What an action answers, or the error it fails with. -/
def answerOf : EStateM.Result ε τ α → Except ε α
  | .ok answer _ => .ok answer
  | .error e _ => .error e

/-- The state an action leaves. -/
def stateAfter : EStateM.Result ε τ α → τ
  | .ok _ state => state
  | .error _ state => state

theorem eq_ok_of_answerOf {result : EStateM.Result ε τ α} {answer : α}
    (h : answerOf result = .ok answer) : result = .ok answer (stateAfter result) := by
  cases result with
  | ok found state => cases h; rfl
  | error e state => cases h

theorem eq_error_of_answerOf {result : EStateM.Result ε τ α} {e : ε}
    (h : answerOf result = .error e) : result = .error e (stateAfter result) := by
  cases result with
  | ok found state => cases h
  | error e state => cases h; rfl

theorem get_bind (next : τ → EStateM ε τ β) (state : τ) :
    (get >>= next : EStateM ε τ β) state = next state state :=
  rfl

section Bind

variable {first : EStateM ε τ α} {next : α → EStateM ε τ β} {state middle : τ}

theorem bind_of_ok {answer : α} (h : first state = .ok answer middle) :
    (first >>= next) state = next answer middle := by
  show EStateM.bind first next state = _
  rw [EStateM.bind, h]

/-- After an error the second action is not reached. -/
theorem bind_of_error {e : ε} (h : first state = .error e middle) :
    (first >>= next) state = .error e middle := by
  show EStateM.bind first next state = _
  rw [EStateM.bind, h]

end Bind

/-- An action leaves a part of the state as it was, whether it answers or fails. -/
def Keeps (part : τ → γ) (action : EStateM ε τ α) : Prop :=
  ∀ state, part (stateAfter (action state)) = part state

section Keeps

variable {part : τ → γ}

theorem keeps_pure (answer : α) : Keeps part (pure answer : EStateM ε τ α) :=
  fun _ => rfl

theorem keeps_throw (e : ε) : Keeps part (throw e : EStateM ε τ α) :=
  fun _ => rfl

theorem keeps_get : Keeps part (get : EStateM ε τ τ) :=
  fun _ => rfl

theorem keeps_modify {f : τ → τ} (h : ∀ state, part (f state) = part state) :
    Keeps part (modify f : EStateM ε τ PUnit) :=
  h

theorem Keeps.bind {first : EStateM ε τ α} {next : α → EStateM ε τ β} (hf : Keeps part first)
    (hn : ∀ answer, Keeps part (next answer)) : Keeps part (first >>= next) := by
  intro state
  have hfirst := hf state
  cases hr : first state with
  | ok answer middle =>
    rw [hr] at hfirst
    rw [bind_of_ok hr]
    exact (hn answer middle).trans hfirst
  | error e middle =>
    rw [hr] at hfirst
    rw [bind_of_error hr]
    exact hfirst

/-- What keeps a part of the state keeps the parts of that. -/
theorem Keeps.comp {δ : Type} {action : EStateM ε τ α} (h : Keeps part action) (view : γ → δ) :
    Keeps (fun state => view (part state)) action :=
  fun state => congrArg view (h state)

theorem keeps_forM {items : List β} {action : β → EStateM ε τ PUnit}
    (h : ∀ item, Keeps part (action item)) : Keeps part (items.forM action) := by
  induction items with
  | nil => exact keeps_pure _
  | cons item rest ih => exact (h item).bind fun _ => ih

end Keeps

/-- An action leaves a condition on the state in force, whether it answers or fails. -/
def Sustains (condition : τ → Prop) (action : EStateM ε τ α) : Prop :=
  ∀ state, condition state → condition (stateAfter (action state))

section Sustains

variable {condition : τ → Prop}

/-- What keeps a part of the state sustains every condition on that part. -/
theorem Keeps.sustains {part : τ → γ} {action : EStateM ε τ α} (h : Keeps part action)
    (condition : γ → Prop) : Sustains (fun state => condition (part state)) action := by
  intro state hstate
  rwa [h state]

theorem sustains_modify {f : τ → τ} (h : ∀ state, condition state → condition (f state)) :
    Sustains condition (modify f : EStateM ε τ PUnit) :=
  h

theorem Sustains.bind {first : EStateM ε τ α} {next : α → EStateM ε τ β}
    (hf : Sustains condition first) (hn : ∀ answer, Sustains condition (next answer)) :
    Sustains condition (first >>= next) := by
  intro state hstate
  have hfirst := hf state hstate
  cases hr : first state with
  | ok answer middle =>
    rw [hr] at hfirst
    rw [bind_of_ok hr]
    exact hn answer middle hfirst
  | error e middle =>
    rw [hr] at hfirst
    rw [bind_of_error hr]
    exact hfirst

end Sustains

/-! ## Taking notes -/

section Notes

variable {κ σ : Type}

/-- An action that notes its answer. -/
def noted (note : Except ε α → κ) (action : EStateM ε σ α) : EStateM ε (σ × List κ) α :=
  fun (s, notes) =>
    match action s with
    | .ok answer s => .ok answer (s, notes ++ [note (.ok answer)])
    | .error e s => .error e (s, notes ++ [note (.error e)])

/-- An action on something beside its own state that notes what it is handed and its answer. -/
def notedOn (note : τ → Except ε α → κ) (action : EStateM ε (τ × σ) α) :
    EStateM ε (τ × σ × List κ) α :=
  fun (handed, s, notes) =>
    match action (handed, s) with
    | .ok answer (left, s) => .ok answer (left, s, notes ++ [note handed (.ok answer)])
    | .error e (left, s) => .error e (left, s, notes ++ [note handed (.error e)])

end Notes

end LteReceiver
