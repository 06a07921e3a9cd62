import LteReceiver.Proofs.Action

/-!
# Two actions side by side

`Agree` compares two actions over states of different kinds, along a relation between the states:
from related states both answer the same or both fail the same, and they leave related states. It
goes through sequences, so that long actions agree if each of their stages does.
-/

namespace LteReceiver

variable {ε τ υ α : Type}

/-- Two actions agree along a relation of their states. -/
def Agree (related : τ → υ → Prop) (first : EStateM ε τ α) (second : EStateM ε υ α) : Prop :=
  ∀ s t, related s t → answerOf (first s) = answerOf (second t) ∧
    related (stateAfter (first s)) (stateAfter (second t))

/-- Actions that agree end in the same way from related states. -/
theorem Agree.ends {related : τ → υ → Prop} {first : EStateM ε τ α} {second : EStateM ε υ α}
    (h : Agree related first second) {s : τ} {t : υ} (hst : related s t) :
    (∃ e s' t', first s = .error e s' ∧ second t = .error e t' ∧ related s' t') ∨
    ∃ answer s' t', first s = .ok answer s' ∧ second t = .ok answer t' ∧ related s' t' := by
  obtain ⟨hanswer, hrelated⟩ := h s t hst
  cases hfirst : first s with
  | error e s' =>
    cases hsecond : second t with
    | error e' t' =>
      rw [hfirst, hsecond] at hanswer hrelated
      cases hanswer
      exact .inl ⟨e, s', t', rfl, rfl, hrelated⟩
    | ok answer t' =>
      rw [hfirst, hsecond] at hanswer
      cases hanswer
  | ok answer s' =>
    cases hsecond : second t with
    | error e t' =>
      rw [hfirst, hsecond] at hanswer
      cases hanswer
    | ok answer' t' =>
      rw [hfirst, hsecond] at hanswer hrelated
      cases hanswer
      exact .inr ⟨answer, s', t', rfl, rfl, hrelated⟩

/-- Actions agree along one form of a relation if they do along another. -/
theorem Agree.congr {related other : τ → υ → Prop} {first : EStateM ε τ α}
    {second : EStateM ε υ α} (h : Agree other first second)
    (hiff : ∀ s t, related s t ↔ other s t) : Agree related first second := by
  intro s t hst
  obtain ⟨hanswer, hafter⟩ := h s t ((hiff s t).mp hst)
  exact ⟨hanswer, (hiff _ _).mpr hafter⟩

section Sequences

variable {β : Type} {related : τ → υ → Prop}

theorem agree_pure (answer : α) :
    Agree related (pure answer : EStateM ε τ α) (pure answer : EStateM ε υ α) :=
  fun _ _ hst => ⟨rfl, hst⟩

theorem agree_throw (e : ε) :
    Agree related (throw e : EStateM ε τ α) (throw e : EStateM ε υ α) :=
  fun _ _ hst => ⟨rfl, hst⟩

theorem agree_modify {f : τ → τ} {g : υ → υ} (h : ∀ s t, related s t → related (f s) (g t)) :
    Agree related (modify f : EStateM ε τ PUnit) (modify g : EStateM ε υ PUnit) :=
  fun s t hst => ⟨rfl, h s t hst⟩

theorem Agree.bind {first : EStateM ε τ α} {second : EStateM ε υ α} {next : α → EStateM ε τ β}
    {other : α → EStateM ε υ β} (h : Agree related first second)
    (hnext : ∀ answer, Agree related (next answer) (other answer)) :
    Agree related (first >>= next) (second >>= other) := by
  intro s t hst
  rcases h.ends hst with ⟨e, s', t', hfirst, hsecond, hafter⟩ |
    ⟨answer, s', t', hfirst, hsecond, hafter⟩
  · rw [bind_of_error hfirst, bind_of_error hsecond]
    exact ⟨rfl, hafter⟩
  · rw [bind_of_ok hfirst, bind_of_ok hsecond]
    exact hnext answer s' t' hafter

/-- What follows a look at the state may depend on what is seen, as long as that is no more than
related states have in common. -/
theorem agree_get_bind {next : τ → EStateM ε τ α} {other : υ → EStateM ε υ α}
    (h : ∀ s t, related s t → Agree related (next s) (other t)) :
    Agree related (get >>= next) (get >>= other) := by
  intro s t hst
  rw [get_bind, get_bind]
  exact h s t hst s t hst

theorem agree_forM {items : List β} {action : β → EStateM ε τ PUnit}
    {other : β → EStateM ε υ PUnit} (h : ∀ item, Agree related (action item) (other item)) :
    Agree related (items.forM action) (items.forM other) := by
  induction items with
  | nil => exact agree_pure _
  | cons item rest ih => exact (h item).bind fun _ => ih

end Sequences

end LteReceiver
