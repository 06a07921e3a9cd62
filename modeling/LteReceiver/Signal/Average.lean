import LteReceiver.Signal.Phasor

/-!
# Averages

Means over samples and over time, and the position of a maximum. Sums are taken from the first value
on, which is what fixes their rounding.

The search for a maximum always keeps the choice it has or takes the next item. Searches of that
kind end with the choice that they started from or with one of the items, whatever they decide by
(`choice_mem`).
-/

namespace LteReceiver

/-- One step of an exponential average: the share `alpha` of a new value. -/
def ema (value average alpha : Float32) : Float32 :=
  alpha * value + (1 - alpha) * average

/-- The exponential averages of a run of values. -/
def emaRun (average alpha : Float32) : List Float32 → List Float32
  | [] => []
  | value :: rest =>
    let next := ema value average alpha
    next :: emaRun next alpha rest

/-- The sum of numbers. -/
def sum (values : Array Float32) : Float32 :=
  values.foldl (· + ·) 0

/-- The mean of numbers. -/
def mean (values : Array Float32) : Float32 :=
  sum values / (values.size : Nat)

/-- The sum of samples. -/
def sumSamples (samples : Array Sample) : Sample :=
  samples.foldl (· + ·) .zero

/-- The correlation of two signals without a lag: the first times the conjugate of the second. -/
def correlation (a b : Array Sample) : Sample :=
  sumSamples (Array.zipWith (fun x y => x * y.conj) a b)

/-- The mean power of a signal; that of no samples is zero. -/
def averagePower (samples : Array Sample) : Float32 :=
  if samples.isEmpty then 0 else mean (samples.map (·.power))

/-! ## Choices -/

/-- What is chosen, as it is seen in the state of the search, is the first choice or an item. -/
theorem choice_mem {α β : Type} (chosen : β → α) (choose : β → α → β)
    (h : ∀ best item, chosen (choose best item) = chosen best ∨ chosen (choose best item) = item)
    (items : List α) (best : β) :
    chosen (items.foldl choose best) = chosen best ∨
      chosen (items.foldl choose best) ∈ items := by
  induction items generalizing best with
  | nil => exact .inl rfl
  | cons item rest ih =>
    rw [List.foldl_cons]
    rcases ih (choose best item) with hkept | hlater
    · rcases h best item with hold | hnew
      · exact .inl (hkept.trans hold)
      · exact .inr (List.mem_cons.mpr (.inl (hkept.trans hnew)))
    · exact .inr (List.mem_cons_of_mem _ hlater)

/-- One step of the search for a maximum: a later value has to be larger. -/
def laterMaximum (values : Array Float32) (best i : Nat) : Nat :=
  if values.getD best 0 < values.getD i 0 then i else best

/-- The position of the largest value, the first of several. -/
def maxIndex (values : Array Float32) : Nat :=
  (List.range values.size).foldl (laterMaximum values) 0

theorem laterMaximum_eq_or (values : Array Float32) (best i : Nat) :
    laterMaximum values best i = best ∨ laterMaximum values best i = i := by
  by_cases h : values.getD best 0 < values.getD i 0
  · exact .inr (if_pos h)
  · exact .inl (if_neg h)

/-- The position of the maximum is one of the values. -/
theorem maxIndex_lt {values : Array Float32} (h : 0 < values.size) :
    maxIndex values < values.size := by
  rcases choice_mem id (laterMaximum values) (laterMaximum_eq_or values)
    (List.range values.size) 0 with hzero | hmem
  · exact Nat.lt_of_le_of_lt (Nat.le_of_eq hzero) h
  · exact List.mem_range.mp hmem

end LteReceiver
