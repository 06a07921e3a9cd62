import LteReceiver.Signal.Phasor

/-!
# Checked arithmetic

Numbers of which some are missing: a quotient by zero is, and so is everything that is computed from
a missing number. Arithmetic that is written over any type of numbers can be carried out with these
as well (`Checked`). Where numbers come out of it that are not missing, nothing on the way to them
was divided by zero, and they are the numbers that come out of unchecked arithmetic.
-/

namespace LteReceiver

/-- A number, or none. -/
inductive Checked (R : Type) where
  | number (value : R)
  | missing

namespace Checked

variable {R : Type}

/-- What an operation makes of two numbers, if neither is missing. -/
def map₂ (operation : R → R → R) : Checked R → Checked R → Checked R
  | number x, number y => number (operation x y)
  | _, _ => missing

instance instAdd [Add R] : Add (Checked R) :=
  ⟨map₂ (· + ·)⟩

instance instSub [Sub R] : Sub (Checked R) :=
  ⟨map₂ (· - ·)⟩

instance instMul [Mul R] : Mul (Checked R) :=
  ⟨map₂ (· * ·)⟩

instance instNeg [Neg R] : Neg (Checked R) where
  neg
    | number x => number (-x)
    | missing => missing

instance instNatCast [NatCast R] : NatCast (Checked R) :=
  ⟨fun n => number n⟩

/-- A quotient by zero is missing. -/
instance instDiv [Div R] [Zero R] [DecidableEq R] : Div (Checked R) where
  div
    | number x, number y => if y = 0 then missing else number (x / y)
    | _, _ => missing

/-- Only numbers that are there are less than others. -/
instance instLT [LT R] : LT (Checked R) where
  lt
    | number x, number y => x < y
    | _, _ => False

instance instDecidableLT [LT R] [DecidableLT R] : DecidableLT (Checked R)
  | number x, number y => inferInstanceAs (Decidable (x < y))
  | number _, missing => inferInstanceAs (Decidable False)
  | missing, _ => inferInstanceAs (Decidable False)

/-! ## Numbers that are there -/

section Numbers

variable (x y : R)

@[simp] theorem number_add [Add R] : number x + number y = number (x + y) := rfl

@[simp] theorem number_sub [Sub R] : number x - number y = number (x - y) := rfl

@[simp] theorem number_mul [Mul R] : number x * number y = number (x * y) := rfl

@[simp] theorem number_neg [Neg R] : -number x = number (-x) := rfl

@[simp] theorem natCast_eq [NatCast R] (n : Nat) : (n : Checked R) = number (n : R) := rfl

@[simp] theorem number_lt [LT R] : number x < number y ↔ x < y := Iff.rfl

variable {y}

theorem number_div [Div R] [Zero R] [DecidableEq R] (h : y ≠ 0) :
    number x / number y = number (x / y) :=
  if_neg h

end Numbers

end Checked

/-! ## Phasors -/

namespace Phasor

variable {R S : Type}

/-- Both parts of a phasor, changed alike. -/
def map (change : R → S) (z : Phasor R) : Phasor S :=
  ⟨change z.re, change z.im⟩

variable (z w : Phasor R)

@[simp] theorem map_number_add [Add R] :
    z.map Checked.number + w.map Checked.number = (z + w).map Checked.number := rfl

@[simp] theorem map_number_sub [Sub R] :
    z.map Checked.number - w.map Checked.number = (z - w).map Checked.number := rfl

@[simp] theorem map_number_mul [Add R] [Sub R] [Mul R] :
    z.map Checked.number * w.map Checked.number = (z * w).map Checked.number := rfl

@[simp] theorem conj_map_number [Neg R] :
    (z.map Checked.number).conj = z.conj.map Checked.number := rfl

@[simp] theorem power_map_number [Add R] [Mul R] :
    (z.map Checked.number).power = Checked.number z.power := rfl

theorem shrink_map_number [Div R] [Zero R] [DecidableEq R] {divisor : R} (h : divisor ≠ 0) :
    (z.map Checked.number).shrink (Checked.number divisor) =
      (z.shrink divisor).map Checked.number := by
  simp [map, shrink, Checked.number_div _ h]

end Phasor

end LteReceiver
