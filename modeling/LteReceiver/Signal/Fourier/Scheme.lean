import LteReceiver.Signal.Fourier.Row

/-!
# Schemes for Fourier transforms

A scheme says how transforms of one length are worked out: by a few additions for the shortest ones,
by summing up for odd ones, and else from transforms of two lengths whose product it is.

## Dividing

A transform of length `p * q` is divided into transforms of length `p` over values `q` apart, whose
outputs are turned, and transforms of length `q` over the outputs of one place. If `p` and `q` have
no common factor, then no output needs to be turned, but the values are taken and given in another
order.

## Choice

`Scheme.ofLength` takes the factors from `13` on, or else some of the factors two and three, as the
transforms that are done last (`ending`); the factors five, seven and eleven come before these, and
what is left of the factors two and three comes first (`leading`), as eights as far as possible.
-/

namespace LteReceiver.Fourier

/-- How the outputs between two transforms are turned. -/
inductive Turning where
  /-- All but the first of each transform by multiplying, also where that changes nothing. -/
  | multiplied
  /-- Without multiplying where there is a way around it. -/
  | sparing

/-- A way to work out transforms of one length. -/
inductive Scheme where
  | one
  | two
  | four
  | eight
  /-- An odd length, summed up. -/
  | odd (length : Nat)
  /-- Transforms of a first length, whose outputs are turned, and of a second one. -/
  | divided (turning : Turning) (p q : Scheme)
  /-- Transforms of two lengths without a common factor, with no turns in between. -/
  | coprime (p q : Scheme)

namespace Scheme

/-- The length of the transforms. -/
def length : Scheme → Nat
  | one => 1
  | two => 2
  | four => 4
  | eight => 8
  | odd length => length
  | divided _ p q => p.length * q.length
  | coprime p q => p.length * q.length

def six : Scheme := coprime (odd 3) two

def twelve : Scheme := coprime four (odd 3)

def sixteen : Scheme := divided .sparing four four

def thirtyTwo : Scheme := divided .sparing four eight

/-- Several transforms in turn. -/
def chain : List Scheme → Scheme
  | [] => one
  | [scheme] => scheme
  | scheme :: rest => divided .multiplied scheme (chain rest)

end Scheme

/-! ## Factors -/

/-- How often a number can be divided by another one, and what is left. -/
def divideOut (p n : Nat) : Nat × Nat :=
  if 1 < p ∧ 0 < n ∧ n % p = 0 then
    let (count, rest) := divideOut p (n / p)
    (count + 1, rest)
  else (0, n)
termination_by n
decreasing_by exact Nat.div_lt_self (by omega) (by omega)

/-- The prime factors of a number that has none below `d`. -/
def primeFactorsFrom (d n : Nat) : List Nat :=
  if d ≤ 1 ∨ n ≤ 1 then []
  else if n % d = 0 then d :: primeFactorsFrom d (n / d)
  else if n < d * d then [n]
  else primeFactorsFrom (d + 1) n
termination_by n + (n - d)
decreasing_by
  · have : n / d < n := Nat.div_lt_self (by omega) (by omega)
    omega
  · have : d * 2 ≤ d * d := Nat.mul_le_mul_left d (by omega)
    omega

/-! ## Choice -/

/-- The last transforms of a length, and how many factors two and three they take. -/
structure Ending where
  twos : Nat
  threes : Nat
  schemes : List Scheme

/-- Two to the power of `twos`, up to nine. -/
def Ending.power (twos : Nat) : Ending :=
  ⟨twos, 0, match twos with
    | 0 => []
    | 1 => [.two]
    | 2 => [.four]
    | 3 => [.eight]
    | 4 => [.sixteen]
    | 5 => [.thirtyTwo]
    | 6 => [.eight, .eight]
    | 7 => [.eight, .sixteen]
    | 8 => [.eight, .thirtyTwo]
    | _ => [.sixteen, .thirtyTwo]⟩

/-- The ending of a length with these many factors two and three: one that leaves eights, where that
can be. -/
def ending (twos threes : Nat) : Ending :=
  match threes with
  | 0 => .power (if twos ≤ 9 then twos else if twos % 3 = 0 then 9 else 8)
  | 1 =>
    if twos = 6 then ⟨6, 1, [.four, .four, .twelve]⟩
    else if 6 ≤ twos ∧ twos % 3 = 2 then .power 6
    else if 4 ≤ twos then ⟨4, 1, [.four, .twelve]⟩
    else .power 0
  | _ => if 3 ≤ twos then ⟨3, 2, [.six, .twelve]⟩ else .power 0

/-- The first transforms, for these many factors two and three. -/
def leading (twos threes : Nat) : List Scheme :=
  let eights := List.replicate (twos / 3) .eight
  let odds := List.replicate threes (.odd 3)
  match twos % 3, threes with
  | 0, _ => eights ++ odds
  | 1, _ => if twos = 1 then .two :: odds else .sixteen :: eights.tail ++ odds
  | _, 0 => .four :: eights
  | _, threes + 1 => .twelve :: eights ++ List.replicate threes (.odd 3)

/-- The scheme for transforms of a length. -/
def Scheme.ofLength (n : Nat) : Scheme :=
  let (twos, rest) := divideOut 2 n
  let (threes, rest) := divideOut 3 rest
  let factors := primeFactorsFrom 5 rest
  let odds := factors.map odd
  if factors.all (· ≤ 11) then
    let last := ending twos threes
    chain (leading (twos - last.twos) (threes - last.threes) ++ odds ++ last.schemes)
  else chain (leading twos threes ++ odds)

end LteReceiver.Fourier
