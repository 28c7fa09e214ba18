import StructuralSeries.Double

/-!
# The fewest decimal digits that read back

A positive finite magnitude is written with the fewest decimal digits that round to it, and of the
shortest candidates with the one nearest to it.

## Shape

For one digit, two digits and so on, the value lies between two neighbours on the grid of decimals with
that many digits. The nearer neighbour is tried first (a tie goes to the even one), the other one second,
and the first candidate that reads back is the answer. Should no grid have one, the exact expansion of the
value is taken, so the answer always reads back.
-/

namespace StructuralSeries

/-- A decimal number `coefficient · 10 ^ exponent`. -/
structure Decimal where
  coefficient : Nat
  exponent : Int
  deriving DecidableEq, Repr

namespace Decimal

/-- Number of decimal digits; zero has one. -/
def width (n : Nat) : Nat := (Nat.toDigits 10 n).length

/-- The number as a ratio of two whole numbers. -/
def ratio (d : Decimal) : Nat × Nat :=
  if 0 ≤ d.exponent then (d.coefficient * Nat.pow 10 d.exponent.toNat, 1)
  else (d.coefficient, Nat.pow 10 (-d.exponent).toNat)

/-- Places before the point past which every format is exhausted. -/
def reach : Nat := 400

/-- The rank nearest to a decimal number. Numbers out of reach are decided by their size alone. -/
def rank (f : Format) (d : Decimal) : Nat :=
  let places : Int := width d.coefficient + d.exponent
  if d.coefficient = 0 then 0
  else if (reach : Int) < places then f.top
  else if places < -(reach : Int) then 0
  else f.rank d.ratio.1 d.ratio.2

end Decimal

namespace Format

/-- The most digits a shortest text can need in either format. -/
def mostDigits : Nat := 17

/-- The exact decimal expansion of a finite rank. -/
def exactDecimal (f : Format) (rank : Nat) : Decimal :=
  ⟨f.units rank * Nat.pow 5 f.unitExponent, -(f.unitExponent : Int)⟩

/-- Whether the value of a rank is below a power of ten. -/
def belowPower (f : Format) (rank : Nat) (exponent : Int) : Bool :=
  if 0 ≤ exponent then decide (f.units rank < Nat.pow 2 f.unitExponent * Nat.pow 10 exponent.toNat)
  else decide (f.units rank * Nat.pow 10 (-exponent).toNat < Nat.pow 2 f.unitExponent)

/-- Places before the point: `10 ^ (places - 1) ≤ value < 10 ^ places`. The number of bits tells them up to
one, since `1233 / 4096` is close to the logarithm of two. -/
def places (f : Format) (rank : Nat) : Int :=
  let guess : Int := ((f.units rank).log2 - f.unitExponent : Int) * 1233 / 4096
  if f.belowPower rank guess then guess
  else if f.belowPower rank (guess + 1) then guess + 1
  else guess + 2

/-- The two neighbours of a value on the grid of multiples of `10 ^ exponent`, the nearer first. -/
def neighbours (f : Format) (rank : Nat) (exponent : Int) : List Nat :=
  let num := if 0 ≤ exponent then f.units rank else f.units rank * Nat.pow 10 (-exponent).toNat
  let den :=
    if 0 ≤ exponent then Nat.pow 2 f.unitExponent * Nat.pow 10 exponent.toNat
    else Nat.pow 2 f.unitExponent
  let near := roundDiv num den
  [near, if near = num / den then near + 1 else num / den]

/-- The first multiple of `10 ^ exponent` beside the value that reads back. -/
def candidate (f : Format) (rank : Nat) (exponent : Int) : Option Decimal :=
  ((f.neighbours rank exponent).find? fun c => Decimal.rank f ⟨c, exponent⟩ == rank).map (⟨·, exponent⟩)

/-- The decimal with the fewest digits that rounds to a finite rank. -/
def shortest (f : Format) (rank : Nat) : Decimal :=
  let places := f.places rank
  ((List.range mostDigits).findSome? fun i : Nat => f.candidate rank (places - (i + 1 : Nat))).getD
    (f.exactDecimal rank)

theorem candidate_reads_back {f : Format} {rank : Nat} {exponent : Int} {d : Decimal}
    (h : f.candidate rank exponent = some d) : Decimal.rank f d = rank := by
  unfold candidate at h
  obtain ⟨c, hc, rfl⟩ := Option.map_eq_some_iff.1 h
  simpa using List.find?_some hc

end Format

end StructuralSeries
