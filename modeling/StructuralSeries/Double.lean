/-!
# Double-precision numbers, exactly

A double is either not a number or a sign with a *magnitude*. The magnitudes of a binary format are
numbered from zero in order of size, and infinity comes last; the number of a magnitude is its
*rank*. So two doubles are the same exactly when they are equal as data, and order is the order of
whole numbers.

## Shape

* `Format.units` — the value of a rank, counted in the smallest positive magnitude of the format
* `Format.rank` — the rank nearest to a ratio, ties to the even significand
* `Double` — the operations, each of them one exact ratio and one rounding

Ranks rise by one within a stage of `2 ^ fractionBits` magnitudes, and a stage has twice the step of
the stage before it. Rounding a significand up past its stage lands on the first rank of the next one,
so the rank of a rounded ratio is a sum and needs no case for the carry.
-/

namespace StructuralSeries

/-! ## Formats -/

/-- A binary format of magnitudes. -/
structure Format where
  /-- Bits of a significand after its leading one. -/
  fractionBits : Nat
  /-- The smallest positive magnitude is two to the power of minus this. -/
  unitExponent : Nat
  /-- The rank of infinity. -/
  top : Nat

namespace Format

/-- Double precision. -/
def double : Format := ⟨52, 1074, 2047 * Nat.pow 2 52⟩

/-- Single precision. -/
def single : Format := ⟨23, 149, 255 * Nat.pow 2 23⟩

/-- The quotient nearest to `n / d`; a tie goes to the even neighbour. -/
def roundDiv (n d : Nat) : Nat :=
  if 2 * (n % d) < d then n / d
  else if d < 2 * (n % d) then n / d + 1
  else n / d + n / d % 2

/-- How often the step has doubled before this rank. -/
def stage (f : Format) (rank : Nat) : Nat := rank / Nat.pow 2 f.fractionBits - 1

/-- The value of a rank, in units of the smallest positive magnitude. -/
def units (f : Format) (rank : Nat) : Nat :=
  (rank - f.stage rank * Nat.pow 2 f.fractionBits) * Nat.pow 2 (f.stage rank)

/-- The rank nearest to the ratio `n / d`. -/
def rank (f : Format) (n d : Nat) : Nat :=
  let scaled := n * Nat.pow 2 f.unitExponent
  let stage := (scaled / d).log2 - f.fractionBits
  min f.top (stage * Nat.pow 2 f.fractionBits + roundDiv scaled (d * Nat.pow 2 stage))

theorem rank_le_top (f : Format) (n d : Nat) : f.rank n d ≤ f.top := Nat.min_le_left _ _

theorem roundDiv_zero (d : Nat) : roundDiv 0 d = 0 := by
  unfold roundDiv
  split <;> simp_all

@[simp] theorem rank_zero (f : Format) (d : Nat) : f.rank 0 d = 0 := by
  simp [rank, roundDiv_zero, Nat.log2_zero]

end Format

/-! ## Magnitudes and doubles -/

/-- A magnitude of double precision, infinity included. -/
structure Magnitude where
  rank : Nat
  rank_le : rank ≤ Format.double.top
  deriving DecidableEq

namespace Magnitude

/-- The magnitude nearest to the ratio `n / d`. -/
def ofRatio (n d : Nat) : Magnitude := ⟨Format.double.rank n d, Format.double.rank_le_top n d⟩

def infinity : Magnitude := ⟨Format.double.top, Nat.le_refl _⟩

def isInfinite (m : Magnitude) : Bool := m.rank == Format.double.top

/-- The value of a finite magnitude, in units of `2 ^ -1074`. -/
def units (m : Magnitude) : Nat := Format.double.units m.rank

/-- One, counted in units. -/
def unitsOfOne : Nat := Nat.pow 2 Format.double.unitExponent

end Magnitude

/-- A double-precision number. -/
inductive Double where
  | nan
  | signed (negative : Bool) (magnitude : Magnitude)
  deriving DecidableEq

namespace Double

/-- The double nearest to the ratio `n / d`, with the given sign. -/
def ofRatio (negative : Bool) (n d : Nat) : Double := .signed negative (.ofRatio n d)

def infinity (negative : Bool) : Double := .signed negative .infinity

/-- The double nearest to a whole number; past the largest double it is infinite. -/
def ofInt (n : Int) : Double := ofRatio (n < 0) n.natAbs 1

def zero : Double := ofInt 0
def one : Double := ofInt 1

/-! ## Tests and order -/

def isNaN : Double → Bool
  | nan => true
  | signed _ _ => false

def isFinite : Double → Bool
  | nan => false
  | signed _ m => !m.isInfinite

/-- The place of a number on the line: its rank, negative below zero. Both zeros have place zero. -/
def place : Double → Option Int
  | nan => none
  | signed true m => some (-m.rank)
  | signed false m => some m.rank

/-- Less than; nothing compares with what is not a number. -/
def lt (x y : Double) : Bool :=
  match x.place, y.place with
  | some a, some b => decide (a < b)
  | _, _ => false

/-- Less than or equal; nothing compares with what is not a number. -/
def le (x y : Double) : Bool :=
  match x.place, y.place with
  | some a, some b => decide (a ≤ b)
  | _, _ => false

/-- Equal as numbers: the zeros agree, and what is not a number differs from itself. -/
def same (x y : Double) : Bool :=
  match x.place, y.place with
  | some a, some b => a == b
  | _, _ => false

/-! ## Arithmetic -/

def neg : Double → Double
  | nan => nan
  | signed s m => signed (!s) m

/-- The product, correctly rounded. -/
def mul : Double → Double → Double
  | signed s a, signed t b =>
    if a.isInfinite || b.isInfinite then
      if a.rank == 0 || b.rank == 0 then nan else infinity (s ^^ t)
    else ofRatio (s ^^ t) (a.units * b.units) (Magnitude.unitsOfOne * Magnitude.unitsOfOne)
  | _, _ => nan

/-- The quotient by a positive count, correctly rounded. -/
def divCount (x : Double) (count : Nat) : Double :=
  match x with
  | nan => nan
  | signed s m =>
    if m.isInfinite then signed s m
    else ofRatio s m.units (Magnitude.unitsOfOne * count)

/-- The value in units of `2 ^ -1074`, for a finite number. -/
def signedUnits? : Double → Option Int
  | nan => none
  | signed s m =>
    if m.isInfinite then none else some (if s then -m.units else m.units)

/-- The largest whole number not above a finite one. -/
def floor? (x : Double) : Option Int := x.signedUnits?.map (· / (Magnitude.unitsOfOne : Int))

/-- Whether a finite number is whole. -/
def isWhole (x : Double) : Bool :=
  match x.signedUnits? with
  | some u => u % (Magnitude.unitsOfOne : Int) == 0
  | none => false

/-- The nearest number of single precision, as a double. -/
def toSingle : Double → Double
  | nan => nan
  | signed s m =>
    if m.isInfinite then signed s m
    else
      let rank := Format.single.rank m.units Magnitude.unitsOfOne
      if rank = Format.single.top then infinity s
      else ofRatio s (Format.single.units rank) (Nat.pow 2 Format.single.unitExponent)

@[simp] theorem neg_neg (x : Double) : x.neg.neg = x := by cases x <;> simp [neg]

@[simp] theorem isNaN_neg (x : Double) : x.neg.isNaN = x.isNaN := by cases x <;> rfl

@[simp] theorem isFinite_neg (x : Double) : x.neg.isFinite = x.isFinite := by cases x <;> rfl

end Double

end StructuralSeries
