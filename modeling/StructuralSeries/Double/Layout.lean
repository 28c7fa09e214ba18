import StructuralSeries.Double.Shortest

/-!
# Written doubles

The shortest digits of a number are laid out around the point. A `Layout` says which numbers are written
without an exponent and what follows a whole one; the four layouts of this library are `plain`, `narrow`,
`bare` and `positional`.

## Shape

`0.D₁D₂D₃… · 10 ^ places` is the common form: `digits` holds `D₁D₂D₃…` without trailing zeros, and `lay`
puts the point among them. Whether there is an exponent is decided by the size of the number and not by its
digits: the single precision number nearest to one ten-thousandth is below it, and has an exponent although
its digits say `0.0001`.
-/

namespace StructuralSeries

/-- How the digits of a number are laid out. -/
structure Layout where
  /-- The least and the most places before the point that are written without an exponent. -/
  span : Option (Int × Int)
  /-- What follows the digits of a whole number. -/
  whole : List Char

namespace Layout

/-- Numbers from one ten-thousandth up to ten to the sixteenth have no exponent, and a whole one ends
in a point and a zero. -/
def plain : Layout := ⟨some (-3, 16), ['.', '0']⟩

/-- As `plain`, but numbers from a million on have an exponent. It is the layout of single precision. -/
def narrow : Layout := ⟨some (-3, 6), ['.', '0']⟩

/-- As `plain`, but a whole number ends in its last digit. -/
def bare : Layout := ⟨some (-3, 16), []⟩

/-- No number has an exponent, and a whole one ends in its last digit. -/
def positional : Layout := ⟨none, []⟩

/-- The exponent of ten, with its sign and at least two digits. -/
def exponentText (e : Int) : List Char :=
  let digits := Nat.toDigits 10 e.natAbs
  (if e < 0 then '-' else '+') :: (if digits.length < 2 then '0' :: digits else digits)

/-- Digits with the point after so many of them. -/
def pointed (l : Layout) (digits : List Char) (places : Int) : List Char :=
  if places ≤ 0 then '0' :: '.' :: List.replicate (-places).toNat '0' ++ digits
  else if digits.length ≤ places.toNat then
    digits ++ List.replicate (places.toNat - digits.length) '0' ++ l.whole
  else digits.take places.toNat ++ '.' :: digits.drop places.toNat

/-- Digits with the point after the first and an exponent. -/
def scientific (digits : List Char) (places : Int) : List Char :=
  let mantissa := match digits with
    | [] => []
    | [d] => [d]
    | d :: rest => d :: '.' :: rest
  mantissa ++ 'e' :: exponentText (places - 1)

/-- `0.D₁D₂D₃… · 10 ^ places` as text, for a number with `size` places before the point. -/
def lay (l : Layout) (size : Int) (digits : List Char) (places : Int) : List Char :=
  match l.span with
  | none => l.pointed digits places
  | some (least, most) =>
    if least ≤ size && size ≤ most then l.pointed digits places else scientific digits places

/-- The digits of a whole number without the zeros at its end. -/
def significant (n : Nat) : List Char :=
  ((Nat.toDigits 10 n).reverse.dropWhile (· = '0')).reverse

/-- A finite rank as text. -/
def rankText (l : Layout) (f : Format) (rank : Nat) : List Char :=
  if rank = 0 then l.pointed ['0'] 1
  else
    let d := f.shortest rank
    l.lay (f.places rank) (significant d.coefficient) (Decimal.width d.coefficient + d.exponent)

def signText (negative : Bool) : List Char := if negative then ['-'] else []

/-- A double as text. -/
def text (l : Layout) : Double → List Char
  | .nan => ['n', 'a', 'n']
  | .signed s m =>
    signText s ++ (if m.isInfinite then ['i', 'n', 'f'] else l.rankText .double m.rank)

/-- The nearest number of single precision as text: the fewest digits that single precision tells apart. -/
def singleText : Double → List Char
  | .nan => ['n', 'a', 'n']
  | .signed s m =>
    let rank := Format.single.rank m.units Magnitude.unitsOfOne
    signText s ++
      (if m.isInfinite || rank == Format.single.top then ['i', 'n', 'f'] else narrow.rankText .single rank)

end Layout

end StructuralSeries
