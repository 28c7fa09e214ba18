import StructuralSeries.Double.Shortest

/-!
# Reading doubles

The grammar of a written number, over characters:

    sign? ( digits ('.' digits?)? | '.' digits ) ( ('e' | 'E') sign? digits )?
    sign? ( inf | infinity | nan )        in any case

The value is the double nearest to the number written. Nothing may precede or follow: blanks and separators
are the business of the callers, which differ in what they allow.
-/

namespace StructuralSeries

namespace Decimal

/-- The double nearest to a decimal number. -/
def toDouble (negative : Bool) (d : Decimal) : Double :=
  .signed negative ⟨min Format.double.top (d.rank .double), Nat.min_le_left _ _⟩

/-- A sign, if there is one, and the rest. -/
def takeSign : List Char → Bool × List Char
  | '-' :: r => (true, r)
  | '+' :: r => (false, r)
  | r => (false, r)

/-- The whole number with these digits. -/
def ofDigits (ds : List Char) : Nat := Nat.ofDigitChars 10 ds 0

/-- The most digits with which a whole number is read exactly. -/
def mostWholeDigits : Nat := 4300

/-- Whether text is a whole number with more digits than are read. -/
def isOverlong (cs : List Char) : Bool :=
  let digits := (takeSign cs).2
  digits.all Char.isDigit && mostWholeDigits < digits.length

/-- A signed whole number that is all of the text. -/
def whole? (cs : List Char) : Option Int :=
  let (negative, ds) := takeSign cs
  if ds.isEmpty || !ds.all Char.isDigit then none
  else some (if negative then -(ofDigits ds : Int) else ofDigits ds)

/-- The exponent that follows the digits, zero if there is none. -/
def trailingExponent? : List Char → Option Int
  | [] => some 0
  | c :: r => if c = 'e' ∨ c = 'E' then whole? r else none

/-- The digits before the point, those after it, and what follows them. -/
def splitDigits (cs : List Char) : List Char × List Char × List Char :=
  let rest := cs.dropWhile Char.isDigit
  match rest with
  | '.' :: r => (cs.takeWhile Char.isDigit, r.takeWhile Char.isDigit, r.dropWhile Char.isDigit)
  | r => (cs.takeWhile Char.isDigit, [], r)

/-- An unsigned decimal number that is all of the text. -/
def read? (cs : List Char) : Option Decimal :=
  let (whole, fraction, rest) := splitDigits cs
  if whole.isEmpty && fraction.isEmpty then none
  else (trailingExponent? rest).map fun e => ⟨ofDigits (whole ++ fraction), e - fraction.length⟩

end Decimal

namespace Double

/-- Infinity or not a number, named in any case and with any sign. -/
def readNamed? (cs : List Char) : Option Double :=
  let (negative, body) := Decimal.takeSign cs
  let word := String.ofList (body.map Char.toLower)
  if word = "inf" ∨ word = "infinity" then some (infinity negative)
  else if word = "nan" then some nan
  else none

/-- The double nearest to a number in decimal digits. -/
def readDecimal? (cs : List Char) : Option Double :=
  let (negative, body) := Decimal.takeSign cs
  (Decimal.read? body).map (Decimal.toDouble negative)

/-- The double nearest to a written number. -/
def read? (cs : List Char) : Option Double := (readNamed? cs).orElse fun _ => readDecimal? cs

end Double

end StructuralSeries
