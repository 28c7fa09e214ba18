import StructuralSeries.Double.Layout
import StructuralSeries.Double.Reader
import StructuralSeries.Text.Blank
import StructuralSeries.Text.Digit
import StructuralSeries.Value.Elements
import StructuralSeries.Value.Shown

/-!
# Values read as doubles

Options and series are read by different rules.

* An option is *strict*: each of its elements has to be a number, or text that writes one. Its text may use the
  digits of any script and a low line between two digits.
* A series is *lenient*: an element that is no number counts as missing. What its text means is up to a reader, which
  may round a long number in its own way. `Text.nearest` is the reader that rounds correctly.

## Shape

* `Value.toDouble`, `Value.doubles` — the strict reading of an element and of a value
* `Text.Reader` — how the text of a series is read
* `Value.observation`, `Value.observations` — the lenient reading of an element and of a series
-/

namespace StructuralSeries

/-! ## Text that writes a number -/

namespace Text

/-- A low line between two digits is dropped; any other spoils the text. -/
def joinDigits : List Char → Option (List Char)
  | [] => some []
  | [c] => if c = '_' then none else some [c]
  | c :: '_' :: d :: r =>
    if c.isDigit && d.isDigit then (joinDigits (d :: r)).map (c :: ·) else none
  | c :: r => if c = '_' then none else (joinDigits r).map (c :: ·)

/-- A character of a number in its ASCII form: blanks as spaces, digits of any script as digits. -/
def toAsciiForm (c : Char) : Char :=
  if 0x7F ≤ c.toNat && isBlank c then ' ' else toAsciiDigit c

/-- The double that the text of an option writes. -/
def strictDouble? (s : String) : Option Double :=
  (joinDigits (trim isNumberBlank (s.toList.map toAsciiForm))).bind Double.read?

/-- The whole number that the text of a series writes with digits alone. -/
def lenientWhole? (s : String) : Option Int :=
  let digits := trim isAsciiBlank s.toList
  if Decimal.isOverlong digits then none else Decimal.whole? digits

/-- The double nearest to the number that the text of a series writes. Its text is ASCII. Blanks may surround decimal
digits, but not the name of an infinity. -/
def lenientDouble? (s : String) : Option Double :=
  let digits := trim isAsciiBlank s.toList
  (Double.readNamed? s.toList).orElse fun _ =>
    if Decimal.isOverlong digits then none else Double.readDecimal? digits

/-- A reader of the text in series. -/
class Reader where
  /-- The double that text is read as, if it writes a number. -/
  number? : String → Option Double
  /-- The names of the truth values write no number. -/
  number?_shownBool (b : Bool) : number? (shownBool b) = none

/-- The reader that rounds to the nearest double. -/
instance nearest : Reader := ⟨lenientDouble?, fun b => by cases b <;> decide +kernel⟩

/-- The number that text in a series stands for; text that writes none is missing. -/
def observed [Reader] (s : String) : Double := (Reader.number? s).getD .nan

/-- Text as an array of text holds it, which keeps no NUL at the end. -/
def held (s : String) : String :=
  String.ofList ((s.toList.reverse.dropWhile (· = '\x00')).reverse)

end Text

namespace Value

/-! ## Strict reading -/

/-- A whole number as a double, unless it is past the largest one. -/
def wholeToDouble (n : Int) : Except Fault Double :=
  if (Double.ofInt n).isFinite then .ok (.ofInt n) else .error .tooLarge

namespace Real

def toDouble : Real → Except Fault Double
  | whole n => wholeToDouble n
  | word n => .ok (.ofInt n)
  | double x => .ok x

end Real

/-- An element as a number. -/
def toDouble : Value → Except Fault Double
  | absent => .ok .nan
  | bool b => .ok (if b then .one else .zero)
  | int n => wholeToDouble n
  | float x => .ok x
  | fixed x => .ok x.toDouble
  | text s => match Text.strictDouble? s with
    | some x => .ok x
    | none => .error .unreadableText
  | numbers _ (.complex128 _) => .error .sequenceForNumber
  | numbers _ ns => match ns.shape, ns.cells.data with
    | [], [x] => .ok x.toDouble
    | _, _ => .error .sequenceForNumber
  | objects _ [] (absent :: _) => .error .sequenceForNumber
  | objects _ [] (v :: _) => match toDouble v with
    | .ok x => .ok x
    | .error _ => .error .sequenceForNumber
  | list _ | tuple _ | objects _ _ _ => .error .sequenceForNumber
  | complex _ | mapping _ | record _ _ => .error .notANumber

/-- The numbers of the array that a value writes. -/
def doubles (v : Value) : Except Fault (Grid Double) :=
  v.elements.bind fun es => es.grid.traverse toDouble

/-- The numbers of an option that stands for numbers. Text and truth values stand for none, and neither does
what cannot be read; only a whole number past the largest double is a fault. -/
def doubles? (v : Value) : Except Fault (Option (Grid Double)) :=
  match v with
  | text _ | bool _ | fixed (.bool _) => .ok none
  | v => match v.doubles with
    | .ok g => .ok (some g)
    | .error .tooLarge => .error .tooLarge
    | .error _ => .ok none

/-! ## Lenient reading -/

mutual

/-- Whether a value can change: a list, a mapping or an array can, and so can a tuple that holds one. -/
def isMutable : Value → Bool
  | list _ | mapping _ | numbers _ _ | objects _ _ _ => true
  | tuple items => anyMutable items
  | _ => false

def anyMutable : List Value → Bool
  | [] => false
  | v :: vs => isMutable v || anyMutable vs

end

/-- The text as which an element stands among text. -/
def asText : Value → String
  | text s => Text.held s
  | bool b | fixed (.bool b) => shownBool b
  | int n | fixed (.int64 n) | fixed (.int8 n) => toString n
  | float x | fixed (.float64 x) => x.shown
  | fixed (.float32 x) => String.ofList (Layout.singleText x)
  | complex z | fixed (.complex128 z) => z.shown
  | _ => ""

/-- An element among arbitrary objects. The objects that a series cannot hold are an array without axes and a
tuple that can change. -/
def observationAmongObjects [Text.Reader] : Value → Except Fault Double
  | bool b => .ok (if b then .one else .zero)
  | int n => wholeToDouble n
  | float x => .ok x
  | complex z => .ok z.re
  | fixed x => .ok x.toDouble
  | text s => .ok (Text.observed s)
  | numbers _ ns => if ns.shape = [] then .error (.refused .seriesNotNumeric) else .ok .nan
  | objects _ [] _ => .error (.refused .seriesNotNumeric)
  | tuple items => if anyMutable items then .error (.refused .seriesNotNumeric) else .ok .nan
  | absent | list _ | mapping _ | objects _ _ _ | record _ _ => .ok .nan

/-- A number among numbers. -/
def observationAmongNumbers : Value → Double
  | bool b => if b then .one else .zero
  | int n => .ofInt n
  | float x => x
  | complex z => z.re
  | fixed x => x.toDouble
  | _ => .nan

/-- An element of a series of some kind; what is no number counts as missing. -/
def observation [Text.Reader] (kind : Kind) (v : Value) : Except Fault Double :=
  match kind with
  | .object => v.observationAmongObjects
  | .text => .ok (Text.observed v.asText)
  | _ => .ok v.observationAmongNumbers

/-! ## Series of whole numbers -/

/-- The text as which an element of a series is read, if it is read as text. -/
def textIn? (kind : Kind) (v : Value) : Option String := if kind = .text then some v.asText else v.text?

/-- The whole number that an element of a series writes with digits alone. -/
def wholeIn? (kind : Kind) (v : Value) : Option Int :=
  match v with
  | int n | fixed (.int64 n) | fixed (.int8 n) => some n
  | bool b | fixed (.bool b) => if kind = .object then some (if b then 1 else 0) else none
  | text _ => (v.textIn? kind).bind Text.lenientWhole?
  | _ => none

/-- The whole number that an element of a series is read as, unless it is read as text that writes no number. -/
def wholeObservation? [Text.Reader] (kind : Kind) (v : Value) : Option Int :=
  if (v.textIn? kind).all fun s => (Text.Reader.number? s).isSome then v.wholeIn? kind else none

/-- Whether one sort of word of 64 bits, with a sign or without, holds all the numbers. -/
def fitOneWord (ns : List Int) : Bool :=
  ns.all (fun n => -(wordBound : Int) ≤ n && n < (wordBound : Int)) ||
    ns.all (fun n => 0 ≤ n && n < 2 * (wordBound : Int))

/-- The whole numbers of a series that holds nothing else. -/
def wholeObservations? [Text.Reader] (kind : Kind) (cells : List Value) : Option (List Int) :=
  (cells.mapM (wholeObservation? kind)).bind fun ns => if fitOneWord ns then some ns else none

/-- The elements of a series of some kind. A series of whole numbers is read as such, so a zero in it has no
sign. -/
def observations [Text.Reader] (kind : Kind) (cells : List Value) : Except Fault (List Double) :=
  match wholeObservations? kind cells with
  | some ns => .ok (ns.map Double.ofInt)
  | none => cells.mapM (observation kind)

end Value

end StructuralSeries
