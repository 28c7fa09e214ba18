/-!
# What can go wrong

A `Refusal` is a failure of setting up a request: the caller broke a contract that this library states. Every
other `Fault` is the failure of a single operation on a value, an array or a record.

## Shape

* each constructor is a cause, with what its message needs
* `Fault.category` — the sort of failure, which callers tell apart
* `Fault.message?` — the wording, for the sorts of failure that have one
-/

namespace StructuralSeries

/-! ## Refusals -/

/-- Why a request was refused. -/
inductive Refusal where
  /-- An option was given under two of its names. -/
  | repeatedOption (name : String)
  /-- Options that do not exist, in order of their names. -/
  | unknownOptions (names : List String)
  /-- An option broke its contract; `shown` is the value as the message shows it. -/
  | brokenContract (name contract shown : String)
  | frequencyNotReal
  | frequencyNotFinite
  | seriesIsText
  /-- The series is empty or not a line of values. -/
  | seriesNotLine
  | seriesNotNumeric
  | seriesAllMissing
  | modelNotText
  /-- A model string with a wrong number of components or an empty one. -/
  | modelLayout (text : String)
  /-- The inputs have fewer columns than the series has values. -/
  | inputsTooShort
  | noPeriods
  | emptyModel
  deriving DecidableEq, Repr

/-! ## Faults -/

/-- How a call does not fit what it calls. -/
inductive Misfit where
  /-- The first name that the called constructor does not know. -/
  | unexpectedName (called name : String)
  /-- The required names that are missing, in order. -/
  | missingNames (called : String) (names : List String)
  /-- A name that is already bound by position. -/
  | boundTwice (called name : String)
  /-- Entries were to be replaced in a value that is no record. -/
  | notARecord
  deriving DecidableEq, Repr

/-- Why an operation failed. -/
inductive Fault where
  | refused (why : Refusal)
  /-- Nested sequences of unequal shapes, or too many levels of them. -/
  | ragged
  /-- Text that writes no number. -/
  | unreadableText
  /-- A whole number with more digits than are written. -/
  | tooManyDigits
  /-- A sequence where a single number belongs. -/
  | sequenceForNumber
  /-- A first period that is itself several numbers. -/
  | severalFirstPeriods
  /-- More periods than an array can hold. -/
  | tooManyPeriods
  /-- Inputs with more than two axes. -/
  | tooManyAxes
  /-- A value whose shape does not fit the part of an array that it is written to. -/
  | unfitShape
  | readOnlyArray
  /-- A value that stands for no number. -/
  | notANumber
  /-- A value without a length. -/
  | noLength
  /-- A value that is no array, where an array is to be changed. -/
  | notAnArray
  | misfit (why : Misfit)
  /-- A whole number past the largest double. -/
  | tooLarge
  | noFirstPeriod
  | emptyCycle
  | badIndex
  /-- Inputs without a second axis. -/
  | flatInputs
  | noSuchField (name : String)
  /-- A field of a record was to be set or, if `deleting`, deleted. -/
  | frozen (deleting : Bool) (name : String)
  deriving DecidableEq, Repr

/-- The sorts of failure. -/
inductive Category where
  | invalidArgument
  | lengthMismatch
  | missingConfiguration
  | emptyModel
  | unfitValue
  | unfitType
  | overflow
  | missingIndex
  | missingField
  | frozenRecord
  deriving DecidableEq, Repr

namespace Refusal

def category : Refusal → Category
  | inputsTooShort => .lengthMismatch
  | noPeriods => .missingConfiguration
  | emptyModel => .emptyModel
  | _ => .invalidArgument

/-- The wording of a refusal. -/
def message : Refusal → String
  | repeatedOption name => s!"Option '{name}' given more than once"
  | unknownOptions names => s!"Unknown option(s): " ++ ", ".intercalate names
  | brokenContract name contract shown => s!"Option '{name}' must be {contract}, got {shown}"
  | frequencyNotReal => "'frequency' must be a real number"
  | frequencyNotFinite => "'frequency' must be finite"
  | seriesIsText => "'y' must be a numeric series"
  | seriesNotLine => "'y' must be a non-empty one-dimensional series"
  | seriesNotNumeric => "Data must be numeric or convertible to numeric values"
  | seriesAllMissing => "'y' contains missing values only"
  | modelNotText => "'model' must be a string"
  | modelLayout text => s!"Wrong model specification '{text}'. Use 'trend/seasonal/irregular' " ++
      "or 'trend/cycle/seasonal/irregular'"
  | inputsTooShort => "Length of output data never could be greater than length of inputs"
  | noPeriods => "Input \"periods\" should be supplied"
  | emptyModel => "No model specified"

end Refusal

namespace Misfit

/-- Names in quotes as an enumeration: `'a'`, `'a' and 'b'`, `'a', 'b', and 'c'`. -/
def enumeration (names : List String) : String :=
  match names.map fun n => s!"'{n}'" with
  | [] => ""
  | [a] => a
  | [a, b] => s!"{a} and {b}"
  | quoted => ", ".intercalate quoted.dropLast ++ ", and " ++ quoted.getLastD ""

/-- The wording of a misfit. -/
def message : Misfit → String
  | unexpectedName called name => s!"{called}() got an unexpected keyword argument '{name}'"
  | missingNames called names =>
    let noun := if names.length = 1 then "argument" else "arguments"
    s!"{called}() missing {names.length} required positional {noun}: " ++ enumeration names
  | boundTwice called name => s!"{called}() got multiple values for argument '{name}'"
  | notARecord => "replace() should be called on dataclass instances"

end Misfit

namespace Fault

def category : Fault → Category
  | refused why => why.category
  | ragged | unreadableText | tooManyDigits | sequenceForNumber | severalFirstPeriods | tooManyPeriods | tooManyAxes
  | unfitShape | readOnlyArray => .unfitValue
  | notANumber | noLength | notAnArray | misfit _ => .unfitType
  | tooLarge => .overflow
  | noFirstPeriod | emptyCycle | badIndex | flatInputs => .missingIndex
  | noSuchField _ => .missingField
  | frozen _ _ => .frozenRecord

/-- The wording of a fault that has one. -/
def message? : Fault → Option String
  | refused why => some why.message
  | misfit why => some why.message
  | frozen false name => some s!"cannot assign to field '{name}'"
  | frozen true name => some s!"cannot delete field '{name}'"
  | _ => none

end Fault

end StructuralSeries
