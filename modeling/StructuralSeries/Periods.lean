import StructuralSeries.Value.Reading

/-!
# Periods

The seasonal periods of a model, the fundamental one first. Where none are given they follow from the frequency,
the number of observations in a year: the period of the year and of its harmonics, `f / 1`, `f / 2`, down to the
last one that is no shorter than two observations. Data with at most one observation in a year have the single
period one.

## Shape

* `frequencyOf` — the frequency that a value is
* `harmonics` — the periods of a frequency
* `Periods.first` — the first period, which has to be there and to be a single number
* `Periods.derive` — the periods of a model, explicit ones or harmonics
-/

namespace StructuralSeries

/-- The frequency that a value is: a real number, and a finite one. -/
def frequencyOf (v : Value) : Except Fault Double := do
  match v.real? with
  | none => throw (.refused .frequencyNotReal)
  | some r =>
    let f ← r.toDouble
    if f.isFinite then return f else throw (.refused .frequencyNotFinite)

/-- One more period than an array can hold. -/
def periodLimit : Nat := Nat.pow 2 60

/-- Number of harmonics of a frequency, the fundamental one included. -/
def harmonicCount (f : Double) : Int := ((f.divCount 2).floor?).getD 0

/-- The periods of a frequency. -/
def harmonics (f : Double) : Except Fault (List Double) :=
  if f.le .one then .ok [.one]
  else if (periodLimit : Int) ≤ harmonicCount f then .error .tooManyPeriods
  else .ok ((List.range (harmonicCount f).toNat).map fun j => f.divCount (j + 1))

namespace Periods

/-- The first period. There has to be one, and it has to be a single number. -/
def first (g : Grid Double) : Except Fault Double :=
  match g.firstRow? with
  | none => .error .noFirstPeriod
  | some row => match row.data with
    | [x] => .ok x
    | _ => .error .severalFirstPeriods

@[simp] theorem first_ofList_nil : first (.ofList []) = .error .noFirstPeriod := rfl

@[simp] theorem first_ofList_cons (x : Double) (xs : List Double) : first (.ofList (x :: xs)) = .ok x := rfl

/-- Periods that are there: at least one, and the first of them a number. -/
def supplied (g : Grid Double) : Except Fault (Grid Double) := do
  if g.size = 0 then throw (.refused .noPeriods)
  if (← first g).isNaN then throw (.refused .noPeriods)
  return g

/-- The periods of a model: the explicit ones, or else those of the frequency. -/
def derive (frequency : Double) (explicit : Option (Grid Double)) : Except Fault (Grid Double) :=
  match explicit with
  | some g => supplied g
  | none => (harmonics frequency).bind fun ps => supplied (.ofList ps)

/-- The periods that a value gives explicitly. -/
def explicitOf (v : Value) : Except Fault (Option (Grid Double)) :=
  match v with
  | .absent => .ok none
  | v => v.doubles.map fun g => some g.atLeastLine

/-- The periods that a frequency and explicit periods give. -/
def ofValues (frequency explicit : Value) : Except Fault (Grid Double) := do
  let f ← frequencyOf frequency
  derive f (← explicitOf explicit)

end Periods

end StructuralSeries
