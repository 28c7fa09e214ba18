import StructuralSeries.Settings.Schema
import StructuralSeries.Text.Lower
import StructuralSeries.Value.Reading

/-!
# Contracts

Each setting has a contract, and a value that keeps it has a meaning: the reading of a contract is the meaning, or
nothing if the contract is broken. A fault in between is a value that has no meaning as an array or as a number
at all.

A matrix or a vector that is unset reads as nothing given.
-/

namespace StructuralSeries.Contract

/-- Whether a value stands for no inputs: nothing, or one number that is not a number. -/
def noInputs (v : Value) : Except Fault Bool :=
  match v with
  | .absent => .ok true
  | v => v.elements.map fun es => es.grid.axes = 0 && es.startsWithNaN

/-- A matrix of inputs: numbers along at most two axes. -/
def inputs (v : Value) : Except Fault (Option (Option (Grid Double))) := do
  if ← noInputs v then return some none
  match ← v.doubles? with
  | some g => return if g.axes ≤ 2 then some (some g) else none
  | none => return none

/-- A vector: at least one number, along at most one axis. -/
def vector (v : Value) : Except Fault (Option (Option (List Double))) := do
  if ← v.isUnset then return some none
  match ← v.doubles? with
  | some g => return if g.axes ≤ 1 ∧ g.size ≠ 0 then some (some g.data) else none
  | none => return none

/-- Numbers that can be periods: finite, positive and all different. -/
def arePeriods (xs : List Double) : Bool :=
  xs.all (fun x => x.isFinite && Double.zero.lt x) && decide (xs.Pairwise (· ≠ ·))

/-- A vector of periods. -/
def periods (v : Value) : Except Fault (Option (Option (List Double))) := do
  match ← vector v with
  | some (some xs) => return if arePeriods xs then some (some xs) else none
  | r => return r

def model (v : Value) : Except Fault (Option String) := .ok v.text?

/-- A horizon: a real number that is not negative. One that is not a number is not given. -/
def horizon (v : Value) : Except Fault (Option (Option Value.Real)) := do
  match v with
  | .absent => return some none
  | v =>
    match v.real? with
    | none => return none
    | some r =>
      let x ← r.toDouble
      if x.isNaN then return some none
      return if x.isFinite && Double.zero.le x then some (some r) else none

/-- A real number. -/
def real (v : Value) : Except Fault (Option Value.Real) := .ok v.real?

def flag (v : Value) : Except Fault (Option Bool) := .ok v.bool?

/-- The name of a criterion in any case. -/
def criterion (v : Value) : Except Fault (Option Criterion) :=
  .ok (v.text?.bind fun s => Criterion.ofName? (String.ofList (Text.lower s.toList)))

end StructuralSeries.Contract
