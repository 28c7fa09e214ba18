import StructuralSeries.Model.Canonical
import StructuralSeries.Periods
import StructuralSeries.Sample
import StructuralSeries.Settings.Resolved

/-!
# Requests

A request is all that estimation reads: the sample, the compiled model, the periods and the settings that steer
the estimation. `Request.setup` makes one from what a caller hands in.

## Shape

The stages run in a fixed order, and the first failure decides: settings, periods, sample, model. A notice tells
the caller when the inputs overrule the horizon that was asked for.
-/

namespace StructuralSeries

/-- A validated request. -/
structure Request where
  series : Series
  inputs : Inputs
  /-- The compiled model string. -/
  model : String
  horizon : Int
  periods : List Double
  /-- One coefficient for each period. -/
  rhos : List Double
  /-- The critical value for outliers with the caller's sign turned, as estimation reads it. -/
  outlier : Double
  unitRootTest : Bool
  stepwise : Bool
  verbose : Bool
  concentrated : Bool
  arma : Bool
  criterion : Criterion
  initial : Option (List Double)
  fixed : Option (List Double)

namespace Request

/-- Number of observations. -/
def n (r : Request) : Nat := r.series.length

/-- Whether there are real inputs. -/
def hasInputs (r : Request) : Bool := r.inputs.isReal

/-- The components of the model. -/
def components (r : Request) : Except Fault Components := (Components.parse r.model).map (·.components)

/-- A request from its parts. -/
def assemble (s : Settings) (sample : Sample) (periods : List Double) (m : Compiled Int (List Double)) :
    Request where
  series := sample.series
  inputs := sample.inputs
  model := m.model
  horizon := m.horizon
  periods := periods
  rhos := m.rhos
  outlier := s.outlier.neg
  unitRootTest := s.unitRootTest
  stepwise := s.stepwise
  verbose := s.verbose
  concentrated := s.concentrated
  arma := s.arma
  criterion := s.criterion
  initial := m.p0
  fixed := m.p

/-- The horizon that a caller gets who asked for another one. -/
def overruled (asked got : Option Int) : Option Int :=
  match asked, got with
  | some a, some g => if g = a then none else some g
  | _, _ => none

/-- The request of a sample and settings that have been read. -/
def ofSettings [Text.Reader] (s : Settings) (y frequency : Value) : Report Request := do
  let silent := !s.verbose
  let f ← frequencyOf frequency
  let periods ← Periods.derive f (s.periods.map Grid.ofList)
  let sample ← Sample.prepare y s.inputs s.horizon silent
  match overruled s.horizon sample.horizon with
  | some h => Report.notify silent (.horizonFromInputs h)
  | none => pure ()
  let m ← Compiled.ofValue (.text s.model) periods sample.horizon s.initial s.fixed
  return assemble s sample periods.data m

/-- The names of the arguments that are given by position. -/
def positional : List String := ["y", "frequency"]

/-- The request that a series, its frequency and options amount to. -/
def setup [Text.Reader] (y frequency : Value) (options : List (String × Value)) : Report Request := do
  match (options.map Prod.fst).find? (· ∈ positional) with
  | some name => Report.ofExcept (.error (.misfit (.boundTwice "uc_setup" name)))
  | none => pure ()
  let settings ← Settings.resolve options
  ofSettings settings y frequency

end Request

end StructuralSeries
