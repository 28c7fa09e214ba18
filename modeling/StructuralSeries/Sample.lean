import StructuralSeries.Inputs
import StructuralSeries.Report
import StructuralSeries.Series

/-!
# Samples

A sample is what a model is fitted to: the series between its first and last observation, the inputs that belong
to it, and the horizon.

Real inputs run on past the series. The columns beyond it are the future values of the inputs, so their number is
the horizon, whatever the caller asked for. When values are cut off the ends of the series, real inputs keep only
the columns of the values that are left.
-/

namespace StructuralSeries

/-- A series with its inputs and the horizon, if there is one. -/
structure Sample where
  series : Series
  inputs : Inputs
  horizon : Option Int

namespace Sample

/-- The horizon that inputs leave for a series of some length. -/
def horizonFor (inputs : Inputs) (length : Nat) (asked : Option Int) : Except Fault (Option Int) :=
  if !inputs.isReal then .ok asked
  else if inputs.width < length then .error (.refused .inputsTooShort)
  else .ok (some (inputs.width - length : Nat))

/-- The inputs that belong to a span of the series. Inputs that are not real belong to any. -/
def cut (inputs : Inputs) (span : Series.Span) : Inputs :=
  if inputs.isReal then inputs.window span.leading span.series.length else inputs

/-- The sample of a series and its inputs, the missing ends of the series cut off. Nothing is touched if none is
missing there. -/
def ofSeries (y : Series) (inputs : Inputs) (horizon : Option Int) (silent : Bool) : Report Sample :=
  match y.trim? with
  | none => .ofExcept (.error (.refused .seriesAllMissing))
  | some span =>
    if span.leading = 0 ∧ span.trailing = 0 then .ok ⟨y, inputs, horizon⟩
    else do
      Report.notify silent (.trimmed span.leading span.trailing)
      return ⟨span.series, cut inputs span, horizon⟩

/-- The sample of what a caller hands in: a series, inputs if there are any, and the horizon asked for. -/
def prepare [Text.Reader] (y : Value) (u : Option (Grid Double)) (asked : Option Int) (silent : Bool) :
    Report Sample := do
  let y ← Series.ofValue y
  let inputs ← Inputs.ofOption? u
  let horizon ← horizonFor inputs y.length asked
  ofSeries y inputs horizon silent

end Sample

end StructuralSeries
