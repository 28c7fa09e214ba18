import StructuralSeries.Value.Reading

/-!
# Series

The observed series is a line of doubles, at least one. An observation that is not a number is missing. Missing
values at the two ends are cut off; those between observations stay.

## Shape

* `Series.ofValue` — the series that a value writes
* `Series.trim?` — the span from the first observation to the last, with the two counts cut off
-/

namespace StructuralSeries

/-- A line of values, at least one. -/
structure Series where
  values : List Double
  nonempty : values ≠ []

namespace Series

@[ext] theorem ext {y z : Series} (h : y.values = z.values) : y = z := by
  cases y; cases z; cases h; rfl

def length (y : Series) : Nat := y.values.length

theorem length_pos (y : Series) : 0 < y.length := List.length_pos_iff.2 y.nonempty

/-! ## From a value -/

/-- The line that a grid is once its axes of length one are left out. -/
def line? {α : Type} (g : Grid α) : Option (List α) :=
  let g := if 1 < g.axes then g.squeezed else g
  if g.axes = 1 ∧ g.size ≠ 0 then some g.data else none

/-- A list of values that is not empty. -/
def ofList? (xs : List Double) : Option Series :=
  if h : xs = [] then none else some ⟨xs, h⟩

/-- The series that a value writes. -/
def ofValue [Text.Reader] (v : Value) : Except Fault Series :=
  match v with
  | .text _ => .error (.refused .seriesIsText)
  | v => do
    let es ← v.elements
    match line? es.grid with
    | none => .error (.refused .seriesNotLine)
    | some cells =>
      let xs ← Value.observations es.kind cells
      match ofList? xs with
      | some y => .ok y
      | none => .error (.refused .seriesNotLine)

/-! ## Missing ends -/

/-- Whether the first and the last value are observations. -/
def hasObservedEnds (y : Series) : Bool :=
  !((y.values.head y.nonempty).isNaN || (y.values.getLast y.nonempty).isNaN)

/-- The places of the observations among values that are counted from `first` on. -/
def placesFrom (first : Nat) : List Double → List Nat
  | [] => []
  | x :: xs => if x.isNaN then placesFrom (first + 1) xs else first :: placesFrom (first + 1) xs

/-- The places of the observations, in order. -/
def places (y : Series) : List Nat := placesFrom 0 y.values

/-- The values from one place to another, both included. -/
def slice (xs : List Double) (low high : Nat) : List Double := (xs.drop low).take (high + 1 - low)

/-- A series between its first and last observation, and how many missing values were on each side. -/
structure Span where
  leading : Nat
  series : Series
  trailing : Nat

/-- The span of the observations; nothing if all values are missing. Where both ends are observed, it is the series
itself and nothing is searched. -/
def trim? (y : Series) : Option Span :=
  if y.hasObservedEnds then some ⟨0, y, 0⟩
  else match y.places.head?, y.places.getLast? with
    | some low, some high => (ofList? (slice y.values low high)).map fun c => ⟨low, c, y.length - 1 - high⟩
    | _, _ => none

end Series

end StructuralSeries
