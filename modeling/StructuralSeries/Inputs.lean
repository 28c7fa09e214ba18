import StructuralSeries.Double
import StructuralSeries.Fault
import StructuralSeries.Grid
import StructuralSeries.Grid.Columns

/-!
# Inputs

The inputs of a model are a matrix of doubles. Time runs along its columns, so the matrix is kept as its list of
columns: cutting a stretch of time out of it is taking a part of that list.

A matrix of at most two columns is too short to hold regressors and stands for a model without inputs. The one
that is used where none were given is a row of two zeros.

## Shape

* `Inputs.ofGrid?` — the inputs that a grid of at most two axes gives, whichever way it lies
* `Inputs.window` — a stretch of columns
-/

namespace StructuralSeries

/-- A matrix of inputs as its columns, one for each time. -/
structure Inputs where
  height : Nat
  columns : List (List Double)
  length_eq : ∀ c ∈ columns, c.length = height

namespace Inputs

@[ext] theorem ext {u v : Inputs} (hh : u.height = v.height) (hc : u.columns = v.columns) : u = v := by
  cases u; cases v; cases hh; cases hc; rfl

def width (u : Inputs) : Nat := u.columns.length

/-- The most columns that are too few to be inputs. -/
def idleWidth : Nat := 2

/-- Whether there are real inputs. -/
def isReal (u : Inputs) : Bool := idleWidth < u.width

/-- The row of two zeros that stands for no inputs. -/
def idle : Inputs := ⟨1, [[.zero], [.zero]], by simp⟩

/-- The matrix whose rows are given. -/
def ofRows (width : Nat) (rows : List (List Double)) : Inputs :=
  ⟨rows.length, transpose width rows, fun _ hc => length_of_mem_transpose hc⟩

theorem width_ofRows {width : Nat} {rows : List (List Double)} (h : ∀ r ∈ rows, r.length = width) :
    (ofRows width rows).width = width := length_transpose h

/-- The rows, top to bottom. -/
def rows (u : Inputs) : List (List Double) := transpose u.height u.columns

/-- The inputs in the table of `tall` rows and `wide` columns that is written in row-major order. Time runs along
the longer side, and along the rows of a square. -/
def oriented (tall wide : Nat) (data : List Double) (h : data.length = tall * wide) : Inputs :=
  if wide < tall then ⟨wide, pieces wide tall data, fun _ hp => length_of_mem_pieces h hp⟩
  else ofRows wide (pieces wide tall data)

/-- The inputs that a grid gives. A line is a single row, and an empty grid gives none. -/
def ofGrid? (g : Grid Double) : Except Fault Inputs :=
  if g.size = 0 then .ok idle
  else match g with
    | ⟨[], data, h⟩ => .ok (oriented 1 1 data (by simpa using h))
    | ⟨[n], data, h⟩ => .ok (oriented 1 n data (by simpa using h))
    | ⟨[k, n], data, h⟩ => .ok (oriented k n data (by simpa using h))
    | _ => .error .tooManyAxes

/-- The inputs that an option gives. -/
def ofOption? : Option (Grid Double) → Except Fault Inputs
  | none => .ok idle
  | some g => ofGrid? g

/-- So many columns from a first one on. -/
def window (u : Inputs) (first count : Nat) : Inputs :=
  ⟨u.height, (u.columns.drop first).take count, fun _ hc =>
    u.length_eq _ (List.mem_of_mem_drop (List.mem_of_mem_take hc))⟩

theorem sum_length_rows (u : Inputs) : u.rows.flatten.length = u.height * u.width := by
  have h : ∀ r ∈ u.rows, r.length = u.width := fun r hr => length_of_mem_transpose hr
  have hn : u.rows.length = u.height := length_transpose u.length_eq
  rw [← hn]
  generalize u.rows = rs at h
  induction rs with
  | nil => simp
  | cons r rs ih =>
    have hr := h r List.mem_cons_self
    have ih := ih fun x hx => h x (List.mem_cons_of_mem _ hx)
    simp only [List.flatten_cons, List.length_append, List.length_cons, ih, hr]
    rw [Nat.add_mul, Nat.one_mul, Nat.add_comm]

/-- The inputs as a grid of two axes. -/
def toGrid (u : Inputs) : Grid Double :=
  ⟨[u.height, u.width], u.rows.flatten, by simpa using u.sum_length_rows⟩

end Inputs

end StructuralSeries
