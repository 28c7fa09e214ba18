import StructuralSeries.Double.Reader
import StructuralSeries.Text.Quoted
import StructuralSeries.Value

/-!
# Values as messages show them

A refusal shows the value that it refuses: numbers by their shortest text, text in quotes, sequences and
entries in brackets. Arrays are not written out; a value with one in it is shown as `<array>`.

A whole number with very many digits cannot be shown, and neither can a value that would show one. An array prints
only the ends of its long axes, so such a number in the middle of it does no harm. A table lists the items of the
sequences in its cells, and only so many of them; what is nested deeper is written out.

## Shape

* `Value.shown` — a value as a message shows it
* `Value.isShowable` — whether it can be shown
-/

namespace StructuralSeries

namespace Double

/-- The shortest text of a double, as messages and answers show it. -/
def shown (x : Double) : String := String.ofList (Layout.plain.text x)

end Double

namespace Complex

/-- The imaginary part with its sign. -/
def signedPart (x : Double) : List Char :=
  match Layout.bare.text x with
  | '-' :: r => '-' :: r
  | r => '+' :: r

/-- The sum of both parts in brackets; a real part of positive zero is left out. -/
def shown (z : Complex) : String :=
  if z.re = .zero then String.ofList (Layout.bare.text z.im ++ ['j'])
  else String.ofList ('(' :: Layout.bare.text z.re ++ signedPart z.im ++ ['j', ')'])

end Complex

def shownBool (b : Bool) : String := if b then "True" else "False"

namespace Fixed

/-- A number of fixed width under the name of its width. -/
def shown : Fixed → String
  | float64 x => s!"np.float64({x.shown})"
  | float32 x => s!"np.float32({String.ofList (Layout.singleText x)})"
  | int64 n => s!"np.int64({n})"
  | int8 n => s!"np.int8({n})"
  | bool b => s!"np.{shownBool b}_"
  | complex128 z => s!"np.complex128({z.shown})"

end Fixed

namespace Value

mutual

/-- Whether a value is an array or holds one in its items or entries. -/
def holdsArray : Value → Bool
  | numbers _ _ | objects _ _ _ => true
  | list items | tuple items => anyHoldsArray items
  | mapping entries => anyEntryHoldsArray entries
  | _ => false

def anyHoldsArray : List Value → Bool
  | [] => false
  | v :: vs => holdsArray v || anyHoldsArray vs

def anyEntryHoldsArray : List (String × Value) → Bool
  | [] => false
  | (_, v) :: es => holdsArray v || anyEntryHoldsArray es

end

mutual

/-- A value written out. -/
def written : Value → String
  | absent => "None"
  | bool b => shownBool b
  | int n => toString n
  | float x => x.shown
  | complex z => z.shown
  | text s => Text.quoted s
  | fixed x => x.shown
  | list items => "[" ++ ", ".intercalate (writtenAll items) ++ "]"
  | tuple items =>
    match writtenAll items with
    | [only] => "(" ++ only ++ ",)"
    | all => "(" ++ ", ".intercalate all ++ ")"
  | mapping entries => "\x7b" ++ ", ".intercalate (writtenEntries entries) ++ "\x7d"
  | numbers _ _ | objects _ _ _ => "<array>"
  | record kind entries => kind.title ++ "(" ++ ", ".intercalate (writtenFields entries) ++ ")"

def writtenAll : List Value → List String
  | [] => []
  | v :: vs => written v :: writtenAll vs

/-- Entries with their keys in quotes. -/
def writtenEntries : List (String × Value) → List String
  | [] => []
  | (k, v) :: es => (Text.quoted k ++ ": " ++ written v) :: writtenEntries es

/-- Fields with their names. -/
def writtenFields : List (String × Value) → List String
  | [] => []
  | (k, v) :: es => (k ++ "=" ++ written v) :: writtenFields es

end

/-- A value as a message shows it. -/
def shown (v : Value) : String := if v.holdsArray then "<array>" else v.written

end Value

/-! ## Values that cannot be shown -/

namespace Box

/-- For each axis the longest length that is printed in full, and how many places at either end are printed of a
longer one. The axes of an array are cut if it has very many cells, those of a table if it does not fit a terminal. -/
def ends : Box → List Nat → List (Nat × Nat)
  | array, shape => shape.map fun n => if volume shape ≤ 1000 then (n, n) else (6, 3)
  | series, _ | frame, _ => [(60, 5), (80, 40)]

/-- Whether a place, counted row by row, is at the ends of all axes. -/
def isAtEnds : List (Nat × Nat) → List Nat → Nat → Bool
  | (full, kept) :: ends, n :: shape, i =>
    let place := i / volume shape
    (n ≤ full || place < kept || n - kept ≤ place) && isAtEnds ends shape (i % volume shape)
  | _, _, _ => true

/-- Whether an array of some shape shows the cell at a place when it is printed. -/
def prints (box : Box) (shape : List Nat) (i : Nat) : Bool := i < volume shape && isAtEnds (box.ends shape) shape i

/-- How many levels of nesting in a cell are listed item by item. -/
def levels : Box → Nat
  | array => 0
  | series | frame => 3

/-- The number of items that are listed at most. -/
def mostListed : Nat := 100

/-- Whether an array is listed item by item where so many levels are. A table is printed if it is a cell itself. -/
def isListed (box : Box) (levels : Nat) (shape : List Nat) : Bool :=
  levels ≠ 0 && match box with
    | array => shape ≠ []
    | series | frame => levels < box.levels

/-- Whether the cell at a place is shown if axes are listed for so many levels and the array is printed below. -/
def lists : Nat → List Nat → Nat → Bool
  | levels + 1, n :: shape, i => i / volume shape < min n mostListed && lists levels shape (i % volume shape)
  | _, shape, i => array.prints shape i

end Box

namespace Value

/-- Whether a sequence shows the item at a place where so many levels are listed; it is written out below. -/
def lists (levels i : Nat) : Bool := levels = 0 || i < Box.mostListed

mutual

/-- Whether a value can be shown where so many levels are listed: no whole number that it shows has more digits than
are read. A table that is listed shows the names of its columns. -/
def isShowableAt (levels : Nat) : Value → Bool
  | int n => Decimal.width n.natAbs ≤ Decimal.mostWholeDigits
  | list items | tuple items => areShowableAt (levels - 1) (lists levels) items
  | mapping entries => areEntriesShowableAt (levels - 1) (lists levels) entries
  | record _ entries => areEntriesShowableAt 0 (fun _ => true) entries
  | objects box shape cells =>
    if box.isListed levels shape then
      box = .frame || areShowableAt (levels - shape.length) (Box.lists levels shape) cells
    else areShowableAt box.levels (box.prints shape) cells
  | _ => true

/-- Whether the values at the places that are shown can be shown. -/
def areShowableAt (levels : Nat) (shows : Nat → Bool) : List Value → Bool
  | [] => true
  | v :: vs => (!shows 0 || isShowableAt levels v) && areShowableAt levels (fun i => shows (i + 1)) vs

def areEntriesShowableAt (levels : Nat) (shows : Nat → Bool) : List (String × Value) → Bool
  | [] => true
  | (_, v) :: es =>
    (!shows 0 || isShowableAt levels v) && areEntriesShowableAt levels (fun i => shows (i + 1)) es

end

/-- Whether a value can be shown. -/
def isShowable (v : Value) : Bool := v.isShowableAt 0

/-- Values that can all be shown can be shown together. -/
theorem areShowableAt_of_forall {levels : Nat} {vs : List Value} (h : ∀ v ∈ vs, v.isShowableAt levels = true)
    (shows : Nat → Bool) : areShowableAt levels shows vs = true := by
  induction vs generalizing shows with
  | nil => rfl
  | cons v vs ih =>
    obtain ⟨hv, hvs⟩ := List.forall_mem_cons.1 h
    rw [areShowableAt, hv, ih hvs, Bool.or_true]
    rfl

end Value

end StructuralSeries
