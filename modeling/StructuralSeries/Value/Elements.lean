import StructuralSeries.Value
import StructuralSeries.Fault

/-!
# The array that a value writes

Lists, tuples and arrays nest: each level is an axis, and everything else is an element. The elements of one
array share a *kind*, which is the widest kind among them.

## Shape

* `Value.elements?` — the array, nothing if the nesting is ragged or too deep
* `Value.isUnset` — whether a value marks an option that was not supplied

Both recurse over the tree; `Grid.stack` decides what is ragged.
-/

namespace StructuralSeries

/-! ## Kinds -/

/-- The kinds of elements, from the narrowest to the widest. -/
inductive Kind where
  | bool
  | int
  | float
  | complex
  | text
  | object
  deriving DecidableEq, Repr

namespace Kind

def width : Kind → Nat
  | bool => 0
  | int => 1
  | float => 2
  | complex => 3
  | text => 4
  | object => 5

/-- The wider of two kinds. -/
def join (a b : Kind) : Kind := if a.width ≤ b.width then b else a

/-- The widest of several kinds; of none it is the narrowest kind there is. -/
def joinAll (ks : List Kind) : Kind := ks.foldr join bool

end Kind

namespace Fixed

def kind : Fixed → Kind
  | float64 _ | float32 _ => .float
  | int64 _ | int8 _ => .int
  | bool _ => .bool
  | complex128 _ => .complex

end Fixed

namespace Value

/-- The first whole number that a signed word of 64 bits cannot hold. -/
def wordBound : Nat := Nat.pow 2 63

/-- The kind of an element. Whole numbers that need more than 64 bits are arbitrary objects. -/
def kind : Value → Kind
  | bool _ => .bool
  | int n => if -(wordBound : Int) ≤ n ∧ n < 2 * (wordBound : Int) then .int else .object
  | float _ => .float
  | complex _ => .complex
  | text _ => .text
  | fixed x => x.kind
  | _ => .object

end Value

/-! ## Elements -/

/-- The elements of an array and their kind. -/
structure Elements where
  kind : Kind
  grid : Grid Value

namespace Elements

/-- The most axes an array has. -/
def mostAxes : Nat := 64

/-- An element that stands alone. -/
def single (v : Value) : Elements := ⟨v.kind, .scalar v⟩

/-- The elements of an array of numbers. -/
def ofNumbers (ns : Numbers) : Elements :=
  ⟨match ns with
    | .float64 _ | .float32 _ => .float
    | .int64 _ => .int
    | .bool _ => .bool
    | .complex128 _ => .complex,
   ns.cells.map .fixed⟩

/-- Arrays of one shape along a new first axis. -/
def stack? (parts : List Elements) : Option Elements :=
  (Grid.stack (parts.map grid)).bind fun g =>
    if g.axes ≤ mostAxes then some ⟨Kind.joinAll (parts.map kind), g⟩ else none

/-- Whether the elements are numbers with a fractional part and the first of them is not a number. -/
def startsWithNaN (es : Elements) : Bool :=
  (es.kind == .float || es.kind == .complex) && es.grid.data.head?.any Value.isNaN

end Elements

namespace Value

mutual

/-- The elements of the array that a value writes. -/
def elements? : Value → Option Elements
  | list items => (elementsOfAll? items).bind Elements.stack?
  | tuple items => (elementsOfAll? items).bind Elements.stack?
  | numbers _ ns => some (.ofNumbers ns)
  | objects _ shape cells => some ⟨.object, objectGrid shape cells⟩
  | absent => some (.single absent)
  | bool b => some (.single (bool b))
  | int n => some (.single (int n))
  | float x => some (.single (float x))
  | complex z => some (.single (complex z))
  | text s => some (.single (text s))
  | fixed x => some (.single (fixed x))
  | mapping entries => some (.single (mapping entries))
  | record kind entries => some (.single (record kind entries))

/-- The elements of every item. -/
def elementsOfAll? : List Value → Option (List Elements)
  | [] => some []
  | v :: vs =>
    match elements? v, elementsOfAll? vs with
    | some es, some rest => some (es :: rest)
    | _, _ => none

end

/-- The elements of the array that a value writes; ragged nesting is a fault. -/
def elements (v : Value) : Except Fault Elements :=
  match v.elements? with
  | some es => .ok es
  | none => .error .ragged

/-- Whether a value marks an option that was not supplied: nothing, or numbers that start with one that is
not a number. -/
def isUnset (v : Value) : Except Fault Bool :=
  match v with
  | absent => .ok true
  | text _ => .ok false
  | v => v.elements.map Elements.startsWithNaN

end Value

end StructuralSeries
