import StructuralSeries.Grid.Columns
import StructuralSeries.Value.Reading

/-!
# Writing into arrays

An array takes a value at an index. The index names a place along each of the first axes, from the end if it is
negative, and what is written there is a whole part: one cell if every axis has an index, and else the rows below
it. A value with fewer axes than that part, or with axes of length one, is repeated.

A write that fails may have come to some of the cells. They are written one after the other, and it breaks off at the
first one whose element cannot be read.

## Shape

* `locate` — where the part begins and which shape it has
* `spread?` — a value repeated to a shape
* `Content.assign` — the array after the write
* `Content.brokenOff` — the array after a write that fails
-/

namespace StructuralSeries

/-! ## Places -/

/-- A place along an axis of some length. -/
def place? (length : Nat) (i : Int) : Option Nat :=
  let j := if i < 0 then i + length else i
  if 0 ≤ j ∧ j < length then some j.toNat else none

/-- The first cell of the part that an index names, and the shape of that part. -/
def locate : List Nat → List Int → Option (Nat × List Nat)
  | shape, [] => some (0, shape)
  | [], _ :: _ => none
  | n :: shape, i :: index =>
    match place? n i, locate shape index with
    | some j, some (start, rest) => some (j * volume shape + start, rest)
    | _, _ => none

/-- Whether a value is a list or a tuple. -/
def Value.isSequence : Value → Bool
  | list _ | tuple _ => true
  | _ => false

section Spread

variable {α : Type}

/-- Cells of a shape repeated to a shape with as many axes, if each axis agrees or has length one. -/
def spread : List Nat → List Nat → List α → Option (List α)
  | [], [], data => some data
  | n :: target, m :: source, data =>
    let parts := if m = n then pieces (volume source) m data else List.replicate n data
    if m = n ∨ m = 1 then (parts.mapM (spread target source)).map List.flatten else none
  | _, _, _ => none

/-- The cells of a grid repeated to a shape. Surplus axes of length one in front do not count. -/
def Grid.spread? (g : Grid α) (shape : List Nat) : Option (List α) :=
  let surplus := g.axes - shape.length
  if g.shape.take surplus = List.replicate surplus 1 then
    StructuralSeries.spread shape
      (List.replicate (shape.length - g.axes) 1 ++ g.shape.drop surplus) g.data
  else none

/-- The grid with cells from a first one on replaced. -/
def Grid.overwrite (g : Grid α) (start : Nat) (cells : List α) : Grid α :=
  ⟨g.shape, g.data.mapIdx fun i a => if start ≤ i then (cells[i - start]?).getD a else a,
    by simp [g.data_length]⟩

/-- The cells that a value writes to a part of an array, each read by a rule. A single cell takes the value as it
is, and a list or a tuple may not have more axes than the part. -/
def cellsFor (read : Value → Except Fault α) (shape : List Nat) (v : Value) : Except Fault (List α) :=
  match shape with
  | [] => (read v).map fun a => [a]
  | shape => do
    let es ← v.elements
    let g ← es.grid.traverse read
    if v.isSequence && shape.length < g.axes then throw .unfitShape
    match g.spread? shape with
    | some cells => return cells
    | none => throw .unfitShape

/-- A grid with a value written at an index. -/
def Grid.assign (read : Value → Except Fault α) (g : Grid α) (index : List Int) (v : Value) :
    Except Fault (Grid α) := do
  match locate g.shape index with
  | none => throw .badIndex
  | some (start, rest) =>
    let cells ← cellsFor read rest v
    return g.overwrite start cells

/-- What values read as, up to the first one that cannot be read. -/
def readable (read : Value → Except Fault α) : List Value → List α
  | [] => []
  | v :: vs => match read v with
    | .ok a => a :: readable read vs
    | .error _ => []

/-- The cells of a part that are written when a write breaks off. A list or a tuple of another shape than the part is
read as a whole before any cell is written, and so is what goes into a single cell. -/
def cellsBefore (read : Value → Except Fault α) (shape : List Nat) (v : Value) : List α :=
  match shape, v.elements? with
  | [], _ | _, none => []
  | shape, some es =>
    if v.isSequence && es.grid.shape ≠ shape then []
    else readable read ((es.grid.spread? shape).getD [])

/-- The grid that a write at an index leaves when it breaks off. -/
def Grid.brokenOff (read : Value → Except Fault α) (g : Grid α) (index : List Int) (v : Value) : Grid α :=
  match locate g.shape index with
  | none => g
  | some (start, rest) => g.overwrite start (cellsBefore read rest v)

end Spread

/-! ## What cells take -/

namespace Value

/-- The number that an array of numbers without axes holds; other values are left as they are. -/
def lone (v : Value) : Value :=
  match v with
  | numbers _ ns => match ns.shape, ns.cells.data with
    | [], [x] => fixed x
    | _, _ => v
  | _ => v

/-- A value as a cell of single precision. -/
def toSingle (v : Value) : Except Fault Double := v.toDouble.map Double.toSingle

/-- Whether a whole number fits a signed word of 64 bits. -/
def fitsWord (n : Int) : Bool := -(wordBound : Int) ≤ n && n < (wordBound : Int)

/-- A whole number as a cell of 64 bits. -/
def toWord (n : Int) : Except Fault Int := if fitsWord n then .ok n else .error .tooLarge

/-- The whole part of a double, toward zero. -/
def truncated (x : Double) : Except Fault Int :=
  match x with
  | .nan => .error .unreadableText
  | .signed s m => match (Double.signed false m).floor? with
    | some n => toWord (if s then -n else n)
    | none => .error .tooLarge

/-- The whole part of a number of fixed width, toward zero. What does not fit a word is the least word. -/
def truncatedFixed (x : Double) : Int :=
  match truncated x with
  | .ok n => n
  | .error _ => -(wordBound : Int)

/-- The whole number that the text of a cell writes. -/
def wholeOfText (s : String) : Except Fault Int :=
  match Text.joinDigits (Text.trim Text.isNumberBlank (s.toList.map Text.toAsciiForm)) with
  | none => .error .unreadableText
  | some cs =>
    if Decimal.isOverlong cs then .error .unreadableText
    else match Decimal.whole? cs with
      | some n => toWord n
      | none => .error .unreadableText

/-- A value as a cell of whole numbers. -/
def toWhole : Value → Except Fault Int
  | bool b | fixed (.bool b) => .ok (if b then 1 else 0)
  | int n | fixed (.int64 n) | fixed (.int8 n) => toWord n
  | float x => truncated x
  | fixed (.float64 x) | fixed (.float32 x) => .ok (truncatedFixed x)
  | fixed (.complex128 z) => .ok (truncatedFixed z.re)
  | text s => wholeOfText s
  | list _ | tuple _ | numbers _ _ | objects _ _ _ => .error .sequenceForNumber
  | absent | complex _ | mapping _ | record _ _ => .error .notANumber

/-- A value as a cell of truth values. -/
def toTruth : Value → Except Fault Bool
  | absent => .ok false
  | bool b | fixed (.bool b) => .ok b
  | int n | fixed (.int64 n) | fixed (.int8 n) => .ok (n ≠ 0)
  | float x | fixed (.float64 x) | fixed (.float32 x) => .ok !x.same .zero
  | complex z | fixed (.complex128 z) => .ok !(z.re.same .zero && z.im.same .zero)
  | text s => .ok (s ≠ "")
  | mapping es => .ok !es.isEmpty
  | list vs | tuple vs => .ok !vs.isEmpty
  | record _ _ => .ok true
  | numbers _ _ | objects _ _ _ => .error .sequenceForNumber

/-- A value as a cell of complex numbers. -/
def toComplex : Value → Except Fault Complex
  | complex z | fixed (.complex128 z) => .ok z
  | absent => .ok ⟨.nan, .nan⟩
  | v => v.toDouble.map fun x => ⟨x, .zero⟩

end Value

/-! ## Arrays that can change -/

/-- What an array holds. -/
inductive Content where
  | numbers (cells : Numbers)
  | objects (shape : List Nat) (cells : List Value)

namespace Content

/-- The array that a value is, unless its axes are labelled. -/
def ofValue? : Value → Option Content
  | .numbers .array ns => some (.numbers ns)
  | .objects .array shape cells => some (.objects shape cells)
  | _ => none

def toValue : Content → Value
  | numbers ns => .numbers .array ns
  | objects shape cells => .objects .array shape cells

/-- The array with a value written at an index. -/
def assign (c : Content) (index : List Int) (v : Value) : Except Fault Content :=
  match c with
  | numbers (.float64 g) => (g.assign Value.toDouble index v.lone).map (numbers ∘ .float64)
  | numbers (.float32 g) => (g.assign Value.toSingle index v.lone).map (numbers ∘ .float32)
  | numbers (.int64 g) => (g.assign Value.toWhole index v.lone).map (numbers ∘ .int64)
  | numbers (.bool g) => (g.assign Value.toTruth index v.lone).map (numbers ∘ .bool)
  | numbers (.complex128 g) => (g.assign Value.toComplex index v.lone).map (numbers ∘ .complex128)
  | objects shape cells =>
    ((Value.objectGrid shape cells).assign Except.ok index v).map fun g => objects g.shape g.data

/-- The array that a write at an index leaves when it breaks off. A cell of arbitrary values takes any element, so no
write to such cells breaks off. -/
def brokenOff (c : Content) (index : List Int) (v : Value) : Content :=
  match c with
  | numbers (.float64 g) => numbers (.float64 (g.brokenOff Value.toDouble index v.lone))
  | numbers (.float32 g) => numbers (.float32 (g.brokenOff Value.toSingle index v.lone))
  | numbers (.int64 g) => numbers (.int64 (g.brokenOff Value.toWhole index v.lone))
  | numbers (.bool g) => numbers (.bool (g.brokenOff Value.toTruth index v.lone))
  | numbers (.complex128 g) => numbers (.complex128 (g.brokenOff Value.toComplex index v.lone))
  | objects shape cells => objects shape cells

end Content

end StructuralSeries
