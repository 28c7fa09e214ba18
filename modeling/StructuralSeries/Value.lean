import StructuralSeries.Double.Layout
import StructuralSeries.Grid

/-!
# Values

What callers hand in: numbers of every width, text, sequences, entries under names, arrays and records. A
value is a tree; what it means as an array or as a number is said in the modules below this one.

## Shape

* `Fixed` — a number of fixed width, as arrays hold it
* `Numbers` — the cells of an array of such numbers, all of one width
* `Value` — the tree; an array of arbitrary cells keeps them as values
-/

namespace StructuralSeries

/-! ## Numbers of fixed width -/

/-- A complex number. -/
structure Complex where
  re : Double
  im : Double
  deriving DecidableEq

/-- A number of fixed width. -/
inductive Fixed where
  | float64 (x : Double)
  /-- A number of single precision, widened. -/
  | float32 (x : Double)
  | int64 (n : Int)
  | int8 (n : Int)
  | bool (b : Bool)
  | complex128 (z : Complex)
  deriving DecidableEq

namespace Fixed

/-- The number as a double; a complex number loses its imaginary part. -/
def toDouble : Fixed → Double
  | float64 x | float32 x => x
  | int64 n | int8 n => .ofInt n
  | bool b => if b then .one else .zero
  | complex128 z => z.re

end Fixed

/-- The cells of an array of numbers. -/
inductive Numbers where
  | float64 (cells : Grid Double)
  /-- Numbers of single precision, widened. -/
  | float32 (cells : Grid Double)
  | int64 (cells : Grid Int)
  | bool (cells : Grid Bool)
  | complex128 (cells : Grid Complex)

namespace Numbers

/-- The cells, each with its width. -/
def cells : Numbers → Grid Fixed
  | float64 g => g.map .float64
  | float32 g => g.map .float32
  | int64 g => g.map .int64
  | bool g => g.map .bool
  | complex128 g => g.map .complex128

def shape (ns : Numbers) : List Nat := ns.cells.shape

end Numbers

/-! ## The tree -/

/-- What an array comes in. -/
inductive Box where
  | array
  /-- One labelled axis. -/
  | series
  /-- Two labelled axes. -/
  | frame
  deriving DecidableEq, Repr

/-- The two sorts of records that a request carries. -/
inductive RecordKind where
  /-- What later stages estimate. -/
  | results
  /-- What later stages keep to themselves. -/
  | hidden
  deriving DecidableEq, Repr

namespace RecordKind

/-- The name of a record's type. -/
def title : RecordKind → String
  | results => "UCResults"
  | hidden => "Hidden"

end RecordKind

/-- A value as a caller writes it. -/
inductive Value where
  /-- Nothing was supplied. -/
  | absent
  | bool (b : Bool)
  | int (n : Int)
  | float (x : Double)
  | complex (z : Complex)
  | text (s : String)
  /-- A number of fixed width that stands alone. -/
  | fixed (x : Fixed)
  | list (items : List Value)
  | tuple (items : List Value)
  /-- Values under names, in order. -/
  | mapping (entries : List (String × Value))
  | numbers (box : Box) (cells : Numbers)
  /-- An array of arbitrary cells, in row-major order. -/
  | objects (box : Box) (shape : List Nat) (cells : List Value)
  | record (kind : RecordKind) (entries : List (String × Value))

namespace Value

instance : Inhabited Value := ⟨absent⟩

instance : IntCast Value := ⟨int⟩

/-- The cells of an array of arbitrary values: as many as the shape asks for, cells that were not given
being absent. -/
def objectGrid (shape : List Nat) (cells : List Value) : Grid Value := Grid.fit absent shape cells

/-! ## Real numbers -/

/-- A real number that is no truth value. -/
inductive Real where
  /-- A whole number of any size. -/
  | whole (n : Int)
  /-- A whole number of fixed width. -/
  | word (n : Int)
  | double (x : Double)
  deriving DecidableEq

/-- The real number that a value is, if it is one. -/
def real? : Value → Option Real
  | int n => some (.whole n)
  | float x => some (.double x)
  | fixed (.float64 x) | fixed (.float32 x) => some (.double x)
  | fixed (.int64 n) | fixed (.int8 n) => some (.word n)
  | _ => none

/-- The truth value that a value is, if it is one. -/
def bool? : Value → Option Bool
  | bool b | fixed (.bool b) => some b
  | _ => none

def text? : Value → Option String
  | text s => some s
  | _ => none

/-- Whether a value is a number that is not a number, in either part. -/
def isNaN : Value → Bool
  | float x | fixed (.float64 x) | fixed (.float32 x) => x.isNaN
  | complex z | fixed (.complex128 z) => z.re.isNaN || z.im.isNaN
  | _ => false

end Value

end StructuralSeries
