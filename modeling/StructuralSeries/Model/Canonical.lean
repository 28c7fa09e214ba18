import StructuralSeries.Double.Layout
import StructuralSeries.Model.Components
import StructuralSeries.Periods
import StructuralSeries.Text.Lower

/-!
# Canonical models

A model string is compiled into the form that estimation reads: lower case, all four components, the order of an
ARMA component written out, and the search for a cycle made explicit. With annual data, whose first period is
one, there is no seasonal component. A model in which everything is switched off is refused.

A model that leaves a component open has no fixed parameters: they belong to a structure that is not known yet.

## Shape

* `Components.isEmpty` — whether nothing is left to estimate or to identify
* `Token.withOrder` — an ARMA component with its order
* `Token.explicitCycle` — the cycles with their signs, and the hint where the search starts
* `compile` — all of it, in order
-/

namespace StructuralSeries

/-! ## Empty models -/

/-- Whether data of this first period are annual. -/
def isAnnual (first : Double) : Bool := first.same .one

namespace Components

/-- Whether a model has nothing to estimate or to identify. The first period is asked for only if the seasonal
component is not switched off by name. -/
def isEmpty (c : Components) (periods : Grid Double) : Except Fault Bool := do
  if c.isOpen then return false
  let seasonalOff ← if c.seasonal = Token.off then Except.ok true else (Periods.first periods).map isAnnual
  return c.trend = Token.off && c.cycle = Token.off && c.irregular = Token.off && seasonalOff

end Components

/-! ## Tokens made explicit -/

namespace Token

/-- Whether a word occurs in the characters. -/
def mentions (word : List Char) : List Char → Bool
  | [] => word.isEmpty
  | c :: cs => word.isPrefixOf (c :: cs) || mentions word cs

/-- The name of the ARMA component. -/
def arma : List Char := ['a', 'r', 'm', 'a']

/-- The order of an ARMA component that gives none. -/
def defaultOrder : List Char := ['(', '0', ',', '0', ')']

/-- An irregular component with the order of its ARMA part; an order that is not closed is closed. -/
def withOrder (irregular : Token) : Token :=
  if !mentions arma irregular then irregular
  else if !irregular.contains '(' then irregular ++ defaultOrder
  else if irregular.getLast? ≠ some ')' then irregular ++ [')']
  else irregular

/-- Where the search for a cycle starts: minus four times the first period, which asks for an estimate from
four times the period on. -/
def searchHint (first : Double) : List Char := Layout.positional.text ((Double.ofInt (-4)).mul first)

/-- A lone wildcard with the hint in front. The hint needs periods along one axis. -/
def hinted (periods : Grid Double) : Except Fault Token :=
  match periods.firstRow? with
  | none => .error .noFirstPeriod
  | some row => match row.shape, row.data with
    | [], [first] => .ok (searchHint first ++ [wildcard])
    | _, _ => .error .notANumber

/-- The cycles with their signs: a lone wildcard becomes the hint and a wildcard, and a period without a sign is
fixed. -/
def explicitCycle (cycle : Token) (periods : Grid Double) : Except Fault Token :=
  if cycle = [wildcard] then hinted periods
  else if cycle = off then .ok cycle
  else match cycle with
    | [] => .error .emptyCycle
    | c :: _ => .ok (if c = '+' ∨ c = '-' then cycle else '+' :: cycle)

end Token

/-! ## Compiling -/

/-- The horizon of a model that is given none. -/
def defaultHorizon : Int := 18

/-- A compiled model. Its horizon and its parameters are kept in the form in which they are given. -/
structure Compiled (η π : Type) where
  components : Components
  horizon : η
  /-- Initial parameters. -/
  p0 : Option π
  /-- Fixed parameters. -/
  p : Option π
  /-- One coefficient for each period. -/
  rhos : List Double

namespace Components

/-- The tokens before they are made explicit: lower case, and without a seasonal component in annual data. -/
def plain (c : Components) (first : Double) : Components :=
  (if isAnnual first then { c with seasonal := Token.off } else c).map Text.lower

end Components

namespace Compiled

variable {η π : Type}

/-- The model string. -/
def model (m : Compiled η π) : String := m.components.text

/-- The compiled form of components that have been read. -/
def ofComponents [IntCast η] (c : Components) (periods : Grid Double) (horizon : Option η)
    (p0 p : Option π) : Except Fault (Compiled η π) := do
  let first ← Periods.first periods
  let c := c.plain first
  if ← c.isEmpty periods then throw (.refused .emptyModel)
  let cycle ← c.cycle.explicitCycle periods
  return {
    components := { c with cycle := cycle, irregular := c.irregular.withOrder }
    horizon := horizon.getD (IntCast.intCast defaultHorizon)
    p0 := if c.isOpen then none else p0
    p := if c.isOpen then none else p
    rhos := List.replicate (periods.shape.headD 0) .one }

/-- The compiled form of the model that a value names. -/
def ofValue [IntCast η] (model : Value) (periods : Grid Double) (horizon : Option η)
    (p0 p : Option π) : Except Fault (Compiled η π) := do
  let parsed ← Components.ofValue model
  ofComponents parsed.components periods horizon p0 p

end Compiled

end StructuralSeries
