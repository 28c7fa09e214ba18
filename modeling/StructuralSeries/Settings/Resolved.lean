import StructuralSeries.Report
import StructuralSeries.Settings.Contract
import StructuralSeries.Value.Shown

/-!
# Resolved settings

The options of a call become settings in three steps, and the first one that fails decides:

* no setting may be given twice, which a second name allows;
* every option has to be a setting;
* every setting, in the order of the table, has to keep its contract, a default standing for one that is not given.

Only then is a horizon with a fraction cut down to a whole one, with a warning.
-/

namespace StructuralSeries

/-- What the options of a call mean once every contract is kept. The horizon and the critical value are still as
the caller wrote them. -/
structure Draft where
  inputs : Option (Grid Double)
  periods : Option (List Double)
  model : String
  horizon : Option Value.Real
  outlier : Value.Real
  unitRootTest : Bool
  stepwise : Bool
  verbose : Bool
  concentrated : Bool
  arma : Bool
  initial : Option (List Double)
  fixed : Option (List Double)
  criterion : Criterion

/-- The settings of a request, each by its meaning. -/
structure Settings where
  inputs : Option (Grid Double)
  periods : Option (List Double)
  model : String
  horizon : Option Int
  outlier : Double
  unitRootTest : Bool
  stepwise : Bool
  verbose : Bool
  concentrated : Bool
  arma : Bool
  initial : Option (List Double)
  fixed : Option (List Double)
  criterion : Criterion

/-! ## Options by canonical name -/

/-- Options under their canonical names, in the order of the call. -/
abbrev Supplied := List (String × Value)

namespace Supplied

/-- The first name that was there before. -/
def firstRepeated? (seen : List String) : List String → Option String
  | [] => none
  | n :: ns => if n ∈ seen then some n else firstRepeated? (n :: seen) ns

/-- The options of a call under canonical names: none given twice, and all of them settings. -/
def ofOptions (options : List (String × Value)) : Except Fault Supplied :=
  let supplied := options.map fun o => (Setting.canonicalName o.1, o.2)
  let names := supplied.map Prod.fst
  match firstRepeated? [] names with
  | some n => .error (.refused (.repeatedOption n))
  | none =>
    match names.filter fun n => !Setting.isName n with
    | [] => .ok supplied
    | unknown => .error (.refused (.unknownOptions (unknown.mergeSort fun a b => !decide (b < a))))

/-- The value that is given for a setting, or its default. -/
def value (supplied : Supplied) (s : Setting) : Value := (supplied.lookup s.name).getD s.default

/-- The fault of a setting that breaks its contract. The refusal shows the value, if it can be shown. -/
def broken (supplied : Supplied) (s : Setting) : Fault :=
  let v := supplied.value s
  if v.isShowable then .refused (.brokenContract s.name s.contract v.shown) else .tooManyDigits

/-- A setting by its meaning; a broken contract is refused. -/
def require {α : Type} (supplied : Supplied) (s : Setting) (read : Value → Except Fault (Option α)) :
    Except Fault α := do
  match ← read (supplied.value s) with
  | some a => return a
  | none => throw (supplied.broken s)

/-- The draft of a request. Contracts are checked in the order of the table. -/
def draft (supplied : Supplied) : Except Fault Draft := do
  return {
    inputs := ← supplied.require .inputs Contract.inputs
    periods := ← supplied.require .periods Contract.periods
    model := ← supplied.require .model Contract.model
    horizon := ← supplied.require .horizon Contract.horizon
    outlier := ← supplied.require .outlier Contract.real
    unitRootTest := ← supplied.require .unitRootTest Contract.flag
    stepwise := ← supplied.require .stepwise Contract.flag
    verbose := ← supplied.require .verbose Contract.flag
    concentrated := ← supplied.require .concentrated Contract.flag
    arma := ← supplied.require .arma Contract.flag
    initial := ← supplied.require .initial Contract.vector
    fixed := ← supplied.require .fixed Contract.vector
    criterion := ← supplied.require .criterion Contract.criterion }

end Supplied

/-! ## Resolving -/

namespace Draft

/-- The whole part of a horizon, with a warning if that is another number. A whole number of fixed width goes
through the nearest double, which past `2 ^ 53` need not be the number itself. -/
def wholeHorizon : Option Value.Real → Report (Option Int)
  | none => .ok none
  | some (.whole n) => .ok (some n)
  | some (.word n) =>
    let x := Double.ofInt n
    ⟨.ok x.floor?, [], if x.floor? = some n then [] else [.fractionalHorizon]⟩
  | some (.double x) => ⟨.ok x.floor?, [], if x.isWhole then [] else [.fractionalHorizon]⟩

/-- The settings of a draft. -/
def settle (d : Draft) : Report Settings := do
  let horizon ← wholeHorizon d.horizon
  let outlier ← d.outlier.toDouble
  return {
    inputs := d.inputs
    periods := d.periods
    model := d.model
    horizon := horizon
    outlier := outlier
    unitRootTest := d.unitRootTest
    stepwise := d.stepwise
    verbose := d.verbose
    concentrated := d.concentrated
    arma := d.arma
    initial := d.initial
    fixed := d.fixed
    criterion := d.criterion }

end Draft

/-- The settings that the options of a call amount to. -/
def Settings.resolve (options : List (String × Value)) : Report Settings := do
  let supplied ← Supplied.ofOptions options
  let draft ← supplied.draft
  draft.settle

end StructuralSeries
