import StructuralSeries.Value

/-!
# The settings of a request

A setting is an option of a request. Each has a name, a value that stands for it when it is not given, and a
contract in words. Two of them have a second name. The table of all settings is in the order in which contracts
are checked.
-/

namespace StructuralSeries

/-- The criteria by which models are compared. -/
inductive Criterion where
  | aic
  | bic
  | aicc
  deriving DecidableEq, Repr

namespace Criterion

def name : Criterion → String
  | aic => "aic"
  | bic => "bic"
  | aicc => "aicc"

def ofName? (s : String) : Option Criterion := [aic, bic, aicc].find? (·.name = s)

end Criterion

/-- The settings of a request. -/
inductive Setting where
  | inputs
  | periods
  | model
  | horizon
  /-- The critical value that detects outliers. -/
  | outlier
  /-- Whether a unit root test narrows the search. -/
  | unitRootTest
  | stepwise
  | verbose
  /-- Whether the likelihood is concentrated. -/
  | concentrated
  | arma
  /-- Initial parameters. -/
  | initial
  /-- Fixed parameters. -/
  | fixed
  | criterion
  deriving DecidableEq, Repr

namespace Setting

/-- All settings, in the order in which their contracts are checked. -/
def all : List Setting :=
  [inputs, periods, model, horizon, outlier, unitRootTest, stepwise, verbose, concentrated, arma, initial,
    fixed, criterion]

theorem mem_all (s : Setting) : s ∈ all := by cases s <;> decide

def name : Setting → String
  | inputs => "u"
  | periods => "periods"
  | model => "model"
  | horizon => "h"
  | outlier => "outlier"
  | unitRootTest => "t_test"
  | stepwise => "stepwise"
  | verbose => "verbose"
  | concentrated => "c_llik"
  | arma => "arma"
  | initial => "p0"
  | fixed => "p"
  | criterion => "criterion"

/-- The value of a setting that is not given. -/
def default : Setting → Value
  | inputs | periods | horizon | initial | fixed => .absent
  | model => .text "?/none/?/?"
  | outlier => .float .nan
  | unitRootTest | stepwise => .bool false
  | verbose | concentrated | arma => .bool true
  | criterion => .text Criterion.aic.name

/-- What a setting has to be. -/
def contract : Setting → String
  | inputs => "a numeric matrix of inputs or None"
  | periods => "a vector of unique positive periods or None"
  | model => "a model string"
  | horizon => "a non-negative forecast horizon or None"
  | outlier => "a real critical value (NaN disables)"
  | unitRootTest | stepwise | verbose | concentrated | arma => "a boolean"
  | initial | fixed => "a numeric vector or None"
  | criterion => "one of 'aic', 'bic', 'aicc'"

/-- The second names of settings, and the names that they stand for. -/
def aliases : List (String × String) := [("tTest", unitRootTest.name), ("cLlik", concentrated.name)]

/-- The name that a name stands for. -/
def canonicalName (n : String) : String := (aliases.lookup n).getD n

/-- Whether a canonical name names a setting. -/
def isName (n : String) : Bool := all.any (·.name = n)

end Setting

end StructuralSeries
