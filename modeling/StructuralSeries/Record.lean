import StructuralSeries.Fault
import StructuralSeries.Value

/-!
# Records

A record has named fields, and so has a request as the stages after its set-up see it. A `Form` lists the fields
of one sort of record with their defaults; a field without a default is required.

## Shape

* `RecordKind.form`, `Form.request` — the three forms
* `Form.stranger?` — the first name that a form does not take
* `Form.fill` — all fields of a record of which some are given
-/

namespace StructuralSeries

/-! ## Forms -/

/-- A field of a form. -/
structure Slot where
  name : String
  /-- What the field holds if it is not given; a required field has no such value. -/
  default : Option Value

/-- The fields of one sort of record, in order. -/
structure Form where
  title : String
  slots : List Slot

namespace Form

/-- The name of every field. -/
def names (f : Form) : List String := f.slots.map Slot.name

/-- A form all of whose fields have defaults. -/
def ofDefaults (title : String) (fields : List (String × Value)) : Form :=
  ⟨title, fields.map fun e => ⟨e.1, some e.2⟩⟩

end Form

/-- The outliers of a model in which none were found: a type and a place of minus one. -/
def noOutliers : Value :=
  .numbers .array (.float64 ⟨[1, 2], [Double.one.neg, Double.one.neg], rfl⟩)

namespace RecordKind

/-- The fields of a record and what they hold before anything is estimated. -/
def defaults : RecordKind → List (String × Value)
  | results =>
    [("p", .absent), ("v", .absent), ("y_for", .absent), ("y_for_v", .absent), ("criteria", .absent),
      ("table", .text ""), ("comp", .absent), ("comp_v", .absent), ("y_fit", .absent), ("y_fit_v", .absent),
      ("a", .absent), ("P", .absent), ("eta", .absent), ("eps", .absent)]
  | hidden =>
    [("grad", .absent), ("d_t", .absent), ("estim_ok", .text "Not estimated"), ("obj_fun_value", .float .zero),
      ("inn_variance", .float .one), ("non_stationary_terms", .absent), ("ns", .absent), ("n_par", .absent),
      ("harmonics", .absent), ("const_par", .absent), ("type_par", .absent), ("cycle_limits", .absent),
      ("type_outliers", noOutliers), ("beta", .absent), ("beta_v", .absent)]

def form (k : RecordKind) : Form := .ofDefaults k.title k.defaults

/-- A record of which some fields are given. -/
def complete (k : RecordKind) (given : List (String × Value)) : Value :=
  .record k (k.defaults.map fun e => (e.1, (given.lookup e.1).getD e.2))

end RecordKind

namespace Form

/-- The fields that hold records. -/
def recordFields : List (String × RecordKind) := [("results", .results), ("hidden", .hidden)]

/-- The form of a request. -/
def request : Form where
  title := "UComp"
  slots :=
    (["y", "u", "model", "h", "periods", "rhos"].map fun n => ⟨n, none⟩) ++
    [⟨"outlier", some (.float .nan)⟩, ⟨"t_test", some (.bool false)⟩, ⟨"stepwise", some (.bool false)⟩,
      ⟨"verbose", some (.bool true)⟩, ⟨"c_llik", some (.bool true)⟩, ⟨"arma", some (.bool true)⟩,
      ⟨"criterion", some (.text "aic")⟩, ⟨"p0", some .absent⟩, ⟨"p", some .absent⟩] ++
    recordFields.map fun e => ⟨e.1, some (e.2.complete [])⟩

/-! ## Filling a form -/

/-- The name that the record being made goes by, which no field may have. -/
def receiver : String := "self"

/-- What a failure calls the making of a record. -/
def maker (f : Form) : String := f.title ++ ".__init__"

/-- How the first name that is no field misfits. -/
def stranger? (f : Form) (names : List String) : Option Misfit :=
  (names.find? fun n => n = receiver ∨ n ∉ f.names).map fun n =>
    if n = receiver then .boundTwice f.maker n else .unexpectedName f.maker n

/-- The required fields that are not among the names. -/
def missing (f : Form) (names : List String) : List String :=
  (f.slots.filter fun s => s.default.isNone && !names.contains s.name).map Slot.name

/-- How names do not fit a form, if they do not. -/
def misfit? (f : Form) (names : List String) : Option Misfit :=
  (f.stranger? names).orElse fun _ =>
    match f.missing names with
    | [] => none
    | absent => some (.missingNames f.maker absent)

/-- All fields of a record of which some are given. -/
def fill (f : Form) (given : List (String × Value)) : Except Fault (List (String × Value)) :=
  match f.misfit? (given.map Prod.fst) with
  | some why => .error (.misfit why)
  | none => .ok (f.slots.map fun s => (s.name, (given.lookup s.name).getD (s.default.getD .absent)))

end Form

end StructuralSeries
