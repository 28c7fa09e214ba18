import StructuralSeries.Store

/-!
# Sessions

A session is a sequence of steps on a store: requests are set up, made, evolved, looked at and written into. The
session goes on after a step that fails, on the store that this step leaves.

## Shape

* `Reached` — what a dotted path leads to
* `Step` — the steps, and `Step.run`, which gives the store after a step and what the step reports
* `Step.brokenOff` — the store that a step leaves when it fails
-/

namespace StructuralSeries

/-! ## Measures of values -/

namespace Value

/-- The length of the first axis. -/
def firstAxis : List Nat → Except Fault Nat
  | n :: _ => .ok n
  | [] => .error .noLength

/-- The length of a value. -/
def length : Value → Except Fault Nat
  | text s => .ok s.length
  | list vs | tuple vs => .ok vs.length
  | mapping es => .ok es.length
  | numbers _ ns => firstAxis ns.shape
  | objects _ shape _ => firstAxis shape
  | _ => .error .noLength

/-- The lengths of the axes of a value that has axes. A number of fixed width has none of them. -/
def shape? : Value → Option (List Nat)
  | numbers _ ns => some ns.shape
  | objects _ shape _ => some shape
  | fixed _ => some []
  | _ => none

/-- Whether a value is a matrix of real inputs. -/
def hasInputs (u : Value) : Except Fault Bool :=
  match u.shape? with
  | none => .error (.noSuchField "shape")
  | some (_ :: width :: _) => .ok (Inputs.idleWidth < width)
  | some _ => .error .flatInputs

end Value

/-! ## Looking at requests -/

/-- What a path leads to. -/
inductive Reached where
  | request (fields : Fields)
  | held (h : Held)
  | components (c : Components)

namespace Reached

/-- The text of a token as a value. -/
def tokenValue (t : Token) : Value := .text (String.ofList t)

/-- Components by name. -/
def componentEntries (c : Components) : List (String × Value) :=
  [("trend", tokenValue c.trend), ("cycle", tokenValue c.cycle), ("seasonal", tokenValue c.seasonal),
    ("irregular", tokenValue c.irregular)]

/-- The fields of a request that an answer about it shows: all but its records. -/
def shownEntries (cells : List Content) (fields : Fields) : List (String × Value) :=
  (Held.entries cells fields).filter fun e => !Store.mergeable e.1

/-- What was reached, as a value. -/
def value (cells : List Content) : Reached → Value
  | request fields => .mapping (shownEntries cells fields)
  | held h => h.value cells
  | components c => .mapping (componentEntries c)

/-- What a request computes from its fields under a name. -/
def property? (cells : List Content) (fields : Fields) (name : String) : Option (Except Fault Reached) :=
  let of (field : String) : Value := ((fields.lookup field).map (Held.value cells)).getD .absent
  match name with
  | "n" => some ((of "y").length.map fun n => held (.constant (.int n)))
  | "has_inputs" => some ((of "u").hasInputs.map fun b => held (.constant (.bool b)))
  | "components" => some ((Components.ofValue (of "model")).map fun p => components p.components)
  | _ => none

/-- The field of some name. -/
def field (fields : Fields) (name : String) : Except Fault Reached :=
  match fields.lookup name with
  | some h => .ok (held h)
  | none => .error (.noSuchField name)

/-- One step along a path. -/
def step (cells : List Content) (r : Reached) (name : String) : Except Fault Reached :=
  match r with
  | request fields => (property? cells fields name).getD (field fields name)
  | held (.record _ fields) => field fields name
  | held _ => .error (.noSuchField name)
  | components c =>
    if name = "has_wildcard" then .ok (held (.constant (.bool c.isOpen)))
    else match (componentEntries c).lookup name with
      | some v => .ok (held (.constant v))
      | none => .error (.noSuchField name)

/-- What a path leads to from a request. -/
def follow (cells : List Content) (fields : Fields) (path : List String) : Except Fault Reached :=
  path.foldlM (step cells) (request fields)

end Reached

/-- The names along a dotted path. -/
def pathNames (path : String) : List String := (path.toList.splitOn '.').map String.ofList

/-! ## Steps -/

/-- A step of a session. Requests are given by their numbers and fields by dotted paths. -/
inductive Step where
  | setup (y frequency : Value) (options : List (String × Value))
  /-- A request with the fields as they are given. -/
  | make (given : List (String × Value))
  | evolve (number : Nat) (changes : List (String × Value))
  /-- All fields of a request, records included. -/
  | snapshot (number : Nat)
  | get (number : Nat) (path : String)
  | set (number : Nat) (path : String) (v : Value)
  | delete (number : Nat) (path : String)
  | write (number : Nat) (path : String) (index : List Int) (v : Value)
  /-- Whether two requests are one and the same. -/
  | same (number other : Nat)

namespace Step

/-- The store with a new request, and the request as an answer shows it. -/
def added (s : Store) (placed : Fields × List Content) : Store × Value :=
  let t := s.add placed
  (t, Reached.value t.cells (.request placed.1))

/-- Why a field cannot be set or deleted: records are frozen, and nothing else has fields. -/
def refusal (s : Store) (number : Nat) (path : String) (deleting : Bool) : Except Fault Fault := do
  let fields ← s.request number
  let names := pathNames path
  let name := names.getLastD ""
  match ← Reached.follow s.cells fields names.dropLast with
  | .request _ | .held (.record _ _) => return .frozen deleting name
  | .held _ | .components _ => return .noSuchField name

/-- What a step reports: the store after it and its answer. -/
def report [Text.Reader] (s : Store) : Step → Report (Store × Value)
  | setup y frequency options => do
    let r ← Request.setup y frequency options
    return added s (r.fields s.cells.length)
  | make given => .ofExcept ((s.made given).map (added s))
  | evolve number changes => .ofExcept do
    let old ← s.request number
    return added s (← s.evolved old changes)
  | snapshot number => .ofExcept do
    return (s, .mapping (Held.entries s.cells (← s.request number)))
  | get number path => .ofExcept do
    let r ← Reached.follow s.cells (← s.request number) (pathNames path)
    return (s, r.value s.cells)
  | set number path _ => .ofExcept do throw (← refusal s number path false)
  | delete number path => .ofExcept do throw (← refusal s number path true)
  | write number path index v => .ofExcept do
    match ← Reached.follow s.cells (← s.request number) (pathNames path) with
    | .held h => s.write h index v
    | _ => throw .notAnArray
  | same number other => .ofExcept do
    let _ ← s.request number
    let _ ← s.request other
    return (s, .bool (number = other))

/-- The store that a step leaves when it fails. Writing goes cell by cell and may have come to some of them; all other
steps fail before they change anything. -/
def brokenOff (s : Store) : Step → Store
  | write number path index v =>
    match s.request number >>= fun fields => Reached.follow s.cells fields (pathNames path) with
    | .ok (.held h) => s.brokenOff h index v
    | _ => s
  | _ => s

/-- The store after a step and its report. -/
def run [Text.Reader] (s : Store) (step : Step) : Store × Report Value :=
  let r := report s step
  match r.result with
  | .ok (t, v) => (t, ⟨.ok v, r.notices, r.warnings⟩)
  | .error e => (brokenOff s step, ⟨.error e, r.notices, r.warnings⟩)

theorem run_of_error [Text.Reader] {s : Store} {step : Step} {e : Fault} (h : (step.run s).2.result = .error e) :
    (step.run s).1 = brokenOff s step := by
  unfold run at h ⊢
  cases hr : (report s step).result with
  | error _ => simp [hr]
  | ok a => simp [hr] at h

end Step

/-- The reports of the steps of a session, one after the other. -/
def Store.session [Text.Reader] (s : Store) : List Step → List (Report Value)
  | [] => []
  | step :: rest => (step.run s).2 :: (step.run s).1.session rest

end StructuralSeries
