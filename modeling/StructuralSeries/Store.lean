import StructuralSeries.Record
import StructuralSeries.Request
import StructuralSeries.Store.Content

/-!
# Stores

A store keeps requests, as the stages after the set-up see them: named fields with values in them. The fields of
a request never change, but the arrays in them can, and a request that is made from another shares its arrays. So
an array that can change has a number in the store, and fields hold the number; all else they hold by value.

## Shape

* `Held` — what a field holds
* `Held.placed` — a value as a field holds it, its arrays in new cells of the store
* `Held.value` — the value back, with the arrays as they are now
* `Store.add` — a store with one more request; the cells are only ever appended to
-/

namespace StructuralSeries

/-- What a field holds. -/
inductive Held where
  /-- A value that cannot change. An array in it is read-only. -/
  | constant (v : Value)
  /-- The array with this number. -/
  | cell (number : Nat)
  | record (kind : RecordKind) (fields : List (String × Held))

/-- Named fields. -/
abbrev Fields := List (String × Held)

instance : Inhabited Held := ⟨.constant .absent⟩

namespace Held

mutual

/-- A value as a field holds it and the new cells for its arrays, which are numbered from `next` on. -/
def placed (next : Nat) : Value → Held × List Content
  | .record kind entries => (.record kind (placedAll next entries).1, (placedAll next entries).2)
  | v => match Content.ofValue? v with
    | some c => (.cell next, [c])
    | none => (.constant v, [])

/-- Entries as fields hold them, with their new cells. -/
def placedAll (next : Nat) : List (String × Value) → Fields × List Content
  | [] => ([], [])
  | (name, v) :: rest =>
    let first := placed next v
    let others := placedAll (next + first.2.length) rest
    ((name, first.1) :: others.1, first.2 ++ others.2)

end

mutual

/-- The value that a field holds. -/
def value (cells : List Content) : Held → Value
  | constant v => v
  | cell i => match cells[i]? with
    | some c => c.toValue
    | none => .absent
  | record kind fields => .record kind (entries cells fields)

/-- The values of all fields. -/
def entries (cells : List Content) : List (String × Held) → List (String × Value)
  | [] => []
  | (name, h) :: rest => (name, value cells h) :: entries cells rest

end

end Held

namespace Fields

/-- The fields with some of them replaced. -/
def override (old new : Fields) : Fields := old.map fun e => (e.1, (new.lookup e.1).getD e.2)

@[simp] theorem names_override (old new : Fields) :
    (override old new).map Prod.fst = old.map Prod.fst := by
  simp [override, Function.comp_def]

/-- A field that stays named holds the new value if there is one, and else what it held. -/
theorem lookup_override (old new : Fields) (name : String) :
    (override old new).lookup name = (old.lookup name).map fun h => (new.lookup name).getD h := by
  unfold override
  induction old with
  | nil => rfl
  | cons e rest ih =>
    obtain ⟨n, h⟩ := e
    by_cases hn : name = n
    · subst hn
      simp
    · have hb : (name == n) = false := by simpa using hn
      simp only [List.map_cons, List.lookup_cons, hb]
      exact ih

end Fields

/-! ## Requests as fields -/

namespace Request

/-- Doubles as an array along one axis. -/
def lineValue (xs : List Double) : Value := .numbers .array (.float64 (.ofList xs))

def optionalLine : Option (List Double) → Value
  | none => .absent
  | some xs => lineValue xs

/-- The fields of a validated request. Its own arrays are read-only; the records for later stages are new. -/
def fields (r : Request) (next : Nat) : Fields × List Content :=
  let own : List (String × Value) :=
    [("y", lineValue r.series.values), ("u", .numbers .array (.float64 r.inputs.toGrid)),
      ("model", .text r.model), ("h", .int r.horizon), ("periods", lineValue r.periods),
      ("rhos", lineValue r.rhos), ("outlier", .float r.outlier), ("t_test", .bool r.unitRootTest),
      ("stepwise", .bool r.stepwise), ("verbose", .bool r.verbose), ("c_llik", .bool r.concentrated),
      ("arma", .bool r.arma), ("criterion", .text r.criterion.name), ("p0", optionalLine r.initial),
      ("p", optionalLine r.fixed)]
  let records := Held.placedAll next (Form.recordFields.map fun e => (e.1, e.2.complete []))
  (own.map (fun e => (e.1, Held.constant e.2)) ++ records.1, records.2)

end Request

/-! ## The store -/

/-- Requests and the arrays that they share. -/
structure Store where
  requests : List Fields
  cells : List Content

namespace Store

def empty : Store := ⟨[], []⟩

/-- The store with one more request, whose new cells come last. -/
def add (s : Store) (placed : Fields × List Content) : Store :=
  ⟨s.requests ++ [placed.1], s.cells ++ placed.2⟩

/-- A request by its number. -/
def request (s : Store) (number : Nat) : Except Fault Fields :=
  match s.requests[number]? with
  | some fields => .ok fields
  | none => .error .badIndex

/-- A request of which some fields are given, without any check of its values. -/
def made (s : Store) (given : List (String × Value)) : Except Fault (Fields × List Content) :=
  (Form.request.fill given).map (Held.placedAll s.cells.length)

/-! ## Requests made from others -/

/-- The fields whose changes are merged into the record that is there, if they are given as entries. -/
def mergeable (name : String) : Bool := Form.recordFields.any (·.1 = name)

/-- How entries that are to be merged into a field do not fit what the field holds. -/
def mergeFault? (old : Fields) (changes : List (String × Value)) (name : String) : Option Fault :=
  match changes.lookup name with
  | some (.mapping es) =>
    match old.lookup name with
    | some (.record kind _) => (kind.form.stranger? (es.map Prod.fst)).map .misfit
    | _ => some (.misfit .notARecord)
  | _ => none

/-- What a changed field holds, with the new cells. Entries for a record are merged into it. -/
def changed (next : Nat) (old : Fields) (name : String) (v : Value) : Held × List Content :=
  match v, old.lookup name with
  | .mapping es, some (.record kind fields) =>
    if mergeable name then
      let new := Held.placedAll next es
      (.record kind (Fields.override fields new.1), new.2)
    else Held.placed next v
  | v, _ => Held.placed next v

/-- All changed fields, with the new cells. -/
def changedAll (next : Nat) (old : Fields) : List (String × Value) → Fields × List Content
  | [] => ([], [])
  | (name, v) :: rest =>
    let first := changed next old name v
    let others := changedAll (next + first.2.length) old rest
    ((name, first.1) :: others.1, first.2 ++ others.2)

/-- How changes do not fit a request. Records come first, each by its own form, and then the names. -/
def changeFault? (old : Fields) (changes : List (String × Value)) : Option Fault :=
  let names := changes.map Prod.fst
  if Form.receiver ∈ names then
    some (.misfit (.boundTwice (Form.request.title ++ ".evolve") Form.receiver))
  else
    ((Form.recordFields.findSome? fun e => mergeFault? old changes e.1).orElse fun _ =>
      (Form.request.stranger? names).map .misfit)

/-- A request made from another by changing fields; it shares the arrays of the fields that stay. -/
def evolved (s : Store) (old : Fields) (changes : List (String × Value)) :
    Except Fault (Fields × List Content) :=
  match changeFault? old changes with
  | some e => .error e
  | none =>
    let new := changedAll s.cells.length old changes
    .ok (Fields.override old new.1, new.2)

/-! ## Writing -/

/-- The store with a value written into the array that a field holds, and that array. -/
def write (s : Store) (h : Held) (index : List Int) (v : Value) : Except Fault (Store × Value) :=
  match h with
  | .cell i =>
    match s.cells[i]? with
    | some c => (c.assign index v).map fun c => (⟨s.requests, s.cells.set i c⟩, c.toValue)
    | none => .error .notAnArray
  | .constant v =>
    match Content.ofValue? v with
    | some _ => .error .readOnlyArray
    | none => .error .notAnArray
  | .record _ _ => .error .notAnArray

/-- The store that a write leaves when it fails. Only an array that can change is written to. -/
def brokenOff (s : Store) (h : Held) (index : List Int) (v : Value) : Store :=
  match h with
  | .cell i =>
    match s.cells[i]? with
    | some c => ⟨s.requests, s.cells.set i (c.brokenOff index v)⟩
    | none => s
  | .constant _ | .record _ _ => s

end Store

end StructuralSeries
