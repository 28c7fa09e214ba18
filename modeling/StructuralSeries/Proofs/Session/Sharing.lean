import Mathlib.Data.List.Nodup
import StructuralSeries.Proofs.Store.Spots
import StructuralSeries.Session

/-!
# Sharing in sessions

A step adds one request, writes into one array, or leaves the store as it is (`Step.Does`, `Step.does_run`). From
this everything that a session keeps follows, step by step and then for all its steps:

* a request stays under its number with the fields that it has (`Store.request_after`);
* an array is shared only under one path (`Store.isShared_after`): two requests that lead to the same array lead to
  it by the same names;
* so an array stays as it is as long as nothing is written to that path (`Store.IsShared.cell_after`), and so does
  what is shown of the requests that lead to it (`Store.IsShared.entries_after`).
-/

namespace StructuralSeries

/-! ## The store along a session -/

namespace Store

variable [Text.Reader]

/-- The store after the steps of a session. -/
def after (s : Store) (steps : List Step) : Store := steps.foldl (fun s step => (step.run s).1) s

@[simp] theorem after_nil (s : Store) : s.after [] = s := rfl

@[simp] theorem after_cons (s : Store) (step : Step) (steps : List Step) :
    s.after (step :: steps) = (step.run s).1.after steps := rfl

theorem after_append (s : Store) (before later : List Step) :
    s.after (before ++ later) = (s.after before).after later := List.foldl_append

/-- A step of a session reports what it reports on the store that the steps before it leave. -/
theorem getElem?_session (s : Store) (before : List Step) (step : Step) (rest : List Step) :
    (s.session (before ++ step :: rest))[before.length]? = some (step.run (s.after before)).2 := by
  induction before generalizing s with
  | nil => rfl
  | cons first before ih => exact ih (first.run s).1

end Store

/-! ## What a step does -/

namespace Step

/-- What steps do to a store. Writing changes the array that its path leads to, also when it fails; looking at the store
leaves it as it is, and so does any other failure. -/
inductive Does [Text.Reader] (s : Store) : Step → Store → Prop
  | setup {y frequency : Value} {options : List (String × Value)} {r : Request}
      (h : (Request.setup y frequency options).result = .ok r) :
      Does s (.setup y frequency options) (s.add (r.fields s.cells.length))
  | make {given : List (String × Value)} {placed : Fields × List Content} (h : s.made given = .ok placed) :
      Does s (.make given) (s.add placed)
  | evolve {number : Nat} {changes : List (String × Value)} {old : Fields} {placed : Fields × List Content}
      (hold : s.request number = .ok old) (h : s.evolved old changes = .ok placed) :
      Does s (.evolve number changes) (s.add placed)
  | write {number i : Nat} {path : String} {index : List Int} {v : Value} {fields : Fields} {c d : Content}
      (hfields : s.request number = .ok fields)
      (hpath : Reached.follow s.cells fields (pathNames path) = .ok (.held (.cell i)))
      (hc : s.cells[i]? = some c) :
      Does s (.write number path index v) ⟨s.requests, s.cells.set i d⟩
  | stay (step : Step) : Does s step s

/-- A write that does not fail is one into a cell. -/
theorem exists_of_write {s t : Store} {h : Held} {index : List Int} {v answer : Value}
    (hw : s.write h index v = .ok (t, answer)) :
    ∃ i c d, h = .cell i ∧ s.cells[i]? = some c ∧ t = ⟨s.requests, s.cells.set i d⟩ := by
  unfold Store.write at hw
  split at hw
  · next i =>
    split at hw
    · next c hc =>
      obtain ⟨d, -, heq⟩ := map_eq_ok.1 hw
      obtain ⟨rfl, -⟩ := Prod.mk.inj heq
      exact ⟨i, c, d, rfl, hc, rfl⟩
    · cases hw
  · split at hw
    · cases hw
    · cases hw
  · cases hw

variable [Text.Reader]

/-- A step that succeeds does what its report says. -/
theorem does_of_report {s t : Store} {step : Step} {answer : Value}
    (h : (report s step).result = .ok (t, answer)) : Does s step t := by
  cases step with
  | setup y frequency options =>
    unfold report at h
    simp only [Report.result_chain, Report.result_pure] at h
    obtain ⟨r, hr, h⟩ := bind_eq_ok.1 h
    cases h
    exact .setup hr
  | make given =>
    obtain ⟨placed, hplaced, h⟩ := map_eq_ok.1 (show (s.made given).map (added s) = .ok (t, answer) from h)
    cases h
    exact .make hplaced
  | evolve number changes =>
    obtain ⟨old, hold, h⟩ := bind_eq_ok.1 h
    obtain ⟨placed, hplaced, h⟩ := bind_eq_ok.1 h
    cases h
    exact .evolve hold hplaced
  | snapshot number =>
    obtain ⟨fields, -, h⟩ := bind_eq_ok.1 h
    cases h
    exact .stay _
  | get number path =>
    obtain ⟨fields, -, h⟩ := bind_eq_ok.1 h
    obtain ⟨r, -, h⟩ := bind_eq_ok.1 h
    cases h
    exact .stay _
  | set number path v =>
    obtain ⟨e, -, h⟩ := bind_eq_ok.1 h
    cases h
  | delete number path =>
    obtain ⟨e, -, h⟩ := bind_eq_ok.1 h
    cases h
  | write number path index v =>
    obtain ⟨fields, hfields, h⟩ := bind_eq_ok.1 h
    obtain ⟨r, hpath, h⟩ := bind_eq_ok.1 h
    cases r with
    | held g =>
      obtain ⟨i, c, d, rfl, hc, rfl⟩ := exists_of_write h
      exact .write hfields hpath hc
    | request _ => cases h
    | components _ => cases h
  | same number other =>
    obtain ⟨_, -, h⟩ := bind_eq_ok.1 h
    obtain ⟨_, -, h⟩ := bind_eq_ok.1 h
    cases h
    exact .stay _

theorem report_of_run {s : Store} {step : Step} {answer : Value} (h : (step.run s).2.result = .ok answer) :
    (report s step).result = .ok ((step.run s).1, answer) := by
  unfold run at h ⊢
  cases hr : (report s step).result with
  | error e => simp [hr] at h
  | ok a =>
    simp only [hr, Except.ok.injEq] at h ⊢
    rw [← h]

/-- A step that fails does no more than write. -/
theorem does_brokenOff (s : Store) (step : Step) : Does s step (brokenOff s step) := by
  cases step with
  | write number path index v =>
    rw [brokenOff]
    split
    · next h hreached =>
      obtain ⟨fields, hfields, hpath⟩ := bind_eq_ok.1 hreached
      cases h with
      | cell i =>
        unfold Store.brokenOff
        dsimp only
        split
        · next c hc => exact .write hfields hpath hc
        · exact .stay _
      | constant _ => exact .stay _
      | record _ _ => exact .stay _
    · exact .stay _
  | _ => exact .stay _

/-- **A step does one of these things to a store.** -/
theorem does_run (s : Store) (step : Step) : Does s step (step.run s).1 := by
  cases hr : (step.run s).2.result with
  | error e =>
    rw [run_of_error hr]
    exact does_brokenOff s step
  | ok answer => exact does_of_report (report_of_run hr)

end Step

/-! ## Requests stay -/

namespace Store

/-- A step takes no request away. -/
theorem requests_prefix_of_does [Text.Reader] {s t : Store} {step : Step} (h : Step.Does s step t) :
    s.requests <+: t.requests := by
  cases h with
  | setup _ => exact List.prefix_append _ _
  | make _ => exact List.prefix_append _ _
  | evolve _ _ => exact List.prefix_append _ _
  | write _ _ _ => exact List.prefix_refl _
  | stay => exact List.prefix_refl _

theorem requests_prefix_after [Text.Reader] (s : Store) (steps : List Step) :
    s.requests <+: (s.after steps).requests := by
  induction steps generalizing s with
  | nil => exact List.prefix_refl _
  | cons step steps ih => exact (requests_prefix_of_does (Step.does_run s step)).trans (ih _)

theorem request_eq_ok_iff {s : Store} {number : Nat} {fields : Fields} :
    s.request number = .ok fields ↔ s.requests[number]? = some fields := by
  unfold request
  cases s.requests[number]? <;> simp

/-- **A request keeps its number and its fields.** -/
theorem request_after [Text.Reader] {s : Store} {number : Nat} {fields : Fields} (h : s.request number = .ok fields)
    (steps : List Step) : (s.after steps).request number = .ok fields := by
  rw [request_eq_ok_iff] at h ⊢
  obtain ⟨new, hnew⟩ := requests_prefix_after s steps
  rw [← hnew, List.getElem?_append_left (List.getElem?_eq_some_iff.1 h).1, h]

end Store

/-! ## Arrays are shared under one path -/

namespace Store

/-- The arrays that the requests lead to. -/
def spots (s : Store) : List Spot := s.requests.flatMap Held.spotsAll

theorem mem_spots {s : Store} {a : Spot} : a ∈ s.spots ↔ ∃ fields ∈ s.requests, a ∈ Held.spotsAll fields :=
  List.mem_flatMap

theorem mem_spots_of_request {s : Store} {number : Nat} {fields : Fields} (h : s.request number = .ok fields)
    {a : Spot} (ha : a ∈ Held.spotsAll fields) : a ∈ s.spots :=
  mem_spots.2 ⟨fields, List.mem_of_getElem? (request_eq_ok_iff.1 h), ha⟩

/-- Requests lead to arrays that are there, and to the same array only by the same names. -/
structure IsShared (s : Store) : Prop where
  number_lt : ∀ a ∈ s.spots, a.number < s.cells.length
  eq_of_number : ∀ a ∈ s.spots, ∀ b ∈ s.spots, a.number = b.number → a = b

theorem isShared_empty : empty.IsShared := ⟨by simp [spots, empty], by simp [spots, empty]⟩

/-- A new request may lead to the arrays that are there by the names that they have, and to new ones. -/
theorem IsShared.add {s : Store} (h : s.IsShared) {placed : Fields × List Content} {fresh : List Spot}
    (hfresh : fresh.map Spot.number = List.range' s.cells.length placed.2.length)
    (hplaced : ∀ a ∈ Held.spotsAll placed.1, a ∈ s.spots ∨ a ∈ fresh) : (s.add placed).IsShared := by
  have hmem : ∀ a ∈ (s.add placed).spots, a ∈ s.spots ∨ a ∈ fresh := by
    intro a ha
    have ha : a ∈ (s.requests ++ [placed.1]).flatMap Held.spotsAll := ha
    rw [List.flatMap_append, List.mem_append] at ha
    rcases ha with ha | ha
    · exact Or.inl ha
    · exact hplaced a (by simpa using ha)
  have hnew : ∀ a ∈ fresh, s.cells.length ≤ a.number ∧ a.number < s.cells.length + placed.2.length := by
    intro a ha
    have hn : a.number ∈ fresh.map Spot.number := List.mem_map_of_mem ha
    rw [hfresh, List.mem_range'_1] at hn
    exact hn
  have hnodup : (fresh.map Spot.number).Nodup := by
    rw [hfresh]
    exact List.nodup_range'
  constructor
  · intro a ha
    show a.number < (s.cells ++ placed.2).length
    rw [List.length_append]
    rcases hmem a ha with ha | ha
    · have := h.number_lt a ha
      omega
    · exact (hnew a ha).2
  · intro a ha b hb hab
    rcases hmem a ha with ha | ha <;> rcases hmem b hb with hb | hb
    · exact h.eq_of_number a ha b hb hab
    -- an array that is there has a smaller number than a new one
    · have := h.number_lt a ha
      have := (hnew b hb).1
      omega
    · have := h.number_lt b hb
      have := (hnew a ha).1
      omega
    · exact List.inj_on_of_nodup_map hnodup ha hb hab

/-- The new arrays of a request that is set up are those of its records. -/
theorem spots_fields (r : Request) (next : Nat) :
    Held.spotsAll (r.fields next).1 =
      Held.spotsAll (Held.placedAll next (Form.recordFields.map fun e => (e.1, e.2.complete []))).1 := by
  unfold Request.fields
  dsimp only
  rw [Held.spotsAll_append, Held.spotsAll_constant, List.nil_append]

theorem evolved_eq_ok_iff {s : Store} {old : Fields} {changes : List (String × Value)}
    {placed : Fields × List Content} :
    s.evolved old changes = .ok placed ↔
      changeFault? old changes = none ∧
        (old.override (changedAll s.cells.length old changes).1, (changedAll s.cells.length old changes).2) = placed := by
  unfold evolved
  cases changeFault? old changes <;> simp

/-- A step keeps it. -/
theorem IsShared.of_does [Text.Reader] {s t : Store} (h : s.IsShared) {step : Step} (hdoes : Step.Does s step t) :
    t.IsShared := by
  cases hdoes with
  | @setup y frequency options r _ =>
    refine h.add (Held.numbers_placedAll s.cells.length _) ?_
    intro a ha
    rw [spots_fields] at ha
    exact Or.inr ha
  | @make given placed hmade =>
    obtain ⟨entries, -, rfl⟩ := map_eq_ok.1 hmade
    exact h.add (Held.numbers_placedAll _ entries) fun a ha => Or.inr ha
  | @evolve number changes old placed hold hevolved =>
    obtain ⟨-, rfl⟩ := evolved_eq_ok_iff.1 hevolved
    obtain ⟨fresh, hfresh, hs⟩ := exists_fresh_changedAll s.cells.length old changes
    refine h.add hfresh ?_
    intro a ha
    rcases Fields.spots_override_subset ha with ha | ha
    · exact Or.inl (mem_spots_of_request hold ha)
    · exact (hs a ha).imp_left (mem_spots_of_request hold)
  | write _ _ _ =>
    refine ⟨fun a ha => ?_, h.eq_of_number⟩
    rw [List.length_set]
    exact h.number_lt a ha
  | stay => exact h

theorem IsShared.after [Text.Reader] {s : Store} (h : s.IsShared) (steps : List Step) : (s.after steps).IsShared := by
  induction steps generalizing s with
  | nil => exact h
  | cons step steps ih => exact ih (h.of_does (Step.does_run s step))

/-- **Two requests of a session that lead to the same array lead to it by the same names.** -/
theorem isShared_after [Text.Reader] (steps : List Step) : (empty.after steps).IsShared := isShared_empty.after steps

end Store

/-! ## Arrays stay -/

namespace Reached

/-- The arrays that what was reached leads to. -/
def spots : Reached → List Spot
  | request fields => Held.spotsAll fields
  | held h => h.spots
  | components _ => []

theorem behind_mem_spots_of_field {fields : Fields} {name : String} {r : Reached} (h : field fields name = .ok r)
    {a : Spot} (ha : a ∈ r.spots) : a.behind name ∈ Held.spotsAll fields := by
  unfold field at h
  split at h
  · next g hl =>
    cases h
    exact Fields.behind_mem_spots hl ha
  · cases h

/-- What a request computes leads to no array. -/
theorem spots_of_property {cells : List Content} {fields : Fields} {name : String} {x : Except Fault Reached}
    (hx : property? cells fields name = some x) {r : Reached} (h : x = .ok r) : r.spots = [] := by
  unfold property? at hx
  split at hx <;> cases hx
  all_goals
    obtain ⟨a, -, rfl⟩ := map_eq_ok.1 h
    rfl

/-- One step along a path leads to arrays that were led to before. -/
theorem behind_mem_spots_of_step {cells : List Content} {r r' : Reached} {name : String}
    (h : step cells r name = .ok r') {a : Spot} (ha : a ∈ r'.spots) : a.behind name ∈ r.spots := by
  unfold step at h
  split at h
  · next fields =>
    cases hp : property? cells fields name with
    | none =>
      rw [hp] at h
      exact behind_mem_spots_of_field h ha
    | some x =>
      rw [hp] at h
      rw [spots_of_property hp h] at ha
      cases ha
  · exact behind_mem_spots_of_field h ha
  · cases h
  · split at h
    · cases h
      cases ha
    · split at h
      · cases h
        cases ha
      · cases h

/-- The names along a path are those of the array that it leads to. -/
theorem mem_spots_of_foldlM {cells : List Content} {names : List String} {r : Reached} {i : Nat}
    (h : names.foldlM (step cells) r = .ok (.held (.cell i))) : ⟨names, i⟩ ∈ r.spots := by
  induction names generalizing r with
  | nil =>
    cases h
    exact List.mem_singleton_self _
  | cons name names ih =>
    rw [List.foldlM_cons] at h
    obtain ⟨r', hr', h⟩ := bind_eq_ok.1 h
    exact behind_mem_spots_of_step hr' (ih h)

end Reached

/-- The path that a step writes to. -/
def Step.target? : Step → Option (List String)
  | write _ path _ _ => some (pathNames path)
  | _ => none

namespace Store

theorem IsShared.cell_of_does [Text.Reader] {s t : Store} (h : s.IsShared) {a : Spot} (ha : a ∈ s.spots) {step : Step}
    (hdoes : Step.Does s step t) (hstep : step.target? ≠ some a.names) : t.cells[a.number]? = s.cells[a.number]? := by
  have hlt := h.number_lt a ha
  cases hdoes with
  | setup _ => exact List.getElem?_append_left hlt
  | make _ => exact List.getElem?_append_left hlt
  | evolve _ _ => exact List.getElem?_append_left hlt
  | @write number i path index v fields c d hfields hpath _ =>
    refine List.getElem?_set_ne ?_
    -- a write into this array would have gone by its names
    rintro rfl
    have hmem := mem_spots_of_request hfields (Reached.mem_spots_of_foldlM hpath)
    have heq := h.eq_of_number _ hmem a ha rfl
    exact hstep (congrArg some (congrArg Spot.names heq))
  | stay => rfl

/-- **An array stays as it is as long as no step writes to the path that leads to it.** -/
theorem IsShared.cell_after [Text.Reader] {s : Store} (h : s.IsShared) {a : Spot} (ha : a ∈ s.spots) {steps : List Step}
    (hsteps : ∀ step ∈ steps, step.target? ≠ some a.names) :
    (s.after steps).cells[a.number]? = s.cells[a.number]? := by
  induction steps generalizing s with
  | nil => rfl
  | cons step steps ih =>
    have hstep := hsteps step List.mem_cons_self
    obtain ⟨fields, hfields, hmem⟩ := mem_spots.1 ha
    have hdoes := Step.does_run s step
    have ha' : a ∈ (step.run s).1.spots :=
      mem_spots.2 ⟨fields, (requests_prefix_of_does hdoes).subset hfields, hmem⟩
    rw [after_cons, ih (h.of_does hdoes) ha' fun x hx => hsteps x (List.mem_cons_of_mem _ hx),
      h.cell_of_does ha hdoes hstep]

/-- So a request shows the same as long as no step writes to a path that leads to one of its arrays. -/
theorem IsShared.entries_after [Text.Reader] {s : Store} (h : s.IsShared) {number : Nat} {fields : Fields}
    (hfields : s.request number = .ok fields) {steps : List Step}
    (hsteps : ∀ step ∈ steps, ∀ a ∈ Held.spotsAll fields, step.target? ≠ some a.names) :
    Held.entries (s.after steps).cells fields = Held.entries s.cells fields := by
  rw [Held.entries_eq_iff]
  intro a ha
  exact h.cell_after (mem_spots_of_request hfields ha) fun step hstep => hsteps step hstep a ha

end Store

end StructuralSeries
