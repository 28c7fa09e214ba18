import StructuralSeries.Proofs.Session.Families
import StructuralSeries.Proofs.Store.Revision

/-!
# Requests that evolve

A request evolves by changes exactly if they fit it: each names one of its fields, and entries are given only where it
holds a record that has them all. Then there is one more request, which holds what is changed and shares the rest, and
everything that was there answers as before; and else nothing happens at all (`Store.evolve_exact`).

What a request holds in place of its records can be anything that was put there before. So the theorem is about every
history, and it needs one fact that all histories keep: a record that is held has all the fields of its kind
(`Store.isWhole_after`). It is kept step by step (`Store.isWhole_of_does`), as whole records are handed in.

## Shape

* `Value.IsWhole`, `Held.IsWhole`, `Fields.IsWhole` — records have all their fields
* `Fields.Becomes` — what fields become by changes that fit them
-/

namespace StructuralSeries

/-! ## Whole records -/

/-- A record has every field of its kind. -/
def Value.IsWhole : Value → Prop
  | record kind entries => entries.map Prod.fst = kind.form.names
  | _ => True

/-- A record that is held has every field of its kind. -/
def Held.IsWhole : Held → Prop
  | record kind fields => fields.map Prod.fst = kind.form.names
  | _ => True

/-- The fields are those of a request, and the records among them are whole. -/
structure Fields.IsWhole (fields : Fields) : Prop where
  names : fields.map Prod.fst = Form.request.names
  records : ∀ e ∈ fields, e.2.IsWhole

/-- The records that a step hands in are whole. -/
def Step.HandsWhole : Step → Prop
  | make given => ∀ e ∈ given, e.2.IsWhole
  | evolve _ changes => ∀ e ∈ changes, e.2.IsWhole
  | _ => True

/-- What fields become by changes: the fields that are not changed hold what they held, arrays included, a record into
which entries are merged holds them among its own, and every other change is held as it is. -/
structure Fields.Becomes (old : Fields) (changes : List (String × Value)) (cells : List Content) (new : Fields) :
    Prop where
  names : new.map Prod.fst = old.map Prod.fst
  kept : ∀ name ∉ changes.map Prod.fst, new.lookup name = old.lookup name
  replaced : ∀ name v, changes.lookup name = some v → (Store.mergeable name = true → ∀ es, v ≠ .mapping es) →
    (new.lookup name).map (Held.value cells) = some v
  merged : ∀ name es, Store.mergeable name = true → changes.lookup name = some (.mapping es) →
    ∃ kind before after, old.lookup name = some (.record kind before) ∧ new.lookup name = some (.record kind after) ∧
      after.map Prod.fst = before.map Prod.fst ∧
      (∀ key ∉ es.map Prod.fst, after.lookup key = before.lookup key) ∧
      ∀ key v, es.lookup key = some v → (after.lookup key).map (Held.value cells) = some v

theorem RecordKind.isWhole_complete (kind : RecordKind) (given : List (String × Value)) :
    (kind.complete given).IsWhole := by
  cases kind <;> rfl

namespace Held

theorem names_placedAll (next : Nat) (es : List (String × Value)) :
    (placedAll next es).1.map Prod.fst = es.map Prod.fst := by
  induction es generalizing next with
  | nil => rfl
  | cons e rest ih =>
    obtain ⟨name, v⟩ := e
    rw [placedAll, List.map_cons, ih, List.map_cons]

/-- A value is placed as whole as it is. -/
theorem isWhole_placed {v : Value} (h : v.IsWhole) (next : Nat) : (placed next v).1.IsWhole := by
  cases v with
  | record kind entries =>
    rw [placed, IsWhole, names_placedAll]
    exact h
  | numbers box ns => cases box <;> trivial
  | objects box shape cells => cases box <;> trivial
  | _ => trivial

theorem isWhole_placedAll {es : List (String × Value)} (h : ∀ e ∈ es, e.2.IsWhole) (next : Nat) :
    ∀ e ∈ (placedAll next es).1, e.2.IsWhole := by
  induction es generalizing next with
  | nil => nofun
  | cons e rest ih =>
    obtain ⟨name, v⟩ := e
    rw [List.forall_mem_cons] at h
    rw [placedAll, List.forall_mem_cons]
    exact ⟨isWhole_placed h.1 next, ih h.2 _⟩

end Held

namespace Store

/-! ## Every history keeps records whole -/

theorem isWhole_fields (r : Request) (next : Nat) : (r.fields next).1.IsWhole where
  names := by
    unfold Request.fields
    rw [List.map_append, Held.names_placedAll]
    rfl
  records := by
    unfold Request.fields
    intro e he
    rcases List.mem_append.1 he with he | he
    · obtain ⟨_, -, rfl⟩ := List.mem_map.1 he
      trivial
    · refine Held.isWhole_placedAll (fun e he => ?_) next e he
      obtain ⟨_, -, rfl⟩ := List.mem_map.1 he
      exact RecordKind.isWhole_complete _ _

/-- What a request holds where nothing is given is whole. -/
theorem isWhole_default : ∀ slot ∈ Form.request.slots, (slot.default.getD .absent).IsWhole := by
  have hrecords := And.intro (RecordKind.results.isWhole_complete []) (RecordKind.hidden.isWhole_complete [])
  simpa [Form.request, Form.recordFields, Value.IsWhole] using hrecords

theorem isWhole_made {s : Store} {given : List (String × Value)} {placed : Fields × List Content}
    (h : s.made given = .ok placed) (hgiven : ∀ e ∈ given, e.2.IsWhole) : placed.1.IsWhole := by
  obtain ⟨entries, hfill, rfl⟩ := map_eq_ok.1 h
  unfold Form.fill at hfill
  split at hfill
  · cases hfill
  · cases hfill
    constructor
    · rw [Held.names_placedAll, List.map_map]
      rfl
    · refine Held.isWhole_placedAll (fun e he => ?_) _
      obtain ⟨slot, hslot, rfl⟩ := List.mem_map.1 he
      dsimp only
      cases hl : given.lookup slot.name with
      | none => exact isWhole_default slot hslot
      | some v => exact hgiven _ (mem_of_lookup hl)

theorem isWhole_changed {next : Nat} {old : Fields} (hold : old.IsWhole) {name : String} {v : Value} (hv : v.IsWhole) :
    (changed next old name v).1.IsWhole := by
  rcases changed_cases next old name v with h | ⟨es, kind, fields, rfl, hrecord, h⟩
  · rw [h]
    exact Held.isWhole_placed hv next
  · have hfields : (Held.record kind fields).IsWhole := hold.records _ (mem_of_lookup hrecord)
    rw [h, Held.IsWhole, Fields.names_override]
    exact hfields

theorem isWhole_evolved {s : Store} {old : Fields} (hold : old.IsWhole) {changes : List (String × Value)}
    (hchanges : ∀ e ∈ changes, e.2.IsWhole) {placed : Fields × List Content} (h : s.evolved old changes = .ok placed) :
    placed.1.IsWhole := by
  obtain ⟨-, rfl⟩ := evolved_eq_ok_iff.1 h
  refine ⟨(Fields.names_override _ _).trans hold.names, fun e he => ?_⟩
  obtain ⟨e, hmem, rfl⟩ := List.mem_map.1 he
  dsimp only
  cases hl : (changedAll s.cells.length old changes).1.lookup e.1 with
  | none => exact hold.records e hmem
  | some held =>
    obtain ⟨start, v, hmem, rfl⟩ := Fields.lookup_changedAll hl
    exact isWhole_changed hold (hchanges _ hmem)

theorem isWhole_of_does [Text.Reader] {s t : Store} (h : ∀ fields ∈ s.requests, fields.IsWhole) {step : Step}
    (hstep : step.HandsWhole) (hdoes : Step.Does s step t) : ∀ fields ∈ t.requests, fields.IsWhole := by
  have hadd : ∀ {placed : Fields × List Content}, placed.1.IsWhole →
      ∀ fields ∈ (s.add placed).requests, fields.IsWhole := by
    intro placed hplaced fields hmem
    rcases List.mem_append.1 hmem with hmem | hmem
    · exact h fields hmem
    · rw [List.mem_singleton.1 hmem]
      exact hplaced
  cases hdoes with
  | setup _ => exact hadd (isWhole_fields _ _)
  | make hmade => exact hadd (isWhole_made hmade hstep)
  | evolve hold hevolved =>
    exact hadd (isWhole_evolved (h _ (List.mem_of_getElem? (request_eq_ok_iff.1 hold))) hstep hevolved)
  | write _ _ _ => exact h
  | stay => exact h

/-- **A request holds whole records, whatever was done before**, as long as whole records are handed in. -/
theorem isWhole_after [Text.Reader] {steps : List Step} (hsteps : ∀ step ∈ steps, step.HandsWhole) {number : Nat}
    {fields : Fields} (h : (empty.after steps).request number = .ok fields) : fields.IsWhole := by
  have hall : ∀ (s : Store) (steps : List Step), (∀ step ∈ steps, step.HandsWhole) →
      (∀ fields ∈ s.requests, fields.IsWhole) → ∀ fields ∈ (s.after steps).requests, fields.IsWhole := by
    intro s steps hsteps hs
    induction steps generalizing s with
    | nil => exact hs
    | cons step steps ih =>
      rw [List.forall_mem_cons] at hsteps
      exact ih _ hsteps.2 (isWhole_of_does hs hsteps.1 (Step.does_run s step))
  exact hall empty steps hsteps nofun fields (List.mem_of_getElem? (request_eq_ok_iff.1 h))

/-! ## What a request becomes -/

theorem lookup_evolved_of_not_mem (next : Nat) (old : Fields) {changes : List (String × Value)} {name : String}
    (h : name ∉ changes.map Prod.fst) : (old.override (changedAll next old changes).1).lookup name = old.lookup name := by
  rw [Fields.lookup_override, lookup_changedAll_eq_none h]
  cases old.lookup name <;> rfl

/-- A field that is changed, in place of what was there. -/
theorem lookup_evolved {old : Fields} {changes : List (String × Value)} {name : String} {v : Value} {held : Held}
    (hold : old.lookup name = some held) (hv : changes.lookup name = some v) (next : Nat) :
    ∃ start, (old.override (changedAll next old changes).1).lookup name = some (changed start old name v).1 := by
  obtain ⟨start, hlookup⟩ := exists_lookup_changedAll next old changes name
  refine ⟨start, ?_⟩
  rw [Fields.lookup_override, hold, hlookup, hv]
  rfl

section Becomes

variable {before : List Content} {old : Fields} {changes : List (String × Value)}

/-- What a field shows after the changes, once their arrays are in new cells. -/
theorem shown_evolved (h : Fits old changes) (hold : ∀ a ∈ Held.spotsAll old, a.number < before.length)
    (name : String) :
    ((old.override (changedAll before.length old changes).1).lookup name).map
        (Held.value (before ++ (changedAll before.length old changes).2)) =
      ((Held.entries before old).lookup name).map
        ((changes.lookup name).map (Entries.changed (Held.entries before old) name)).getD := by
  rw [← Held.lookup_entries, entries_evolved h hold, Entries.lookup_revised]

/-- A record into which entries are merged keeps the fields that they do not name. -/
theorem lookup_merged_of_not_mem (next : Nat) (record : Fields) {es : List (String × Value)} {key : String}
    (h : key ∉ es.map Prod.fst) : (record.override (Held.placedAll next es).1).lookup key = record.lookup key := by
  have hnew : (Held.placedAll next es).1.lookup key = none := by
    rw [lookup_eq_none_iff_not_mem, Held.names_placedAll]
    exact h
  rw [Fields.lookup_override, hnew]
  cases record.lookup key <;> rfl

/-- It shows the entries in the fields that they name, if it has them. -/
theorem shown_merged {cells : List Content} {record after : Fields} {es : List (String × Value)}
    (h : Held.entries cells after = Entries.override (Held.entries before record) es) {key : String} {v : Value}
    (hkey : key ∈ record.map Prod.fst) (hv : es.lookup key = some v) :
    (after.lookup key).map (Held.value cells) = some v := by
  obtain ⟨held, hheld⟩ := exists_lookup_of_mem hkey
  rw [← Held.lookup_entries, h, Entries.lookup_override, Held.lookup_entries, hheld, hv]
  rfl

/-- **What a request becomes by changes that fit it**, once their arrays are in new cells. -/
theorem becomes_evolved (hwhole : old.IsWhole) (h : Fits old changes)
    (hold : ∀ a ∈ Held.spotsAll old, a.number < before.length) :
    old.Becomes changes (before ++ (changedAll before.length old changes).2)
      (old.override (changedAll before.length old changes).1) := by
  refine ⟨Fields.names_override _ _, fun name => lookup_evolved_of_not_mem before.length old, ?_, ?_⟩
  · intro name v hv hplain
    have hname := h.names name (List.mem_map_of_mem (mem_of_lookup hv))
    rw [← hwhole.names] at hname
    obtain ⟨held, hheld⟩ := exists_lookup_of_mem hname
    rw [shown_evolved h hold, Held.lookup_entries, hheld, hv, Option.map_some, Option.map_some, Option.map_some,
      Entries.changed_of_not_mapping hplain]
    rfl
  · intro name es hname hes
    obtain ⟨kind, record, hrecord, hkeys⟩ := h.records name es hname hes
    obtain ⟨start, hlookup⟩ := lookup_evolved hrecord hes before.length
    rw [changed_of_record hname hrecord] at hlookup
    refine ⟨kind, record, _, hrecord, hlookup, Fields.names_override _ _,
      fun key => lookup_merged_of_not_mem start record, ?_⟩
    intro key v hv
    have hshown : (Held.entries before old).lookup name = some (.record kind (Held.entries before record)) := by
      rw [Held.lookup_entries, hrecord]
      rfl
    have hmerged := shown_evolved h hold name
    rw [hlookup, hshown, hes, Option.map_some, Option.map_some, Option.map_some, Option.getD_some,
      Entries.changed_of_record hname hshown, Held.value, Option.some.injEq, Value.record.injEq] at hmerged
    -- the record has the entry, since it has all fields of its kind
    have hfields : record.map Prod.fst = kind.form.names := hwhole.records _ (mem_of_lookup hrecord)
    refine shown_merged hmerged.2 ?_ hv
    rw [hfields]
    exact hkeys key (List.mem_map_of_mem (mem_of_lookup hv))

end Becomes

/-! ## Evolving, exactly -/

theorem after_evolve_of_fits [Text.Reader] {steps : List Step} {number : Nat} {old : Fields}
    (hold : (empty.after steps).request number = .ok old) {changes : List (String × Value)} (h : Fits old changes) :
    (∃ answer, ((Step.evolve number changes).run (empty.after steps)).2.result = .ok answer) ∧
      empty.after (steps ++ [.evolve number changes]) =
        (empty.after steps).add (old.override (changedAll (empty.after steps).cells.length old changes).1,
          (changedAll (empty.after steps).cells.length old changes).2) := by
  obtain ⟨hrun, hok⟩ := Step.run_evolve hold (evolved_eq_ok_iff.2 ⟨changeFault?_eq_none_iff.2 h, rfl⟩)
  exact ⟨hok, (after_concat _ _ _).trans hrun⟩

theorem fits_of_run_evolve [Text.Reader] {s : Store} {number : Nat} {old : Fields} (hold : s.request number = .ok old)
    {changes : List (String × Value)} {answer : Value}
    (h : ((Step.evolve number changes).run s).2.result = .ok answer) : Fits old changes := by
  obtain ⟨old', placed, hold', hevolved⟩ := Step.exists_of_run_evolve h
  obtain rfl := Except.ok.inj (hold.symm.trans hold')
  exact changeFault?_eq_none_iff.1 (evolved_eq_ok_iff.1 hevolved).1

/-- **A request evolves exactly if the changes fit it.** Then there is one more request: it holds what is changed, and
all else, arrays included, as it is. If they do not fit, nothing happens. Either way every request that was there
answers as before. -/
theorem evolve_exact [Text.Reader] {steps : List Step} (hsteps : ∀ step ∈ steps, step.HandsWhole) {number : Nat}
    {fields : Fields} (h : (empty.after steps).request number = .ok fields) (changes : List (String × Value)) :
    ((∃ answer, ((Step.evolve number changes).run (empty.after steps)).2.result = .ok answer) ↔
      Fits fields changes) ∧
    (Fits fields changes → ∃ new,
      (empty.after (steps ++ [.evolve number changes])).requests = (empty.after steps).requests ++ [new] ∧
      fields.Becomes changes (empty.after (steps ++ [.evolve number changes])).cells new) ∧
    (¬ Fits fields changes → empty.after (steps ++ [.evolve number changes]) = empty.after steps) ∧
    ∀ other < (empty.after steps).requests.length,
      (empty.after steps).AnswersSame (empty.after (steps ++ [.evolve number changes])) other := by
  refine ⟨⟨fun ⟨_, hok⟩ => fits_of_run_evolve h hok, fun hfits => (after_evolve_of_fits h hfits).1⟩, ?_, ?_, ?_⟩
  · intro hfits
    rw [(after_evolve_of_fits h hfits).2]
    exact ⟨_, rfl, becomes_evolved (isWhole_after hsteps h) hfits fun a ha =>
      (isShared_after steps).number_lt a (mem_spots_of_request h ha)⟩
  · intro hmisfit
    rw [after_concat]
    cases hresult : ((Step.evolve number changes).run (empty.after steps)).2.result with
    | ok answer => exact absurd (fits_of_run_evolve h hresult) hmisfit
    | error e => exact Step.run_of_error hresult
  · intro other hother
    exact answersSame_concat hother fun writer hwriter => by cases hwriter

/-- Entries are merged into the record of a request that is set up, and a text that takes the place of a record takes
none. -/
theorem evolve_exact_merged :
    ∃ (first second : Step) (changes : List (String × Value)) (fields new : Fields),
      first = .setup (.list [.int 1, .int 2, .int 3]) (.int 4) [] ∧ second = .evolve 0 [("results", .text "none yet")] ∧
      changes = [("h", .int 6), ("hidden", .mapping [("ns", .int 3)])] ∧
      (empty.after [first]).request 0 = .ok fields ∧
      (empty.after [first, .evolve 0 changes]).requests = [fields, new] ∧
      fields.Becomes changes (empty.after [first, .evolve 0 changes]).cells new ∧
      empty.after [first, second, .evolve 1 [("results", .mapping [("table", .text "")])]] =
        empty.after [first, second] := by
  obtain ⟨first, hfirst⟩ : ∃ first, first = Step.setup (.list [.int 1, .int 2, .int 3]) (.int 4) [] := ⟨_, rfl⟩
  obtain ⟨second, hsecond⟩ : ∃ second, second = Step.evolve 0 [("results", .text "none yet")] := ⟨_, rfl⟩
  have hone : ∀ step ∈ [first], step.HandsWhole := by
    subst hfirst
    simp [Step.HandsWhole]
  have htwo : ∀ step ∈ [first, second], step.HandsWhole := by
    subst hfirst hsecond
    simp [Step.HandsWhole, Value.IsWhole]
  have hfit : ((empty.after [first]).request 0).toOption.map (fun fields => (changeFault? fields
      [("h", .int 6), ("hidden", .mapping [("ns", .int 3)])]).isNone) = some true := by
    subst hfirst
    decide +kernel
  have hmisfit : ((empty.after [first, second]).request 1).toOption.map (fun fields => (changeFault? fields
      [("results", .mapping [("table", .text "")])]).isNone) = some false := by
    subst hfirst hsecond
    decide +kernel
  obtain ⟨fields, hfields, hnone⟩ := exists_of_toOption_map hfit
  obtain ⟨fields', hfields', hsome⟩ := exists_of_toOption_map hmisfit
  obtain ⟨-, hevolves, -, -⟩ := evolve_exact hone hfields [("h", .int 6), ("hidden", .mapping [("ns", .int 3)])]
  obtain ⟨-, -, hstays, -⟩ := evolve_exact htwo hfields' [("results", .mapping [("table", .text "")])]
  obtain ⟨new, hnew, hbecomes⟩ := hevolves (changeFault?_eq_none_iff.1 (Option.isNone_iff_eq_none.1 hnone))
  refine ⟨first, second, _, fields, new, hfirst, hsecond, rfl, hfields, hnew.trans ?_, hbecomes, hstays ?_⟩
  · have hlength : (empty.after [first]).requests.length = 1 := by
      subst hfirst
      decide +kernel
    obtain ⟨only, honly⟩ := List.length_eq_one_iff.1 hlength
    rw [request_eq_ok_iff, honly] at hfields
    rw [honly, ← Option.some.inj hfields]
    rfl
  · intro hfits
    rw [changeFault?_eq_none_iff.2 hfits] at hsome
    cases hsome

end Store

end StructuralSeries
