import StructuralSeries.Proofs.Store.Spots

/-!
# Requests with changes made in them

A request that evolves from another shows the entries of the old one, revised: what is changed shows the new value, a
record into which entries are merged shows them among its own, and all else shows what it did. So what is said about
evolving splits in two: the changes fit the request (`Store.changeFault?_eq_none_iff`), and then the entries are revised
(`Store.entries_evolved`), whatever arrays the fields share.

## Shape

* `Entries.override` — entries with some of them replaced
* `Entries.revised` — what a request shows in which fields are changed
* `Store.Fits` — the changes that a request takes
-/

namespace StructuralSeries

/-! ## Placed values read as they are -/

namespace Held

theorem value_cell_length (before after : List Content) (c : Content) :
    (cell before.length).value (before ++ ([c] ++ after)) = c.toValue := by
  rw [value, List.getElem?_append_right (Nat.le_refl _), Nat.sub_self]
  rfl

mutual

/-- **A value that is placed reads as it is** once its new cells are there. -/
theorem value_placed (before after : List Content) : ∀ v : Value,
    (placed before.length v).1.value (before ++ ((placed before.length v).2 ++ after)) = v
  | .record kind es => by
    rw [placed, value, entries_placedAll before after es]
  | .numbers .array ns => value_cell_length before after (.numbers ns)
  | .objects .array shape cells => value_cell_length before after (.objects shape cells)
  | .numbers .series _ | .numbers .frame _ | .objects .series _ _ | .objects .frame _ _ => rfl
  | .absent | .bool _ | .int _ | .float _ | .complex _ | .text _ | .fixed _ | .list _ | .tuple _ | .mapping _ => rfl

theorem entries_placedAll (before after : List Content) : ∀ es : List (String × Value),
    entries (before ++ ((placedAll before.length es).2 ++ after)) (placedAll before.length es).1 = es
  | [] => rfl
  | (name, v) :: rest => by
    have hfirst := value_placed before
      ((placedAll (before.length + (placed before.length v).2.length) rest).2 ++ after) v
    have hrest := entries_placedAll (before ++ (placed before.length v).2) after rest
    rw [List.length_append, List.append_assoc] at hrest
    rw [placedAll, entries, List.append_assoc, hfirst, hrest]

end

/-- New cells behind those that fields lead to change nothing in what the fields show. -/
theorem entries_append {cells : List Content} {fields : Fields}
    (h : ∀ a ∈ spotsAll fields, a.number < cells.length) (new : List Content) :
    entries (cells ++ new) fields = entries cells fields :=
  (entries_eq_iff fields).2 fun a ha => List.getElem?_append_left (h a ha)

end Held

/-! ## Revised entries -/

namespace Entries

/-- Entries with some of them replaced. -/
def override (old new : List (String × Value)) : List (String × Value) :=
  old.map fun e => (e.1, (new.lookup e.1).getD e.2)

/-- What an entry shows that is changed. Entries for a record are merged into it. -/
def changed (old : List (String × Value)) (name : String) (v : Value) : Value :=
  match v, old.lookup name with
  | .mapping es, some (.record kind fields) =>
    if Store.mergeable name then .record kind (override fields es) else v
  | v, _ => v

/-- The entries of a request in which fields are changed. -/
def revised (old changes : List (String × Value)) : List (String × Value) :=
  old.map fun e => (e.1, ((changes.lookup e.1).map (changed old e.1)).getD e.2)

theorem lookup_override (old new : List (String × Value)) (name : String) :
    (override old new).lookup name = (old.lookup name).map fun v => (new.lookup name).getD v :=
  lookup_map_entry (fun n v => (new.lookup n).getD v) old name

theorem lookup_revised (old changes : List (String × Value)) (name : String) :
    (revised old changes).lookup name =
      (old.lookup name).map ((changes.lookup name).map (changed old name)).getD :=
  lookup_map_entry (fun n v => ((changes.lookup n).map (changed old n)).getD v) old name

/-- A change that is not merged shows the new value. -/
theorem changed_of_not_mapping {name : String} {v : Value}
    (h : Store.mergeable name = true → ∀ es, v ≠ .mapping es) (old : List (String × Value)) :
    changed old name v = v := by
  unfold changed
  split
  · next es _ _ _ =>
    exact if_neg fun hname => h hname es rfl
  · rfl

/-- Entries for a record are merged into the one that is there. -/
theorem changed_of_record {old : List (String × Value)} {name : String} {kind : RecordKind}
    {fields : List (String × Value)} (hname : Store.mergeable name = true)
    (hold : old.lookup name = some (.record kind fields)) (es : List (String × Value)) :
    changed old name (.mapping es) = .record kind (override fields es) := by
  simp [changed, hold, hname]

end Entries

/-- Entries with others laid over them show what fields show that are replaced. -/
theorem Held.entries_override (cells : List Content) (old new : Fields) :
    entries cells (old.override new) = Entries.override (entries cells old) (entries cells new) := by
  rw [entries_eq_map, entries_eq_map cells old, Fields.override, Entries.override, List.map_map, List.map_map]
  refine List.map_congr_left fun e _ => congrArg (Prod.mk e.1) ?_
  show ((new.lookup e.1).getD e.2).value cells = ((entries cells new).lookup e.1).getD (e.2.value cells)
  rw [lookup_entries]
  exact (Option.getD_map (value cells) e.2 _).symm

/-! ## Changes that fit -/

namespace Form

/-- Names fit a form exactly if each of them is one of its fields. -/
theorem stranger?_eq_none_iff {f : Form} (h : receiver ∉ f.names) {names : List String} :
    f.stranger? names = none ↔ ∀ n ∈ names, n ∈ f.names := by
  rw [stranger?, Option.map_eq_none_iff, List.find?_eq_none]
  refine forall₂_congr fun n _ => ?_
  simp only [decide_eq_true_eq, not_or, Decidable.not_not]
  exact and_iff_right_of_imp fun hn heq => h (heq ▸ hn)

end Form

theorem RecordKind.receiver_not_mem_names (kind : RecordKind) : Form.receiver ∉ kind.form.names := by
  cases kind <;> decide

namespace Store

/-- The names under which records are kept. -/
theorem mergeable_iff {name : String} : mergeable name = true ↔ ∃ kind, (name, kind) ∈ Form.recordFields := by
  simp [mergeable]

/-- Changes that a request takes: each names a field, and entries are given only for a record that has them all. -/
structure Fits (old : Fields) (changes : List (String × Value)) : Prop where
  names : ∀ name ∈ changes.map Prod.fst, name ∈ Form.request.names
  records : ∀ name es, mergeable name = true → changes.lookup name = some (.mapping es) →
    ∃ kind fields, old.lookup name = some (.record kind fields) ∧ ∀ key ∈ es.map Prod.fst, key ∈ kind.form.names

theorem mergeFault?_eq_none_iff {old : Fields} {changes : List (String × Value)} {name : String} :
    mergeFault? old changes name = none ↔ ∀ es, changes.lookup name = some (.mapping es) →
      ∃ kind fields, old.lookup name = some (.record kind fields) ∧
        ∀ key ∈ es.map Prod.fst, key ∈ kind.form.names := by
  unfold mergeFault?
  split
  · next es hchange =>
    split
    · next kind fields hrecord =>
      rw [Option.map_eq_none_iff, Form.stranger?_eq_none_iff kind.receiver_not_mem_names]
      constructor
      · intro h es' hes'
        obtain rfl := Value.mapping.inj (Option.some.inj (hchange.symm.trans hes'))
        exact ⟨kind, fields, hrecord, h⟩
      · intro h
        obtain ⟨kind', fields', hrecord', h⟩ := h es hchange
        cases hrecord.symm.trans hrecord'
        exact h
    · next hrecord =>
      refine iff_of_false nofun fun h => ?_
      obtain ⟨kind, fields, hrecord', -⟩ := h es hchange
      exact hrecord kind fields hrecord'
  · next hchange => exact iff_of_true rfl fun es hes => absurd hes (hchange es)

/-- **The changes of a request do not fail exactly if they fit it.** -/
theorem changeFault?_eq_none_iff {old : Fields} {changes : List (String × Value)} :
    changeFault? old changes = none ↔ Fits old changes := by
  have hself : Form.receiver ∉ Form.request.names := by decide
  have hrecords : (Form.recordFields.findSome? fun e => mergeFault? old changes e.1) = none ↔
      ∀ name, mergeable name = true → mergeFault? old changes name = none := by
    rw [List.findSome?_eq_none_iff]
    constructor
    · intro h name hname
      obtain ⟨kind, hmem⟩ := mergeable_iff.1 hname
      exact h _ hmem
    · intro h e he
      exact h e.1 (mergeable_iff.2 ⟨e.2, he⟩)
  unfold changeFault?
  dsimp only
  split
  · next hreceiver => exact iff_of_false nofun fun h => hself (h.names _ hreceiver)
  · rw [Option.orElse_eq_or, Option.or_eq_none_iff, hrecords, Option.map_eq_none_iff, Form.stranger?_eq_none_iff hself]
    constructor
    · rintro ⟨hmerge, hnames⟩
      exact ⟨hnames, fun name es hname => mergeFault?_eq_none_iff.1 (hmerge name hname) es⟩
    · intro h
      exact ⟨fun name hname => mergeFault?_eq_none_iff.2 fun es => h.records name es hname, h.names⟩

/-! ## What a request shows that evolves -/

/-- A change that is not merged is placed. -/
theorem changed_of_not_mapping {name : String} {v : Value} (h : mergeable name = true → ∀ es, v ≠ .mapping es)
    (next : Nat) (old : Fields) : changed next old name v = Held.placed next v := by
  unfold changed
  split
  · next es _ _ _ => exact if_neg fun hname => h hname es rfl
  · rfl

theorem changed_of_record {old : Fields} {name : String} {kind : RecordKind} {fields : Fields}
    (hname : mergeable name = true) (hold : old.lookup name = some (.record kind fields)) (next : Nat)
    (es : List (String × Value)) :
    changed next old name (.mapping es) =
      (.record kind (Fields.override fields (Held.placedAll next es).1), (Held.placedAll next es).2) := by
  simp [changed, hold, hname]

section Revised

variable {before : List Content} {old : Fields}

/-- What a changed field shows, once its new cells are there. -/
theorem value_changed (hold : ∀ a ∈ Held.spotsAll old, a.number < before.length) {name : String} {v : Value}
    (hfit : ∀ es, mergeable name = true → v = .mapping es → ∃ kind fields, old.lookup name = some (.record kind fields))
    (after : List Content) :
    (changed before.length old name v).1.value (before ++ ((changed before.length old name v).2 ++ after)) =
      Entries.changed (Held.entries before old) name v := by
  by_cases hmerged : mergeable name = true ∧ ∃ es, v = .mapping es
  · obtain ⟨hname, es, rfl⟩ := hmerged
    obtain ⟨kind, fields, hrecord⟩ := hfit es hname rfl
    have hshown : (Held.entries before old).lookup name = some (.record kind (Held.entries before fields)) := by
      rw [Held.lookup_entries, hrecord]
      rfl
    have hinner : ∀ a ∈ Held.spotsAll fields, a.number < before.length := fun a ha =>
      hold (a.behind name) (Fields.behind_mem_spots hrecord (by rwa [Held.spots]))
    rw [changed_of_record hname hrecord, Entries.changed_of_record hname hshown, Held.value, Held.entries_override,
      Held.entries_placedAll, Held.entries_append hinner]
  · have hplain : mergeable name = true → ∀ es, v ≠ .mapping es := fun hname es hv => hmerged ⟨hname, es, hv⟩
    rw [changed_of_not_mapping hplain, Entries.changed_of_not_mapping hplain, Held.value_placed]

/-- What the changes of a request show under a name. -/
theorem value_changedAll (hold : ∀ a ∈ Held.spotsAll old, a.number < before.length) {name : String}
    {changes : List (String × Value)}
    (hfit : ∀ es, mergeable name = true → changes.lookup name = some (.mapping es) →
      ∃ kind fields, old.lookup name = some (.record kind fields)) (after : List Content) :
    ((changedAll before.length old changes).1.lookup name).map
        (Held.value (before ++ ((changedAll before.length old changes).2 ++ after))) =
      (changes.lookup name).map (Entries.changed (Held.entries before old) name) := by
  induction changes generalizing before with
  | nil => rfl
  | cons e rest ih =>
    obtain ⟨n, v⟩ := e
    rw [changedAll, List.lookup_cons]
    by_cases hn : name = n
    · subst hn
      have hv := value_changed hold (v := v) (fun es hname hes => hfit es hname (by rw [hes, List.lookup_cons_self]))
        ((changedAll (before.length + (changed before.length old name v).2.length) old rest).2 ++ after)
      rw [List.lookup_cons_self, List.append_assoc]
      simp only [beq_self_eq_true, Option.map_some]
      rw [hv]
    · have hb : (name == n) = false := by simpa using hn
      have hlonger : ∀ a ∈ Held.spotsAll old, a.number < (before ++ (changed before.length old n v).2).length := by
        intro a ha
        rw [List.length_append]
        exact Nat.lt_add_right _ (hold a ha)
      have ih := ih hlonger (fun es hname hes => hfit es hname (by rw [List.lookup_cons, hb]; exact hes))
      rw [List.length_append, List.append_assoc, Held.entries_append hold] at ih
      rw [List.lookup_cons, hb, List.append_assoc]
      exact ih

/-- **A request that evolves from another shows its entries, revised.** -/
theorem entries_evolved {changes : List (String × Value)} (h : Fits old changes)
    (hold : ∀ a ∈ Held.spotsAll old, a.number < before.length) :
    Held.entries (before ++ (changedAll before.length old changes).2)
        (old.override (changedAll before.length old changes).1) =
      Entries.revised (Held.entries before old) changes := by
  have hshown : ∀ shown : List (String × Value), ((Held.entries before old).map fun e =>
      (e.1, ((changes.lookup e.1).map (Entries.changed shown e.1)).getD e.2)) = old.map fun e =>
      (e.1, ((changes.lookup e.1).map (Entries.changed shown e.1)).getD (e.2.value before)) := by
    intro shown
    rw [Held.entries_eq_map, List.map_map]
    rfl
  rw [Entries.revised, hshown, Held.entries_eq_map, Fields.override, List.map_map]
  refine List.map_congr_left fun e he => congrArg (Prod.mk e.1) ?_
  have hkept : e.2.value (before ++ (changedAll before.length old changes).2) = e.2.value before :=
    e.2.value_eq_iff.2 fun a ha =>
      List.getElem?_append_left (hold (a.behind e.1) (Held.mem_spotsAll.2 ⟨e, he, a, ha, rfl⟩))
  have hfit : ∀ es, mergeable e.1 = true → changes.lookup e.1 = some (.mapping es) →
      ∃ kind fields, old.lookup e.1 = some (.record kind fields) := by
    intro es hname hes
    obtain ⟨kind, fields, hrecord, -⟩ := h.records e.1 es hname hes
    exact ⟨kind, fields, hrecord⟩
  have hchanged := value_changedAll hold hfit []
  rw [List.append_nil] at hchanged
  rw [← hchanged, ← hkept]
  exact (Option.getD_map (Held.value _) e.2 _).symm

end Revised

end Store

end StructuralSeries
