import StructuralSeries.Proofs.Outcome
import StructuralSeries.Store

/-!
# The arrays that a request leads to

A field leads to arrays that can change, directly or through records. Each of them has a *spot*: the names on the
way to it and its number in the store. What a field shows depends on the cells at its spots and on nothing else
(`Held.value_eq_iff`).

A value that is placed gets new numbers, each of them once (`Held.numbers_placed`). Fields that are replaced keep
their spots or get those of their replacement (`Fields.mem_spots_override`), and so does a request that is made
from another (`Store.exists_fresh_changedAll`): it has the spots of the old one and new numbers.
-/

namespace StructuralSeries

/-! ## Spots -/

/-- An array that a field leads to: the names on the way to it and its number. -/
structure Spot where
  names : List String
  number : Nat
  deriving DecidableEq

/-- The spot behind one more name. -/
def Spot.behind (name : String) (s : Spot) : Spot := ⟨name :: s.names, s.number⟩

namespace Held

mutual

/-- The arrays that a field leads to. -/
def spots : Held → List Spot
  | constant _ => []
  | cell i => [⟨[], i⟩]
  | record _ fields => spotsAll fields

/-- The arrays that fields lead to. -/
def spotsAll : List (String × Held) → List Spot
  | [] => []
  | (name, h) :: rest => (spots h).map (Spot.behind name) ++ spotsAll rest

end

theorem mem_spotsAll {fields : Fields} {s : Spot} :
    s ∈ spotsAll fields ↔ ∃ e ∈ fields, ∃ t ∈ e.2.spots, t.behind e.1 = s := by
  induction fields with
  | nil => simp [spotsAll]
  | cons e rest ih =>
    obtain ⟨name, h⟩ := e
    rw [spotsAll, List.mem_append, List.mem_map, ih]
    simp

theorem spotsAll_append (as bs : Fields) : spotsAll (as ++ bs) = spotsAll as ++ spotsAll bs := by
  induction as with
  | nil => rfl
  | cons e rest ih =>
    obtain ⟨name, h⟩ := e
    rw [List.cons_append, spotsAll, spotsAll, ih, List.append_assoc]

theorem spotsAll_constant {α : Type} (es : List α) (name : α → String) (value : α → Value) :
    spotsAll (es.map fun e => (name e, constant (value e))) = [] := by
  induction es with
  | nil => rfl
  | cons e rest ih => rw [List.map_cons, spotsAll, ih]; rfl

end Held

/-! ## Looking names up -/

section Lookup

variable {α : Type} {es : List (String × α)} {name : String}

theorem mem_of_lookup {a : α} (h : es.lookup name = some a) : (name, a) ∈ es := by
  obtain ⟨before, after, rfl, -⟩ := List.lookup_eq_some_iff.1 h
  exact List.mem_append_right _ List.mem_cons_self

theorem lookup_eq_none_iff_not_mem : es.lookup name = none ↔ name ∉ es.map Prod.fst := by
  rw [List.lookup_eq_none_iff, List.mem_map]
  constructor
  · rintro h ⟨e, he, rfl⟩
    exact absurd rfl (bne_iff_ne.1 (h e he))
  · exact fun h e he => bne_iff_ne.2 fun heq => h ⟨e, he, heq.symm⟩

theorem exists_lookup_of_mem (h : name ∈ es.map Prod.fst) : ∃ a, es.lookup name = some a := by
  cases hl : es.lookup name with
  | none => exact absurd h (lookup_eq_none_iff_not_mem.1 hl)
  | some a => exact ⟨a, rfl⟩

/-- Looking up a name among entries that are rewritten name by name. -/
theorem lookup_map_entry {β : Type} (f : String → α → β) (es : List (String × α)) (name : String) :
    (es.map fun e => (e.1, f e.1 e.2)).lookup name = (es.lookup name).map (f name) := by
  induction es with
  | nil => rfl
  | cons e rest ih =>
    rw [List.map_cons, List.lookup_cons, List.lookup_cons, ih]
    by_cases hn : name = e.1
    · subst hn
      simp
    · have hb : (name == e.1) = false := by simpa using hn
      rw [hb]

theorem lookup_filter_of_true {p : String → Bool} (h : p name = true) (es : List (String × α)) :
    (es.filter fun e => p e.1).lookup name = es.lookup name := by
  induction es with
  | nil => rfl
  | cons e rest ih =>
    rw [List.filter_cons, List.lookup_cons]
    by_cases hn : name = e.1
    · subst hn
      rw [if_pos h, List.lookup_cons]
      simp
    · have hb : (name == e.1) = false := by simpa using hn
      rw [hb]
      split
      · rw [List.lookup_cons, hb]
        exact ih
      · exact ih

end Lookup

/-! ## What is shown -/

theorem Content.toValue_injective {c d : Content} (h : c.toValue = d.toValue) : c = d := by
  cases c <;> cases d <;> cases h <;> rfl

theorem Content.toValue_ne_absent (c : Content) : c.toValue ≠ .absent := by
  cases c <;> exact Value.noConfusion

namespace Held

variable {cells cells' : List Content}

/-- A cell shows what it holds. -/
theorem value_cell_eq_iff {i : Nat} :
    (cell i).value cells = (cell i).value cells' ↔ cells[i]? = cells'[i]? := by
  rw [value, value]
  cases cells[i]? with
  | none =>
    cases cells'[i]? with
    | none => exact iff_of_true rfl rfl
    | some d => exact iff_of_false (Ne.symm d.toValue_ne_absent) (by simp)
  | some c =>
    cases cells'[i]? with
    | none => exact iff_of_false c.toValue_ne_absent (by simp)
    | some d => exact ⟨fun h => congrArg some (Content.toValue_injective h), fun h => by cases h; rfl⟩

mutual

/-- **A field shows the same in two states exactly if its arrays hold the same.** -/
theorem value_eq_iff : ∀ h : Held,
    h.value cells = h.value cells' ↔ ∀ s ∈ h.spots, cells[s.number]? = cells'[s.number]?
  | constant v => by simp [value, spots]
  | cell i => by simp [value_cell_eq_iff, spots]
  | record kind fields => by
    rw [value, value, spots, ← entries_eq_iff fields]
    simp

theorem entries_eq_iff : ∀ fields : List (String × Held),
    entries cells fields = entries cells' fields ↔
      ∀ s ∈ spotsAll fields, cells[s.number]? = cells'[s.number]?
  | [] => by simp [entries, spotsAll]
  | (name, h) :: rest => by
    rw [entries, entries, List.cons_eq_cons, Prod.mk.injEq, value_eq_iff h, entries_eq_iff rest, spotsAll]
    simp [Spot.behind, or_imp, forall_and]

end

theorem entries_eq_map (cells : List Content) (fields : Fields) :
    entries cells fields = fields.map fun e => (e.1, e.2.value cells) := by
  induction fields with
  | nil => rfl
  | cons e rest ih =>
    obtain ⟨name, h⟩ := e
    rw [entries, ih, List.map_cons]

theorem lookup_entries (cells : List Content) (fields : Fields) (name : String) :
    (entries cells fields).lookup name = (fields.lookup name).map (value cells) := by
  rw [entries_eq_map]
  exact lookup_map_entry (fun _ h => value cells h) fields name

end Held

/-! ## Placing values -/

namespace Held

mutual

/-- **A value that is placed gets new numbers, each once and in order.** -/
theorem numbers_placed (next : Nat) : ∀ v : Value,
    (placed next v).1.spots.map Spot.number = List.range' next (placed next v).2.length
  | .record kind entries => by
    rw [placed, spots]
    exact numbers_placedAll next entries
  | .numbers box ns => by cases box <;> rfl
  | .objects box shape cells => by cases box <;> rfl
  | .absent | .bool _ | .int _ | .float _ | .complex _ | .text _ | .fixed _ | .list _ | .tuple _ | .mapping _ => rfl

theorem numbers_placedAll (next : Nat) : ∀ entries : List (String × Value),
    (spotsAll (placedAll next entries).1).map Spot.number = List.range' next (placedAll next entries).2.length
  | [] => rfl
  | (name, v) :: rest => by
    rw [placedAll, spotsAll, List.map_append, List.map_map, List.length_append, ← List.range'_append_1,
      ← numbers_placed next v, ← numbers_placedAll _ rest]
    rfl

end

end Held

/-! ## Replacing fields -/

namespace Fields

/-- The spots of a field are spots of the fields. -/
theorem behind_mem_spots {fields : Fields} {name : String} {h : Held} (hl : fields.lookup name = some h) {s : Spot}
    (hs : s ∈ h.spots) : s.behind name ∈ Held.spotsAll fields :=
  Held.mem_spotsAll.2 ⟨(name, h), mem_of_lookup hl, s, hs, rfl⟩

/-- **Fields that are replaced keep a spot only where they are not replaced**; else it is one of the replacement. -/
theorem mem_spots_override {old new : Fields} {s : Spot} (hs : s ∈ Held.spotsAll (old.override new)) :
    (∃ e ∈ old, new.lookup e.1 = none ∧ ∃ t ∈ e.2.spots, t.behind e.1 = s) ∨ s ∈ Held.spotsAll new := by
  obtain ⟨e, he, t, ht, rfl⟩ := Held.mem_spotsAll.1 hs
  obtain ⟨⟨name, h⟩, hold, rfl⟩ := List.mem_map.1 he
  cases hl : new.lookup name with
  | none =>
    rw [hl] at ht
    exact Or.inl ⟨(name, h), hold, hl, t, ht, rfl⟩
  | some g =>
    rw [hl] at ht
    exact Or.inr (behind_mem_spots hl ht)

theorem spots_override_subset {old new : Fields} {s : Spot} (hs : s ∈ Held.spotsAll (old.override new)) :
    s ∈ Held.spotsAll old ∨ s ∈ Held.spotsAll new := by
  refine (mem_spots_override hs).imp_left ?_
  rintro ⟨e, he, -, t, ht, rfl⟩
  exact Held.mem_spotsAll.2 ⟨e, he, t, ht, rfl⟩

end Fields

/-! ## Changing requests -/

namespace Store

/-- What a changed field holds: the value as it is placed, or the record that is there with the entries merged
into it. -/
theorem changed_cases (next : Nat) (old : Fields) (name : String) (v : Value) :
    changed next old name v = Held.placed next v ∨
      ∃ es kind fields, v = .mapping es ∧ old.lookup name = some (.record kind fields) ∧
        changed next old name v =
          (.record kind (Fields.override fields (Held.placedAll next es).1), (Held.placedAll next es).2) := by
  unfold changed
  split
  · next es kind fields hold =>
    split
    · exact Or.inr ⟨es, kind, fields, rfl, hold, rfl⟩
    · exact Or.inl rfl
  · exact Or.inl rfl

/-- What the changes of a request hold under a name, wherever the new cells for that name begin. -/
theorem exists_lookup_changedAll (next : Nat) (old : Fields) (changes : List (String × Value)) (name : String) :
    ∃ start, (changedAll next old changes).1.lookup name =
      (changes.lookup name).map fun v => (changed start old name v).1 := by
  induction changes generalizing next with
  | nil => exact ⟨next, rfl⟩
  | cons e rest ih =>
    obtain ⟨n, v⟩ := e
    rw [changedAll, List.lookup_cons, List.lookup_cons]
    by_cases hn : name = n
    · subst hn
      exact ⟨next, by simp⟩
    · have hb : (name == n) = false := by simpa using hn
      rw [hb]
      exact ih _

theorem lookup_changedAll_eq_none {name : String} {changes : List (String × Value)}
    (h : name ∉ changes.map Prod.fst) (next : Nat) (old : Fields) :
    (changedAll next old changes).1.lookup name = none := by
  obtain ⟨start, hl⟩ := exists_lookup_changedAll next old changes name
  rw [hl, lookup_eq_none_iff_not_mem.2 h]
  rfl

/-- The spots of a changed field are new ones or spots that the request had. -/
theorem exists_fresh_changed (next : Nat) (old : Fields) (name : String) (v : Value) :
    ∃ fresh : List Spot, fresh.map Spot.number = List.range' next (changed next old name v).2.length ∧
      ∀ s ∈ (changed next old name v).1.spots, s.behind name ∈ Held.spotsAll old ∨ s.behind name ∈ fresh := by
  rcases changed_cases next old name v with h | ⟨es, kind, fields, rfl, hold, h⟩
  · rw [h]
    refine ⟨(Held.placed next v).1.spots.map (Spot.behind name), ?_, ?_⟩
    · rw [List.map_map]
      exact Held.numbers_placed next v
    · intro s hs
      exact Or.inr (List.mem_map_of_mem hs)
  · rw [h]
    refine ⟨(Held.spotsAll (Held.placedAll next es).1).map (Spot.behind name), ?_, ?_⟩
    · rw [List.map_map]
      exact Held.numbers_placedAll next es
    · intro s hs
      rw [Held.spots] at hs
      rcases Fields.spots_override_subset hs with hs | hs
      · exact Or.inl (Fields.behind_mem_spots hold (by rwa [Held.spots]))
      · exact Or.inr (List.mem_map_of_mem hs)

/-- **The changes of a request lead to spots that it had and to new ones**, each of which has its own number. -/
theorem exists_fresh_changedAll (next : Nat) (old : Fields) (changes : List (String × Value)) :
    ∃ fresh : List Spot, fresh.map Spot.number = List.range' next (changedAll next old changes).2.length ∧
      ∀ s ∈ Held.spotsAll (changedAll next old changes).1, s ∈ Held.spotsAll old ∨ s ∈ fresh := by
  induction changes generalizing next with
  | nil => exact ⟨[], rfl, by simp [changedAll, Held.spotsAll]⟩
  | cons e rest ih =>
    obtain ⟨name, v⟩ := e
    obtain ⟨first, hfirst, hsfirst⟩ := exists_fresh_changed next old name v
    obtain ⟨others, hothers, hsothers⟩ := ih (next + (changed next old name v).2.length)
    refine ⟨first ++ others, ?_, ?_⟩
    · rw [List.map_append, hfirst, hothers, List.range'_append_1, changedAll, List.length_append]
    · intro s hs
      rw [changedAll, Held.spotsAll, List.mem_append, List.mem_map] at hs
      rcases hs with ⟨t, ht, rfl⟩ | hs
      · exact (hsfirst t ht).imp_right (List.mem_append_left _)
      · exact (hsothers s hs).imp_right (List.mem_append_right _)

end Store

end StructuralSeries
