import StructuralSeries.Proofs.Value.Arrays

/-!
# Truth values along axes

A value can be made of truth values alone (`Value.OnlyTruths`). One that is a single truth value stands for no number.
In any other container its truth values are read as one and zero (`Value.OnlyTruths.doubles?_eq_some`), and they mark
nothing as unset; a container that is ragged is read as no number either, but it is a fault to ask whether it is unset.
-/

namespace StructuralSeries

namespace Value

/-! ## Values of truth values -/

/-- A value is made of truth values alone: it is one, an array of them, or a sequence of such values. -/
inductive OnlyTruths : Value → Prop
  | single {v : Value} {b : Bool} (h : v.bool? = some b) : OnlyTruths v
  | numbers (box : Box) (g : Grid Bool) : OnlyTruths (.numbers box (.bool g))
  | objects (box : Box) {shape : List Nat} {cells : List Value} (hlength : cells.length = volume shape)
      (hcells : ∀ c ∈ cells, ∃ b, c.bool? = some b) : OnlyTruths (.objects box shape cells)
  | list {items : List Value} (hitems : ∀ v ∈ items, OnlyTruths v) : OnlyTruths (.list items)
  | tuple {items : List Value} (hitems : ∀ v ∈ items, OnlyTruths v) : OnlyTruths (.tuple items)

/-- The number that a truth value is read as. -/
def truth (c : Value) : Double := if c.bool? = some true then .one else .zero

variable {v c : Value} {b : Bool} {es : Elements}

theorem truth_eq_or (c : Value) : c.truth = .one ∨ c.truth = .zero := ite_eq_or_eq _ _ _

theorem bool?_eq_some_iff : c.bool? = some b ↔ c = .bool b ∨ c = .fixed (.bool b) := by
  cases c with
  | fixed x => cases x <;> simp [bool?]
  | _ => simp [bool?]

theorem toDouble_of_bool? (h : c.bool? = some b) : c.toDouble = .ok c.truth := by
  rcases bool?_eq_some_iff.1 h with rfl | rfl <;> cases b <;> rfl

theorem isNaN_of_bool? (h : c.bool? = some b) : c.isNaN = false := by
  rcases bool?_eq_some_iff.1 h with rfl | rfl <;> rfl

theorem doubles?_of_bool? (h : v.bool? = some b) : v.doubles? = .ok none := by
  rcases bool?_eq_some_iff.1 h with rfl | rfl <;> rfl

/-! ## Their elements -/

/-- The elements of an item among the elements of all. -/
theorem exists_of_mem_elementsOfAll? {vs : List Value} {parts : List Elements} (h : elementsOfAll? vs = some parts)
    {p : Elements} (hp : p ∈ parts) : ∃ v ∈ vs, v.elements? = some p := by
  induction vs generalizing parts with
  | nil =>
    cases h
    cases hp
  | cons v vs ih =>
    unfold elementsOfAll? at h
    split at h
    · next es rest hv hvs =>
      cases h
      rcases List.mem_cons.1 hp with rfl | hp
      · exact ⟨v, List.mem_cons_self, hv⟩
      · obtain ⟨w, hw, hwp⟩ := ih hvs hp
        exact ⟨w, List.mem_cons_of_mem _ hw, hwp⟩
    · cases h

/-- A cell of a sequence is a cell of one of its items. -/
theorem exists_of_mem_stacked {items : List Value}
    (h : (elementsOfAll? items).bind Elements.stack? = some es) (hc : c ∈ es.grid.data) :
    ∃ v ∈ items, ∃ part, v.elements? = some part ∧ c ∈ part.grid.data := by
  obtain ⟨parts, hparts, hstack⟩ := Option.bind_eq_some_iff.1 h
  obtain ⟨g, hg, hstack⟩ := Option.bind_eq_some_iff.1 hstack
  split at hstack
  · cases hstack
    obtain ⟨x, hx, hc⟩ := Grid.mem_data_of_stack hg hc
    obtain ⟨p, hp, rfl⟩ := List.mem_map.1 hx
    obtain ⟨v, hv, hvp⟩ := exists_of_mem_elementsOfAll? hparts hp
    exact ⟨v, hv, p, hvp, hc⟩
  · cases hstack

namespace OnlyTruths

/-- **The elements of a value of truth values are truth values.** -/
theorem bool?_of_mem (h : v.OnlyTruths) (hes : v.elements? = some es) (hc : c ∈ es.grid.data) :
    ∃ b, c.bool? = some b := by
  induction h generalizing es with
  | single h =>
    rcases bool?_eq_some_iff.1 h with rfl | rfl
    all_goals
      cases hes
      obtain rfl := List.mem_singleton.1 hc
      exact ⟨_, rfl⟩
  | numbers box g =>
    cases hes
    obtain ⟨x, hx, rfl⟩ := List.mem_map.1 hc
    obtain ⟨b, -, rfl⟩ := List.mem_map.1 hx
    exact ⟨b, rfl⟩
  | objects box hlength hcells =>
    cases hes
    rw [objectGrid, Grid.fit_data hlength] at hc
    exact hcells c hc
  | list _ ih | tuple _ ih =>
    obtain ⟨v, hv, part, hpart, hc⟩ := exists_of_mem_stacked hes hc
    exact ih v hv hpart hc

theorem ne_absent (h : v.OnlyTruths) : v ≠ absent := by
  rintro rfl
  cases h with
  | single h => cases h

theorem text?_eq_none (h : v.OnlyTruths) : v.text? = none := by
  cases h with
  | single h => rcases bool?_eq_some_iff.1 h with rfl | rfl <;> rfl
  | _ => rfl

/-- Truth values do not mark anything as unset. -/
theorem startsWithNaN (h : v.OnlyTruths) (hes : v.elements? = some es) : es.startsWithNaN = false := by
  have hhead : es.grid.data.head?.any isNaN = false := by
    cases hdata : es.grid.data with
    | nil => rfl
    | cons c cells =>
      obtain ⟨b, hb⟩ := h.bool?_of_mem hes (hdata ▸ List.mem_cons_self)
      exact isNaN_of_bool? hb
  rw [Elements.startsWithNaN, hhead, Bool.and_false]

theorem isUnset_eq (h : v.OnlyTruths) (hes : v.elements? = some es) : v.isUnset = .ok false := by
  rw [Value.isUnset_eq h.ne_absent, elements_eq_ok_iff.2 hes, Except.map, h.startsWithNaN hes]

/-- **Along axes, truth values are read as one and zero.** -/
theorem doubles?_eq_some (h : v.OnlyTruths) (hbool : v.bool? = none) (hes : v.elements? = some es) :
    v.doubles? = .ok (some (es.grid.map truth)) := by
  refine doubles?_of_doubles ?_ h.text?_eq_none hbool
  rw [doubles, elements_eq_ok_iff.2 hes]
  refine Grid.traverse_eq_ok_iff.2 ⟨rfl, mapM_eq_ok_of_forall fun c hc => ?_⟩
  obtain ⟨b, hb⟩ := h.bool?_of_mem hes hc
  exact toDouble_of_bool? hb

/-- Truth values can be shown. -/
theorem isShowable (h : v.OnlyTruths) : v.isShowable = true := by
  have hsingle : ∀ {c : Value} {b : Bool} {levels : Nat}, c.bool? = some b → c.isShowableAt levels = true :=
    fun hc => by rcases bool?_eq_some_iff.1 hc with rfl | rfl <;> rfl
  induction h with
  | single h => exact hsingle h
  | numbers box g => rfl
  | objects box _ hcells =>
    exact areShowableAt_of_forall (fun c hc => (hcells c hc).elim fun _ => hsingle) _
  | list _ ih => exact areShowableAt_of_forall ih _
  | tuple _ ih => exact areShowableAt_of_forall ih _

theorem doubles?_of_ragged (h : v.OnlyTruths) (hes : v.elements? = none) : v.doubles? = .ok none := by
  have hread : v.doubles = .error .ragged := by
    rw [doubles, elements_eq_error_iff.2 ⟨hes, rfl⟩]
    rfl
  cases h with
  | single h => exact doubles?_of_bool? h
  | _ => simp only [doubles?, hread]

end OnlyTruths

end Value

end StructuralSeries
