import StructuralSeries.Proofs.Series.Leaks
import StructuralSeries.Proofs.Value.Arrays
import StructuralSeries.Proofs.Value.Numbers

/-!
# Series from lines

What is read as a series is a line of cells and their kind (`Series.ofValue_eq_ok_iff`). A list or a tuple of elements
that stand alone is the line of them, and its kind is the widest one among theirs (`Value.elements?_list`). A table is
the line of its cells if exactly one of its two axes has another length than one (`Series.line?_table`).
-/

namespace StructuralSeries

/-! ## Lists of single elements -/

namespace Grid

theorem stack_scalar {α : Type} (as : List α) : stack (as.map scalar) = some (ofList as) := by
  cases as with
  | nil => rfl
  | cons a as =>
    have hshape : ∀ x ∈ as.map scalar, x.shape = (scalar a).shape := by
      intro x hx
      obtain ⟨b, -, rfl⟩ := List.mem_map.1 hx
      rfl
    rw [List.map_cons, stack, dif_pos hshape]
    refine congrArg some (Grid.ext ?_ ?_)
    · show [(as.map scalar).length + 1] = _
      rw [List.length_map]
      rfl
    · show a :: (as.map scalar).flatMap data = a :: as
      rw [List.flatMap_map]
      exact congrArg (List.cons a) (List.flatMap_singleton' as)

end Grid

namespace Value

variable {vs : List Value}

theorem elementsOfAll?_of_single (h : ∀ v ∈ vs, v.elements? = some (.single v)) :
    elementsOfAll? vs = some (vs.map .single) := by
  induction vs with
  | nil => rfl
  | cons v vs ih =>
    rw [List.forall_mem_cons] at h
    rw [elementsOfAll?, h.1, ih h.2]
    rfl

theorem stack?_single (vs : List Value) :
    Elements.stack? (vs.map .single) = some ⟨Kind.joinAll (vs.map kind), .ofList vs⟩ := by
  have hgrids : (vs.map Elements.single).map Elements.grid = vs.map Grid.scalar := List.map_map
  have hkinds : (vs.map Elements.single).map Elements.kind = vs.map kind := List.map_map
  rw [Elements.stack?, hgrids, hkinds, Grid.stack_scalar, Option.bind_some]
  exact if_pos (show 1 ≤ Elements.mostAxes by decide)

/-- **A list of elements that stand alone is a line of them**, of the widest kind among theirs. -/
theorem elements?_list (h : ∀ v ∈ vs, v.elements? = some (.single v)) :
    (list vs).elements? = some ⟨Kind.joinAll (vs.map kind), .ofList vs⟩ := by
  rw [elements?, elementsOfAll?_of_single h, Option.bind_some, stack?_single]

theorem elements?_tuple (h : ∀ v ∈ vs, v.elements? = some (.single v)) :
    (tuple vs).elements? = some ⟨Kind.joinAll (vs.map kind), .ofList vs⟩ := by
  rw [elements?, elementsOfAll?_of_single h, Option.bind_some, stack?_single]

end Value

/-- Elements of one kind have that kind. -/
theorem Kind.joinAll_eq_of_forall {k : Kind} {ks : List Kind} (hne : ks ≠ []) (h : ∀ x ∈ ks, x = k) :
    joinAll ks = k := by
  induction ks with
  | nil => exact absurd rfl hne
  | cons x rest ih =>
    obtain ⟨rfl, hrest⟩ := List.forall_mem_cons.1 h
    show join x (joinAll rest) = x
    by_cases hnil : rest = []
    · subst hnil
      cases x <;> rfl
    · rw [ih hnil hrest]
      exact if_pos (Nat.le_refl _)

namespace Series

/-! ## Lines of cells -/

theorem line?_map {α β : Type} (f : α → β) (g : Grid α) : line? (g.map f) = (line? g).map (List.map f) := by
  have hgrid : (if 1 < (g.map f).axes then (g.map f).squeezed else g.map f) =
      (if 1 < g.axes then g.squeezed else g).map f := by
    by_cases haxes : 1 < g.axes
    · rw [if_pos haxes, if_pos (show 1 < (g.map f).axes from haxes)]
      rfl
    · rw [if_neg haxes, if_neg (show ¬ 1 < (g.map f).axes from haxes)]
  unfold line?
  dsimp only
  rw [hgrid]
  generalize (if 1 < g.axes then g.squeezed else g) = squeezed
  have hsize : (squeezed.map f).size = squeezed.size := List.length_map _
  show (if squeezed.axes = 1 ∧ (squeezed.map f).size ≠ 0 then some (squeezed.data.map f) else none) = _
  rw [hsize]
  split <;> rfl

/-- A table is a line if exactly one of its axes has another length than one. -/
theorem line?_table {α : Type} {g : Grid α} {n : Nat} (hshape : g.shape = [n, 1] ∨ g.shape = [1, n]) (hn : n ≠ 0) :
    line? g = if n = 1 then none else some g.data := by
  have haxes : 1 < g.axes := by
    rcases hshape with h | h <;> simp [Grid.axes, h]
  have hsize : g.size ≠ 0 := by
    rw [Grid.size, g.data_length]
    rcases hshape with h | h <;> simp [h, hn]
  have hsqueezed : g.squeezed.axes = if n = 1 then 0 else 1 := by
    rcases hshape with h | h <;> by_cases hone : n = 1 <;> simp [Grid.squeezed, Grid.axes, h, hone]
  unfold line?
  rw [if_pos haxes]
  dsimp only
  rw [hsqueezed]
  by_cases hone : n = 1
  · simp [hone]
  · rw [if_neg hone, if_neg hone]
    exact if_pos ⟨rfl, hsize⟩

theorem ofList?_eq_some_iff {xs : List Double} {y : Series} : ofList? xs = some y ↔ y.values = xs := by
  unfold ofList?
  split
  · next hnil => exact iff_of_false nofun fun h => y.nonempty (h.trans hnil)
  · exact ⟨fun h => by cases h; rfl, fun h => congrArg some (Series.ext h.symm)⟩

/-- **What a value is read as.** -/
theorem ofValue_eq_ok_iff [Text.Reader] {v : Value} {y : Series} :
    ofValue v = .ok y ↔ ∃ es cells, v.elements? = some es ∧ line? es.grid = some cells ∧
      Value.observations es.kind cells = .ok y.values := by
  by_cases htext : ∃ s, v = .text s
  · obtain ⟨s, rfl⟩ := htext
    refine iff_of_false nofun ?_
    rintro ⟨es, cells, hes, hline, -⟩
    cases hes
    cases hline
  · rw [ofValue_eq fun s hs => htext ⟨s, hs⟩]
    constructor
    · intro h
      obtain ⟨es, hes, h⟩ := bind_eq_ok.1 h
      cases hline : line? es.grid with
      | none =>
        rw [hline] at h
        cases h
      | some cells =>
        rw [hline] at h
        obtain ⟨xs, hxs, h⟩ := bind_eq_ok.1 h
        cases hlist : ofList? xs with
        | none =>
          rw [hlist] at h
          cases h
        | some y' =>
          rw [hlist] at h
          cases h
          rw [ofList?_eq_some_iff.1 hlist]
          exact ⟨es, cells, Value.elements_eq_ok_iff.1 hes, hline, hxs⟩
    · rintro ⟨es, cells, hes, hline, hxs⟩
      rw [Value.elements_eq_ok_iff.2 hes, ok_bind, hline]
      dsimp only
      rw [hxs, ok_bind, ofList?_eq_some_iff.2 rfl]

end Series

end StructuralSeries
