import StructuralSeries.Proofs.Settings.Horizon
import StructuralSeries.Proofs.Value.Arrays
import StructuralSeries.Value.Shown

/-!
# Numbers as callers write them

A caller writes a number as a float or as a whole number that a double holds exactly, and numbers along axes as an
array of floats or as a list or a tuple of such things, all of one shape (`Value.HoldsNumbers`). However they are
written, they are read as what they are: the strict reading gives the numbers back
(`Value.HoldsNumbers.doubles?_eq`), and the value is unset exactly if its first number is not a number
(`Value.HoldsNumbers.isUnset_eq`).

The cells of such a value and its numbers are one grid (`Value.HoldsNumbers.exists_elements`), since stacking commutes
with reading each cell.
-/

namespace StructuralSeries

/-! ## Stacked grids -/

namespace Grid

variable {α β : Type}

/-- Grids can be stacked before or after a rule is applied to their cells. -/
theorem stack_map (f : α → β) (gs : List (Grid α)) : stack (gs.map (map f)) = (stack gs).map (map f) := by
  cases gs with
  | nil => rfl
  | cons g gs =>
    by_cases hshape : ∀ x ∈ gs, x.shape = g.shape
    · have hshape' : ∀ x ∈ gs.map (map f), x.shape = (g.map f).shape := by
        intro x hx
        obtain ⟨y, hy, rfl⟩ := List.mem_map.1 hx
        exact hshape y hy
      rw [List.map_cons, stack, stack, dif_pos hshape, dif_pos hshape']
      refine congrArg some (Grid.ext ?_ ?_)
      · simp
      · simp [List.map_flatMap, List.flatMap_map]
    · have hshape' : ¬ ∀ x ∈ gs.map (map f), x.shape = (g.map f).shape := by
        intro h
        exact hshape fun x hx => h _ (List.mem_map_of_mem hx)
      rw [List.map_cons, stack, stack, dif_neg hshape, dif_neg hshape']
      rfl

/-- A stack has one axis more than its parts. -/
theorem axes_of_stack {gs : List (Grid α)} {g : Grid α} (h : stack gs = some g) :
    ∀ x ∈ gs, g.axes = x.axes + 1 := by
  intro x hx
  cases gs with
  | nil => cases hx
  | cons y gs =>
    rw [stack] at h
    split at h
    · next hshape =>
      cases h
      have hsame : x.shape = y.shape := by
        rcases List.mem_cons.1 hx with rfl | hx
        · rfl
        · exact hshape x hx
      simp [axes, hsame]
    · cases h

end Grid

namespace Kind

/-- Kinds that are no wider than one are joined to one that is not. -/
theorem width_joinAll_le {k : Kind} {ks : List Kind} (h : ∀ x ∈ ks, x.width ≤ k.width) :
    (joinAll ks).width ≤ k.width := by
  induction ks with
  | nil => exact Nat.zero_le _
  | cons x ks ih =>
    obtain ⟨hx, hks⟩ := List.forall_mem_cons.1 h
    show (join x (joinAll ks)).width ≤ k.width
    unfold join
    split
    · exact ih hks
    · exact hx

end Kind

namespace Value

/-! ## Single numbers -/

/-- The double that a number is: a float, or a whole number that a double holds exactly. -/
def number? : Value → Option Double
  | float x | fixed (.float64 x) | fixed (.float32 x) => some x
  | int n | fixed (.int64 n) | fixed (.int8 n) => if n.natAbs ≤ Double.exactBound then some (.ofInt n) else none
  | _ => none

variable {v c : Value} {x : Double}

/-- A number is a real number, and its double is the number. -/
theorem exists_real_of_number? (h : v.number? = some x) : ∃ r, v.real? = some r ∧ r.toDouble = .ok x := by
  have hbound := Double.exactBound_lt_wholeBound
  cases v with
  | float y =>
    cases h
    exact ⟨.double x, rfl, rfl⟩
  | int n =>
    obtain ⟨hn, heq⟩ := Option.ite_none_right_eq_some.1 h
    cases heq
    exact ⟨.whole n, rfl, wholeToDouble_eq_ok_iff.2 ⟨Nat.lt_of_le_of_lt hn hbound, rfl⟩⟩
  | fixed y =>
    cases y with
    | float64 y | float32 y =>
      cases h
      exact ⟨.double x, rfl, rfl⟩
    | int64 n | int8 n =>
      obtain ⟨-, heq⟩ := Option.ite_none_right_eq_some.1 h
      cases heq
      exact ⟨.word n, rfl, rfl⟩
    | _ => cases h
  | _ => cases h

/-- A real number is read by its own rule. -/
theorem toDouble_eq_of_real? {r : Real} (h : v.real? = some r) : v.toDouble = r.toDouble := by
  unfold real? at h
  split at h <;> cases h <;> rfl

theorem toDouble_of_number? (h : c.number? = some x) : c.toDouble = .ok x := by
  obtain ⟨r, hr, hx⟩ := exists_real_of_number? h
  rw [toDouble_eq_of_real? hr, hx]

theorem isNaN_of_number? (h : c.number? = some x) : c.isNaN = x.isNaN := by
  obtain ⟨r, hr, hx⟩ := exists_real_of_number? h
  exact isNaN_eq_of_toDouble hr hx

/-- A number is no wider than a float. -/
theorem kind_of_number? (h : c.number? = some x) : c.kind.width ≤ Kind.float.width := by
  cases c with
  | float y => exact Nat.le_refl _
  | int n =>
    obtain ⟨hn, -⟩ := Option.ite_none_right_eq_some.1 h
    have hword : -(wordBound : Int) ≤ n ∧ n < 2 * (wordBound : Int) := by
      have hbound : Double.exactBound < wordBound := by decide +kernel
      omega
    show (if -(wordBound : Int) ≤ n ∧ n < 2 * (wordBound : Int) then Kind.int else Kind.object).width ≤ _
    rw [if_pos hword]
    decide
  | fixed y =>
    cases y with
    | float64 y | float32 y => exact Nat.le_refl _
    | int64 n | int8 n => exact Nat.le_succ _
    | _ => cases h
  | _ => cases h

theorem elements?_of_number? (h : c.number? = some x) : c.elements? = some (.single c) := by
  cases c with
  | float y => rfl
  | int n => rfl
  | fixed y => rfl
  | _ => cases h

/-- A whole number can be shown exactly if it has no more digits than are read. -/
theorem isShowable_int_iff {n : Int} : (int n).isShowable = true ↔ n.natAbs < 10 ^ Decimal.mostWholeDigits :=
  decide_eq_true_iff.trans (Nat.length_toDigits_le_iff (by decide) (by decide))

/-- A number that a double holds exactly can be shown. -/
theorem isShowable_of_number? (h : c.number? = some x) : c.isShowable = true := by
  cases c with
  | int n =>
    obtain ⟨hn, -⟩ := Option.ite_none_right_eq_some.1 h
    have hbound : Double.exactBound < 10 ^ 16 := by decide +kernel
    have hlimit : 10 ^ 16 ≤ 10 ^ Decimal.mostWholeDigits := Nat.pow_le_pow_right (by decide) (by decide)
    exact isShowable_int_iff.2 (by omega)
  | float y => rfl
  | fixed y => rfl
  | _ => cases h

/-! ## Numbers along axes -/

/-- A value holds numbers along axes: a number alone, an array of floats, or a sequence of such things of one shape
along a new first axis. -/
inductive HoldsNumbers : Value → Grid Double → Prop
  | number {v : Value} {x : Double} (h : v.number? = some x) : HoldsNumbers v (.scalar x)
  | float64 (box : Box) (g : Grid Double) : HoldsNumbers (.numbers box (.float64 g)) g
  | float32 (box : Box) (g : Grid Double) : HoldsNumbers (.numbers box (.float32 g)) g
  | list {parts : List (Value × Grid Double)} {g : Grid Double} (hparts : ∀ p ∈ parts, HoldsNumbers p.1 p.2)
      (hg : Grid.stack (parts.map Prod.snd) = some g) : HoldsNumbers (.list (parts.map Prod.fst)) g
  | tuple {parts : List (Value × Grid Double)} {g : Grid Double} (hparts : ∀ p ∈ parts, HoldsNumbers p.1 p.2)
      (hg : Grid.stack (parts.map Prod.snd) = some g) : HoldsNumbers (.tuple (parts.map Prod.fst)) g

end Value

/-! ## Cells that are numbers -/

/-- The cells of an array are the numbers of a grid. -/
structure Elements.AreNumbers (es : Elements) (g : Grid Double) : Prop where
  kind : es.kind.width ≤ Kind.float.width
  cells : es.grid.map Value.number? = g.map some

namespace Elements.AreNumbers

variable {es : Elements} {g : Grid Double}

theorem data_eq (h : es.AreNumbers g) : es.grid.data.map Value.number? = g.data.map some :=
  congrArg Grid.data h.cells

theorem shape_eq (h : es.AreNumbers g) : es.grid.shape = g.shape :=
  (congrArg Grid.shape h.cells : (es.grid.map Value.number?).shape = _)

theorem single {v : Value} {x : Double} (h : v.number? = some x) : (single v).AreNumbers (.scalar x) where
  kind := Value.kind_of_number? h
  cells := Grid.ext rfl (by simp [Elements.single, Grid.scalar, h])

theorem ofNumbers {ns : Numbers} {cell : Double → Fixed} (hns : ns.cells = g.map cell)
    (hcell : ∀ x, Value.number? (.fixed (cell x)) = some x) (hkind : (Elements.ofNumbers ns).kind.width ≤ Kind.float.width) :
    (Elements.ofNumbers ns).AreNumbers g where
  kind := hkind
  cells := by
    show ((ns.cells.map Value.fixed).map Value.number?) = g.map some
    rw [hns]
    refine Grid.ext rfl ?_
    simp [hcell]

/-- **Stacks of numbers are numbers.** -/
theorem stack? {parts : List Elements} {gs : List (Grid Double)} (hparts : List.Forall₂ AreNumbers parts gs)
    (hg : Grid.stack gs = some g) (haxes : g.axes ≤ mostAxes) :
    ∃ es, Elements.stack? parts = some es ∧ es.AreNumbers g := by
  have hcells : (parts.map grid).map (Grid.map Value.number?) = gs.map (Grid.map some) := by
    clear hg
    induction hparts with
    | nil => rfl
    | cons h _ ih => simp [h.cells, ih]
  have hkinds : ∀ k ∈ parts.map Elements.kind, k.width ≤ Kind.float.width := by
    clear hg hcells
    induction hparts with
    | nil => simp
    | cons h _ ih => exact List.forall_mem_cons.2 ⟨h.kind, ih⟩
  have hstack : (Grid.stack (parts.map grid)).map (Grid.map Value.number?) = some (g.map some) := by
    rw [← Grid.stack_map, hcells, Grid.stack_map, hg]
    rfl
  obtain ⟨cells, hgrid, hmap⟩ := Option.map_eq_some_iff.1 hstack
  have hsame : cells.axes = g.axes := congrArg (fun g : Grid (Option Double) => g.shape.length) hmap
  refine ⟨⟨Kind.joinAll (parts.map Elements.kind), cells⟩, ?_, Kind.width_joinAll_le hkinds, hmap⟩
  rw [Elements.stack?, hgrid, Option.bind_some, if_pos (hsame ▸ haxes)]

/-- Cells that are numbers are read as those. -/
theorem traverse (h : es.AreNumbers g) : es.grid.traverse Value.toDouble = .ok g := by
  have key : ∀ {cells : List Value} {xs : List Double}, cells.map Value.number? = xs.map some →
      cells.mapM Value.toDouble = .ok xs := by
    intro cells xs hcells
    induction cells generalizing xs with
    | nil =>
      obtain rfl : xs = [] := by simpa using hcells.symm
      rfl
    | cons c cells ih =>
      cases xs with
      | nil => cases hcells
      | cons x xs =>
        obtain ⟨hc, hcells⟩ := List.cons.inj hcells
        rw [List.mapM_cons, Value.toDouble_of_number? hc, ok_bind, ih hcells]
        rfl
  exact Grid.traverse_eq_ok_iff.2 ⟨h.shape_eq.symm, key h.data_eq⟩

/-- They start with one that is not a number if the numbers do. -/
theorem startsWithNaN (h : es.AreNumbers g) (hwide : es.IsWide) :
    es.startsWithNaN = Contract.isMarked g.data := by
  have hdata := h.data_eq
  unfold Elements.startsWithNaN
  cases hcells : es.grid.data with
  | nil =>
    rw [hcells] at hdata
    obtain hnil : g.data = [] := by simpa using hdata.symm
    simp [hnil, Contract.isMarked]
  | cons c cells =>
    rw [hcells] at hdata
    cases hxs : g.data with
    | nil =>
      rw [hxs] at hdata
      cases hdata
    | cons x xs =>
      rw [hxs] at hdata
      have hc : c.number? = some x := (List.cons.inj hdata).1
      have hckind := hwide c (by rw [hcells]; exact List.mem_cons_self)
      have hkind := h.kind
      show ((es.kind == .float || es.kind == .complex) && c.isNaN) = x.isNaN
      rw [← Value.isNaN_of_number? hc]
      cases hk : es.kind with
      | float | complex => rfl
      | text | object => simp [hk, Kind.width] at hkind
      | bool =>
        rw [hk] at hckind
        rw [Value.isNaN_of_kind (Nat.le_trans hckind (by decide))]
        rfl
      | int =>
        rw [hk] at hckind
        rw [Value.isNaN_of_kind hckind]
        rfl

end Elements.AreNumbers

namespace Value

variable {v : Value} {g : Grid Double}

theorem elementsOfAll?_of_forall {parts : List (Value × Grid Double)}
    (h : ∀ p ∈ parts, ∃ es, p.1.elements? = some es ∧ es.AreNumbers p.2) :
    ∃ all, elementsOfAll? (parts.map Prod.fst) = some all ∧
      List.Forall₂ Elements.AreNumbers all (parts.map Prod.snd) := by
  induction parts with
  | nil => exact ⟨[], rfl, .nil⟩
  | cons p parts ih =>
    obtain ⟨⟨es, hes, hnumbers⟩, hparts⟩ := List.forall_mem_cons.1 h
    obtain ⟨all, hall, hrest⟩ := ih hparts
    refine ⟨es :: all, ?_, .cons hnumbers hrest⟩
    rw [List.map_cons, elementsOfAll?, hes, hall]

namespace HoldsNumbers

/-- **The elements of such a value are its numbers.** -/
theorem exists_elements (h : v.HoldsNumbers g) (haxes : g.axes ≤ Elements.mostAxes) :
    ∃ es, v.elements? = some es ∧ es.AreNumbers g := by
  -- a list and a tuple have the elements of their items, stacked
  have hitems : ∀ {parts : List (Value × Grid Double)} {g : Grid Double},
      (∀ p ∈ parts, p.2.axes ≤ Elements.mostAxes → ∃ es, p.1.elements? = some es ∧ es.AreNumbers p.2) →
      Grid.stack (parts.map Prod.snd) = some g → g.axes ≤ Elements.mostAxes →
      ∃ es, (elementsOfAll? (parts.map Prod.fst)).bind Elements.stack? = some es ∧ es.AreNumbers g := by
    intro parts g ih hg haxes
    have hparts : ∀ p ∈ parts, ∃ es, p.1.elements? = some es ∧ es.AreNumbers p.2 := by
      intro p hp
      have hless := Grid.axes_of_stack hg p.2 (List.mem_map_of_mem hp)
      exact ih p hp (by omega)
    obtain ⟨all, hall, hnumbers⟩ := elementsOfAll?_of_forall hparts
    obtain ⟨es, hes, hstacked⟩ := Elements.AreNumbers.stack? hnumbers hg haxes
    exact ⟨es, by rw [hall, Option.bind_some, hes], hstacked⟩
  induction h with
  | number h => exact ⟨_, elements?_of_number? h, .single h⟩
  | float64 box g => exact ⟨_, rfl, .ofNumbers rfl (fun _ => rfl) (Nat.le_refl _)⟩
  | float32 box g => exact ⟨_, rfl, .ofNumbers rfl (fun _ => rfl) (Nat.le_refl _)⟩
  | list _ hg ih => exact hitems ih hg haxes
  | tuple _ hg ih => exact hitems ih hg haxes

theorem text?_eq_none (h : v.HoldsNumbers g) : v.text? = none := by
  cases h with
  | number h =>
    cases v with
    | text s => cases h
    | _ => rfl
  | _ => rfl

theorem bool?_eq_none (h : v.HoldsNumbers g) : v.bool? = none := by
  cases h with
  | number h =>
    cases v with
    | bool b => cases h
    | fixed x =>
      cases x with
      | bool b => cases h
      | _ => rfl
    | _ => rfl
  | _ => rfl

/-- **They are read as what they are.** -/
theorem doubles?_eq (h : v.HoldsNumbers g) (haxes : g.axes ≤ Elements.mostAxes) : v.doubles? = .ok (some g) := by
  obtain ⟨es, hes, hnumbers⟩ := h.exists_elements haxes
  have hread : v.doubles = .ok g := by
    rw [doubles, elements_eq_ok_iff.2 hes]
    exact hnumbers.traverse
  exact doubles?_of_doubles hread h.text?_eq_none h.bool?_eq_none

theorem ne_absent (h : v.HoldsNumbers g) : v ≠ absent := by
  rintro rfl
  cases h with
  | number h => cases h

/-- **They are unset if the first of them is not a number.** -/
theorem isUnset_eq (h : v.HoldsNumbers g) (haxes : g.axes ≤ Elements.mostAxes) :
    v.isUnset = .ok (Contract.isMarked g.data) := by
  obtain ⟨es, hes, hnumbers⟩ := h.exists_elements haxes
  rw [Value.isUnset_eq h.ne_absent, elements_eq_ok_iff.2 hes, Except.map,
    hnumbers.startsWithNaN (isWide_of_elements? hes)]

end HoldsNumbers

end Value

end StructuralSeries
