import StructuralSeries.Proofs.Settings.Kept
import StructuralSeries.Proofs.Value.Leaks
import StructuralSeries.Store

/-!
# Arrays of doubles are read as they are

A request writes its series, inputs, periods and parameters as arrays of doubles. Each reading of such an array gives
its cells: the strict reading of an option, the lenient reading of a series, and the contracts that are built on the
first one. An array whose first cell is not a number counts as unset, so a vector comes back only if its first number
is one; a vector that was read from numbers starts with one (`Contract.head_of_vector`).
-/

namespace StructuralSeries

/-! ## Rules that never fail -/

section Rule

variable {ε α β : Type} {f : α → Except ε β} {k : α → β}

theorem mapM_eq_ok_of_forall {as : List α} (h : ∀ a ∈ as, f a = .ok (k a)) : as.mapM f = .ok (as.map k) := by
  induction as with
  | nil => rfl
  | cons a as ih =>
    rw [List.mapM_cons, h a List.mem_cons_self, ok_bind, ih fun x hx => h x (List.mem_cons_of_mem _ hx)]
    rfl

end Rule

/-! ## Strict reading -/

namespace Value

variable {g : Grid Double}

theorem elements?_float64 (box : Box) (g : Grid Double) :
    (numbers box (.float64 g)).elements? = some ⟨.float, g.map fun x => fixed (.float64 x)⟩ := by
  rw [elements?]
  refine congrArg some (congrArg (Elements.mk Kind.float) (Grid.ext rfl ?_))
  show (g.data.map Fixed.float64).map fixed = _
  rw [List.map_map]
  rfl

theorem elements_float64 (box : Box) (g : Grid Double) :
    (numbers box (.float64 g)).elements = .ok ⟨.float, g.map fun x => fixed (.float64 x)⟩ :=
  elements_eq_ok_iff.2 (elements?_float64 box g)

theorem doubles_float64 (box : Box) (g : Grid Double) : (numbers box (.float64 g)).doubles = .ok g := by
  unfold doubles
  rw [elements_float64]
  refine Grid.traverse_eq_ok_iff.2 ⟨rfl, ?_⟩
  show (g.data.map fun x => fixed (.float64 x)).mapM toDouble = _
  rw [List.mapM_map, @mapM_eq_ok_of_forall _ _ _ (toDouble ∘ fun x => fixed (.float64 x)) id g.data fun _ _ => rfl,
    List.map_id]

theorem doubles?_float64 (box : Box) (g : Grid Double) : (numbers box (.float64 g)).doubles? = .ok (some g) := by
  simp only [doubles?, doubles_float64]

theorem isUnset_float64 (box : Box) (g : Grid Double) :
    (numbers box (.float64 g)).isUnset = .ok (g.data.head?.any Double.isNaN) := by
  rw [isUnset_eq (show numbers box (.float64 g) ≠ absent from nofun), elements_float64]
  refine congrArg Except.ok ?_
  show (true && (g.data.map fun x => fixed (.float64 x)).head?.any isNaN) = _
  rw [List.head?_map]
  cases g.data.head? <;> rfl

end Value

/-! ## Contracts -/

namespace Contract

/-- An array with axes keeps the contract of inputs, and it is what it means. -/
theorem inputs_float64 (box : Box) {g : Grid Double} (hne : g.axes ≠ 0) (hle : g.axes ≤ 2) :
    inputs (.numbers box (.float64 g)) = .ok (some (some g)) := by
  refine inputs_eq_some_iff.2 ⟨?_, Value.doubles?_float64 box g, hle⟩
  simp only [noInputs, Value.elements_float64]
  refine congrArg Except.ok ?_
  show (decide (g.axes = 0) && _) = _
  rw [decide_eq_false hne, Bool.false_and]

/-- A line of numbers that starts with a number is a vector. -/
theorem vector_lineValue {xs : List Double} (hne : xs ≠ []) (hhead : (xs.head hne).isNaN = false) :
    vector (Request.lineValue xs) = .ok (some (some xs)) := by
  refine vector_eq_some_iff.2 ⟨?_, .ofList xs, Value.doubles?_float64 _ _, ⟨Nat.le_refl 1, ?_⟩, rfl⟩
  · rw [Request.lineValue, Value.isUnset_float64]
    show Except.ok (xs.head?.any Double.isNaN) = _
    rw [List.head?_eq_some_head hne]
    exact congrArg Except.ok hhead
  · exact fun h => hne (List.length_eq_zero_iff.1 h)

end Contract

/-! ## Vectors of numbers -/

/-- Whether the first number is not a number. -/
def Contract.isMarked (xs : List Double) : Bool := xs.head?.any Double.isNaN

namespace Value

/-- Whether a value is made of numbers and truth values alone. -/
def IsNumeric (v : Value) : Prop := ∃ es, v.elements? = some es ∧ es.kind.width ≤ Kind.complex.width

theorem doubles_of_doubles? {v : Value} {g : Grid Double} (h : v.doubles? = .ok (some g)) : v.doubles = .ok g := by
  unfold doubles? at h
  split at h
  · cases h
  · cases h
  · cases h
  · split at h
    · next hg =>
      cases h
      exact hg
    · cases h
    · cases h

/-- A value that is no text and no truth value stands for the numbers that are read from it. -/
theorem doubles?_of_doubles {v : Value} {g : Grid Double} (h : v.doubles = .ok g) (htext : v.text? = none)
    (hbool : v.bool? = none) : v.doubles? = .ok (some g) := by
  unfold doubles?
  split
  · cases htext
  · cases hbool
  · cases hbool
  · rw [h]

/-- Whole numbers and truth values are numbers. -/
theorem isNaN_of_kind {c : Value} (h : c.kind.width ≤ Kind.int.width) : c.isNaN = false := by
  cases c with
  | float _ | complex _ => simp [kind, Kind.width] at h
  | fixed x =>
    cases x with
    | float64 _ | float32 _ | complex128 _ => simp [kind, Fixed.kind, Kind.width] at h
    | _ => rfl
  | _ => rfl

/-- A number is read as a number. -/
theorem isNaN_of_toDouble {c : Value} (hkind : c.kind.width ≤ Kind.complex.width) (hc : c.isNaN = false) {x : Double}
    (hx : c.toDouble = .ok x) : x.isNaN = false := by
  cases c with
  | bool b =>
    cases hx
    cases b <;> rfl
  | int n =>
    obtain ⟨-, rfl⟩ := wholeToDouble_eq_ok_iff.1 hx
    rfl
  | float y =>
    cases hx
    exact hc
  | complex z => cases hx
  | fixed y =>
    cases hx
    cases y with
    | float64 _ | float32 _ => exact hc
    | int64 _ | int8 _ => rfl
    | bool b => cases b <;> rfl
    | complex128 z =>
      simp only [isNaN, Bool.or_eq_false_iff] at hc
      exact hc.1
  | _ => exact absurd hkind (by simp [kind, Kind.width])

theorem isNaN_of_startsWithNaN {es : Elements} {c : Value} {cells : List Value} (hdata : es.grid.data = c :: cells)
    (hkind : c.kind.width ≤ es.kind.width) (hcomplex : es.kind.width ≤ Kind.complex.width)
    (hset : es.startsWithNaN = false) : c.isNaN = false := by
  unfold Elements.startsWithNaN at hset
  rw [hdata] at hset
  cases hk : es.kind with
  | bool => exact isNaN_of_kind (Nat.le_trans hkind (by rw [hk]; decide))
  | int => exact isNaN_of_kind (by rwa [hk] at hkind)
  | float | complex => simpa [hk] using hset
  | text | object => exact absurd hcomplex (by rw [hk]; decide)

/-- The value is given, its elements are no numbers, and yet the first of them is read as one that is not a number. -/
def HidesMark (v : Value) : Prop :=
  v ≠ .absent ∧ ∃ es c, v.elements? = some es ∧ Kind.complex.width < es.kind.width ∧
    es.grid.data.head? = some c ∧ c.toDouble = .ok .nan

section HidesMark

variable {v : Value} {es : Elements} {g : Grid Double}

theorem IsNumeric.not_hidesMark (h : v.IsNumeric) : ¬ v.HidesMark := by
  rintro ⟨-, es, c, hes, hkind, -, -⟩
  obtain ⟨es', hes', hcomplex⟩ := h
  obtain rfl := Option.some.inj (hes.symm.trans hes')
  omega

/-- A value that hides a mark is not marked itself. -/
theorem HidesMark.exists_elements (h : v.HidesMark) :
    ∃ es, v.elements = .ok es ∧ es.startsWithNaN = false := by
  obtain ⟨-, es, c, hes, hkind, -, -⟩ := h
  refine ⟨es, elements_eq_ok_iff.2 hes, ?_⟩
  unfold Elements.startsWithNaN
  cases hk : es.kind with
  | text | object => rfl
  | _ => simp [hk, Kind.width] at hkind

/-- **Numbers that are read from a value are marked if the value hides a mark**, unless the value itself is marked. -/
theorem isMarked_iff_hidesMark (habsent : v ≠ .absent) (hes : v.elements? = some es) (hset : es.startsWithNaN = false)
    (hg : v.doubles? = .ok (some g)) : Contract.isMarked g.data = true ↔ v.HidesMark := by
  have hread : es.grid.traverse toDouble = .ok g := by
    have hd := doubles_of_doubles? hg
    rwa [doubles, elements_eq_ok_iff.2 hes] at hd
  have hdata := (Grid.traverse_eq_ok_iff.1 hread).2
  cases hcells : es.grid.data with
  | nil =>
    rw [hcells] at hdata
    have hnil : g.data = [] := (Except.ok.inj hdata).symm
    refine iff_of_false (by simp [hnil, Contract.isMarked]) ?_
    rintro ⟨-, es', c, hes', -, hc, -⟩
    obtain rfl := Option.some.inj (hes.symm.trans hes')
    rw [hcells] at hc
    cases hc
  | cons c cells =>
    rw [hcells, List.mapM_cons] at hdata
    obtain ⟨x, hx, hdata⟩ := bind_eq_ok.1 hdata
    obtain ⟨rest, -, hdata⟩ := bind_eq_ok.1 hdata
    have hxs : g.data = x :: rest := (pure_eq_ok.1 hdata).symm
    have hhead : Contract.isMarked g.data = x.isNaN := by rw [hxs]; rfl
    rw [hhead]
    constructor
    · intro hnan
      obtain rfl : x = .nan := by
        cases x with
        | nan => rfl
        | signed s m => cases hnan
      refine ⟨habsent, es, c, hes, Nat.lt_of_not_le fun hcomplex => ?_, by rw [hcells]; rfl, hx⟩
      -- among numbers, only one that is not a number is read as one
      have hkind := isWide_of_elements? hes c (by rw [hcells]; exact List.mem_cons_self)
      have hnumber := isNaN_of_startsWithNaN hcells hkind hcomplex hset
      have hfalse := isNaN_of_toDouble (Nat.le_trans hkind hcomplex) hnumber hx
      rw [hnan] at hfalse
      cases hfalse
    · rintro ⟨-, es', c', hes', -, hc', hx'⟩
      obtain rfl := Option.some.inj (hes.symm.trans hes')
      rw [hcells] at hc'
      obtain rfl := Option.some.inj hc'
      rw [hx] at hx'
      cases hx'
      rfl

end HidesMark

end Value

namespace Contract

variable {v : Value} {xs : List Double}

/-- A vector is marked if the value that it is read from hides a mark. -/
theorem isMarked_of_vector_iff (h : vector v = .ok (some (some xs))) :
    isMarked xs = true ↔ v.HidesMark := by
  obtain ⟨hset, g, hg, -, rfl⟩ := vector_eq_some_iff.1 h
  have habsent : v ≠ .absent := by
    rintro rfl
    cases hset
  rw [Value.isUnset_eq habsent] at hset
  obtain ⟨es, hes, hset⟩ := map_eq_ok.1 hset
  exact Value.isMarked_iff_hidesMark habsent (Value.elements_eq_ok_iff.1 hes) hset hg

/-- **A vector that is made of numbers starts with a number.** -/
theorem head_of_vector (h : vector v = .ok (some (some xs))) (hv : v.IsNumeric) (hne : xs ≠ []) :
    (xs.head hne).isNaN = false := by
  have hmark : isMarked xs = false := by
    rw [← Bool.not_eq_true, isMarked_of_vector_iff h]
    exact hv.not_hidesMark
  rwa [isMarked, List.head?_eq_some_head hne] at hmark

end Contract

/-! ## Series -/

/-- Doubles that are kept as they are and write no whole numbers are read as they are. -/
theorem Value.observations_doubles [Text.Reader] {cell : Double → Value}
    (hread : ∀ x, (cell x).observationAmongNumbers = x)
    (hwhole : ∀ x, (cell x).wholeObservation? .float = none) {xs : List Double} (hxs : xs ≠ []) :
    observations .float (xs.map cell) = .ok xs := by
  obtain ⟨x, rest, rfl⟩ := List.exists_cons_of_ne_nil hxs
  have hnone : wholeObservations? .float ((x :: rest).map cell) = none := by
    rw [wholeObservations?, List.map_cons, List.mapM_cons, hwhole]
    rfl
  unfold observations
  rw [hnone]
  show ((x :: rest).map cell).mapM _ = _
  rw [List.mapM_map, @mapM_eq_ok_of_forall _ _ _ (observation .float ∘ cell) id (x :: rest) fun y _ =>
    congrArg Except.ok (hread y), List.map_id]

theorem Series.line?_ofList {α : Type} {as : List α} (h : as ≠ []) : line? (Grid.ofList as) = some as :=
  if_pos ⟨rfl, fun hsize => h (List.length_eq_zero_iff.1 hsize)⟩

/-- A line of numbers is a series as it is. -/
theorem Series.ofValue_lineValue [Text.Reader] (y : Series) : ofValue (Request.lineValue y.values) = .ok y := by
  have hcells : Value.observations .float (y.values.map fun x => .fixed (.float64 x)) = .ok y.values :=
    Value.observations_doubles (fun _ => rfl) (fun _ => rfl) y.nonempty
  have hgrid : (Grid.ofList y.values).map (fun x => Value.fixed (.float64 x)) =
      Grid.ofList (y.values.map fun x => .fixed (.float64 x)) :=
    Grid.ext (congrArg (fun n => [n]) (List.length_map _).symm) rfl
  have hne : y.values.map (fun x => Value.fixed (.float64 x)) ≠ [] := fun h => y.nonempty (List.map_eq_nil_iff.1 h)
  simp only [ofValue, Request.lineValue, Value.elements_float64, ok_bind, hgrid, line?_ofList hne]
  show (Value.observations .float _ >>= _) = _
  rw [hcells, ok_bind, ofList?, dif_neg y.nonempty]

end StructuralSeries
