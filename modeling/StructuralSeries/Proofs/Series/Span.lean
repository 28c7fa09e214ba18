import Mathlib.Data.List.DropRight
import StructuralSeries.Series

/-!
# The span of a series

A series is cut into three parts: missing values in front, the span from the first observation to the last, and
missing values behind. There is only one such cut (`Series.Trims`), and it is the one that `Series.trim?` makes.

The search goes by places: the first and the last observation of a series that is cut are at the two ends of its span
(`Trims.head?_places`, `Trims.getLast?_places`), and the slice between them is the span. That nothing has to be searched
where both ends are observed is the case of a cut that takes nothing off.
-/

namespace StructuralSeries.Series

/-- `z` is `y` without the missing values `before` and `after`, and it starts and ends with an observation. -/
structure Trims (y z : Series) (before after : List Double) : Prop where
  values_eq : y.values = before ++ z.values ++ after
  missing_before : ∀ x ∈ before, x.isNaN = true
  missing_after : ∀ x ∈ after, x.isNaN = true
  head_observed : (z.values.head z.nonempty).isNaN = false
  last_observed : (z.values.getLast z.nonempty).isNaN = false

theorem Trims.length_eq {y z : Series} {before after : List Double} (h : y.Trims z before after) :
    y.length = before.length + z.length + after.length := by
  unfold length
  rw [h.values_eq, List.length_append, List.length_append]

/-- Where nothing is cut off, the span is the series. -/
theorem Trims.eq_of_nil {y z : Series} (h : y.Trims z [] []) : z = y := by
  have hv := h.values_eq
  rw [List.nil_append, List.append_nil] at hv
  exact Series.ext hv.symm

/-! ## Places of observations -/

section Places

variable {first : Nat} {xs ys : List Double}

theorem placesFrom_append (first : Nat) (xs ys : List Double) :
    placesFrom first (xs ++ ys) = placesFrom first xs ++ placesFrom (first + xs.length) ys := by
  induction xs generalizing first with
  | nil => rfl
  | cons x xs ih =>
    have hnext : first + 1 + xs.length = first + (x :: xs).length := by
      rw [List.length_cons]
      omega
    rw [List.cons_append, placesFrom, placesFrom, ih, hnext]
    split
    · rfl
    · rfl

theorem placesFrom_eq_nil_iff : placesFrom first xs = [] ↔ ∀ x ∈ xs, x.isNaN = true := by
  induction xs generalizing first with
  | nil => simp [placesFrom]
  | cons x xs ih =>
    rw [placesFrom, List.forall_mem_cons]
    split
    · next hx => rw [ih, and_iff_right hx]
    · next hx => exact iff_of_false (List.cons_ne_nil _ _) fun h => hx h.1

theorem head?_placesFrom {h : xs ≠ []} (hx : (xs.head h).isNaN = false) : (placesFrom first xs).head? = some first := by
  obtain ⟨x, rest, rfl⟩ := List.exists_cons_of_ne_nil h
  have hx : x.isNaN = false := hx
  rw [placesFrom, hx]
  rfl

theorem getLast?_placesFrom {h : xs ≠ []} (hx : (xs.getLast h).isNaN = false) :
    (placesFrom first xs).getLast? = some (first + xs.length - 1) := by
  have hsplit : xs = xs.dropLast ++ [xs.getLast h] := (List.dropLast_concat_getLast h).symm
  have hpos : 0 < xs.length := List.length_pos_iff.2 h
  have hlast : placesFrom (first + xs.dropLast.length) [xs.getLast h] = [first + xs.dropLast.length] := by
    rw [placesFrom, hx]
    rfl
  rw [hsplit, placesFrom_append, hlast, List.getLast?_concat, ← hsplit, List.length_dropLast]
  congr 1
  omega

end Places

section Cut

variable {y z : Series} {before after : List Double}

/-- The observations of a series that is cut are those of its span. -/
theorem Trims.places_eq (h : y.Trims z before after) : y.places = placesFrom before.length z.values := by
  unfold places
  rw [h.values_eq, placesFrom_append, placesFrom_append, placesFrom_eq_nil_iff.2 h.missing_before,
    placesFrom_eq_nil_iff.2 h.missing_after, List.append_nil, List.nil_append, Nat.zero_add]

theorem Trims.head?_places (h : y.Trims z before after) : y.places.head? = some before.length := by
  rw [h.places_eq]
  exact head?_placesFrom h.head_observed

theorem Trims.getLast?_places (h : y.Trims z before after) :
    y.places.getLast? = some (before.length + z.length - 1) := by
  rw [h.places_eq]
  exact getLast?_placesFrom h.last_observed

/-- The values between the first and the last observation are the span. -/
theorem Trims.slice_eq (h : y.Trims z before after) :
    slice y.values before.length (before.length + z.length - 1) = z.values := by
  have hpos := z.length_pos
  have hcount : before.length + z.length - 1 + 1 - before.length = z.values.length := by
    have : z.values.length = z.length := rfl
    omega
  rw [slice, h.values_eq, hcount, List.append_assoc, List.drop_left, List.take_left]

theorem hasObservedEnds_iff :
    y.hasObservedEnds = true ↔
      (y.values.head y.nonempty).isNaN = false ∧ (y.values.getLast y.nonempty).isNaN = false := by
  simp [hasObservedEnds]

/-- A series that is cut has observed ends exactly if nothing is taken off. -/
theorem Trims.hasObservedEnds_iff (h : y.Trims z before after) :
    y.hasObservedEnds = true ↔ before = [] ∧ after = [] := by
  rw [Series.hasObservedEnds_iff]
  constructor
  · rintro ⟨hhead, hlast⟩
    constructor
    -- a value in front would be the first one, and one behind the last
    · by_contra hne
      have heq : y.values.head y.nonempty = before.head hne := by
        simp only [h.values_eq, List.append_assoc, List.head_append_of_ne_nil hne]
      rw [heq, h.missing_before _ (List.head_mem hne)] at hhead
      cases hhead
    · by_contra hne
      have heq : y.values.getLast y.nonempty = after.getLast hne := by
        simp only [h.values_eq, List.getLast_append_of_ne_nil _ hne]
      rw [heq, h.missing_after _ (List.getLast_mem hne)] at hlast
      cases hlast
  · rintro ⟨rfl, rfl⟩
    obtain rfl := h.eq_of_nil
    exact ⟨h.head_observed, h.last_observed⟩

/-- **The search finds the cut.** -/
theorem Trims.trim?_eq (h : y.Trims z before after) : y.trim? = some ⟨before.length, z, after.length⟩ := by
  have hlen := h.length_eq
  have hpos := z.length_pos
  unfold trim?
  split
  · next hends =>
    obtain ⟨rfl, rfl⟩ := h.hasObservedEnds_iff.1 hends
    rw [h.eq_of_nil]
    rfl
  · have hspan : ofList? z.values = some z := dif_neg z.nonempty
    have htrailing : y.length - 1 - (before.length + z.length - 1) = after.length := by omega
    rw [h.head?_places, h.getLast?_places]
    dsimp only
    rw [h.slice_eq, hspan, htrailing]
    rfl

/-- A series with an observation can be cut. -/
theorem exists_trims (hy : ∃ x ∈ y.values, x.isNaN = false) : ∃ z before after, y.Trims z before after := by
  obtain ⟨x, hx, hobserved⟩ := hy
  have hfront : y.values.dropWhile Double.isNaN ≠ [] := by
    rw [Ne, List.dropWhile_eq_nil_iff]
    intro hall
    rw [hall x hx] at hobserved
    cases hobserved
  have hhead : ((y.values.dropWhile Double.isNaN).head hfront).isNaN = false :=
    List.head_dropWhile_not Double.isNaN hfront
  have hspan : (y.values.dropWhile Double.isNaN).rdropWhile Double.isNaN ≠ [] := by
    rw [Ne, List.rdropWhile_eq_nil_iff]
    intro hall
    rw [hall _ (List.head_mem hfront)] at hhead
    cases hhead
  have hinitial := List.rdropWhile_prefix Double.isNaN (y.values.dropWhile Double.isNaN)
  refine ⟨⟨_, hspan⟩, y.values.takeWhile Double.isNaN, (y.values.dropWhile Double.isNaN).rtakeWhile Double.isNaN, ?_⟩
  exact
    { values_eq := by
        rw [List.append_assoc, List.rdropWhile_append_rtakeWhile, List.takeWhile_append_dropWhile]
      missing_before := fun x hx => List.mem_takeWhile_imp hx
      missing_after := fun x hx => List.mem_rtakeWhile_imp hx
      head_observed := by
        rw [hinitial.head hspan]
        exact hhead
      last_observed := Bool.eq_false_iff.2 (List.rdropWhile_last_not Double.isNaN _ hspan) }

end Cut

/-! ## The cut -/

variable {y : Series}

/-- **There is no span exactly if all values are missing.** -/
theorem trim?_eq_none_iff : y.trim? = none ↔ ∀ x ∈ y.values, x.isNaN = true := by
  constructor
  · intro h
    by_contra hall
    have hobserved : ∃ x ∈ y.values, x.isNaN = false := by simpa using hall
    obtain ⟨z, before, after, htrims⟩ := exists_trims hobserved
    rw [htrims.trim?_eq] at h
    cases h
  · intro hall
    have hends : ¬ y.hasObservedEnds = true := fun hc => by
      have hhead := (hasObservedEnds_iff.1 hc).1
      rw [hall _ (List.head_mem y.nonempty)] at hhead
      cases hhead
    have hplaces : y.places = [] := placesFrom_eq_nil_iff.2 hall
    rw [trim?, if_neg hends, hplaces]
    rfl

/-- **A span is the cut of its series**, with the lengths of what is cut off. -/
theorem trim?_eq_some_iff {span : Span} :
    y.trim? = some span ↔
      ∃ before after, y.Trims span.series before after ∧ span.leading = before.length ∧
        span.trailing = after.length := by
  constructor
  · intro h
    have hobserved : ∃ x ∈ y.values, x.isNaN = false := by
      by_contra hnone
      have hmissing : y.trim? = none := trim?_eq_none_iff.2 (by simpa using hnone)
      rw [hmissing] at h
      cases h
    obtain ⟨z, before, after, htrims⟩ := exists_trims hobserved
    rw [htrims.trim?_eq] at h
    cases h
    exact ⟨before, after, htrims, rfl, rfl⟩
  · rintro ⟨before, after, htrims, hleading, htrailing⟩
    rw [htrims.trim?_eq, ← hleading, ← htrailing]

end StructuralSeries.Series
