import Mathlib.Data.List.Nodup
import StructuralSeries.Proofs.Settings.Names
import StructuralSeries.Proofs.Value.Arrays

/-!
# Settings written as options

Whoever knows what a setting means can write it as an option: a matrix or a vector as an array, a horizon as a whole
number, a name as text. Each contract reads such a value as what was written, and options that give different settings
by their own names are accepted as they stand.
-/

namespace StructuralSeries

/-! ## Names -/

namespace Supplied

/-- The options that give settings by their names. -/
def named (settings : List Setting) (value : Setting → Value) : List (String × Value) :=
  settings.map fun s => (s.name, value s)

variable {settings : List Setting} {value : Setting → Value}

/-- **Different settings by their own names are accepted as they stand.** -/
theorem ofOptions_named (h : settings.Nodup) : ofOptions (named settings value) = .ok (named settings value) := by
  have hcanonical : canonical (named settings value) = named settings value := by
    rw [canonical, named, List.map_map]
    exact List.map_congr_left fun s _ => congrArg (fun n => (n, value s)) s.canonicalName_name
  have hnames : names (named settings value) = settings.map Setting.name := List.map_map
  have hnone : nameRefusal? (settings.map Setting.name) = none := by
    refine nameRefusal?_eq_none_iff.2 ⟨h.map Setting.name_injective, fun n hn => ?_⟩
    obtain ⟨s, -, rfl⟩ := List.mem_map.1 hn
    exact s.isName_name
  rw [ofOptions_eq, hcanonical, hnames, hnone]

theorem lookup_named (s : Setting) :
    (named settings value).lookup s.name = if s ∈ settings then some (value s) else none := by
  induction settings with
  | nil => rfl
  | cons t settings ih =>
    rw [named, List.map_cons, List.lookup_cons]
    by_cases hst : s = t
    · subst hst
      simp
    · have hne : (s.name == t.name) = false := by simpa using fun h => hst (Setting.name_injective h)
      rw [hne]
      show (named settings value).lookup s.name = _
      rw [ih]
      simp [hst]

/-- A setting has the value that is written, or else its default. -/
theorem value_named (s : Setting) :
    Supplied.value (named settings value) s = if s ∈ settings then value s else s.default := by
  rw [Supplied.value, lookup_named]
  split <;> rfl

end Supplied

/-! ## Values -/

namespace Contract

/-- Parameters that are written come back, if they start with a number. -/
theorem vector_optionalLine {p : Option (List Double)}
    (h : ∀ xs ∈ p, ∃ hne : xs ≠ [], (xs.head hne).isNaN = false) :
    vector (Request.optionalLine p) = .ok (some p) := by
  cases p with
  | none => exact vector_eq_none_iff.2 rfl
  | some xs =>
    obtain ⟨hne, hhead⟩ := h xs rfl
    exact vector_lineValue hne hhead

theorem isNaN_of_arePeriods {xs : List Double} (h : arePeriods xs = true) (hne : xs ≠ []) :
    (xs.head hne).isNaN = false := by
  have hpos := pos_of_arePeriods h _ (List.head_mem hne)
  cases hx : xs.head hne with
  | nan =>
    rw [hx] at hpos
    simp [Double.lt, Double.place] at hpos
  | signed s m => rfl

theorem periods_lineValue {xs : List Double} (hne : xs ≠ []) (h : arePeriods xs = true) :
    periods (Request.lineValue xs) = .ok (some (some xs)) :=
  periods_eq_some_iff.2 ⟨vector_lineValue hne (isNaN_of_arePeriods h hne), h⟩

/-- A whole number is a horizon, if it is not negative and a double can be that large. -/
theorem horizon_int {n : Int} (hpos : 0 ≤ n) (hbound : n.natAbs < Double.wholeBound) :
    horizon (.int n) = .ok (some (some (.whole n))) := by
  have hdouble : Value.wholeToDouble n = .ok (.ofInt n) := Value.wholeToDouble_eq_ok_iff.2 ⟨hbound, rfl⟩
  have hfinite : (Double.ofInt n).isFinite = true := Double.isFinite_ofInt_iff.2 hbound
  have hnonneg : Double.zero.le (.ofInt n) = true := Double.zero_le_ofInt_iff.2 hpos
  simp only [horizon, Value.real?, Value.Real.toDouble, hdouble, ok_bind, hfinite, hnonneg, Bool.and_self, if_true]
  rfl

theorem criterion_name (c : Criterion) : criterion (.text c.name) = .ok (some c) := by
  cases c <;> decide +kernel

end Contract

end StructuralSeries
