import StructuralSeries.Proofs.Settings.NumberForms
import StructuralSeries.Proofs.Value.Truths

/-!
# Truth values given for numbers

A truth value that stands alone is refused where numbers along axes belong. Truth values along axes are not: they are
taken for ones and zeros, and then the contract of the setting is all that can refuse them. Only ragged sequences of
truth values are a fault. The three cases are `Settings.resolve_truths`.

An option that is added to a call is judged by its own contract if the call is accepted without it
(`Settings.resolve_insert_of_check`, `Settings.exists_resolve_insert`).
-/

namespace StructuralSeries

/-! ## One more option -/

namespace Supplied

variable {before after : List (String × Value)} {s t : Setting} {v : Value}

/-- A setting that is numbers along axes has no second name. -/
theorem ne_of_fresh {options : List (String × Value)} (hs : s ∈ Setting.arrays) (h : s.name ∉ names options) :
    ∀ o ∈ options, Setting.canonicalName o.1 ≠ s.name := by
  have hsingle : ∀ s ∈ Setting.arrays,
      s.name ∉ Setting.aliases.map Prod.fst ∧ s.name ∉ Setting.aliases.map Prod.snd := by
    decide
  exact ne_of_not_mem_names (hsingle s hs).1 (hsingle s hs).2 h

theorem value_canonical_insert (hs : s ∈ Setting.arrays) (h : s.name ∉ names (before ++ after)) :
    (canonical (before ++ (s.name, v) :: after)).value s = v := by
  rw [canonical_insert s.canonicalName_name]
  exact value_insert_self (fresh_canonical (ne_of_fresh hs h)).1

theorem value_canonical_insert_of_ne (h : t ≠ s) :
    (canonical (before ++ (s.name, v) :: after)).value t = (canonical (before ++ after)).value t := by
  rw [canonical_insert s.canonicalName_name, canonical_append]
  exact value_insert_of_ne h

end Supplied

namespace Settings

open Supplied

variable {before after : List (String × Value)} {s : Setting} {v : Value} {r : Settings}

/-- A call that is accepted has names that are right, and every setting keeps its contract. -/
theorem verdict_of_resolve {options : List (String × Value)} (h : (resolve options).result = .ok r) :
    nameRefusal? (names (canonical options)) = none ∧
      ∃ (d : Draft) (outlier : Double), d.Of (canonical options) ∧ d.outlier.toDouble = .ok outlier := by
  obtain ⟨supplied, d, horizon, outlier, hsupplied, hd, -, houtlier, -⟩ := resolve_eq_ok_iff.1 h
  obtain rfl : supplied = canonical options := eq_of_ofOptions hsupplied
  refine ⟨?_, d, outlier, hd, houtlier⟩
  rw [ofOptions_eq] at hsupplied
  split at hsupplied
  · cases hsupplied
  · assumption

/-- One more option does not make the names of an accepted call wrong. -/
theorem nameRefusal?_of_accepted (hs : s ∈ Setting.arrays) (hfresh : s.name ∉ names (before ++ after))
    (hbase : (resolve (before ++ after)).result = .ok r) :
    nameRefusal? (names (canonical (before ++ (s.name, v) :: after))) = none :=
  (nameRefusal?_insert_option s.canonicalName_name (ne_of_fresh hs hfresh)).trans (verdict_of_resolve hbase).1

/-- **An option that fails its check fails the call in the same way**, if the call is accepted without it. -/
theorem resolve_insert_of_check (hs : s ∈ Setting.arrays) (hfresh : s.name ∉ names (before ++ after))
    (hbase : (resolve (before ++ after)).result = .ok r) {e : Fault}
    (hcheck : (canonical (before ++ (s.name, v) :: after)).check s = .error e) :
    resolve (before ++ (s.name, v) :: after) = .ofExcept (.error e) := by
  obtain ⟨-, d, outlier, hd, -⟩ := verdict_of_resolve hbase
  -- no setting before it in the table fails
  obtain ⟨earlier, later, hall, hnot⟩ := List.eq_append_cons_of_mem (Setting.mem_all s)
  have hdraft : (canonical (before ++ (s.name, v) :: after)).draft = .error e := by
    refine draft_eq_error_iff.2 ⟨earlier, s, later, hall, fun t ht => ?_, hcheck⟩
    rw [value_canonical_insert_of_ne fun heq : t = s => hnot (heq ▸ ht)]
    exact exists_draft_iff.1 ⟨d, hd⟩ t
  rw [resolve_of_names (nameRefusal?_of_accepted hs hfresh hbase), hdraft]
  rfl

/-- **An option that keeps its contract is accepted**, if the call is accepted without it. -/
theorem exists_resolve_insert (hs : s ∈ Setting.arrays) (hfresh : s.name ∉ names (before ++ after))
    (hbase : (resolve (before ++ after)).result = .ok r) (hv : s.verdict v = .ok true) :
    ∃ (d : Draft) (horizon : Option Int) (outlier : Double), d.Of (canonical (before ++ (s.name, v) :: after)) ∧
      (resolve (before ++ (s.name, v) :: after)).result = .ok (d.settled horizon outlier) := by
  obtain ⟨-, d, outlier, hd, houtlier⟩ := verdict_of_resolve hbase
  have hkept : ∀ t : Setting, t.verdict ((canonical (before ++ (s.name, v) :: after)).value t) = .ok true := by
    intro t
    by_cases heq : t = s
    · rw [heq, value_canonical_insert hs hfresh, hv]
    · rw [value_canonical_insert_of_ne heq]
      exact exists_draft_iff.1 ⟨d, hd⟩ t
  obtain ⟨d', hd'⟩ := exists_draft_iff.2 hkept
  have hsame : d'.outlier = d.outlier := by
    have hreal := hd'.outlier
    rw [value_canonical_insert_of_ne (by rintro rfl; exact absurd hs (by decide)), hd.outlier] at hreal
    exact (Option.some.inj (Except.ok.inj hreal)).symm
  obtain ⟨horizon, hhorizon⟩ := Draft.exists_wholeHorizon d'.horizon
  refine ⟨d', horizon, outlier, hd',
    resolve_eq_ok_iff.2 ⟨_, d', horizon, outlier, ?_, hd', hhorizon, hsame ▸ houtlier, rfl⟩⟩
  rw [ofOptions_eq, nameRefusal?_of_accepted hs hfresh hbase]

end Settings

/-! ## Contracts of truth values -/

namespace Contract

variable {v : Value} {es : Elements} {numbers : Option (Grid Double)}

theorem inputs_of_truths (h : v.OnlyTruths) (hes : v.elements? = some es) (hread : v.doubles? = .ok numbers) :
    inputs v = .ok (numbers.bind fun g => if g.axes ≤ 2 then some (some g) else none) := by
  unfold inputs
  rw [noInputs_eq h.ne_absent, Value.elements_eq_ok_iff.2 hes, hread]
  simp only [Except.map, h.startsWithNaN hes, Bool.and_false]
  cases numbers <;> rfl

theorem vector_of_truths (h : v.OnlyTruths) (hes : v.elements? = some es) (hread : v.doubles? = .ok numbers) :
    vector v = .ok (numbers.bind fun g => if g.axes ≤ 1 ∧ g.size ≠ 0 then some (some g.data) else none) := by
  unfold vector
  rw [h.isUnset_eq hes, hread]
  cases numbers <;> rfl

/-- Among ones and zeros, only a single one can be periods. -/
theorem arePeriods_truths {cells : List Value} (hne : cells ≠ []) :
    arePeriods (cells.map Value.truth) = true ↔ cells.map Value.truth = [.one] := by
  rw [arePeriods_iff]
  constructor
  · rintro ⟨hpos, hnodup⟩
    have hones : ∀ x ∈ cells.map Value.truth, x = .one := by
      intro x hx
      obtain ⟨c, -, rfl⟩ := List.mem_map.1 hx
      refine c.truth_eq_or.resolve_right fun hzero => ?_
      have hlt := (hpos _ hx).2
      rw [hzero] at hlt
      exact absurd hlt (by decide +kernel)
    cases cells with
    | nil => exact absurd rfl hne
    | cons c cells =>
      obtain ⟨hc, hrest⟩ := List.forall_mem_cons.1 hones
      cases cells with
      | nil => exact congrArg (fun x => [x]) hc
      | cons c' cells =>
        have hc' := (List.forall_mem_cons.1 hrest).1
        exact absurd (hc'.trans hc.symm) fun heq => (List.nodup_cons.1 hnodup).1 (heq ▸ List.mem_cons_self)
  · intro hone
    rw [hone]
    exact ⟨by decide +kernel, List.nodup_singleton _⟩

/-- Ones and zeros are periods if there is nothing but a single one. -/
theorem periods_of_truths (h : v.OnlyTruths) (hes : v.elements? = some es)
    (hread : v.doubles? = .ok (some (es.grid.map Value.truth))) :
    periods v = .ok (if es.grid.axes ≤ 1 ∧ es.grid.data.map Value.truth = [.one] then
      some (some (es.grid.data.map Value.truth)) else none) := by
  unfold periods
  rw [vector_of_truths h hes hread, ok_bind, Option.bind_some]
  by_cases haxes : es.grid.axes ≤ 1
  · by_cases hne : es.grid.data = []
    · have hsize : ¬ ((es.grid.map Value.truth).axes ≤ 1 ∧ (es.grid.map Value.truth).size ≠ 0) := by
        rintro ⟨-, hsize⟩
        exact hsize (by simp [Grid.size, hne])
      rw [if_neg hsize, if_neg (by simp [hne])]
      rfl
    · have hline : (es.grid.map Value.truth).axes ≤ 1 ∧ (es.grid.map Value.truth).size ≠ 0 :=
        ⟨haxes, by simpa [Grid.size] using hne⟩
      rw [if_pos hline]
      show Except.ok (if arePeriods (es.grid.data.map Value.truth) = true then _ else _) = _
      simp only [arePeriods_truths hne, haxes, true_and]
      rfl
  · rw [if_neg fun hline => haxes hline.1, if_neg fun hone => haxes hone.1]
    rfl

end Contract

namespace Setting

/-- Ones and zeros keep the contract of a setting that is numbers along axes. -/
def TakesTruths : Setting → Grid Double → Prop
  | inputs, g => g.axes ≤ 2
  | periods, g => g.axes ≤ 1 ∧ g.data = [.one]
  | initial, g | fixed, g => g.axes ≤ 1 ∧ g.size ≠ 0
  | _, _ => False

/-- Numbers as the value of a setting that is numbers along axes. -/
def numbersValue : Setting → Grid Double → Value
  | inputs, g => .numbers .array (.float64 g)
  | _, g => Request.lineValue g.data

variable {s : Setting} {v : Value} {es : Elements}

/-- A single truth value breaks the contract. -/
theorem verdict_of_truth (hs : s ∈ arrays) {b : Bool} (h : v.bool? = some b) : s.verdict v = .ok false := by
  have hsingle : ∃ es, v.elements? = some es := by
    rcases Value.bool?_eq_some_iff.1 h with rfl | rfl <;> exact ⟨_, rfl⟩
  obtain ⟨es, hes⟩ := hsingle
  have hread := Value.doubles?_of_bool? h
  have hinputs := Contract.inputs_of_truths (.single h) hes hread
  have hvector := Contract.vector_of_truths (.single h) hes hread
  simp only [arrays, List.mem_cons, List.not_mem_nil, or_false] at hs
  rcases hs with rfl | rfl | rfl | rfl
  · exact congrArg (Except.map _) hinputs
  · show (Contract.periods v).map _ = _
    rw [Contract.periods, hvector]
    rfl
  · exact congrArg (Except.map _) hvector
  · exact congrArg (Except.map _) hvector

/-- A reading that gives something under a condition, and else finds the contract broken. -/
theorem reading_cases {α : Type} {read : Except Fault (Option (Option α))} {a : α} {P : Prop} [Decidable P]
    (h : read = .ok (if P then some (some a) else none)) :
    (P → read.map (·.isSome) = .ok true ∧ ∀ p, read = .ok (some p) → p = some a) ∧
      (¬ P → read.map (·.isSome) = .ok false) := by
  constructor
  · intro hP
    rw [h, if_pos hP]
    exact ⟨rfl, fun p hp => (Option.some.inj (Except.ok.inj hp)).symm⟩
  · intro hP
    rw [h, if_neg hP]
    rfl

/-- **Truth values along axes are judged as ones and zeros**, and they are those once they are resolved. -/
theorem settles_truths (hs : s ∈ arrays) (h : v.OnlyTruths) (hbool : v.bool? = none) (hes : v.elements? = some es) :
    (s.TakesTruths (es.grid.map Value.truth) → s.verdict v = .ok true ∧
      ∀ {supplied : Supplied} {d : Draft}, d.Of supplied → supplied.value s = v → ∀ horizon outlier,
        (d.settled horizon outlier).value s = s.numbersValue (es.grid.map Value.truth)) ∧
    (¬ s.TakesTruths (es.grid.map Value.truth) → s.verdict v = .ok false) := by
  have hread := h.doubles?_eq_some hbool hes
  have hinputs := Contract.inputs_of_truths h hes hread
  have hvector := Contract.vector_of_truths h hes hread
  have hperiods := Contract.periods_of_truths h hes hread
  rw [Option.bind_some] at hinputs hvector
  simp only [arrays, List.mem_cons, List.not_mem_nil, or_false] at hs
  rcases hs with rfl | rfl | rfl | rfl
  · obtain ⟨hkept, hbroken⟩ := reading_cases hinputs
    exact ⟨fun htakes => ⟨(hkept htakes).1, fun hd hv _ _ =>
      congrArg Settings.inputsValue ((hkept htakes).2 _ (hv ▸ hd.inputs))⟩, hbroken⟩
  · obtain ⟨hkept, hbroken⟩ := reading_cases hperiods
    exact ⟨fun htakes => ⟨(hkept htakes).1, fun hd hv _ _ =>
      congrArg Request.optionalLine ((hkept htakes).2 _ (hv ▸ hd.periods))⟩, hbroken⟩
  · obtain ⟨hkept, hbroken⟩ := reading_cases hvector
    exact ⟨fun htakes => ⟨(hkept htakes).1, fun hd hv _ _ =>
      congrArg Request.optionalLine ((hkept htakes).2 _ (hv ▸ hd.initial))⟩, hbroken⟩
  · obtain ⟨hkept, hbroken⟩ := reading_cases hvector
    exact ⟨fun htakes => ⟨(hkept htakes).1, fun hd hv _ _ =>
      congrArg Request.optionalLine ((hkept htakes).2 _ (hv ▸ hd.fixed))⟩, hbroken⟩

/-- A ragged value is a fault. -/
theorem verdict_of_ragged (hs : s ∈ arrays) (hes : v.elements? = none) : s.verdict v = .error .ragged := by
  rw [verdict_eq_error_iff]
  simp only [arrays, List.mem_cons, List.not_mem_nil, or_false] at hs
  rcases hs with rfl | rfl | rfl | rfl <;> exact .ragged hes

end Setting

namespace Settings

open Supplied

variable {before after : List (String × Value)} {s : Setting} {v : Value} {r : Settings}

/-- An option that breaks its contract and can be shown is refused, if the call is accepted without it. -/
theorem resolve_insert_of_broken (hs : s ∈ Setting.arrays) (hfresh : s.name ∉ names (before ++ after))
    (hbase : (resolve (before ++ after)).result = .ok r) (hv : s.verdict v = .ok false)
    (hshow : v.isShowable = true) : resolve (before ++ (s.name, v) :: after) = refusal s v := by
  refine resolve_insert_of_check hs hfresh hbase (check_eq_error_iff.2 (Or.inr ?_))
  have hvalue := value_canonical_insert (v := v) hs hfresh
  rw [broken_of_isShowable (hvalue.symm ▸ hshow), hvalue]
  exact ⟨hv, rfl⟩

/-- **Truth values that are given for numbers.**

A value of truth values is given for a setting that is numbers along axes, in a call that is accepted without it. A
single truth value stands for no numbers, and it is refused. A ragged value stands for none either, and it is a fault.
Any other value stands for ones and zeros, and the setting is these if they keep its contract: two axes at most for
inputs, a vector of at least one for parameters, a single one for periods. If they do not, then the value is refused. -/
theorem resolve_truths (hv : v.OnlyTruths) (hs : s ∈ Setting.arrays) (hfresh : s.name ∉ names (before ++ after))
    (hbase : (resolve (before ++ after)).result = .ok r) :
    (∀ b, v.bool? = some b →
      v.doubles? = .ok none ∧ resolve (before ++ (s.name, v) :: after) = refusal s v) ∧
    (v.elements? = none →
      v.doubles? = .ok none ∧ resolve (before ++ (s.name, v) :: after) = .ofExcept (.error .ragged)) ∧
    (∀ es, v.bool? = none → v.elements? = some es → v.doubles? = .ok (some (es.grid.map Value.truth)) ∧
      (s.TakesTruths (es.grid.map Value.truth) →
        ∃ r', (resolve (before ++ (s.name, v) :: after)).result = .ok r' ∧
          r'.value s = s.numbersValue (es.grid.map Value.truth)) ∧
      (¬ s.TakesTruths (es.grid.map Value.truth) →
        resolve (before ++ (s.name, v) :: after) = refusal s v)) := by
  refine ⟨fun b hb => ⟨Value.doubles?_of_bool? hb, ?_⟩, fun hes => ⟨hv.doubles?_of_ragged hes, ?_⟩,
    fun es hbool hes => ⟨hv.doubles?_eq_some hbool hes, fun htakes => ?_, fun htakes => ?_⟩⟩
  · exact resolve_insert_of_broken hs hfresh hbase (Setting.verdict_of_truth hs hb) hv.isShowable
  · refine resolve_insert_of_check hs hfresh hbase (check_eq_error_iff.2 (Or.inl ?_))
    rw [value_canonical_insert hs hfresh]
    exact Setting.verdict_of_ragged hs hes
  · obtain ⟨hkept, hvalue⟩ := (Setting.settles_truths hs hv hbool hes).1 htakes
    obtain ⟨d, horizon, outlier, hd, hr⟩ := exists_resolve_insert hs hfresh hbase hkept
    exact ⟨_, hr, hvalue hd (value_canonical_insert hs hfresh) horizon outlier⟩
  · exact resolve_insert_of_broken hs hfresh hbase ((Setting.settles_truths hs hv hbool hes).2 htakes) hv.isShowable

/-- Two truth values in a list are initial parameters, and one that stands alone is none. -/
theorem resolve_truths_two :
    (∃ r, (resolve [("h", .int 3), ("p0", .list [.bool true, .fixed (.bool false)])]).result = .ok r ∧
      r.value .initial = Request.lineValue [.one, .zero]) ∧
    resolve [("h", .int 3), ("p0", .bool true)] = refusal .initial (.bool true) := by
  have hbase : ∃ r, (resolve ([("h", .int 3)] ++ [])).result = .ok r := by
    have hok : (resolve ([("h", .int 3)] ++ [])).result.toOption.map Settings.horizon = some (some 3) := by
      decide +kernel
    obtain ⟨r, hr, -⟩ := exists_of_toOption_map hok
    exact ⟨r, hr⟩
  obtain ⟨r, hr⟩ := hbase
  constructor
  · have htruths : (Value.list [.bool true, .fixed (.bool false)]).OnlyTruths := by
      refine .list ?_
      simp only [List.forall_mem_cons]
      exact ⟨.single rfl, .single rfl, fun v hv => absurd hv List.not_mem_nil⟩
    obtain ⟨-, -, hnumbers⟩ := @resolve_truths [("h", .int 3)] [] .initial _ r htruths (by decide) (by decide) hr
    exact (hnumbers _ rfl rfl).2.1 ⟨by decide, by decide⟩
  · obtain ⟨hsingle, -⟩ := @resolve_truths [("h", .int 3)] [] .initial (.bool true) r (.single rfl) (by decide)
      (by decide) hr
    exact (hsingle true rfl).2

end Settings

end StructuralSeries
