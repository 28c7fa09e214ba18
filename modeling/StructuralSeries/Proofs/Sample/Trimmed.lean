import StructuralSeries.Proofs.Sample.Prepared

/-!
# Trimming is exact

A series that is cut into missing values, a span with observed ends, and missing values again is trimmed to that span.
Real inputs keep the columns of the span in their places, other inputs stay, and the numbers of missing values on the
two sides are what the notice says. Without missing ends nothing is touched, and a series is refused exactly if all of
its values are missing (`Sample.trimming_exact`).

All of this is read off one equation (`Sample.ofSeries_of_trims`), which gives the report on a series that is cut.
-/

namespace StructuralSeries

namespace Inputs

variable {u : Inputs} {first count j : Nat}

theorem getElem?_window (h : j < count) : (u.window first count).columns[j]? = u.columns[first + j]? := by
  show ((u.columns.drop first).take count)[j]? = _
  rw [List.getElem?_take_of_lt h, List.getElem?_drop]

/-- The columns of a window that lies within the matrix are there. -/
theorem exists_column (h : first + count ≤ u.width) (hj : j < count) : ∃ c, u.columns[first + j]? = some c := by
  have hlt : first + j < u.columns.length := by
    have : u.columns.length = u.width := rfl
    omega
  exact ⟨_, List.getElem?_eq_getElem hlt⟩

end Inputs

namespace Sample

/-! ## The report on a series that is cut -/

section Report

variable {y z : Series} {u : Inputs} {horizon : Option Int} {silent : Bool} {before after : List Double}

/-- **A series that is cut is reported with its span**, and as it is if nothing is cut off. -/
theorem ofSeries_of_trims (h : y.Trims z before after) (u : Inputs) (horizon : Option Int) (silent : Bool) :
    ofSeries y u horizon silent =
      if before = [] ∧ after = [] then .ok ⟨y, u, horizon⟩
      else ⟨.ok ⟨z, cut u ⟨before.length, z, after.length⟩, horizon⟩,
        if silent then [] else [.trimmed before.length after.length], []⟩ := by
  have hspan : y.trim? = some ⟨before.length, z, after.length⟩ := Series.trim?_eq_some_iff.2 ⟨_, _, h, rfl, rfl⟩
  have hzero : before.length = 0 ∧ after.length = 0 ↔ before = [] ∧ after = [] := by
    rw [List.length_eq_zero_iff, List.length_eq_zero_iff]
  unfold ofSeries
  rw [hspan]
  dsimp only
  by_cases hnil : before = [] ∧ after = []
  · rw [if_pos hnil, if_pos (hzero.2 hnil)]
  · rw [if_neg hnil, if_neg fun hc => hnil (hzero.1 hc)]
    -- the notice is all that is said
    exact congrArg (fun ns => Report.mk _ ns _) (List.append_nil _)

theorem ofSeries_of_all_missing (h : ∀ x ∈ y.values, x.isNaN = true) (u : Inputs) (horizon : Option Int)
    (silent : Bool) : ofSeries y u horizon silent = .ofExcept (.error (.refused .seriesAllMissing)) := by
  unfold ofSeries
  rw [Series.trim?_eq_none_iff.2 h]

end Report

/-! ## What is left of a series and its inputs -/

/-- The sample is what is left of a series `y` and inputs `u` when the missing values `before` and `after` of the series
are cut off and the values `span` stay. -/
structure CutFrom (sample : Sample) (y : Series) (u : Inputs) (before span after : List Double) : Prop where
  values : sample.series.values = span
  height : sample.inputs.height = u.height
  /-- Real inputs have the columns of the span, each in the place of its value. -/
  columns : 2 < u.width → ∀ j < span.length, ∃ c, u.columns[before.length + j]? = some c ∧
    sample.inputs.columns[j]? = some c
  /-- And no other columns if anything is cut off. -/
  width : 2 < u.width → 0 < before.length + after.length → sample.inputs.width = span.length
  idle : u.width ≤ 2 → sample.inputs = u
  untouched : before.length + after.length = 0 → sample.series = y ∧ sample.inputs = u

section Cut

variable {y z : Series} {u : Inputs} {before after : List Double}

theorem cutFrom_self (h : y.Trims z [] []) (hfits : 2 < u.width → y.length ≤ u.width) (horizon : Option Int) :
    CutFrom ⟨y, u, horizon⟩ y u [] z.values [] where
  values := by rw [h.eq_of_nil]
  height := rfl
  columns := fun hwide j hj => by
    rw [h.eq_of_nil] at hj
    have hle := hfits hwide
    obtain ⟨c, hc⟩ := Inputs.exists_column (by omega : 0 + y.length ≤ u.width) hj
    exact ⟨c, hc, by simpa using hc⟩
  width := fun _ hpos => absurd hpos (Nat.lt_irrefl 0)
  idle := fun _ => rfl
  untouched := fun _ => ⟨rfl, rfl⟩

theorem cutFrom_cut (h : y.Trims z before after) (hne : ¬ (before = [] ∧ after = []))
    (hfits : 2 < u.width → y.length ≤ u.width) (horizon : Option Int) :
    CutFrom ⟨z, cut u ⟨before.length, z, after.length⟩, horizon⟩ y u before z.values after := by
  have hlen := h.length_eq
  by_cases hwide : 2 < u.width
  · have hle := hfits hwide
    have hinside : before.length + z.values.length ≤ u.width := by
      have : z.values.length = z.length := rfl
      omega
    have hcut : cut u ⟨before.length, z, after.length⟩ = u.window before.length z.values.length :=
      if_pos (Inputs.isReal_iff.2 hwide)
    rw [hcut]
    exact
      { values := rfl
        height := rfl
        columns := fun _ j hj => by
          obtain ⟨c, hc⟩ := Inputs.exists_column hinside hj
          exact ⟨c, hc, (Inputs.getElem?_window hj).trans hc⟩
        width := fun _ _ => Inputs.width_window hinside
        idle := fun hidle => absurd hwide (Nat.not_lt.2 hidle)
        untouched := fun hz => absurd (by simpa using hz) hne }
  · have hcut : cut u ⟨before.length, z, after.length⟩ = u := if_neg (fun hr => hwide (Inputs.isReal_iff.1 hr))
    rw [hcut]
    exact
      { values := rfl
        height := rfl
        columns := fun h => absurd h hwide
        width := fun h => absurd h hwide
        idle := fun _ => rfl
        untouched := fun hz => absurd (by simpa using hz) hne }

/-- A sample is cut from its series and its inputs. -/
theorem exists_cutFrom {horizon : Option Int} {silent : Bool} {sample : Sample}
    (h : (ofSeries y u horizon silent).result = .ok sample) (hfits : 2 < u.width → y.length ≤ u.width) :
    ∃ before after, y.Trims sample.series before after ∧ sample.CutFrom y u before sample.series.values after := by
  obtain ⟨before, after, htrims, -⟩ := exists_trims h
  refine ⟨before, after, htrims, ?_⟩
  rw [ofSeries_of_trims htrims] at h
  split at h
  · next hnil =>
    obtain ⟨rfl, rfl⟩ := hnil
    cases h
    exact cutFrom_self htrims hfits horizon
  · next hne =>
    have hcut := cutFrom_cut htrims hne hfits horizon
    rwa [Except.ok.inj h] at hcut

/-- Inputs stay real unless the span that is left is as short as those that are not. -/
theorem CutFrom.isReal_iff {sample : Sample} {span : List Double} (h : sample.CutFrom y u before span after) :
    sample.inputs.isReal = true ↔ 2 < u.width ∧ (before.length + after.length = 0 ∨ 2 < span.length) := by
  rw [Inputs.isReal_iff]
  by_cases hwide : 2 < u.width
  · rw [and_iff_right hwide]
    by_cases hz : before.length + after.length = 0
    · rw [(h.untouched hz).2]
      exact iff_of_true hwide (Or.inl hz)
    · rw [h.width hwide (Nat.pos_of_ne_zero hz), or_iff_right hz]
  · rw [h.idle (Nat.le_of_not_lt hwide)]
    exact iff_of_false hwide fun hc => hwide hc.1

end Cut

/-! ## Trimming -/

/-- **Trimming is exact.** However a series is written as missing values, values with observed ends, and missing values,
the values in the middle are its trimmed series, with their columns of real inputs, and the notice counts the others. A
series is refused exactly if it has no such middle, all its values being missing. -/
theorem trimming_exact {y : Series} {u : Inputs} (hfits : 2 < u.width → y.length ≤ u.width) (horizon : Option Int)
    (silent : Bool) :
    (∀ (before span after : List Double) (hspan : span ≠ []), y.values = before ++ span ++ after →
        (∀ x ∈ before, x.isNaN = true) → (∀ x ∈ after, x.isNaN = true) →
        (span.head hspan).isNaN = false → (span.getLast hspan).isNaN = false →
          ∃ sample, (ofSeries y u horizon silent).result = .ok sample ∧ sample.CutFrom y u before span after ∧
            sample.horizon = horizon ∧ (ofSeries y u horizon silent).warnings = [] ∧
            (ofSeries y u horizon silent).notices =
              if 0 < before.length + after.length ∧ silent = false then [.trimmed before.length after.length]
              else []) ∧
      ((∃ e, (ofSeries y u horizon silent).result = .error e ∧ e.category = .invalidArgument) ↔
        ∀ x ∈ y.values, x.isNaN = true) ∧
      ((∀ x ∈ y.values, x.isNaN = true) → (ofSeries y u horizon silent).notices = []) ∧
      ∀ e, (ofSeries y u horizon silent).result = .error e → e = .refused .seriesAllMissing := by
  refine ⟨?_, ?_, ?_, fun e he => (ofSeries_eq_error_iff.1 he).2.symm⟩
  · intro before span after hspan hvalues hbefore hafter hhead hlast
    have htrims : y.Trims ⟨span, hspan⟩ before after := ⟨hvalues, hbefore, hafter, hhead, hlast⟩
    rw [ofSeries_of_trims htrims]
    by_cases hnil : before = [] ∧ after = []
    · obtain ⟨rfl, rfl⟩ := hnil
      rw [if_pos ⟨rfl, rfl⟩]
      exact ⟨_, rfl, cutFrom_self htrims hfits horizon, rfl, rfl, rfl⟩
    · have hpos : 0 < before.length + after.length := by
        by_contra hz
        exact hnil (by simpa using hz)
      rw [if_neg hnil]
      refine ⟨_, rfl, cutFrom_cut htrims hnil hfits horizon, rfl, rfl, ?_⟩
      cases silent with
      | false => exact (if_pos ⟨hpos, rfl⟩).symm
      | true => exact (if_neg fun hs => Bool.noConfusion hs.2).symm
  · constructor
    · rintro ⟨e, he, -⟩
      exact Series.trim?_eq_none_iff.1 (ofSeries_eq_error_iff.1 he).1
    · intro hall
      rw [ofSeries_of_all_missing hall]
      exact ⟨_, rfl, rfl⟩
  · intro hall
    rw [ofSeries_of_all_missing hall]
    rfl

/-- A series that is missing its first value, one between the others and its last two keeps the one between, and six
columns of inputs are cut down to the second, third and fourth. -/
theorem trimming_exact_gap :
    ∃ (y : Series) (u : Inputs), y.values = [.nan, .one, .nan, .one, .nan, .nan] ∧ u.width = 6 ∧
      (2 < u.width → y.length ≤ u.width) ∧
      (∃ sample, (ofSeries y u (some 0) false).result = .ok sample ∧ sample.series.values = [.one, .nan, .one] ∧
        sample.inputs.columns = [[.ofInt 2], [.ofInt 3], [.ofInt 4]] ∧
        (ofSeries y u (some 0) false).notices = [.trimmed 1 2]) ∧
      ¬ ∃ e, (ofSeries y u (some 0) false).result = .error e ∧ e.category = .invalidArgument := by
  obtain ⟨y, hy⟩ : ∃ y : Series, y.values = [.nan, .one, .nan, .one, .nan, .nan] := ⟨⟨_, List.cons_ne_nil _ _⟩, rfl⟩
  obtain ⟨u, hu⟩ : ∃ u : Inputs, u.columns = [[.ofInt 1], [.ofInt 2], [.ofInt 3], [.ofInt 4], [.ofInt 5], [.ofInt 6]] :=
    ⟨⟨1, _, by simp⟩, rfl⟩
  have hwidth : u.width = 6 := by rw [Inputs.width, hu]; rfl
  have hlength : y.length = 6 := by rw [Series.length, hy]; rfl
  have hfits : 2 < u.width → y.length ≤ u.width := fun _ => by rw [hwidth, hlength]
  obtain ⟨hcut, hrefused, -, -⟩ := trimming_exact hfits (some 0) false
  obtain ⟨sample, hr, hfrom, -, -, hnotices⟩ := hcut [.nan] [.one, .nan, .one] [.nan, .nan] (List.cons_ne_nil _ _) hy
    (by simp [Double.isNaN]) (by simp [Double.isNaN]) rfl rfl
  refine ⟨y, u, hy, hwidth, hfits, ⟨sample, hr, hfrom.values, ?_, hnotices⟩, ?_⟩
  · have hwide : 2 < u.width := by rw [hwidth]; decide
    have hcount : sample.inputs.columns.length = 3 := hfrom.width hwide (by decide)
    refine List.ext_getElem? fun j => ?_
    by_cases hj : j < 3
    · obtain ⟨c, hc, hsame⟩ := hfrom.columns hwide j hj
      rw [hsame, ← hc, hu]
      obtain rfl | rfl | rfl : j = 0 ∨ j = 1 ∨ j = 2 := by omega
      · simp
      · simp
      · simp
    · rw [List.getElem?_eq_none (by omega), List.getElem?_eq_none (by simpa using hj)]
  · rw [hrefused, hy]
    intro hall
    exact absurd (hall .one (by simp)) (by decide)

end Sample

end StructuralSeries
