import StructuralSeries.Proofs.Value.Leaks
import StructuralSeries.Series

/-!
# Faults of series

A value that is no series is refused, and so is an array whose cells are no numbers at all. What leaks is ragged
nesting, and a huge whole number that comes before any refused cell (`Series.ofValue_eq_error_iff`).
-/

namespace StructuralSeries

namespace Value

/-! ## Cells -/

/-- A cell among arbitrary objects is refused, or it is a huge whole number. -/
theorem observationAmongObjects_eq_error [Text.Reader] {v : Value} {e : Fault}
    (h : v.observationAmongObjects = .error e) :
    Fault.refused .seriesNotNumeric = e ∨ v.IsHuge ∧ Fault.tooLarge = e := by
  unfold observationAmongObjects at h
  split at h
  · cases h
  · next n =>
    obtain ⟨hn, he⟩ := wholeToDouble_eq_error_iff.1 h
    exact Or.inr ⟨⟨n, rfl, hn⟩, he⟩
  · cases h
  · cases h
  · cases h
  · cases h
  · split at h
    · exact Or.inl (Except.error.inj h)
    · cases h
  · exact Or.inl (Except.error.inj h)
  · split at h
    · exact Or.inl (Except.error.inj h)
    · cases h
  all_goals cases h

theorem observationAmongObjects_eq_tooLarge_iff [Text.Reader] {v : Value} :
    v.observationAmongObjects = .error .tooLarge ↔ v.IsHuge := by
  constructor
  · intro h
    rcases observationAmongObjects_eq_error h with hc | ⟨hv, -⟩
    · cases hc
    · exact hv
  · rintro ⟨n, rfl, hn⟩
    exact wholeToDouble_eq_error_iff.2 ⟨hn, rfl⟩

/-! ## Series of whole numbers -/

theorem getElem?_of_mapM_eq_some {α β : Type} {f : α → Option β} {as : List α} {bs : List β}
    (h : as.mapM f = some bs) {i : Nat} {a : α} (ha : as[i]? = some a) : ∃ b, bs[i]? = some b ∧ f a = some b := by
  induction as generalizing bs i with
  | nil => cases ha
  | cons x xs ih =>
    rw [List.mapM_cons] at h
    obtain ⟨b, hb, h⟩ := Option.bind_eq_some_iff.1 h
    obtain ⟨cs, hcs, h⟩ := Option.bind_eq_some_iff.1 h
    cases h
    cases i with
    | zero =>
      cases ha
      exact ⟨b, rfl, hb⟩
    | succ i => exact ih hcs ha

theorem mem_of_mapM_eq_some {α β : Type} {f : α → Option β} {as : List α} {bs : List β}
    (h : as.mapM f = some bs) {a : α} (ha : a ∈ as) : ∃ b ∈ bs, f a = some b := by
  obtain ⟨i, hi⟩ := List.mem_iff_getElem?.1 ha
  obtain ⟨b, hb, hf⟩ := getElem?_of_mapM_eq_some h hi
  exact ⟨b, List.mem_of_getElem? hb, hf⟩

/-- No word of 64 bits holds a huge whole number. -/
theorem fitOneWord_eq_false {ns : List Int} {n : Int} (h : n ∈ ns) (hn : Double.wholeBound ≤ n.natAbs) :
    fitOneWord ns = false := by
  have hbound : 2 * wordBound ≤ Double.wholeBound := by decide +kernel
  simp only [fitOneWord, Bool.or_eq_false_iff, List.all_eq_false, Bool.and_eq_true, decide_eq_true_eq]
  exact ⟨⟨n, h, by omega⟩, ⟨n, h, by omega⟩⟩

theorem wholeObservations?_eq_none [Text.Reader] {kind : Kind} {cells : List Value} {c : Value} (hc : c ∈ cells)
    (hhuge : c.IsHuge) : wholeObservations? kind cells = none := by
  obtain ⟨n, rfl, hn⟩ := hhuge
  unfold wholeObservations?
  cases hm : cells.mapM (wholeObservation? kind) with
  | none => rfl
  | some ns =>
    obtain ⟨m, hm, hf⟩ := mem_of_mapM_eq_some hm hc
    obtain ⟨-, hf⟩ := Option.ite_none_right_eq_some.1 hf
    cases hf
    show (if fitOneWord ns then some ns else none) = none
    rw [fitOneWord_eq_false hm hn]
    rfl

theorem observations_eq_error [Text.Reader] {kind : Kind} {cells : List Value} {e : Fault}
    (h : observations kind cells = .error e) : kind = .object ∧ cells.mapM observationAmongObjects = .error e := by
  unfold observations at h
  split at h
  · cases h
  · obtain ⟨before, c, after, -, -, hc⟩ := mapM_eq_error_iff.1 h
    cases kind with
    | object => exact ⟨rfl, h⟩
    | _ => cases hc

/-- Reading the cells of a series fails at the first cell that cannot be read. -/
theorem observations_eq_error_iff [Text.Reader] {kind : Kind} {cells : List Value} {e : Fault}
    (hkind : ∀ c ∈ cells, c.IsHuge → kind = .object) (he : ∀ why, e ≠ .refused why) :
    observations kind cells = .error e ↔ HugeFirst observationAmongObjects cells ∧ Fault.tooLarge = e := by
  constructor
  · intro h
    obtain ⟨-, h⟩ := observations_eq_error h
    obtain ⟨before, c, after, rfl, hbefore, hc⟩ := mapM_eq_error_iff.1 h
    rcases observationAmongObjects_eq_error hc with hr | ⟨hhuge, htoo⟩
    · exact absurd hr.symm (he _)
    · exact ⟨⟨before, c, after, rfl, hbefore, hhuge⟩, htoo⟩
  · rintro ⟨hfirst, rfl⟩
    obtain ⟨c, hc, hhuge⟩ := hfirst.exists_mem
    obtain rfl := hkind c hc hhuge
    unfold observations
    rw [wholeObservations?_eq_none hc hhuge]
    exact (mapM_eq_tooLarge_iff fun c _ => observationAmongObjects_eq_tooLarge_iff).2 hfirst

/-! ## Values -/

/-- The faults of a value that is read as a series. -/
inductive LeaksAsSeries [Text.Reader] (v : Value) : Fault → Prop
  | ragged (h : v.elements? = none) : LeaksAsSeries v .ragged
  | tooLarge {es : Elements} {cells : List Value} (h : v.elements? = some es)
      (hline : Series.line? es.grid = some cells) (hhuge : HugeFirst observationAmongObjects cells) :
      LeaksAsSeries v .tooLarge

theorem LeaksAsSeries.category_eq [Text.Reader] {v : Value} {e : Fault} (h : v.LeaksAsSeries e) :
    e.category = .unfitValue ∨ e.category = .overflow := by
  cases h with
  | ragged => exact Or.inl rfl
  | tooLarge => exact Or.inr rfl

end Value

namespace Series

theorem eq_data_of_line? {α : Type} {g : Grid α} {cells : List α} (h : line? g = some cells) : cells = g.data := by
  unfold line? at h
  dsimp only at h
  split at h
  · split at h
    · cases h
      rfl
    · cases h
  · split at h
    · cases h
      rfl
    · cases h

/-- The chain of readings that makes a series. -/
theorem ofValue_eq [Text.Reader] {v : Value} (h : ∀ s, v ≠ .text s) :
    ofValue v = (v.elements >>= fun es =>
      match line? es.grid with
      | none => .error (.refused .seriesNotLine)
      | some cells => Value.observations es.kind cells >>= fun xs =>
        match ofList? xs with
        | some y => .ok y
        | none => .error (.refused .seriesNotLine)) := by
  cases v with
  | text s => exact absurd rfl (h s)
  | _ => rfl

/-- **How a series fails without being refused.** -/
theorem ofValue_eq_error_iff [Text.Reader] {v : Value} {e : Fault} (he : ∀ why, e ≠ .refused why) :
    ofValue v = .error e ↔ v.LeaksAsSeries e := by
  have hkind : ∀ es cells, v.elements? = some es → line? es.grid = some cells →
      ∀ c ∈ cells, c.IsHuge → es.kind = .object := fun es cells hes hline c hc hhuge =>
    hhuge.kind_elements hes (eq_data_of_line? hline ▸ hc)
  constructor
  · intro h
    by_cases htext : ∃ s, v = .text s
    · obtain ⟨s, rfl⟩ := htext
      exact absurd h (refused_ne_error he)
    · rw [ofValue_eq fun s hs => htext ⟨s, hs⟩] at h
      rcases bind_eq_error.1 h with h | ⟨es, hes, h⟩
      · obtain ⟨hnone, rfl⟩ := Value.elements_eq_error_iff.1 h
        exact .ragged hnone
      · rw [Value.elements_eq_ok_iff] at hes
        split at h
        · exact absurd h (refused_ne_error he)
        · next cells hline =>
          rcases bind_eq_error.1 h with h | ⟨xs, -, h⟩
          · obtain ⟨hfirst, rfl⟩ := (Value.observations_eq_error_iff (hkind es cells hes hline) he).1 h
            exact .tooLarge hes hline hfirst
          · split at h
            · cases h
            · exact absurd h (refused_ne_error he)
  · intro h
    cases h with
    | ragged hnone =>
      rw [ofValue_eq (by rintro s rfl; cases hnone), Value.elements_eq_error_iff.2 ⟨hnone, rfl⟩]
      rfl
    | @tooLarge es cells hes hline hfirst =>
      have htext : ∀ s, v ≠ .text s := by
        rintro s rfl
        cases hes
        cases hline
      rw [ofValue_eq htext, Value.elements_eq_ok_iff.2 hes, ok_bind, hline]
      dsimp only
      rw [(Value.observations_eq_error_iff (hkind es cells hes hline) he).2 ⟨hfirst, rfl⟩]
      rfl

end Series

end StructuralSeries
