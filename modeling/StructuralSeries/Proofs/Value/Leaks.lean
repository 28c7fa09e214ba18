import StructuralSeries.Proofs.Double.Range
import StructuralSeries.Proofs.Outcome
import StructuralSeries.Value.Reading

/-!
# Faults that leak

Most values that are no numbers are taken for a broken contract or for missing observations. Two faults are not:
sequences that nest in a ragged way, and a whole number that no finite double holds. The second one only counts
where reading gets as far, so it matters what stands before it.

## Shape

* `Value.IsHuge` — a whole number past the range of doubles
* `Value.Leaks` — the faults of a value that is read strictly, as an option
* `Value.LeaksAsSeries` — the faults of a value that is read leniently, as a series
-/

namespace StructuralSeries

namespace Value

/-! ## Whole numbers -/

/-- A whole number that no finite double holds. -/
def IsHuge (v : Value) : Prop := ∃ n : Int, v = int n ∧ Double.wholeBound ≤ n.natAbs

theorem wholeToDouble_eq_error_iff {n : Int} {e : Fault} :
    wholeToDouble n = .error e ↔ Double.wholeBound ≤ n.natAbs ∧ Fault.tooLarge = e := by
  unfold wholeToDouble
  by_cases h : n.natAbs < Double.wholeBound
  · rw [if_pos (Double.isFinite_ofInt_iff.2 h)]
    exact iff_of_false nofun fun hc => Nat.not_le.2 h hc.1
  · rw [if_neg fun hc => h (Double.isFinite_ofInt_iff.1 hc)]
    simp [Nat.not_lt.1 h]

/-- Arrays in an array do not pass on that a number is too large. -/
theorem toDouble_numbers_ne_tooLarge (box : Box) (ns : Numbers) : (numbers box ns).toDouble ≠ .error .tooLarge := by
  cases ns with
  | complex128 cells => simp [toDouble]
  | _ =>
    simp only [toDouble]
    split <;> simp

theorem toDouble_objects_ne_tooLarge (box : Box) (shape : List Nat) (cells : List Value) :
    (objects box shape cells).toDouble ≠ .error .tooLarge := by
  cases shape with
  | cons n shape => simp [toDouble]
  | nil =>
    cases cells with
    | nil => simp [toDouble]
    | cons v cells =>
      unfold toDouble
      split <;> simp_all
      split <;> simp

/-- Only a huge whole number is too large. -/
theorem toDouble_eq_tooLarge_iff {v : Value} : v.toDouble = .error .tooLarge ↔ v.IsHuge := by
  have key : (∀ n, v ≠ int n) → v.toDouble ≠ .error .tooLarge → (v.toDouble = .error .tooLarge ↔ v.IsHuge) :=
    fun hne h => iff_of_false h fun ⟨n, hn, _⟩ => hne n hn
  cases v with
  | int n => simp [toDouble, wholeToDouble_eq_error_iff, IsHuge]
  | numbers box ns => exact key nofun (toDouble_numbers_ne_tooLarge box ns)
  | objects box shape cells => exact key nofun (toDouble_objects_ne_tooLarge box shape cells)
  | text s =>
    refine key nofun ?_
    unfold toDouble
    split <;> simp
  | _ => exact key nofun (by simp [toDouble])

/-- A huge whole number has the widest kind. -/
theorem IsHuge.kind_eq {v : Value} (h : v.IsHuge) : v.kind = .object := by
  obtain ⟨n, rfl, hn⟩ := h
  have hbound : 2 * wordBound ≤ Double.wholeBound := by decide +kernel
  show (if -(wordBound : Int) ≤ n ∧ n < 2 * (wordBound : Int) then Kind.int else Kind.object) = _
  rw [if_neg]
  omega

/-! ## Real numbers -/

theorem real?_eq_whole_iff {v : Value} {n : Int} : v.real? = some (.whole n) ↔ v = int n := by
  cases v with
  | fixed x => cases x <;> simp [real?]
  | _ => simp [real?]

theorem Real.toDouble_eq_error_iff {r : Real} {e : Fault} :
    r.toDouble = .error e ↔ ∃ n, r = .whole n ∧ Double.wholeBound ≤ n.natAbs ∧ Fault.tooLarge = e := by
  cases r with
  | whole n => simp [toDouble, wholeToDouble_eq_error_iff]
  | word n => simp [toDouble]
  | double x => simp [toDouble]

/-- A real number is too large exactly if it is a huge whole number. -/
theorem toDouble_of_real? {v : Value} {r : Real} (h : v.real? = some r) {e : Fault} :
    r.toDouble = .error e ↔ v.IsHuge ∧ Fault.tooLarge = e := by
  rw [Real.toDouble_eq_error_iff]
  constructor
  · rintro ⟨n, rfl, hn, he⟩
    exact ⟨⟨n, real?_eq_whole_iff.1 h, hn⟩, he⟩
  · rintro ⟨⟨n, rfl, hn⟩, he⟩
    cases h
    exact ⟨n, rfl, hn, he⟩

theorem not_isHuge_of_real?_eq_none {v : Value} (h : v.real? = none) : ¬ v.IsHuge := by
  rintro ⟨n, rfl, -⟩
  cases h

/-! ## Kinds of elements -/

end Value

namespace Kind

theorem width_le_joinAll {k : Kind} {ks : List Kind} (h : k ∈ ks) : k.width ≤ (joinAll ks).width := by
  have hjoin : ∀ a b : Kind, a.width ≤ (join a b).width ∧ b.width ≤ (join a b).width := by
    intro a b
    unfold join
    split <;> omega
  induction ks with
  | nil => simp at h
  | cons x ks ih =>
    show k.width ≤ (join x (joinAll ks)).width
    rcases List.mem_cons.1 h with rfl | h
    · exact (hjoin _ _).1
    · exact Nat.le_trans (ih h) (hjoin _ _).2

theorem eq_object_of_width_le {k : Kind} (h : object.width ≤ k.width) : k = object := by
  revert h
  cases k <;> decide

end Kind

namespace Grid

theorem mem_data_of_stack {α : Type} {gs : List (Grid α)} {g : Grid α} (h : stack gs = some g) {a : α}
    (ha : a ∈ g.data) : ∃ x ∈ gs, a ∈ x.data := by
  unfold stack at h
  split at h
  · cases h
    simp at ha
  · next x gs =>
    split at h
    · cases h
      rcases List.mem_append.1 ha with ha | ha
      · exact ⟨x, List.mem_cons_self, ha⟩
      · obtain ⟨z, hz, ha⟩ := List.mem_flatMap.1 ha
        exact ⟨z, List.mem_cons_of_mem _ hz, ha⟩
    · cases h

end Grid

namespace Elements

/-- No cell is wider than the kind of its array. -/
def IsWide (es : Elements) : Prop := ∀ c ∈ es.grid.data, c.kind.width ≤ es.kind.width

theorem isWide_single (v : Value) : (single v).IsWide := by
  intro c hc
  obtain rfl := List.mem_singleton.1 hc
  exact Nat.le_refl _

theorem isWide_ofNumbers (ns : Numbers) : (ofNumbers ns).IsWide := by
  intro c hc
  obtain ⟨x, hx, rfl⟩ := List.mem_map.1 hc
  cases ns with
  | _ cells =>
    obtain ⟨a, -, rfl⟩ := List.mem_map.1 hx
    exact Nat.le_refl _

theorem isWide_of_stack? {parts : List Elements} {es : Elements} (h : stack? parts = some es)
    (hparts : ∀ p ∈ parts, p.IsWide) : es.IsWide := by
  obtain ⟨g, hg, h⟩ := Option.bind_eq_some_iff.1 h
  split at h
  · cases h
    intro c hc
    obtain ⟨x, hx, hc⟩ := Grid.mem_data_of_stack hg hc
    obtain ⟨p, hp, rfl⟩ := List.mem_map.1 hx
    exact Nat.le_trans (hparts p hp c hc) (Kind.width_le_joinAll (List.mem_map_of_mem hp))
  · cases h

end Elements

namespace Value

mutual

theorem isWide_of_elements? {v : Value} {es : Elements} (h : v.elements? = some es) : es.IsWide := by
  cases v with
  | list items =>
    obtain ⟨parts, hparts, h⟩ := Option.bind_eq_some_iff.1 h
    exact Elements.isWide_of_stack? h (isWide_of_elementsOfAll? hparts)
  | tuple items =>
    obtain ⟨parts, hparts, h⟩ := Option.bind_eq_some_iff.1 h
    exact Elements.isWide_of_stack? h (isWide_of_elementsOfAll? hparts)
  | numbers box ns =>
    cases h
    exact Elements.isWide_ofNumbers ns
  | objects box shape cells =>
    cases h
    intro c _
    show c.kind.width ≤ Kind.object.width
    generalize c.kind = k
    cases k <;> decide
  | _ =>
    cases h
    exact Elements.isWide_single _

theorem isWide_of_elementsOfAll? {vs : List Value} {parts : List Elements} (h : elementsOfAll? vs = some parts) :
    ∀ p ∈ parts, p.IsWide := by
  cases vs with
  | nil =>
    cases h
    simp
  | cons v vs =>
    unfold elementsOfAll? at h
    split at h
    · next es rest hv hvs =>
      cases h
      exact List.forall_mem_cons.2 ⟨isWide_of_elements? hv, isWide_of_elementsOfAll? hvs⟩
    · cases h

end

/-- An array with a huge whole number holds arbitrary objects. -/
theorem IsHuge.kind_elements {v c : Value} {es : Elements} (h : v.elements? = some es) (hc : c ∈ es.grid.data)
    (hhuge : c.IsHuge) : es.kind = .object := by
  refine Kind.eq_object_of_width_le ?_
  rw [← hhuge.kind_eq]
  exact isWide_of_elements? h c hc

/-! ## Cells in order -/

/-- The first cell that cannot be read is a huge whole number. -/
def HugeFirst (read : Value → Except Fault Double) (cells : List Value) : Prop :=
  ∃ before c after, cells = before ++ c :: after ∧ (∀ x ∈ before, ∃ d, read x = .ok d) ∧ c.IsHuge

theorem HugeFirst.exists_mem {read : Value → Except Fault Double} {cells : List Value} (h : HugeFirst read cells) :
    ∃ c ∈ cells, c.IsHuge := by
  obtain ⟨before, c, after, rfl, -, hc⟩ := h
  exact ⟨c, List.mem_append_right _ List.mem_cons_self, hc⟩

theorem mapM_eq_tooLarge_iff {read : Value → Except Fault Double} {cells : List Value}
    (hread : ∀ c ∈ cells, read c = .error .tooLarge ↔ c.IsHuge) :
    cells.mapM read = .error .tooLarge ↔ HugeFirst read cells := by
  rw [mapM_eq_error_iff]
  constructor
  · rintro ⟨before, c, after, rfl, hbefore, hc⟩
    exact ⟨before, c, after, rfl, hbefore, (hread c (List.mem_append_right _ List.mem_cons_self)).1 hc⟩
  · rintro ⟨before, c, after, rfl, hbefore, hc⟩
    exact ⟨before, c, after, rfl, hbefore, (hread c (List.mem_append_right _ List.mem_cons_self)).2 hc⟩

/-! ## Options -/

theorem elements_eq_error_iff {v : Value} {e : Fault} :
    v.elements = .error e ↔ v.elements? = none ∧ Fault.ragged = e := by
  unfold elements
  cases v.elements? <;> simp

theorem elements_eq_ok_iff {v : Value} {es : Elements} : v.elements = .ok es ↔ v.elements? = some es := by
  unfold elements
  cases v.elements? <;> simp

/-- The faults of a value that is read as an option. -/
inductive Leaks (v : Value) : Fault → Prop
  | ragged (h : v.elements? = none) : Leaks v .ragged
  | tooLarge {es : Elements} (h : v.elements? = some es) (hhuge : HugeFirst toDouble es.grid.data) :
      Leaks v .tooLarge

theorem Leaks.category_eq {v : Value} {e : Fault} (h : v.Leaks e) :
    e.category = .unfitValue ∨ e.category = .overflow := by
  cases h with
  | ragged => exact Or.inl rfl
  | tooLarge => exact Or.inr rfl

section Options

variable {v : Value} {es : Elements} {e : Fault}

theorem doubles_eq_tooLarge_iff :
    v.doubles = .error .tooLarge ↔ ∃ es, v.elements? = some es ∧ HugeFirst toDouble es.grid.data := by
  show (v.elements >>= fun es => es.grid.traverse toDouble) = _ ↔ _
  rw [bind_eq_error]
  simp only [elements_eq_error_iff, elements_eq_ok_iff, Grid.traverse_eq_error_iff,
    mapM_eq_tooLarge_iff fun c _ => toDouble_eq_tooLarge_iff]
  simp

theorem isHuge_of_single (h : v.elements? = some (.single v)) (hd : v.doubles = .error .tooLarge) : v.IsHuge := by
  obtain ⟨es, hes, hhuge⟩ := doubles_eq_tooLarge_iff.1 hd
  rw [h] at hes
  cases hes
  obtain ⟨c, hc, hc'⟩ := hhuge.exists_mem
  obtain rfl := List.mem_singleton.1 hc
  exact hc'

theorem doubles?_eq_error_iff : v.doubles? = .error e ↔ v.doubles = .error .tooLarge ∧ Fault.tooLarge = e := by
  have key : ∀ w : Value, w.elements? = some (.single w) → (∀ n, w ≠ int n) →
      ((Except.ok none : Except Fault (Option (Grid Double))) = .error e ↔
        w.doubles = .error .tooLarge ∧ Fault.tooLarge = e) := fun w hw hne =>
    iff_of_false nofun fun ⟨hd, _⟩ =>
      have ⟨n, hn, _⟩ := isHuge_of_single hw hd
      hne n hn
  unfold doubles?
  split
  -- text and truth values are read as no numbers at all
  · exact key _ rfl nofun
  · exact key _ rfl nofun
  · exact key _ rfl nofun
  · split
    · next h => simp [h]
    · next h => simp [h]
    · next hne h => simpa [h] using fun hc => absurd hc hne

/-- An option with a huge whole number is not unset. -/
theorem ne_absent_of_hugeFirst (h : v.elements? = some es) (hhuge : HugeFirst toDouble es.grid.data) :
    v ≠ absent := by
  rintro rfl
  cases h
  obtain ⟨c, hc, n, hn, -⟩ := hhuge.exists_mem
  obtain rfl := List.mem_singleton.1 hc
  cases hn

theorem startsWithNaN_of_hugeFirst (h : v.elements? = some es) (hhuge : HugeFirst toDouble es.grid.data) :
    es.startsWithNaN = false := by
  obtain ⟨c, hc, hc'⟩ := hhuge.exists_mem
  unfold Elements.startsWithNaN
  rw [hc'.kind_elements h hc]
  rfl

theorem isUnset_eq (h : v ≠ absent) : v.isUnset = v.elements.map Elements.startsWithNaN := by
  cases v with
  | absent => exact absurd rfl h
  | _ => rfl

end Options

end Value

end StructuralSeries
