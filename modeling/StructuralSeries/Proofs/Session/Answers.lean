import StructuralSeries.Proofs.Session.Steps

/-!
# What answers depend on

An answer about a request shows its fields and what the request computes from them. Both depend on the arrays that
the fields lead to, and on no other array: in two stores that keep the same fields for a request and the same in the
cells of its spots, the request answers the same (`Store.answersSame_of_cells`).
-/

namespace StructuralSeries

namespace Reached

variable {cells cells' : List Content}

/-- What a request computes depends on the arrays of its fields. -/
theorem property?_congr {fields : Fields} (h : ∀ a ∈ Held.spotsAll fields, cells[a.number]? = cells'[a.number]?)
    (name : String) : property? cells fields name = property? cells' fields name := by
  have hfield : ∀ field : String, ((fields.lookup field).map (Held.value cells)).getD .absent =
      ((fields.lookup field).map (Held.value cells')).getD .absent := by
    intro field
    cases hl : fields.lookup field with
    | none => rfl
    | some held => exact held.value_eq_iff.2 fun a ha => h (a.behind field) (Fields.behind_mem_spots hl ha)
  unfold property?
  simp only [hfield]

theorem step_congr {r : Reached} (h : ∀ a ∈ r.spots, cells[a.number]? = cells'[a.number]?) (name : String) :
    step cells r name = step cells' r name := by
  cases r with
  | request fields =>
    rw [step, step, property?_congr h]
  | held g => cases g <;> rfl
  | components c => rfl

/-- A path leads to the same from what leads to the same arrays. -/
theorem foldlM_congr {names : List String} {r : Reached} (h : ∀ a ∈ r.spots, cells[a.number]? = cells'[a.number]?) :
    names.foldlM (step cells) r = names.foldlM (step cells') r := by
  induction names generalizing r with
  | nil => rfl
  | cons name names ih =>
    rw [List.foldlM_cons, List.foldlM_cons, ← step_congr h]
    cases hr : step cells r name with
    | error e => rfl
    | ok r' => exact ih fun a ha => h (a.behind name) (behind_mem_spots_of_step hr ha)

/-- Along a path there is nothing that was not led to before. -/
theorem exists_behind_of_foldlM {names : List String} {r r' : Reached} (h : names.foldlM (step cells) r = .ok r')
    {a : Spot} (ha : a ∈ r'.spots) : ∃ b ∈ r.spots, b.number = a.number := by
  induction names generalizing r with
  | nil =>
    cases h
    exact ⟨a, ha, rfl⟩
  | cons name names ih =>
    rw [List.foldlM_cons] at h
    obtain ⟨r₁, hr₁, h⟩ := bind_eq_ok.1 h
    obtain ⟨b, hb, hnumber⟩ := ih h
    exact ⟨_, behind_mem_spots_of_step hr₁ hb, hnumber⟩

theorem value_congr {r : Reached} (h : ∀ a ∈ r.spots, cells[a.number]? = cells'[a.number]?) :
    r.value cells = r.value cells' := by
  cases r with
  | request fields =>
    rw [value, value, shownEntries, shownEntries, (Held.entries_eq_iff fields).2 h]
  | held g => exact g.value_eq_iff.2 h
  | components c => rfl

/-- **What a path shows depends on the arrays of the request.** -/
theorem follow_map_value_congr {fields : Fields}
    (h : ∀ a ∈ Held.spotsAll fields, cells[a.number]? = cells'[a.number]?) (path : List String) :
    (follow cells fields path).map (value cells) = (follow cells' fields path).map (value cells') := by
  unfold follow
  rw [← foldlM_congr (r := .request fields) h]
  cases hr : path.foldlM (step cells) (request fields) with
  | error e => rfl
  | ok r =>
    refine congrArg Except.ok (value_congr fun a ha => ?_)
    obtain ⟨b, hb, hnumber⟩ := exists_behind_of_foldlM hr ha
    rw [← hnumber]
    exact h b hb

end Reached

namespace Store

/-- A request answers the same in two stores, to a snapshot and to every path. -/
structure AnswersSame [Text.Reader] (s t : Store) (number : Nat) : Prop where
  snapshot : ((Step.snapshot number).run t).2 = ((Step.snapshot number).run s).2
  get : ∀ path : String, ((Step.get number path).run t).2 = ((Step.get number path).run s).2

theorem AnswersSame.trans [Text.Reader] {s t u : Store} {number : Nat} (h : s.AnswersSame t number)
    (h' : t.AnswersSame u number) :
    s.AnswersSame u number := ⟨h'.snapshot.trans h.snapshot, fun path => (h'.get path).trans (h.get path)⟩

/-- **A request answers the same where its arrays hold the same.** -/
theorem answersSame_of_cells [Text.Reader] {s t : Store} {number : Nat} {fields : Fields}
    (hs : s.request number = .ok fields) (ht : t.request number = .ok fields)
    (h : ∀ a ∈ Held.spotsAll fields, t.cells[a.number]? = s.cells[a.number]?) : s.AnswersSame t number where
  snapshot := by rw [run_snapshot hs, run_snapshot ht, (Held.entries_eq_iff fields).2 h]
  get := fun path => by rw [run_get hs, run_get ht, Reached.follow_map_value_congr h]

end Store

end StructuralSeries
