import StructuralSeries.Proofs.Session.Answers
import StructuralSeries.Proofs.Session.Descent
import StructuralSeries.Proofs.Session.SetUp

/-!
# Families of requests

Requests that descend from the same set-up, or from the same request that was made as given, are a family. Arrays are
shared inside a family only (`Store.related_of_sharesArray`): a request that founds one leads to new arrays, and one
that evolves leads to new arrays and to those of the request that it evolves from.

So a write through one request is never seen in an answer about a request of another family, and the tables of outliers
of two families are different arrays (`Store.families_apart`).
-/

namespace StructuralSeries

/-- The request that a step writes through. -/
def Step.writer? : Step → Option Nat
  | write number _ _ _ => some number
  | _ => none

/-- The number of the array that is a field's own. -/
def Held.cell? : Held → Option Nat
  | cell i => some i
  | _ => none

theorem Held.eq_cell_of_cell? {h : Held} {i : Nat} (hi : h.cell? = some i) : h = .cell i := by
  cases h with
  | cell _ => exact congrArg Held.cell (Option.some.inj hi)
  | constant _ | record _ _ => cases hi

namespace Store

variable {steps : List Step}

/-! ## Arrays are shared inside a family -/

/-- Two requests lead to the same array. -/
def SharesArray (s : Store) (a b : Nat) : Prop :=
  ∃ fields fields', s.request a = .ok fields ∧ s.request b = .ok fields' ∧
    ∃ x ∈ Held.spotsAll fields, ∃ y ∈ Held.spotsAll fields', x.number = y.number

theorem SharesArray.symm {s : Store} {a b : Nat} (h : s.SharesArray a b) : s.SharesArray b a := by
  obtain ⟨fields, fields', ha, hb, x, hx, y, hy, hxy⟩ := h
  exact ⟨fields', fields, hb, ha, y, hy, x, hx, hxy.symm⟩

theorem Related.symm [Text.Reader] {a b : Nat} (h : Related steps a b) : Related steps b a := by
  obtain ⟨start, root, hfounds, ha, hb⟩ := h
  exact ⟨start, root, hfounds, hb, ha⟩

theorem request_add_cases {s : Store} {placed : Fields × List Content} {number : Nat} {fields : Fields}
    (h : (s.add placed).request number = .ok fields) :
    s.request number = .ok fields ∨ number = s.requests.length ∧ fields = placed.1 := by
  rw [request_eq_ok_iff] at h ⊢
  have h : (s.requests ++ [placed.1])[number]? = some fields := h
  rcases Nat.lt_trichotomy number s.requests.length with hlt | rfl | hlt
  · rw [List.getElem?_append_left hlt] at h
    exact Or.inl h
  · rw [List.getElem?_concat_length] at h
    exact Or.inr ⟨rfl, (Option.some.inj h).symm⟩
  · rw [List.getElem?_eq_none (by rw [List.length_append]; exact hlt)] at h
    cases h

/-- The arrays that a request leads to that a step adds: new ones, and those of the request that it evolves from. -/
inductive Hands [Text.Reader] (s : Store) (a : Spot) : Step → Prop
  | fresh (step : Step) (h : s.cells.length ≤ a.number) : Hands s a step
  | parent {number : Nat} {changes : List (String × Value)} {answer : Value} {old : Fields}
      (hok : ((Step.evolve number changes).run s).2.result = .ok answer) (hold : s.request number = .ok old)
      (ha : a ∈ Held.spotsAll old) : Hands s a (.evolve number changes)

theorem hands_of_placedAll [Text.Reader] {s : Store} {step : Step} {entries : List (String × Value)} {a : Spot}
    (ha : a ∈ Held.spotsAll (Held.placedAll s.cells.length entries).1) : s.Hands a step := by
  have hn : a.number ∈ (Held.spotsAll (Held.placedAll s.cells.length entries).1).map Spot.number :=
    List.mem_map_of_mem ha
  rw [Held.numbers_placedAll, List.mem_range'_1] at hn
  exact .fresh step hn.1

theorem hands_of_evolved [Text.Reader] {s : Store} {number : Nat} {changes : List (String × Value)} {old : Fields}
    {placed : Fields × List Content} (hold : s.request number = .ok old) (h : s.evolved old changes = .ok placed)
    {a : Spot} (ha : a ∈ Held.spotsAll placed.1) : s.Hands a (.evolve number changes) := by
  obtain ⟨-, answer, hok⟩ := Step.run_evolve hold h
  obtain ⟨-, rfl⟩ := evolved_eq_ok_iff.1 h
  obtain ⟨fresh, hfresh, hspots⟩ := exists_fresh_changedAll s.cells.length old changes
  rcases Fields.spots_override_subset ha with ha | ha
  · exact .parent hok hold ha
  · rcases hspots a ha with ha | ha
    · exact .parent hok hold ha
    · have hn : a.number ∈ fresh.map Spot.number := List.mem_map_of_mem ha
      rw [hfresh, List.mem_range'_1] at hn
      exact .fresh _ hn.1

/-- After one more step a request is one that was there, or the one that the step adds. -/
theorem request_concat_cases [Text.Reader] {step : Step} {number : Nat} {fields : Fields}
    (h : (empty.after (steps ++ [step])).request number = .ok fields) :
    (empty.after steps).request number = .ok fields ∨
      number = (empty.after steps).requests.length ∧
        ∀ a ∈ Held.spotsAll fields, (empty.after steps).Hands a step := by
  have hdoes := Step.does_run (empty.after steps) step
  rw [after_concat] at h
  generalize (step.run (empty.after steps)).1 = t at hdoes h
  cases hdoes with
  | setup _ =>
    refine (request_add_cases h).imp_right fun ⟨hnumber, hfields⟩ => ⟨hnumber, fun a ha => ?_⟩
    rw [hfields, spots_fields] at ha
    exact hands_of_placedAll ha
  | make hmade =>
    refine (request_add_cases h).imp_right fun ⟨hnumber, hfields⟩ => ⟨hnumber, fun a ha => ?_⟩
    obtain ⟨entries, -, rfl⟩ := map_eq_ok.1 hmade
    rw [hfields] at ha
    exact hands_of_placedAll ha
  | evolve hold hevolved =>
    refine (request_add_cases h).imp_right fun ⟨hnumber, hfields⟩ => ⟨hnumber, fun a ha => ?_⟩
    rw [hfields] at ha
    exact hands_of_evolved hold hevolved ha
  | write _ _ _ => exact Or.inl h
  | stay => exact Or.inl h

/-- **Requests that share an array are of one family.** -/
theorem related_of_sharesArray [Text.Reader] {a b : Nat} (h : (empty.after steps).SharesArray a b) :
    Related steps a b := by
  induction steps using List.reverseRecOn generalizing a b with
  | nil =>
    obtain ⟨fields, -, ha, -⟩ := h
    cases ha
  | append_singleton steps step ih =>
    -- the request that the step adds shares an array with an old one only through the request that it evolves from
    have hnew : ∀ {b : Nat} {fields : Fields} {x y : Spot}, (empty.after steps).Hands x step →
        (empty.after steps).request b = .ok fields → y ∈ Held.spotsAll fields → x.number = y.number →
        Related (steps ++ [step]) (empty.after steps).requests.length b := by
      intro b fields x y hx hb hy hxy
      cases hx with
      | fresh _ hle =>
        have := (isShared_after steps).number_lt y (mem_spots_of_request hb hy)
        omega
      | parent hok hold hx =>
        obtain ⟨start, root, hfounds, hparent, hb⟩ := ih ⟨_, fields, hold, hb, x, hx, y, hy, hxy⟩
        exact ⟨start, root, hfounds, hparent.evolve trivial hok, hb.later _⟩
    obtain ⟨fields, fields', ha, hb, x, hx, y, hy, hxy⟩ := h
    rcases request_concat_cases ha with ha' | ⟨rfl, hxs⟩ <;> rcases request_concat_cases hb with hb' | ⟨rfl, hys⟩
    · exact (ih ⟨fields, fields', ha', hb', x, hx, y, hy, hxy⟩).append [step]
    · exact (hnew (hys y hy) ha' hx hxy.symm).symm
    · exact hnew (hxs x hx) hb' hy hxy
    · exact related_self (lt_of_request ha)

/-! ## Writes stay inside a family -/

/-- A step that is no write through a relative leaves the arrays of a request as they are. -/
theorem cell_of_run [Text.Reader] {step : Step} {other : Nat} {fields : Fields}
    (hother : (empty.after steps).request other = .ok fields)
    (hstep : ∀ number ∈ step.writer?, ¬ Related steps number other) {a : Spot} (ha : a ∈ Held.spotsAll fields) :
    (step.run (empty.after steps)).1.cells[a.number]? = (empty.after steps).cells[a.number]? := by
  have hdoes := Step.does_run (empty.after steps) step
  have hlt := (isShared_after steps).number_lt a (mem_spots_of_request hother ha)
  generalize (step.run (empty.after steps)).1 = t at hdoes
  cases hdoes with
  | setup _ => exact List.getElem?_append_left hlt
  | make _ => exact List.getElem?_append_left hlt
  | evolve _ _ => exact List.getElem?_append_left hlt
  | @write number i path index v written c d hwritten hpath _ =>
    refine List.getElem?_set_ne ?_
    rintro rfl
    have hshares : (empty.after steps).SharesArray number other :=
      ⟨written, fields, hwritten, hother, _, Reached.mem_spots_of_foldlM hpath, a, ha, rfl⟩
    exact hstep number rfl (related_of_sharesArray hshares)
  | stay => rfl

/-- **A step that is no write through a relative changes no answer about a request.** -/
theorem answersSame_concat [Text.Reader] {step : Step} {other : Nat}
    (hother : other < (empty.after steps).requests.length)
    (hstep : ∀ number ∈ step.writer?, ¬ Related steps number other) :
    (empty.after steps).AnswersSame (empty.after (steps ++ [step])) other := by
  have hfields : (empty.after steps).request other = .ok (empty.after steps).requests[other] :=
    request_eq_ok_iff.2 (List.getElem?_eq_getElem hother)
  rw [after_append]
  exact answersSame_of_cells hfields (request_after hfields [step]) fun a ha => cell_of_run hfields hstep ha

/-- So does no run of such steps. -/
theorem answersSame_append [Text.Reader] {later : List Step} {other : Nat}
    (hother : other < (empty.after steps).requests.length)
    (hlater : ∀ step ∈ later, ∀ number ∈ step.writer?, ¬ Related (steps ++ later) number other) :
    (empty.after steps).AnswersSame (empty.after (steps ++ later)) other := by
  induction later generalizing steps with
  | nil =>
    rw [List.append_nil]
    exact ⟨rfl, fun _ => rfl⟩
  | cons step later ih =>
    rw [List.append_cons] at hlater ⊢
    have hnow : ∀ number ∈ step.writer?, ¬ Related steps number other := fun number hnumber hrelated =>
      hlater step List.mem_cons_self number hnumber (by
        rw [List.append_assoc]
        exact hrelated.append _)
    exact (answersSame_concat hother hnow).trans
      (ih (Nat.lt_of_lt_of_le hother (length_requests_le_after steps [step]))
        fun step hstep => hlater step (List.mem_cons_of_mem _ hstep))

/-! ## Tables of outliers -/

/-- Requests that descend from different founders are of different families. -/
theorem not_related [Text.Reader] {start start' : List Step} {root root' a b : Nat} (hfounds : Founds start root)
    (hfounds' : Founds start' root') (hroot : root ≠ root') (ha : IsOffspring start root steps a)
    (hb : IsOffspring start' root' steps b) : ¬ Related steps a b := by
  rintro ⟨first, founder, hfirst, ha', hb'⟩
  have hleft : root = founder := ha.founder_unique hfounds hfirst ha'
  have hright : root' = founder := hb.founder_unique hfounds' hfirst hb'
  exact hroot (hleft.trans hright.symm)

/-- A table of outliers that is an array is one of the arrays of the request. -/
theorem mem_spots_of_outliers {fields : Fields} {i : Nat} (h : fields.outliers = .ok (.cell i)) :
    ⟨Fields.outlierNames, i⟩ ∈ Held.spotsAll fields := by
  have hfollow := Fields.follow_outlierNames [] fields
  rw [h] at hfollow
  exact Reached.mem_spots_of_foldlM hfollow

/-- The table of outliers of a request that has one, seen from outside. -/
theorem exists_table {s : Store} {number i : Nat}
    (h : ((s.request number).toOption.bind fun fields => fields.outliers.toOption.bind Held.cell?) = some i) :
    ∃ fields, s.request number = .ok fields ∧ fields.outliers = .ok (.cell i) := by
  cases hr : s.request number with
  | error _ =>
    rw [hr] at h
    cases h
  | ok fields =>
    rw [hr] at h
    cases ho : fields.outliers with
    | error _ =>
      rw [Except.toOption, Option.bind_some, ho] at h
      cases h
    | ok held =>
      rw [Except.toOption, Option.bind_some, ho] at h
      exact ⟨fields, rfl, ho ▸ congrArg Except.ok (Held.eq_cell_of_cell? h)⟩

theorem ne_of_outliers [Text.Reader] {a b i j : Nat} {fields fields' : Fields} (hrelated : ¬ Related steps a b)
    (ha : (empty.after steps).request a = .ok fields) (hb : (empty.after steps).request b = .ok fields')
    (hi : fields.outliers = .ok (.cell i)) (hj : fields'.outliers = .ok (.cell j)) : i ≠ j := by
  rintro rfl
  exact hrelated (related_of_sharesArray
    ⟨fields, fields', ha, hb, _, mem_spots_of_outliers hi, _, mem_spots_of_outliers hj, rfl⟩)

/-! ## Families do not interfere -/

/-- **A write through a request changes no answer about a request of another family**, whatever path it goes by, and
neither does a run that writes through requests of other families only. The tables of outliers of two requests that
descend from different founders are different arrays. -/
theorem families_apart [Text.Reader] (steps : List Step) :
    (∀ number other path index v, other < (empty.after steps).requests.length → ¬ Related steps number other →
      (empty.after steps).AnswersSame (empty.after (steps ++ [.write number path index v])) other) ∧
    (∀ later other, other < (empty.after steps).requests.length →
      (∀ step ∈ later, ∀ number ∈ step.writer?, ¬ Related (steps ++ later) number other) →
      (empty.after steps).AnswersSame (empty.after (steps ++ later)) other) ∧
    ∀ start start' root root' a b, Founds start root → Founds start' root' → root ≠ root' →
      IsOffspring start root steps a → IsOffspring start' root' steps b →
      ¬ Related steps a b ∧ ∀ fields fields' i j, (empty.after steps).request a = .ok fields →
        (empty.after steps).request b = .ok fields' → fields.outliers = .ok (.cell i) →
        fields'.outliers = .ok (.cell j) → i ≠ j := by
  refine ⟨fun number other path index v hother hrelated => ?_, fun later other => answersSame_append, ?_⟩
  · refine answersSame_concat hother fun writer hwriter => ?_
    obtain rfl := Option.some.inj hwriter
    exact hrelated
  · intro start start' root root' a b hfounds hfounds' hroot ha hb
    have hrelated := not_related hfounds hfounds' hroot ha hb
    exact ⟨hrelated, fun fields fields' i j hfields hfields' => ne_of_outliers hrelated hfields hfields'⟩

/-- Seven in the table of outliers of a request that is set up, or of one that evolves from it, is not seen in a request
that is made as given, which has a table of its own. -/
theorem families_apart_made :
    ∃ first second : Step, first = .setup (.list [.int 1, .int 2, .int 3]) (.int 4) [] ∧
      second = .make [("y", .int 1), ("u", .int 1), ("model", .int 1), ("h", .int 1), ("periods", .int 1),
        ("rhos", .int 1)] ∧
      (empty.after [first, second]).AnswersSame
        (empty.after [first, second, .write 0 "hidden.type_outliers" [0, 0] (.int 7)]) 1 ∧
      (empty.after [first, second]).AnswersSame
        (empty.after [first, second, .evolve 0 [("h", .int 6)],
          .write 2 "hidden.type_outliers" [0, 0] (.int 7)]) 1 ∧
      ∃ fields fields' i j, (empty.after [first, second]).request 0 = .ok fields ∧
        (empty.after [first, second]).request 1 = .ok fields' ∧ fields.outliers = .ok (.cell i) ∧
        fields'.outliers = .ok (.cell j) ∧ i ≠ j := by
  obtain ⟨first, hfirst⟩ : ∃ first, first = Step.setup (.list [.int 1, .int 2, .int 3]) (.int 4) [] := ⟨_, rfl⟩
  obtain ⟨second, hsecond⟩ : ∃ second, second = Step.make [("y", .int 1), ("u", .int 1), ("model", .int 1),
    ("h", .int 1), ("periods", .int 1), ("rhos", .int 1)] := ⟨_, rfl⟩
  have hset : Founds [first] 0 := by
    have hok : (first.run (empty.after [])).2.result.toOption.map (fun _ => ()) = some () := by
      subst hfirst
      decide +kernel
    obtain ⟨_, hok, -⟩ := exists_of_toOption_map hok
    subst hfirst
    exact .setup hok
  have hmade : Founds [first, second] 1 := by
    have hok : (second.run (empty.after [first])).2.result.toOption.map (fun _ => ()) = some () := by
      subst hfirst hsecond
      decide +kernel
    have hnumber : (empty.after [first]).requests.length = 1 := by
      subst hfirst
      decide +kernel
    obtain ⟨_, hok, -⟩ := exists_of_toOption_map hok
    subst hsecond
    exact hnumber ▸ .make hok
  have hnumber : (empty.after [first, second]).requests.length = 2 := by
    subst hfirst hsecond
    decide +kernel
  have hevolved : IsOffspring [first] 0 [first, second, .evolve 0 [("h", .int 6)]] 2 := by
    have hok : ((Step.evolve 0 [("h", .int 6)]).run (empty.after [first, second])).2.result.toOption.map
        (fun _ => ()) = some () := by
      subst hfirst hsecond
      decide +kernel
    obtain ⟨_, hok, -⟩ := exists_of_toOption_map hok
    exact hnumber ▸ (Descends.root.later second).evolve trivial hok
  obtain ⟨hwrite, hrun, hfamilies⟩ := families_apart [first, second]
  obtain ⟨hrelated, htables⟩ := hfamilies _ _ 0 1 0 1 hset hmade (by decide) (Descends.root.later _) .root
  have hlt : 1 < (empty.after [first, second]).requests.length := by rw [hnumber]; decide
  refine ⟨first, second, hfirst, hsecond, hwrite 0 1 _ _ _ hlt hrelated, hrun _ 1 hlt ?_, ?_⟩
  · intro step hstep number hwriter
    simp only [List.mem_cons, List.not_mem_nil, or_false] at hstep
    rcases hstep with rfl | rfl
    · cases hwriter
    · obtain rfl := Option.some.inj hwriter
      exact not_related hset hmade (by decide) (hevolved.later _) (Descends.root.append _)
  · have htable : ∀ number < 2, (((empty.after [first, second]).request number).toOption.bind fun fields =>
        fields.outliers.toOption.bind Held.cell?) = some number := by
      subst hfirst hsecond
      decide +kernel
    obtain ⟨fields, hfields, hi⟩ := exists_table (htable 0 (by decide))
    obtain ⟨fields', hfields', hj⟩ := exists_table (htable 1 (by decide))
    exact ⟨fields, fields', 0, 1, hfields, hfields', hi, hj, htables _ _ _ _ hfields hfields' hi hj⟩

end Store

end StructuralSeries
