import StructuralSeries.Proofs.Session.Answers
import StructuralSeries.Proofs.Session.Descent

/-!
# Arrays that a request owns

The series, the inputs, the periods, the coefficients and the parameters of a request that is set up are kept by
value. A request that evolves from it keeps such a field as long as the field is not changed, and no step writes
to it. So it answers with what the set-up returned, for good (`Store.owned_constant`).

The invariant is one fact about one field (`Store.Descends.lookup_eq`): along such a descent it holds the same
constant.
-/

namespace StructuralSeries

/-! ## Fields by name -/

/-- The answer about a request shows each of its fields that is no record. -/
theorem Reached.lookup_shownEntries {name : String} (h : Store.mergeable name = false) (cells : List Content)
    (fields : Fields) : (shownEntries cells fields).lookup name = (fields.lookup name).map (Held.value cells) := by
  have hshown : (!Store.mergeable name) = true := by rw [h]; rfl
  rw [shownEntries, lookup_filter_of_true (p := fun n => !Store.mergeable n) hshown, Held.lookup_entries]

/-! ## Owned fields -/

namespace Request

/-- The fields whose arrays belong to a request. -/
def ownedNames : List String := ["y", "u", "periods", "rhos", "p0", "p"]

/-- Each of them is a path of one name, is no record, and is not computed. -/
theorem plain_of_mem_ownedNames : ∀ name ∈ ownedNames, pathNames name = [name] ∧ Store.mergeable name = false ∧
    name ∉ ["n", "has_inputs", "components"] := by decide +kernel

/-- A request that is set up holds its own fields by value: each is an array or, if there are no parameters, nothing. -/
theorem exists_lookup_fields (r : Request) (next : Nat) {name : String} (h : name ∈ ownedNames) :
    ∃ v, (r.fields next).1.lookup name = some (.constant v) ∧ (v = .absent ∨ ∃ ns, v = .numbers .array ns) := by
  have hline : ∀ xs, optionalLine xs = .absent ∨ ∃ ns, optionalLine xs = .numbers .array ns := by
    rintro (_ | xs)
    · exact Or.inl rfl
    · exact Or.inr ⟨_, rfl⟩
  simp only [ownedNames, List.mem_cons, List.not_mem_nil, or_false] at h
  rcases h with rfl | rfl | rfl | rfl | rfl | rfl
  · exact ⟨_, rfl, Or.inr ⟨_, rfl⟩⟩
  · exact ⟨_, rfl, Or.inr ⟨_, rfl⟩⟩
  · exact ⟨_, rfl, Or.inr ⟨_, rfl⟩⟩
  · exact ⟨_, rfl, Or.inr ⟨_, rfl⟩⟩
  · exact ⟨_, rfl, hline _⟩
  · exact ⟨_, rfl, hline _⟩

end Request

namespace Reached

/-- A name that stands for no computed property leads to the field of that name. -/
theorem follow_singleton {cells : List Content} {fields : Fields} {name : String} {held : Held}
    (hname : name ∉ ["n", "has_inputs", "components"]) (h : fields.lookup name = some held) :
    follow cells fields [name] = .ok (.held held) := by
  simp only [List.mem_cons, List.not_mem_nil, or_false, not_or] at hname
  have hproperty : property? cells fields name = none := by
    unfold property?
    simp [hname]
  rw [follow, List.foldlM_cons, step, hproperty, Option.getD_none, field, h]
  rfl

end Reached

namespace Store

variable {name : String} {v : Value}

/-! ## One field along a descent -/

/-- Descent by changes that leave a field alone. -/
abbrev DescendsKeeping [Text.Reader] (name : String) : List Step → Nat → List Step → Nat → Prop :=
  Descends fun changes => name ∉ changes.map Prod.fst

/-- **A field that is never changed holds the same along a descent.** -/
theorem Descends.lookup_eq [Text.Reader] {start steps : List Step} {root number : Nat} {fields : Fields}
    (h : DescendsKeeping name start root steps number) (hroot : (empty.after start).request root = .ok fields) :
    ∃ fields', (empty.after steps).request number = .ok fields' ∧ fields'.lookup name = fields.lookup name := by
  induction h with
  | root => exact ⟨fields, hroot, rfl⟩
  | @evolve steps number changes answer _ hchanges hok ih =>
    obtain ⟨fields', hfields', heq⟩ := ih
    obtain ⟨old, placed, hold, hplaced⟩ := Step.exists_of_run_evolve hok
    obtain rfl : fields' = old := Except.ok.inj (hfields'.symm.trans hold)
    have hadd := (Step.run_evolve hold hplaced).1
    obtain ⟨-, rfl⟩ := evolved_eq_ok_iff.1 hplaced
    refine ⟨fields'.override (changedAll (empty.after steps).cells.length fields' changes).1, ?_, ?_⟩
    · rw [after_concat, hadd]
      exact request_add _ _
    · rw [Fields.lookup_override, lookup_changedAll_eq_none hchanges, heq]
      cases fields.lookup name <;> rfl
  | @later steps number _ step ih =>
    obtain ⟨fields', hfields', heq⟩ := ih
    refine ⟨fields', ?_, heq⟩
    rw [after_append]
    exact request_after hfields' [step]

/-! ## Constant fields -/

section Constant

variable {s : Store} {number : Nat} {fields : Fields}

theorem write_constant (s : Store) (v : Value) (index : List Int) (w : Value) :
    s.write (.constant v) index w =
      .error (if (Content.ofValue? v).isSome then .readOnlyArray else .notAnArray) := by
  unfold write
  dsimp only
  cases Content.ofValue? v <;> rfl

theorem run_get_constant [Text.Reader] (hname : name ∈ Request.ownedNames) (hs : s.request number = .ok fields)
    (h : fields.lookup name = some (.constant v)) : ((Step.get number name).run s).2 = .ok v := by
  obtain ⟨hpath, -, hproperty⟩ := Request.plain_of_mem_ownedNames name hname
  rw [run_get hs, hpath, Reached.follow_singleton hproperty h]
  rfl

/-- Writing to a field that is kept by value fails: an array is read-only, and all else is no array. -/
theorem run_write_constant [Text.Reader] (hname : name ∈ Request.ownedNames) (hs : s.request number = .ok fields)
    (h : fields.lookup name = some (.constant v)) (index : List Int) (w : Value) :
    (Step.write number name index w).run s =
      (s, .ofExcept (.error (if (Content.ofValue? v).isSome then .readOnlyArray else .notAnArray))) := by
  obtain ⟨hpath, -, hproperty⟩ := Request.plain_of_mem_ownedNames name hname
  rw [run_write hs (by rw [hpath, Reached.follow_singleton hproperty h]), write_constant]
  rfl

end Constant

/-! ## Owned fields stay -/

/-- **What a set-up returns for an array that the request owns is what the request and its descendants answer, for
good**, as long as their changes leave the field alone. Every write to the field fails, for a read-only array or for no
array at all, and leaves the store as it is. -/
theorem owned_constant [Text.Reader] {before : List Step} {y frequency : Value} {options : List (String × Value)}
    {answer : Value} (hok : ((Step.setup y frequency options).run (empty.after before)).2.result = .ok answer)
    (hname : name ∈ Request.ownedNames) :
    ∃ entries v, answer = .mapping entries ∧ entries.lookup name = some v ∧
      ∀ steps number, DescendsKeeping name (before ++ [.setup y frequency options])
          (empty.after before).requests.length steps number →
        ∀ later, ((Step.get number name).run (empty.after (steps ++ later))).2 = .ok v ∧
          ∀ index w, ∃ e, (Step.write number name index w).run (empty.after (steps ++ later)) =
              (empty.after (steps ++ later), .ofExcept (.error e)) ∧
            (v = .absent ∧ e = .notAnArray ∨ v ≠ .absent ∧ e = .readOnlyArray) := by
  obtain ⟨r, hr⟩ := Step.exists_of_run_setup hok
  obtain ⟨hadd, hanswer⟩ := Step.run_setup (s := empty.after before) hr
  obtain ⟨v, hv, hkind⟩ := r.exists_lookup_fields (empty.after before).cells.length hname
  obtain ⟨-, hshown, -⟩ := Request.plain_of_mem_ownedNames name hname
  have hroot : (empty.after (before ++ [.setup y frequency options])).request (empty.after before).requests.length =
      .ok (r.fields (empty.after before).cells.length).1 := by
    rw [after_concat, hadd]
    exact request_add _ _
  refine ⟨_, v, Except.ok.inj (hok.symm.trans hanswer), ?_, ?_⟩
  · rw [Reached.lookup_shownEntries hshown, hv]
    rfl
  · intro steps number hdescends later
    obtain ⟨fields, hfields, hlookup⟩ := (hdescends.append later).lookup_eq hroot
    rw [hv] at hlookup
    refine ⟨run_get_constant hname hfields hlookup, fun index w =>
      ⟨_, run_write_constant hname hfields hlookup index w, ?_⟩⟩
    rcases hkind with rfl | ⟨ns, rfl⟩
    · exact Or.inl ⟨rfl, rfl⟩
    · exact Or.inr ⟨Value.noConfusion, rfl⟩

/-- A request that evolves with another horizon keeps the series, whatever is written into its table of outliers. -/
theorem owned_constant_evolved :
    ∃ entries v,
      ((Step.setup (.list [.int 1, .int 2, .int 3]) (.int 4) []).run (empty.after [])).2.result =
        .ok (.mapping entries) ∧
      entries.lookup "y" = some v ∧
      ((Step.get 1 "y").run (empty.after [.setup (.list [.int 1, .int 2, .int 3]) (.int 4) [],
        .evolve 0 [("h", .int 6)], .write 1 "hidden.type_outliers" [0, 0] (.int 7)])).2 = .ok v ∧
      ((Step.write 1 "y" [0] (.int 9)).run (empty.after [.setup (.list [.int 1, .int 2, .int 3]) (.int 4) [],
        .evolve 0 [("h", .int 6)], .write 1 "hidden.type_outliers" [0, 0] (.int 7)])).2 =
        .ofExcept (.error .readOnlyArray) := by
  have hok : ((Step.setup (.list [.int 1, .int 2, .int 3]) (.int 4) []).run (empty.after [])).2.result.toOption.map
      (fun _ => ()) = some () := by decide +kernel
  obtain ⟨answer, hok, -⟩ := exists_of_toOption_map hok
  have hevolve : ((Step.evolve 0 [("h", .int 6)]).run
      (empty.after [.setup (.list [.int 1, .int 2, .int 3]) (.int 4) []])).2.result.toOption.map
      (fun _ => ()) = some () := by decide +kernel
  obtain ⟨_, hevolve, -⟩ := exists_of_toOption_map hevolve
  obtain ⟨entries, v, rfl, hv, hstays⟩ := owned_constant hok (show "y" ∈ Request.ownedNames by decide)
  have hnumber : (empty.after [.setup (.list [.int 1, .int 2, .int 3]) (.int 4) []]).requests.length = 1 := by
    decide +kernel
  have hdescends : DescendsKeeping "y" [.setup (.list [.int 1, .int 2, .int 3]) (.int 4) []] 0
      ([.setup (.list [.int 1, .int 2, .int 3]) (.int 4) []] ++ [.evolve 0 [("h", .int 6)]]) 1 := by
    rw [← hnumber]
    exact Descends.root.evolve (by decide) hevolve
  obtain ⟨hget, hwrite⟩ := hstays _ _ hdescends [.write 1 "hidden.type_outliers" [0, 0] (.int 7)]
  refine ⟨entries, v, hok, hv, hget, ?_⟩
  obtain ⟨e, hrun, hkind⟩ := hwrite [0] (.int 9)
  rcases hkind with ⟨rfl, -⟩ | ⟨-, rfl⟩
  · have hshape := congrArg (fun r : Report Value => r.result.toOption.bind Value.shape?) hget
    exact absurd hshape (by decide +kernel)
  · exact congrArg Prod.snd hrun

end Store

end StructuralSeries
