import StructuralSeries.Proofs.Session.Evolution

/-!
# Evolving twice

Changes are joined: what the second ones name, they name after all, but entries for a record are joined with those that
the first ones have for it. A request that evolves by some changes and then by others shows what it shows by the joined
ones (`Store.evolve_joined`), and these fit it, as long as no entries come after a change that puts something else in
the place of the record.

Entries are looked up, so the law is one about looking up (`Entries.lookup_overlay`). It is used twice: for the entries
of a record (`Entries.override_override`), and for those of the request (`Entries.revised_revised`).

## Shape

* `Entries.overlay` — entries, and then others
* `Entries.joined` — changes, and then others
* `Entries.AreJoinable` — entries for a record come after entries for it
-/

namespace StructuralSeries

namespace Entries

/-! ## Joining entries -/

/-- Entries and then others. A rule says what becomes of a name that both have. -/
def overlay (both : String → Value → Value → Value) (old new : List (String × Value)) : List (String × Value) :=
  (old.map fun e => (e.1, ((new.lookup e.1).map (both e.1 e.2)).getD e.2)) ++
    new.filter fun e => (old.lookup e.1).isNone

theorem lookup_overlay (both : String → Value → Value → Value) (old new : List (String × Value)) (name : String) :
    (overlay both old new).lookup name = Option.merge (both name) (old.lookup name) (new.lookup name) := by
  rw [overlay, List.lookup_append, lookup_map_entry fun n v => ((new.lookup n).map (both n v)).getD v]
  cases hold : old.lookup name with
  | none =>
    rw [lookup_filter_of_true (p := fun n => (old.lookup n).isNone) (by rw [hold]; rfl)]
    cases new.lookup name <;> rfl
  | some v => cases new.lookup name <;> rfl

/-- The value of a change that is made after another: entries for a record are joined. -/
def joinedValue (name : String) (v w : Value) : Value :=
  match v, w with
  | .mapping es, .mapping fs => if Store.mergeable name then .mapping (overlay (fun _ _ w => w) es fs) else w
  | _, w => w

/-- Changes and then others. -/
def joined (first second : List (String × Value)) : List (String × Value) := overlay joinedValue first second

/-- Entries for a record come after entries for it, if after any change of it. -/
def AreJoinable (first second : List (String × Value)) : Prop :=
  ∀ name v fs, Store.mergeable name = true → first.lookup name = some v → second.lookup name = some (.mapping fs) →
    ∃ es, v = .mapping es

theorem joinedValue_of_mappings {name : String} (h : Store.mergeable name = true) (es fs : List (String × Value)) :
    joinedValue name (.mapping es) (.mapping fs) = .mapping (overlay (fun _ _ w => w) es fs) := if_pos h

theorem joinedValue_of_not_mapping {name : String} {w : Value}
    (h : Store.mergeable name = true → ∀ fs, w ≠ .mapping fs) (v : Value) : joinedValue name v w = w := by
  unfold joinedValue
  split
  · next es fs => exact if_neg fun hname => h hname fs rfl
  · rfl

/-! ## Revising twice -/

/-- **Overriding twice is overriding once.** -/
theorem override_override (old first second : List (String × Value)) :
    override (override old first) second = override old (overlay (fun _ _ w => w) first second) := by
  rw [override, override, List.map_map, override]
  refine List.map_congr_left fun e _ => congrArg (Prod.mk e.1) ?_
  show (second.lookup e.1).getD ((first.lookup e.1).getD e.2) = _
  rw [lookup_overlay]
  cases first.lookup e.1 <;> cases second.lookup e.1 <;> rfl

/-- Entries that come after a change of a record are entries for it still. -/
theorem lookup_joined_mapping {first second : List (String × Value)} (hjoin : AreJoinable first second) {name : String}
    (hname : Store.mergeable name = true) {fs : List (String × Value)} (hfs : second.lookup name = some (.mapping fs)) :
    ∃ gs, (joined first second).lookup name = some (.mapping gs) := by
  rw [joined, lookup_overlay, hfs]
  cases hv : first.lookup name with
  | none => exact ⟨fs, rfl⟩
  | some v =>
    obtain ⟨es, rfl⟩ := hjoin name v fs hname hv hfs
    exact ⟨_, congrArg some (joinedValue_of_mappings hname es fs)⟩

/-- **Revising twice is revising once by the joined changes**, if the entries that they have are for records. -/
theorem revised_revised {old first second : List (String × Value)} (hjoin : AreJoinable first second)
    (hrecord : ∀ name gs, Store.mergeable name = true → (joined first second).lookup name = some (.mapping gs) →
      ∃ kind fields, old.lookup name = some (.record kind fields)) :
    revised (revised old first) second = revised old (joined first second) := by
  rw [revised, revised, List.map_map, revised]
  refine List.map_congr_left fun e _ => congrArg (Prod.mk e.1) ?_
  show ((second.lookup e.1).map (changed (revised old first) e.1)).getD
    (((first.lookup e.1).map (changed old e.1)).getD e.2) = _
  cases hw : second.lookup e.1 with
  | none =>
    rw [joined, lookup_overlay, hw]
    cases first.lookup e.1 <;> rfl
  | some w =>
    by_cases hmerged : Store.mergeable e.1 = true ∧ ∃ fs, w = .mapping fs
    · obtain ⟨hname, fs, rfl⟩ := hmerged
      obtain ⟨gs, hgs⟩ := lookup_joined_mapping hjoin hname hw
      obtain ⟨kind, fields, hfields⟩ := hrecord e.1 gs hname hgs
      have hrevised := lookup_revised old first e.1
      rw [hfields] at hrevised
      rw [joined, lookup_overlay, hw]
      cases hv : first.lookup e.1 with
      | none =>
        rw [hv] at hrevised
        exact (changed_of_record hname hrevised fs).trans (changed_of_record hname hfields fs).symm
      | some v =>
        obtain ⟨es, rfl⟩ := hjoin e.1 v fs hname hv hw
        rw [hv, Option.map_some, Option.map_some, Option.getD_some, changed_of_record hname hfields] at hrevised
        show changed (revised old first) e.1 (.mapping fs) = changed old e.1 (joinedValue e.1 (.mapping es) (.mapping fs))
        rw [changed_of_record hname hrevised, joinedValue_of_mappings hname, changed_of_record hname hfields,
          override_override]
    · have hplain : Store.mergeable e.1 = true → ∀ fs, w ≠ .mapping fs := fun hname fs hfs => hmerged ⟨hname, fs, hfs⟩
      have hjoined : (joined first second).lookup e.1 = some w := by
        rw [joined, lookup_overlay, hw]
        cases first.lookup e.1 with
        | none => rfl
        | some v => exact congrArg some (joinedValue_of_not_mapping hplain v)
      rw [hjoined, Option.map_some, Option.map_some, changed_of_not_mapping hplain, changed_of_not_mapping hplain]
      rfl

theorem mem_names_overlay {both : String → Value → Value → Value} {old new : List (String × Value)} {name : String}
    (h : name ∈ (overlay both old new).map Prod.fst) : name ∈ old.map Prod.fst ∨ name ∈ new.map Prod.fst := by
  rw [overlay, List.map_append, List.mem_append, List.map_map] at h
  refine h.imp_right fun h => ?_
  obtain ⟨e, he, rfl⟩ := List.mem_map.1 h
  exact List.mem_map_of_mem (List.mem_of_mem_filter he)

end Entries

namespace Store

/-! ## Joined changes fit -/

/-- **Joined changes fit where the first ones do and the second ones do after them.** -/
theorem Fits.joined {old : Fields} {first second : List (String × Value)} {next : Nat} (hfirst : Fits old first)
    (hsecond : Fits (old.override (changedAll next old first).1) second) (hjoin : Entries.AreJoinable first second) :
    Fits old (Entries.joined first second) := by
  refine ⟨fun name hname => (Entries.mem_names_overlay hname).elim (hfirst.names name) (hsecond.names name), ?_⟩
  intro name gs hname hgs
  rw [Entries.joined, Entries.lookup_overlay] at hgs
  cases hv : first.lookup name with
  | none =>
    rw [hv, Option.merge_none_left] at hgs
    obtain ⟨kind, fields, hfields, hkeys⟩ := hsecond.records name gs hname hgs
    rw [lookup_evolved_of_not_mem next old (lookup_eq_none_iff_not_mem.1 hv)] at hfields
    exact ⟨kind, fields, hfields, hkeys⟩
  | some v =>
    cases hw : second.lookup name with
    | none =>
      rw [hw, Option.merge_none_right] at hgs
      exact hfirst.records name gs hname hgs
    | some w =>
      rw [hv, hw] at hgs
      have hgs : Entries.joinedValue name v w = .mapping gs := Option.some.inj hgs
      by_cases hmapping : ∃ fs, w = .mapping fs
      · obtain ⟨fs, rfl⟩ := hmapping
        obtain ⟨es, rfl⟩ := hjoin name v fs hname hv hw
        obtain ⟨kind, fields, hfields, hes⟩ := hfirst.records name es hname hv
        obtain ⟨kind', fields', hfields', hfs⟩ := hsecond.records name fs hname hw
        obtain ⟨start, hmerged⟩ := lookup_evolved hfields hv next
        -- a record into which entries are merged stays of its kind
        rw [hmerged, changed_of_record hname hfields] at hfields'
        obtain ⟨rfl, -⟩ := Held.record.inj (Option.some.inj hfields')
        rw [Entries.joinedValue_of_mappings hname] at hgs
        obtain rfl := Value.mapping.inj hgs
        exact ⟨kind, fields, hfields, fun key hkey => (Entries.mem_names_overlay hkey).elim (hes key) (hfs key)⟩
      · rw [Entries.joinedValue_of_not_mapping fun _ fs hfs => hmapping ⟨fs, hfs⟩] at hgs
        exact absurd ⟨gs, hgs⟩ hmapping

/-! ## Evolving by joined changes -/

/-- What the new request shows, after changes that fit the old one. -/
theorem exists_request_of_fits [Text.Reader] {steps : List Step} {number : Nat} {old : Fields}
    {changes : List (String × Value)} (hold : (empty.after steps).request number = .ok old) (h : Fits old changes) :
    ∃ new, (empty.after (steps ++ [.evolve number changes])).request (empty.after steps).requests.length = .ok new ∧
      new = old.override (changedAll (empty.after steps).cells.length old changes).1 ∧
      Held.entries (empty.after (steps ++ [.evolve number changes])).cells new =
        Entries.revised (Held.entries (empty.after steps).cells old) changes := by
  rw [(after_evolve_of_fits hold h).2]
  exact ⟨_, request_add _ _, rfl, entries_evolved h fun a ha =>
    (isShared_after steps).number_lt a (mem_spots_of_request hold ha)⟩

/-- A request shows after an evolution what it showed before. -/
theorem entries_after_evolve [Text.Reader] {steps : List Step} {other : Nat} {fields : Fields}
    (h : (empty.after steps).request other = .ok fields) (number : Nat) (changes : List (String × Value)) :
    Held.entries (empty.after (steps ++ [.evolve number changes])).cells fields =
      Held.entries (empty.after steps).cells fields := by
  rw [after_concat]
  exact (Held.entries_eq_iff fields).2 fun a ha => cell_of_run h (fun writer hwriter => by cases hwriter) ha

theorem length_after_evolve [Text.Reader] {steps : List Step} {number : Nat} {old : Fields}
    {changes : List (String × Value)} (hold : (empty.after steps).request number = .ok old) (h : Fits old changes) :
    (empty.after (steps ++ [.evolve number changes])).requests.length = (empty.after steps).requests.length + 1 := by
  rw [(after_evolve_of_fits hold h).2, length_requests_add]

/-- Two requests that evolve one after the other do so on their own. -/
theorem run_evolve_both [Text.Reader] {steps : List Step} {a b : Nat} {old old' : Fields}
    {changes changes' : List (String × Value)}
    (ha : (empty.after steps).request a = .ok old) (hb : (empty.after steps).request b = .ok old')
    (h : Fits old changes) (h' : Fits old' changes') :
    (∃ answer, ((Step.evolve b changes').run (empty.after (steps ++ [.evolve a changes]))).2.result = .ok answer) ∧
    ((Step.snapshot (empty.after steps).requests.length).run
      (empty.after (steps ++ [.evolve a changes, .evolve b changes']))).2 =
        .ok (.mapping (Entries.revised (Held.entries (empty.after steps).cells old) changes)) ∧
    ((Step.snapshot ((empty.after steps).requests.length + 1)).run
      (empty.after (steps ++ [.evolve a changes, .evolve b changes']))).2 =
        .ok (.mapping (Entries.revised (Held.entries (empty.after steps).cells old') changes')) := by
  have hkept : (empty.after (steps ++ [.evolve a changes])).request b = .ok old' := by
    rw [after_append]
    exact request_after hb _
  obtain ⟨new, hnew, -, hshown⟩ := exists_request_of_fits ha h
  obtain ⟨new', hnew', -, hshown'⟩ := exists_request_of_fits hkept h'
  rw [length_after_evolve ha h] at hnew'
  rw [entries_after_evolve hb] at hshown'
  have hstays : (empty.after (steps ++ [.evolve a changes] ++ [.evolve b changes'])).request
      (empty.after steps).requests.length = .ok new := by
    rw [after_append]
    exact request_after hnew _
  have hsteps : steps ++ [.evolve a changes, .evolve b changes'] = steps ++ [.evolve a changes] ++ [.evolve b changes'] :=
    List.append_cons _ _ _
  rw [hsteps]
  refine ⟨(after_evolve_of_fits hkept h').1, ?_, ?_⟩
  · rw [run_snapshot hstays, entries_after_evolve hnew, hshown]
  · rw [run_snapshot hnew', hshown']

/-- **A request that evolves twice could have evolved once.** If it evolves by some changes, and what comes of that by
others, then it evolves by the joined changes, and the request that comes of that shows the same, records included. -/
theorem evolve_joined [Text.Reader] {steps : List Step} {number : Nat} {first second : List (String × Value)}
    (hjoin : Entries.AreJoinable first second) {answer answer' : Value}
    (hfirst : ((Step.evolve number first).run (empty.after steps)).2.result = .ok answer)
    (hsecond : ((Step.evolve (empty.after steps).requests.length second).run
      (empty.after (steps ++ [.evolve number first]))).2.result = .ok answer') :
    (∃ joined, ((Step.evolve number (Entries.joined first second)).run (empty.after (steps ++
      [.evolve number first, .evolve (empty.after steps).requests.length second]))).2.result = .ok joined) ∧
    ∃ shown, ∀ later ∈ [1, 2], ((Step.snapshot ((empty.after steps).requests.length + later)).run (empty.after (steps ++
      [.evolve number first, .evolve (empty.after steps).requests.length second,
        .evolve number (Entries.joined first second)]))).2 = .ok (.mapping shown) := by
  obtain ⟨old, -, hold, -⟩ := Step.exists_of_run_evolve hfirst
  have hfits := fits_of_run_evolve hold hfirst
  obtain ⟨new, hnew, hfields, hshown⟩ := exists_request_of_fits hold hfits
  have hnewfits := fits_of_run_evolve hnew hsecond
  have hjoined : Fits old (Entries.joined first second) := hfits.joined (hfields ▸ hnewfits) hjoin
  have hrevised : Entries.revised (Entries.revised (Held.entries (empty.after steps).cells old) first) second =
      Entries.revised (Held.entries (empty.after steps).cells old) (Entries.joined first second) := by
    refine Entries.revised_revised hjoin fun name gs hname hgs => ?_
    obtain ⟨kind, fields, hrecord, -⟩ := hjoined.records name gs hname hgs
    rw [Held.lookup_entries, hrecord]
    exact ⟨kind, _, rfl⟩
  have hkept : (empty.after (steps ++ [.evolve number first])).request number = .ok old := by
    rw [after_append]
    exact request_after hold _
  obtain ⟨hok, htwice, honce⟩ := run_evolve_both hnew hkept hnewfits hjoined
  rw [length_after_evolve hold hfits, hshown, hrevised, ← List.append_cons] at htwice
  rw [length_after_evolve hold hfits, entries_after_evolve hold, ← List.append_cons] at honce
  rw [← List.append_cons] at hok
  refine ⟨hok, Entries.revised (Held.entries (empty.after steps).cells old) (Entries.joined first second),
    fun later hlater => ?_⟩
  rcases List.mem_pair.1 hlater with rfl | rfl
  · exact htwice
  · exact honce

/-- Entries for the hidden record in both changes, and a horizon that is changed again. -/
theorem evolve_joined_hidden :
    ∃ (start : Step) (first second joined : List (String × Value)),
      start = .setup (.list [.int 1, .int 2, .int 3]) (.int 4) [] ∧
      first = [("hidden", .mapping [("ns", .int 3), ("n_par", .int 1)]), ("h", .int 6)] ∧
      second = [("h", .int 7), ("hidden", .mapping [("grad", .int 2), ("ns", .int 4)])] ∧
      joined =
        [("hidden", .mapping [("ns", .int 4), ("n_par", .int 1), ("grad", .int 2)]), ("h", .int 7)] ∧
      ∃ shown, ∀ later ∈ [2, 3], ((Step.snapshot later).run
        (empty.after [start, .evolve 0 first, .evolve 1 second, .evolve 0 joined])).2 = .ok (.mapping shown) := by
  obtain ⟨start, hstart⟩ : ∃ start, start = Step.setup (.list [.int 1, .int 2, .int 3]) (.int 4) [] := ⟨_, rfl⟩
  obtain ⟨first, hfirst⟩ : ∃ first : List (String × Value),
      first = [("hidden", .mapping [("ns", .int 3), ("n_par", .int 1)]), ("h", .int 6)] := ⟨_, rfl⟩
  obtain ⟨second, hsecond⟩ : ∃ second : List (String × Value),
      second = [("h", .int 7), ("hidden", .mapping [("grad", .int 2), ("ns", .int 4)])] := ⟨_, rfl⟩
  have hnumber : (empty.after [start]).requests.length = 1 := by
    subst hstart
    decide +kernel
  have hok : ((Step.evolve 0 first).run (empty.after [start])).2.result.toOption.map (fun _ => ()) = some () := by
    subst hstart hfirst
    decide +kernel
  have hok' : ((Step.evolve 1 second).run (empty.after [start, .evolve 0 first])).2.result.toOption.map (fun _ => ()) =
      some () := by
    subst hstart hfirst hsecond
    decide +kernel
  have hjoin : Entries.AreJoinable first second := by
    intro name v fs hname hv hfs
    obtain ⟨kind, hkind⟩ := mergeable_iff.1 hname
    simp only [Form.recordFields, List.mem_cons, List.not_mem_nil, or_false, Prod.mk.injEq] at hkind
    subst hfirst hsecond
    rcases hkind with ⟨rfl, -⟩ | ⟨rfl, -⟩
    · cases hfs
    · exact ⟨_, (Option.some.inj hv).symm⟩
  obtain ⟨_, hok, -⟩ := exists_of_toOption_map hok
  obtain ⟨_, hok', -⟩ := exists_of_toOption_map hok'
  rw [← hnumber] at hok'
  have hshown := (evolve_joined hjoin hok hok').2
  rw [hnumber] at hshown
  obtain ⟨shown, hshown⟩ := hshown
  refine ⟨start, first, second, Entries.joined first second, hstart, hfirst, hsecond, ?_, shown, ?_⟩
  · subst hfirst hsecond
    rfl
  · intro later hlater
    rcases List.mem_pair.1 hlater with rfl | rfl
    · exact hshown 1 (by decide)
    · exact hshown 2 (by decide)

end Store

end StructuralSeries
