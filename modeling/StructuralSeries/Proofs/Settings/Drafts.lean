import StructuralSeries.Proofs.Outcome
import StructuralSeries.Settings.Resolved

/-!
# Contracts kept and broken

A call has a draft exactly when every setting keeps its contract, and the draft is what the settings mean. If one
does not, the first in the order of the table decides how the call fails: by a broken contract, or by a fault of
its value.

## Shape

* `Setting.verdict` — whether a value keeps the contract of a setting
* `Supplied.draft_eq_ok_iff`, `Supplied.draft_eq_error_iff` — the two outcomes of a draft
* `Settings.resolve_eq_ok_iff`, `Settings.resolve_eq_error_iff` — the two outcomes of the settings of a call
-/

namespace StructuralSeries

/-! ## Options by name -/

/-- A name that has no second name, and is none, stands for itself alone. -/
theorem Setting.canonicalName_eq_iff {n name : String} (h₁ : name ∉ aliases.map Prod.fst)
    (h₂ : name ∉ aliases.map Prod.snd) : canonicalName n = name ↔ n = name := by
  unfold canonicalName
  cases hl : aliases.lookup n with
  | none => exact Iff.rfl
  | some m =>
    obtain ⟨before, after, heq, -⟩ := List.lookup_eq_some_iff.1 hl
    have hmem : (n, m) ∈ aliases := by simp [heq]
    refine iff_of_false ?_ ?_
    · rintro rfl
      exact h₂ (List.mem_map_of_mem hmem)
    · rintro rfl
      exact h₁ (List.mem_map_of_mem hmem)

namespace Supplied

variable {options : List (String × Value)} {supplied : Supplied}

/-- Names of which none is repeated are distinct, and none of them was there before. -/
theorem firstRepeated?_eq_none_iff {seen names : List String} :
    firstRepeated? seen names = none ↔ names.Nodup ∧ ∀ n ∈ names, n ∉ seen := by
  induction names generalizing seen with
  | nil => simp [firstRepeated?]
  | cons n names ih =>
    rw [firstRepeated?, List.nodup_cons, List.forall_mem_cons]
    by_cases hn : n ∈ seen
    · rw [if_pos hn]
      exact iff_of_false nofun fun h => h.2.1 hn
    · rw [if_neg hn, ih]
      constructor
      · rintro ⟨hnodup, hseen⟩
        exact ⟨⟨fun hmem => hseen n hmem List.mem_cons_self, hnodup⟩, hn,
          fun m hm hmem => hseen m hm (List.mem_cons_of_mem _ hmem)⟩
      · rintro ⟨⟨hnot, hnodup⟩, -, hseen⟩
        refine ⟨hnodup, fun m hm hmem => ?_⟩
        rcases List.mem_cons.1 hmem with rfl | hmem
        · exact hnot hm
        · exact hseen m hm hmem

theorem eq_of_ofOptions (h : ofOptions options = .ok supplied) :
    supplied = options.map fun o => (Setting.canonicalName o.1, o.2) := by
  unfold ofOptions at h
  dsimp only at h
  split at h
  · cases h
  · split at h
    · exact (Except.ok.inj h).symm
    · cases h

/-- Options that are taken are settings. -/
theorem isName_of_ofOptions (h : ofOptions options = .ok supplied) {o : String × Value} (ho : o ∈ options) :
    Setting.isName (Setting.canonicalName o.1) = true := by
  unfold ofOptions at h
  dsimp only at h
  split at h
  · cases h
  · split at h
    · next hunknown =>
      have hknown := List.filter_eq_nil_iff.1 hunknown (Setting.canonicalName o.1)
        (List.mem_map_of_mem (List.mem_map_of_mem ho))
      simpa using hknown
    · cases h

theorem lookup_map_canonicalName {name : String} (h : ∀ n, Setting.canonicalName n = name ↔ n = name)
    (options : List (String × Value)) :
    (options.map fun o => (Setting.canonicalName o.1, o.2)).lookup name = options.lookup name := by
  induction options with
  | nil => rfl
  | cons o options ih =>
    rw [List.map_cons, List.lookup_cons, List.lookup_cons, ih]
    by_cases hn : o.1 = name
    · simp [hn, (h name).2 rfl]
    · have hc : Setting.canonicalName o.1 ≠ name := fun hc => hn ((h o.1).1 hc)
      simp [beq_eq_false_iff_ne.2 (Ne.symm hn), beq_eq_false_iff_ne.2 (Ne.symm hc)]

/-- The value of a setting with a single name is the option of that name. -/
theorem value_of_ofOptions (h : ofOptions options = .ok supplied) {s : Setting}
    (h₁ : s.name ∉ Setting.aliases.map Prod.fst) (h₂ : s.name ∉ Setting.aliases.map Prod.snd) :
    supplied.value s = (options.lookup s.name).getD s.default := by
  rw [value, eq_of_ofOptions h, lookup_map_canonicalName fun n => Setting.canonicalName_eq_iff h₁ h₂]

end Supplied

/-! ## Verdicts -/

/-- Whether a value keeps the contract of a setting. -/
def Setting.verdict : Setting → Value → Except Fault Bool
  | inputs, v => (Contract.inputs v).map (·.isSome)
  | periods, v => (Contract.periods v).map (·.isSome)
  | model, v => (Contract.model v).map (·.isSome)
  | horizon, v => (Contract.horizon v).map (·.isSome)
  | outlier, v => (Contract.real v).map (·.isSome)
  | unitRootTest, v | stepwise, v | verbose, v | concentrated, v | arma, v => (Contract.flag v).map (·.isSome)
  | initial, v | fixed, v => (Contract.vector v).map (·.isSome)
  | criterion, v => (Contract.criterion v).map (·.isSome)

namespace Supplied

variable {supplied : Supplied} {s : Setting} {e : Fault}

/-- The check of a setting in a call. -/
def check (supplied : Supplied) (s : Setting) : Except Fault Unit := do
  if ← s.verdict (supplied.value s) then
    return ()
  else
    throw (supplied.broken s)

/-- A broken contract is refused, if the value can be shown. -/
theorem broken_of_isShowable (h : (supplied.value s).isShowable = true) :
    supplied.broken s = .refused (.brokenContract s.name s.contract (supplied.value s).shown) := if_pos h

theorem broken_congr {supplied' : Supplied} (h : supplied.value s = supplied'.value s) :
    supplied.broken s = supplied'.broken s := by
  simp only [broken, h]

/-- It is no refusal exactly if the value cannot be shown. -/
theorem broken_eq_iff (he : ∀ why, e ≠ .refused why) :
    supplied.broken s = e ↔ (supplied.value s).isShowable = false ∧ Fault.tooManyDigits = e := by
  cases hv : (supplied.value s).isShowable with
  | true => exact iff_of_false (fun h => he _ (h.symm.trans (broken_of_isShowable hv))) nofun
  | false => simp [broken, hv]

theorem check_eq_ok_iff : supplied.check s = .ok () ↔ s.verdict (supplied.value s) = .ok true := by
  unfold check
  rcases s.verdict (supplied.value s) with e | _ | _ <;> simp [bind, Except.bind, throw_ne_ok, pure_eq_ok]

theorem exists_check_eq_ok_iff :
    (∃ u, supplied.check s = .ok u) ↔ s.verdict (supplied.value s) = .ok true :=
  ⟨fun ⟨(), h⟩ => check_eq_ok_iff.1 h, fun h => ⟨(), check_eq_ok_iff.2 h⟩⟩

theorem check_eq_error_iff :
    supplied.check s = .error e ↔ s.verdict (supplied.value s) = .error e ∨
      s.verdict (supplied.value s) = .ok false ∧ supplied.broken s = e := by
  unfold check
  rcases s.verdict (supplied.value s) with e | _ | _ <;>
    simp [bind, Except.bind, throw_eq_error, pure_ne_error]

/-! ## Settings one by one -/

section Require

variable {α : Type} {read : Value → Except Fault (Option α)} {a : α}

theorem require_eq_ok_iff : supplied.require s read = .ok a ↔ read (supplied.value s) = .ok (some a) := by
  unfold require
  rcases read (supplied.value s) with e | _ | _ <;> simp [bind, Except.bind, throw_ne_ok, pure_eq_ok]

/-- A setting fails as its check does. -/
theorem require_map (h : s.verdict (supplied.value s) = (read (supplied.value s)).map (·.isSome)) :
    (supplied.require s read).map (fun _ => ()) = supplied.check s := by
  unfold require check
  rw [h]
  rcases read (supplied.value s) with e | _ | _ <;> rfl

end Require

end Supplied

/-! ## Drafts -/

/-- The draft of a call: every setting keeps its contract, and this is what it means. -/
structure Draft.Of (d : Draft) (supplied : Supplied) : Prop where
  inputs : Contract.inputs (supplied.value .inputs) = .ok (some d.inputs)
  periods : Contract.periods (supplied.value .periods) = .ok (some d.periods)
  model : Contract.model (supplied.value .model) = .ok (some d.model)
  horizon : Contract.horizon (supplied.value .horizon) = .ok (some d.horizon)
  outlier : Contract.real (supplied.value .outlier) = .ok (some d.outlier)
  unitRootTest : Contract.flag (supplied.value .unitRootTest) = .ok (some d.unitRootTest)
  stepwise : Contract.flag (supplied.value .stepwise) = .ok (some d.stepwise)
  verbose : Contract.flag (supplied.value .verbose) = .ok (some d.verbose)
  concentrated : Contract.flag (supplied.value .concentrated) = .ok (some d.concentrated)
  arma : Contract.flag (supplied.value .arma) = .ok (some d.arma)
  initial : Contract.vector (supplied.value .initial) = .ok (some d.initial)
  fixed : Contract.vector (supplied.value .fixed) = .ok (some d.fixed)
  criterion : Contract.criterion (supplied.value .criterion) = .ok (some d.criterion)

namespace Supplied

variable {supplied : Supplied} {d : Draft} {e : Fault}

theorem draft_eq_ok_iff : supplied.draft = .ok d ↔ d.Of supplied := by
  constructor
  · intro h
    unfold draft at h
    obtain ⟨inputs, h₁, h⟩ := bind_eq_ok.1 h
    obtain ⟨periods, h₂, h⟩ := bind_eq_ok.1 h
    obtain ⟨model, h₃, h⟩ := bind_eq_ok.1 h
    obtain ⟨horizon, h₄, h⟩ := bind_eq_ok.1 h
    obtain ⟨outlier, h₅, h⟩ := bind_eq_ok.1 h
    obtain ⟨unitRootTest, h₆, h⟩ := bind_eq_ok.1 h
    obtain ⟨stepwise, h₇, h⟩ := bind_eq_ok.1 h
    obtain ⟨verbose, h₈, h⟩ := bind_eq_ok.1 h
    obtain ⟨concentrated, h₉, h⟩ := bind_eq_ok.1 h
    obtain ⟨arma, h₁₀, h⟩ := bind_eq_ok.1 h
    obtain ⟨initial, h₁₁, h⟩ := bind_eq_ok.1 h
    obtain ⟨fixed, h₁₂, h⟩ := bind_eq_ok.1 h
    obtain ⟨criterion, h₁₃, h⟩ := bind_eq_ok.1 h
    rw [require_eq_ok_iff] at h₁ h₂ h₃ h₄ h₅ h₆ h₇ h₈ h₉ h₁₀ h₁₁ h₁₂ h₁₃
    obtain rfl := pure_eq_ok.1 h
    exact ⟨h₁, h₂, h₃, h₄, h₅, h₆, h₇, h₈, h₉, h₁₀, h₁₁, h₁₂, h₁₃⟩
  · intro h
    unfold draft
    rw [require_eq_ok_iff.2 h.inputs, ok_bind, require_eq_ok_iff.2 h.periods, ok_bind,
      require_eq_ok_iff.2 h.model, ok_bind, require_eq_ok_iff.2 h.horizon, ok_bind,
      require_eq_ok_iff.2 h.outlier, ok_bind, require_eq_ok_iff.2 h.unitRootTest, ok_bind,
      require_eq_ok_iff.2 h.stepwise, ok_bind, require_eq_ok_iff.2 h.verbose, ok_bind,
      require_eq_ok_iff.2 h.concentrated, ok_bind, require_eq_ok_iff.2 h.arma, ok_bind,
      require_eq_ok_iff.2 h.initial, ok_bind, require_eq_ok_iff.2 h.fixed, ok_bind,
      require_eq_ok_iff.2 h.criterion, ok_bind]
    rfl

/-- A chain whose first step fails as a check does fails as the list of checks does, if its rest fails as theirs. -/
theorem chain_eq_error_iff {α β : Type} {x : Except Fault α} {f : α → Except Fault β} {s : Setting}
    {rest : List Setting} (hx : x.map (fun _ => ()) = supplied.check s)
    (hf : ∀ a, x = .ok a → (f a = .error e ↔ rest.mapM supplied.check = .error e)) :
    (x >>= f) = .error e ↔ (s :: rest).mapM supplied.check = .error e := by
  rw [List.mapM_cons, ← hx]
  cases x with
  | error e' => exact ⟨fun h => by cases h; rfl, fun h => by cases h; rfl⟩
  | ok a =>
    show f a = .error e ↔ (rest.mapM supplied.check >>= fun us => pure (() :: us)) = .error e
    rw [hf a rfl, bind_eq_error]
    simp [pure_ne_error]

theorem draft_eq_error_iff_mapM : supplied.draft = .error e ↔ Setting.all.mapM supplied.check = .error e := by
  unfold draft Setting.all
  -- one step for each setting, in the order of the table
  refine chain_eq_error_iff (require_map rfl) fun _ _ => ?_
  refine chain_eq_error_iff (require_map rfl) fun _ _ => ?_
  refine chain_eq_error_iff (require_map rfl) fun _ _ => ?_
  refine chain_eq_error_iff (require_map rfl) fun _ _ => ?_
  refine chain_eq_error_iff (require_map rfl) fun _ _ => ?_
  refine chain_eq_error_iff (require_map rfl) fun _ _ => ?_
  refine chain_eq_error_iff (require_map rfl) fun _ _ => ?_
  refine chain_eq_error_iff (require_map rfl) fun _ _ => ?_
  refine chain_eq_error_iff (require_map rfl) fun _ _ => ?_
  refine chain_eq_error_iff (require_map rfl) fun _ _ => ?_
  refine chain_eq_error_iff (require_map rfl) fun _ _ => ?_
  refine chain_eq_error_iff (require_map rfl) fun _ _ => ?_
  refine chain_eq_error_iff (require_map rfl) fun _ _ => ?_
  exact iff_of_false pure_ne_error pure_ne_error

/-- **The first setting that does not keep its contract decides.** -/
theorem draft_eq_error_iff :
    supplied.draft = .error e ↔
      ∃ before s after, Setting.all = before ++ s :: after ∧
        (∀ t ∈ before, t.verdict (supplied.value t) = .ok true) ∧ supplied.check s = .error e := by
  rw [draft_eq_error_iff_mapM, mapM_eq_error_iff]
  simp only [exists_check_eq_ok_iff]

/-- There is a draft if every setting keeps its contract. -/
theorem exists_draft_iff :
    (∃ d : Draft, d.Of supplied) ↔ ∀ s : Setting, s.verdict (supplied.value s) = .ok true := by
  constructor
  · rintro ⟨d, h⟩ s
    cases s with
    | inputs => exact congrArg (Except.map _) h.inputs
    | periods => exact congrArg (Except.map _) h.periods
    | model => exact congrArg (Except.map _) h.model
    | horizon => exact congrArg (Except.map _) h.horizon
    | outlier => exact congrArg (Except.map _) h.outlier
    | unitRootTest => exact congrArg (Except.map _) h.unitRootTest
    | stepwise => exact congrArg (Except.map _) h.stepwise
    | verbose => exact congrArg (Except.map _) h.verbose
    | concentrated => exact congrArg (Except.map _) h.concentrated
    | arma => exact congrArg (Except.map _) h.arma
    | initial => exact congrArg (Except.map _) h.initial
    | fixed => exact congrArg (Except.map _) h.fixed
    | criterion => exact congrArg (Except.map _) h.criterion
  · intro h
    cases hd : supplied.draft with
    | ok d => exact ⟨d, draft_eq_ok_iff.1 hd⟩
    | error e =>
      obtain ⟨-, s, -, -, -, hs⟩ := draft_eq_error_iff.1 hd
      rw [check_eq_ok_iff.2 (h s)] at hs
      cases hs

end Supplied

/-! ## Horizon and critical value -/

namespace Draft

/-- A horizon that keeps its contract has a whole part. -/
theorem exists_wholeHorizon (horizon : Option Value.Real) : ∃ n, (wholeHorizon horizon).result = .ok n := by
  rcases horizon with _ | n | n | x
  · exact ⟨none, rfl⟩
  · exact ⟨some n, rfl⟩
  · exact ⟨_, rfl⟩
  · exact ⟨_, rfl⟩

/-- The settings of a draft, once its horizon is whole and its critical value a double. -/
def settled (d : Draft) (horizon : Option Int) (outlier : Double) : Settings where
  inputs := d.inputs
  periods := d.periods
  model := d.model
  horizon := horizon
  outlier := outlier
  unitRootTest := d.unitRootTest
  stepwise := d.stepwise
  verbose := d.verbose
  concentrated := d.concentrated
  arma := d.arma
  initial := d.initial
  fixed := d.fixed
  criterion := d.criterion

theorem result_settle (d : Draft) :
    d.settle.result = (do
      let horizon ← (wholeHorizon d.horizon).result
      let outlier ← d.outlier.toDouble
      return d.settled horizon outlier) := by
  unfold settle
  simp only [Report.result_chain, Report.result_liftM, Report.result_pure]
  rfl

theorem settle_eq_error_iff {d : Draft} {e : Fault} :
    d.settle.result = .error e ↔ d.outlier.toDouble = .error e := by
  obtain ⟨n, hn⟩ := exists_wholeHorizon d.horizon
  rw [result_settle, hn, ok_bind, bind_eq_error]
  simp [pure_ne_error]

end Draft

/-! ## Settings -/

namespace Settings

variable {options : List (String × Value)} {s : Settings} {e : Fault}

theorem result_resolve (options : List (String × Value)) :
    (resolve options).result = (do
      let supplied ← Supplied.ofOptions options
      let draft ← supplied.draft
      draft.settle.result) := by
  unfold resolve
  simp only [Report.result_chain, Report.result_liftM]

theorem resolve_eq_ok_iff :
    (resolve options).result = .ok s ↔
      ∃ (supplied : Supplied) (draft : Draft) (horizon : Option Int) (outlier : Double),
        Supplied.ofOptions options = .ok supplied ∧ draft.Of supplied ∧
        (Draft.wholeHorizon draft.horizon).result = .ok horizon ∧ draft.outlier.toDouble = .ok outlier ∧
        draft.settled horizon outlier = s := by
  rw [result_resolve]
  constructor
  · intro h
    obtain ⟨supplied, hs, h⟩ := bind_eq_ok.1 h
    obtain ⟨draft, hd, h⟩ := bind_eq_ok.1 h
    rw [Draft.result_settle] at h
    obtain ⟨horizon, hh, h⟩ := bind_eq_ok.1 h
    obtain ⟨outlier, ho, h⟩ := bind_eq_ok.1 h
    exact ⟨supplied, draft, horizon, outlier, hs, Supplied.draft_eq_ok_iff.1 hd, hh, ho, pure_eq_ok.1 h⟩
  · rintro ⟨supplied, draft, horizon, outlier, hs, hd, hh, ho, rfl⟩
    rw [hs, ok_bind, Supplied.draft_eq_ok_iff.2 hd, ok_bind, Draft.result_settle, hh, ok_bind, ho, ok_bind]
    rfl

theorem resolve_eq_error_iff :
    (resolve options).result = .error e ↔
      Supplied.ofOptions options = .error e ∨
        ∃ supplied, Supplied.ofOptions options = .ok supplied ∧
          (supplied.draft = .error e ∨ ∃ draft : Draft, draft.Of supplied ∧ draft.outlier.toDouble = .error e) := by
  rw [result_resolve, bind_eq_error]
  simp only [bind_eq_error, Supplied.draft_eq_ok_iff, Draft.settle_eq_error_iff]

end Settings

end StructuralSeries
