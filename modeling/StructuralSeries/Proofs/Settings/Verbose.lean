import StructuralSeries.Proofs.Settings.Names

/-!
# Settings of calls that differ in being verbose

Two calls that differ in nothing but the value of the option `verbose`, which is true in one and false in the other,
have the same settings but for that one, with the same warnings, or fail alike (`Settings.resolve_withVerbose`). No
setting is resolved with a notice (`Settings.notices_resolve`).
-/

namespace StructuralSeries

/-! ## Options that are verbose or not -/

/-- Options with a value for being verbose among them. -/
def withVerbose (before after : List (String × Value)) (v : Value) : List (String × Value) :=
  before ++ (Setting.verbose.name, v) :: after

section WithVerbose

variable {before after : List (String × Value)} {v w : Value}

@[simp] theorem names_withVerbose (before after : List (String × Value)) (v : Value) :
    (withVerbose before after v).map Prod.fst =
      before.map Prod.fst ++ Setting.verbose.name :: after.map Prod.fst := by
  simp [withVerbose]

end WithVerbose

namespace Supplied

variable {before after : List (String × Value)} {v w : Value}

/-- Whether options are settings, and each of them given once, does not depend on their values. -/
theorem ofOptions_withVerbose (before after : List (String × Value)) :
    (∃ e, ∀ v, ofOptions (withVerbose before after v) = .error e) ∨
      ∃ before' after' : Supplied, Setting.verbose.name ∉ before'.map Prod.fst ∧
        ∀ v, ofOptions (withVerbose before after v) = .ok (withVerbose before' after' v) := by
  have hcanonical : ∀ v, canonical (withVerbose before after v) =
      withVerbose (canonical before) (canonical after) v := by
    intro v
    rw [withVerbose, canonical_append]
    rfl
  -- the names decide, and they are the same for every value
  have hnames : ∀ v, names (canonical (withVerbose before after v)) =
      names (canonical before) ++ Setting.verbose.name :: names (canonical after) := by
    intro v
    rw [hcanonical]
    exact names_withVerbose _ _ _
  cases hrefusal : nameRefusal? (names (canonical before) ++ Setting.verbose.name :: names (canonical after)) with
  | some why =>
    refine Or.inl ⟨.refused why, fun v => ?_⟩
    rw [ofOptions_eq, hnames, hrefusal]
  | none =>
    refine Or.inr ⟨canonical before, canonical after, ?_, fun v => ?_⟩
    · obtain ⟨hnodup, -⟩ := nameRefusal?_eq_none_iff.1 hrefusal
      exact fun hmem => (List.nodup_append.1 hnodup).2.2 _ hmem _ List.mem_cons_self rfl
    · rw [ofOptions_eq, hnames, hrefusal, hcanonical]

/-! ## Drafts -/

theorem value_withVerbose_of_ne {s : Setting} (h : s ≠ .verbose) :
    value (withVerbose before after v) s = value (withVerbose before after w) s :=
  (value_insert_of_ne h).trans (value_insert_of_ne h).symm

/-- Another setting is read alike. -/
theorem read_withVerbose {α : Type} {s : Setting} {read : Value → Except Fault (Option α)} {a : α}
    (hs : s ≠ .verbose) (h : read (value (withVerbose before after v) s) = .ok (some a)) :
    read (value (withVerbose before after w) s) = .ok (some a) := by
  rw [value_withVerbose_of_ne hs]
  exact h

theorem value_withVerbose (h : Setting.verbose.name ∉ before.map Prod.fst) :
    value (withVerbose before after v) .verbose = v := value_insert_self h

end Supplied

/-- The draft of the same call if it is not verbose. -/
def Draft.quieted (d : Draft) : Draft := { d with verbose := false }

def Settings.quieted (s : Settings) : Settings := { s with verbose := false }

namespace Supplied

variable {before after : Supplied} {v w : Value}

theorem check_withVerbose (h : Setting.verbose.name ∉ before.map Prod.fst) (hv : v.bool?.isSome = true)
    (hw : w.bool?.isSome = true) :
    check (withVerbose before after v) = check (withVerbose before after w) := by
  funext s
  by_cases hs : s = .verbose
  · subst hs
    have hcheck : ∀ {x : Value}, x.bool?.isSome = true → check (withVerbose before after x) .verbose = .ok () := by
      intro x hx
      rw [check_eq_ok_iff, value_withVerbose h]
      exact congrArg Except.ok hx
    rw [hcheck hv, hcheck hw]
  · have hvalue : value (withVerbose before after v) s = value (withVerbose before after w) s :=
      value_withVerbose_of_ne hs
    rw [check, check, hvalue, broken_congr hvalue]

/-- **A call that is not verbose has the draft of one that is**, but for being verbose, or fails as it does. -/
theorem draft_withVerbose (h : Setting.verbose.name ∉ before.map Prod.fst) (hv : v.bool? = some true)
    (hw : w.bool? = some false) :
    draft (withVerbose before after w) = (draft (withVerbose before after v)).map Draft.quieted := by
  cases hd : draft (withVerbose before after v) with
  | error e =>
    rw [draft_eq_error_iff_mapM] at hd
    refine draft_eq_error_iff_mapM.2 ?_
    rw [check_withVerbose h (w := v) (by rw [hw]; rfl) (by rw [hv]; rfl), hd]
  | ok d =>
    have hd := draft_eq_ok_iff.1 hd
    exact draft_eq_ok_iff.2
      { inputs := read_withVerbose nofun hd.inputs
        periods := read_withVerbose nofun hd.periods
        model := read_withVerbose nofun hd.model
        horizon := read_withVerbose nofun hd.horizon
        outlier := read_withVerbose nofun hd.outlier
        unitRootTest := read_withVerbose nofun hd.unitRootTest
        stepwise := read_withVerbose nofun hd.stepwise
        verbose := by rw [value_withVerbose h]; exact congrArg Except.ok hw
        concentrated := read_withVerbose nofun hd.concentrated
        arma := read_withVerbose nofun hd.arma
        initial := read_withVerbose nofun hd.initial
        fixed := read_withVerbose nofun hd.fixed
        criterion := read_withVerbose nofun hd.criterion }

end Supplied

/-! ## Settings -/

theorem Draft.settle_quieted (d : Draft) : d.quieted.settle = Settings.quieted <$> d.settle := by
  unfold settle
  simp only [map_bind, map_pure]
  rfl

theorem Draft.notices_settle (d : Draft) : d.settle.notices = [] := by
  have hwhole : (wholeHorizon d.horizon).notices = [] := by
    rcases d.horizon with _ | _ | _ | _
    all_goals rfl
  refine List.eq_nil_iff_forall_not_mem.2 fun n hn => ?_
  unfold settle at hn
  rcases Report.mem_notices_chain hn with hn | ⟨_, -, hn⟩
  · rw [hwhole] at hn
    cases hn
  · obtain ⟨_, -, hn⟩ := Report.mem_notices_liftM_chain hn
    cases hn

namespace Settings

variable {before after : List (String × Value)} {v w : Value}

theorem notices_resolve (options : List (String × Value)) : (resolve options).notices = [] := by
  refine List.eq_nil_iff_forall_not_mem.2 fun n hn => ?_
  unfold resolve at hn
  obtain ⟨supplied, -, hn⟩ := Report.mem_notices_liftM_chain hn
  obtain ⟨d, -, hn⟩ := Report.mem_notices_liftM_chain hn
  rw [d.notices_settle] at hn
  cases hn

theorem hushed_resolve (options : List (String × Value)) : (resolve options).hushed = resolve options :=
  Report.hushed_eq_self (notices_resolve options)

/-- **A call that is not verbose has the settings of one that is**, but for being verbose, with the same warnings, or
fails as it does. -/
theorem resolve_withVerbose (hv : v.bool? = some true) (hw : w.bool? = some false) :
    resolve (withVerbose before after w) = quieted <$> resolve (withVerbose before after v) := by
  unfold resolve
  simp only [map_bind]
  rcases Supplied.ofOptions_withVerbose before after with ⟨e, he⟩ | ⟨before', after', hname, hok⟩
  · rw [he v, he w]
    rfl
  · have hdraft : Supplied.draft (withVerbose before' after' w) =
        (Supplied.draft (withVerbose before' after' v)).map Draft.quieted := Supplied.draft_withVerbose hname hv hw
    rw [hok v, hok w, Report.liftM_ok_chain, Report.liftM_ok_chain, hdraft]
    cases Supplied.draft (withVerbose before' after' v) with
    | error e => rfl
    | ok d =>
      rw [Except.map, Report.liftM_ok_chain, Report.liftM_ok_chain]
      exact d.settle_quieted

theorem verbose_of_resolve {s : Settings} (hv : v.bool? = some true)
    (h : (resolve (withVerbose before after v)).result = .ok s) : s.verbose = true := by
  obtain ⟨supplied, d, horizon, outlier, hs, hd, -, -, rfl⟩ := resolve_eq_ok_iff.1 h
  rcases Supplied.ofOptions_withVerbose before after with ⟨e, he⟩ | ⟨before', after', hname, hok⟩
  · rw [he] at hs
    cases hs
  · rw [hok] at hs
    cases hs
    have hflag := hd.verbose
    rw [Supplied.value_withVerbose hname] at hflag
    have hsome : v.bool? = some d.verbose := Except.ok.inj hflag
    rw [hv] at hsome
    exact (Option.some.inj hsome).symm

end Settings

end StructuralSeries
