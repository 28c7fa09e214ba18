import StructuralSeries.Proofs.Double.Rational
import StructuralSeries.Proofs.Settings.Again
import StructuralSeries.Proofs.Value.Numbers

/-!
# The contract of settings

Whatever the values of a call are, settings that come of it are of the sort that is promised for each
(`Setting.Promised`), and the horizon is the floor of what was asked for, with one warning if that had a fraction
(`Settings.FollowsHorizon`). And values that keep the contract of their setting as it is written down
(`Setting.Accepts`) are never refused. Both together are `Settings.resolve_documented`.

The promises are read off the settings as they are written as options, one value for each name. Acceptance is
decided setting by setting, a default keeping the contract of its own setting.
-/

namespace StructuralSeries

/-! ## What is promised -/

/-- What a setting is promised to be once it is resolved. -/
def Setting.Promised : Setting → Value → Prop
  | .inputs, v => v = .absent ∨ ∃ g : Grid Double, v = .numbers .array (.float64 g) ∧ g.axes ≤ 2
  | .periods, v => v = .absent ∨ ∃ xs, v = Request.lineValue xs ∧ xs ≠ [] ∧
      (∀ x ∈ xs, x.isFinite = true ∧ Double.zero.lt x = true) ∧ xs.Nodup
  | .model, v => ∃ m, v = .text m
  | .horizon, v => v = .absent ∨ ∃ n : Nat, v = .int n
  | .outlier, v => ∃ x, v = .float x
  | .unitRootTest, v | .stepwise, v | .verbose, v | .concentrated, v | .arma, v => ∃ b, v = .bool b
  | .initial, v | .fixed, v => v = .absent ∨ ∃ xs, v = Request.lineValue xs ∧ xs ≠ []
  | .criterion, v => v = .text "aic" ∨ v = .text "bic" ∨ v = .text "aicc"

/-- **Settings that keep their promises are what is promised for each of them.** -/
theorem Settings.Promises.promised {s : Settings} (hs : s.Promises) (haxes : ∀ g ∈ s.inputs, g.axes ≤ 2)
    (t : Setting) : t.Promised (s.value t) := by
  have hline : ∀ {p : Option (List Double)} {P : List Double → Prop}, (∀ xs ∈ p, P xs) →
      Request.optionalLine p = .absent ∨ ∃ xs, Request.optionalLine p = Request.lineValue xs ∧ P xs := by
    intro p P h
    cases p with
    | none => exact Or.inl rfl
    | some xs => exact Or.inr ⟨xs, rfl, h xs rfl⟩
  cases t with
  | inputs =>
    have hvalue : s.value .inputs = inputsValue s.inputs := rfl
    rw [hvalue]
    cases hu : s.inputs with
    | none => exact Or.inl rfl
    | some g => exact Or.inr ⟨g, rfl, haxes g hu⟩
  | periods => exact hline fun xs hxs => ⟨hs.periods_ne_nil xs hxs, Contract.arePeriods_iff.1 (hs.arePeriods xs hxs)⟩
  | horizon =>
    have hvalue : s.value .horizon = horizonValue s.horizon := rfl
    rw [hvalue]
    cases hh : s.horizon with
    | none => exact Or.inl rfl
    | some h =>
      obtain ⟨n, rfl, -⟩ := hs.horizon h hh
      exact Or.inr ⟨n, rfl⟩
  | initial => exact hline hs.initial_ne_nil
  | fixed => exact hline hs.fixed_ne_nil
  | criterion =>
    have hname : s.value .criterion = .text s.criterion.name := rfl
    rw [hname]
    cases s.criterion with
    | aic => exact Or.inl rfl
    | bic => exact Or.inr (Or.inl rfl)
    | aicc => exact Or.inr (Or.inr rfl)
  | _ => exact ⟨_, rfl⟩

/-! ## The horizon -/

namespace Value

/-- The rational number that a real number is, if it is finite. -/
def Real.toRat? : Real → Option ℚ
  | whole n | word n => some n
  | double x => x.toRat?

/-- The rational number that a value is, if it is one. -/
def toRat? (v : Value) : Option ℚ := v.real?.bind Real.toRat?

/-- The value is a number that is not whole. -/
def IsFractional (v : Value) : Prop := ∃ q, v.toRat? = some q ∧ (⌊q⌋ : ℚ) ≠ q

/-- If the value is a whole number of fixed width, then it is in the range in which doubles hold all of them. -/
def InExactRange (v : Value) : Prop := ∀ n, v.real? = some (.word n) → n.natAbs ≤ Double.exactBound

theorem AsksForNone.not_isFractional {v : Value} (h : v.AsksForNone) : ¬ v.IsFractional := by
  rintro ⟨q, hq, -⟩
  obtain ⟨r, hr, hq⟩ := Option.bind_eq_some_iff.1 hq
  rcases h with rfl | hnan
  · cases hr
  · cases r with
    | whole n =>
      obtain rfl := real?_eq_whole_iff.1 hr
      cases hnan
    | word n =>
      have hfalse := isNaN_eq_of_toDouble hr (x := Double.ofInt n) rfl
      rw [hnan] at hfalse
      cases hfalse
    | double x =>
      have hx := isNaN_eq_of_toDouble hr (x := x) rfl
      rw [hnan] at hx
      cases x with
      | nan => cases hq
      | signed s m => cases hx

theorem Real.wholePart?_eq (r : Real) : r.wholePart? = r.toRat?.map Int.floor := by
  cases r with
  | whole n | word n => exact congrArg some (Int.floor_intCast n).symm
  | double x => exact x.floor?_eq

end Value

/-- What becomes of the horizon that a value asks for. -/
structure Settings.FollowsHorizon (v : Value) (horizon : Option Int) (warnings : List Warning) : Prop where
  open_iff : horizon = none ↔ v.AsksForNone
  nonneg : ∀ k ∈ horizon, 0 ≤ k
  floor : v.InExactRange → ∀ k ∈ horizon, ∃ q, v.toRat? = some q ∧ ⌊q⌋ = k
  warns : v.InExactRange → v.IsFractional → warnings = [.fractionalHorizon]
  silent : v.InExactRange → ¬ v.IsFractional → warnings = []
  once : warnings = [] ∨ warnings = [.fractionalHorizon]

namespace Value.AsksFor

variable {v : Value} {r : Value.Real} {k : Int}

theorem inBound (h : v.AsksFor r k) (hrange : v.InExactRange) : ∀ n, r = .word n → n ≤ Double.exactBound := by
  rintro n rfl
  have := hrange n h.real
  omega

theorem exists_rat (h : v.AsksFor r k) (hrange : v.InExactRange) : ∃ q, r.toRat? = some q ∧ ⌊q⌋ = k := by
  have hpart := h.wholePart?_eq_some (h.inBound hrange)
  rw [Value.Real.wholePart?_eq] at hpart
  exact Option.map_eq_some_iff.1 hpart

end Value.AsksFor

namespace Draft

theorem warnings_word (n : Int) : (wholeHorizon (some (.word n))).warnings =
    if (Double.ofInt n).floor? = some n then [] else [.fractionalHorizon] := by
  simp only [wholeHorizon]

theorem warnings_double (x : Double) : (wholeHorizon (some (.double x))).warnings =
    if x.isWhole then [] else [.fractionalHorizon] := by
  simp only [wholeHorizon]

/-- **A horizon is warned of if it is not whole.** -/
theorem warnings_wholeHorizon {v : Value} {r : Value.Real} {k : Int} (h : v.AsksFor r k) (hrange : v.InExactRange)
    {q : ℚ} (hq : r.toRat? = some q) :
    ((wholeHorizon (some r)).warnings = [] ∧ (⌊q⌋ : ℚ) = q) ∨
      (wholeHorizon (some r)).warnings = [.fractionalHorizon] ∧ (⌊q⌋ : ℚ) ≠ q := by
  cases r with
  | whole n =>
    cases hq
    exact Or.inl ⟨rfl, by rw [Int.floor_intCast]⟩
  | word n =>
    cases hq
    have hpart : (Double.ofInt n).floor? = some n :=
      h.wholePart?_eq_some_iff.1 (h.wholePart?_eq_some (h.inBound hrange)) n rfl
    exact Or.inl ⟨by rw [warnings_word, if_pos hpart], by rw [Int.floor_intCast]⟩
  | double x =>
    by_cases hwhole : x.isWhole = true
    · exact Or.inl ⟨by rw [warnings_double, if_pos hwhole], (Double.isWhole_iff hq).1 hwhole⟩
    · refine Or.inr ⟨by rw [warnings_double, if_neg hwhole], ?_⟩
      exact fun heq => hwhole ((Double.isWhole_iff hq).2 heq)

/-- A horizon is warned of at most once. -/
theorem warnings_wholeHorizon_cases (r : Option Value.Real) :
    (wholeHorizon r).warnings = [] ∨ (wholeHorizon r).warnings = [.fractionalHorizon] := by
  rcases r with _ | n | n | x
  · exact Or.inl rfl
  · exact Or.inl rfl
  · rw [warnings_word]
    exact ite_eq_or_eq _ _ _
  · rw [warnings_double]
    exact ite_eq_or_eq _ _ _

end Draft

namespace Settings

variable {options : List (String × Value)} {s : Settings}

/-- The only warning is that of the horizon. -/
theorem warnings_resolve {supplied : Supplied} {d : Draft} (hs : Supplied.ofOptions options = .ok supplied)
    (hd : d.Of supplied) : (resolve options).warnings = (Draft.wholeHorizon d.horizon).warnings := by
  unfold resolve
  rw [hs, Report.liftM_ok_chain, Supplied.draft_eq_ok_iff.2 hd, Report.liftM_ok_chain]
  exact Report.warnings_chain_of_silent fun n => Report.warnings_liftM_pure _ _

/-- **The horizon of the settings is the floor of what is asked for.** -/
theorem followsHorizon_of_resolve (h : (resolve options).result = .ok s) :
    FollowsHorizon ((options.lookup Setting.horizon.name).getD .absent) s.horizon (resolve options).warnings := by
  have hcases := Settings.horizon_cases h
  obtain ⟨supplied, d, horizon, outlier, hsupplied, hd, -, -, rfl⟩ := resolve_eq_ok_iff.1 h
  rw [warnings_resolve hsupplied hd]
  have hc := hd.horizon
  rw [Supplied.value_of_ofOptions hsupplied (by decide) (by decide)] at hc
  change Contract.horizon ((options.lookup Setting.horizon.name).getD .absent) = _ at hc
  generalize (options.lookup Setting.horizon.name).getD .absent = v at hcases hc ⊢
  rcases Contract.horizon_cases hc with ⟨hnone, hopen⟩ | ⟨r, hr, hreal, hnan⟩
  · obtain ⟨-, hh⟩ := hcases.resolve_right fun ⟨_, _, hasks, _⟩ => hasks.not_asksForNone hopen
    rw [hnone, hh]
    exact {
      open_iff := iff_of_true rfl hopen
      nonneg := nofun
      floor := fun _ => nofun
      warns := fun _ hfraction => absurd hfraction hopen.not_isFractional
      silent := fun _ _ => rfl
      once := Or.inl rfl }
  · have hnot : ¬ v.AsksForNone := by
      rintro (rfl | hnan')
      · cases hreal
      · rw [hnan] at hnan'
        cases hnan'
    obtain ⟨r', k, hasks, hk⟩ := hcases.resolve_left fun ⟨hopen, _⟩ => hnot hopen
    obtain rfl : r' = r := Option.some.inj (hasks.real.symm.trans hreal)
    have hrat : v.toRat? = r'.toRat? := by rw [Value.toRat?, hreal, Option.bind_some]
    rw [hr, hk]
    refine ⟨iff_of_false nofun hnot, ?nonneg, ?floor, ?warns, ?silent, Draft.warnings_wholeHorizon_cases _⟩
    case nonneg =>
      intro k' hk'
      obtain rfl := Option.some.inj hk'
      exact hasks.nonneg
    case floor =>
      intro hrange k' hk'
      obtain rfl := Option.some.inj hk'
      rw [hrat]
      exact hasks.exists_rat hrange
    case warns =>
      rintro hrange ⟨q, hq, hfraction⟩
      rw [hrat] at hq
      exact ((Draft.warnings_wholeHorizon hasks hrange hq).resolve_left fun ⟨_, hwhole⟩ => hfraction hwhole).1
    case silent =>
      intro hrange hwhole
      obtain ⟨q, hq, -⟩ := hasks.exists_rat hrange
      rcases Draft.warnings_wholeHorizon hasks hrange hq with ⟨hsilent, -⟩ | ⟨-, hfraction⟩
      · exact hsilent
      · exact absurd ⟨q, hrat.trans hq, hfraction⟩ hwhole

end Settings

/-! ## What is accepted -/

/-- A value says that an option is not given: it is nothing, or numbers that start with one that is not a number. -/
def Value.SaysUnset (v : Value) : Prop :=
  v = .absent ∨ ∃ g : Grid Double, v.HoldsNumbers g ∧ g.axes ≤ 2 ∧ Contract.isMarked g.data = true

/-- The contract of a setting, for numbers, text, truth values, and vectors and matrices of numbers. -/
def Setting.Accepts : Setting → Value → Prop
  | .inputs, v => v = .absent ∨ ∃ g : Grid Double, v.HoldsNumbers g ∧ g.axes ≤ 2
  | .periods, v => v.SaysUnset ∨ ∃ g : Grid Double, v.HoldsNumbers g ∧ g.axes ≤ 1 ∧ g.data ≠ [] ∧
      (∀ x ∈ g.data, x.isFinite = true ∧ Double.zero.lt x = true) ∧ g.data.Nodup
  | .model, v => ∃ m, v = .text m
  | .horizon, v => v = .absent ∨ ∃ x, v.number? = some x ∧
      (x.isNaN = true ∨ x.isFinite = true ∧ Double.zero.le x = true)
  | .outlier, v => ∃ x, v.number? = some x
  | .unitRootTest, v | .stepwise, v | .verbose, v | .concentrated, v | .arma, v => ∃ b, v.bool? = some b
  | .initial, v | .fixed, v => v.SaysUnset ∨ ∃ g : Grid Double, v.HoldsNumbers g ∧ g.axes ≤ 1 ∧ g.data ≠ []
  | .criterion, v => ∃ m, v = .text m ∧ String.ofList (Text.lower m.toList) ∈ ["aic", "bic", "aicc"]

/-- A default keeps the contract of its own setting. -/
theorem Setting.accepts_default (t : Setting) : t.Accepts t.default := by
  cases t with
  | inputs | horizon => exact Or.inl rfl
  | periods | initial | fixed => exact Or.inl (Or.inl rfl)
  | criterion => exact ⟨_, rfl, by decide +kernel⟩
  | _ => exact ⟨_, rfl⟩

namespace Contract

variable {v : Value} {g : Grid Double}

theorem vector_of_saysUnset (h : v.SaysUnset) : vector v = .ok (some none) := by
  rcases h with rfl | ⟨g, hg, haxes, hmark⟩
  · rfl
  · rw [vector_of_holdsNumbers hg (Nat.le_trans haxes (by decide)), if_pos hmark]

/-- Numbers along an axis are a vector, or they are unset. -/
theorem vector_of_line (h : v.HoldsNumbers g) (haxes : g.axes ≤ 1) (hne : g.data ≠ []) :
    vector v = .ok (some (unmarked (some g.data))) := by
  have hsize : g.size ≠ 0 := fun hzero => hne (List.length_eq_zero_iff.1 hzero)
  rw [vector_of_holdsNumbers h (Nat.le_trans haxes (by decide)), if_pos (And.intro haxes hsize),
    unmarked_some]
  split <;> rfl

theorem exists_vector_of_accepts
    (h : v.SaysUnset ∨ ∃ g : Grid Double, v.HoldsNumbers g ∧ g.axes ≤ 1 ∧ g.data ≠ []) :
    ∃ p, vector v = .ok (some p) := by
  rcases h with hunset | ⟨g, hg, haxes, hne⟩
  · exact ⟨none, vector_of_saysUnset hunset⟩
  · exact ⟨_, vector_of_line hg haxes hne⟩

theorem exists_periods_of_accepts (h : Setting.periods.Accepts v) : ∃ p, periods v = .ok (some p) := by
  rcases h with hunset | ⟨g, hg, haxes, hne, hpos, hnodup⟩
  · exact ⟨none, by rw [periods, vector_of_saysUnset hunset]; rfl⟩
  · have hare : arePeriods g.data = true := arePeriods_iff.2 ⟨hpos, hnodup⟩
    have hkept : unmarked (some g.data) = some g.data := by
      rw [unmarked_some, isMarked, List.head?_eq_some_head hne, Option.any_some, isNaN_of_arePeriods hare hne]
      rfl
    exact ⟨some g.data, periods_eq_some_iff.2 ⟨by rw [vector_of_line hg haxes hne, hkept], hare⟩⟩

theorem exists_horizon_of_accepts (h : Setting.horizon.Accepts v) : ∃ r, horizon v = .ok (some r) := by
  rcases h with rfl | ⟨x, hx, hrange⟩
  · exact ⟨none, rfl⟩
  · obtain ⟨r, hr, hdouble⟩ := Value.exists_real_of_number? hx
    rw [horizon_eq hr, hdouble, ok_bind]
    by_cases hnan : x.isNaN = true
    · exact ⟨none, by rw [if_pos hnan]; rfl⟩
    · obtain ⟨hfinite, hpos⟩ := hrange.resolve_left hnan
      exact ⟨some r, by rw [if_neg hnan, hfinite, hpos]; rfl⟩

theorem exists_criterion_of_accepts (h : Setting.criterion.Accepts v) : ∃ c, criterion v = .ok (some c) := by
  obtain ⟨m, rfl, hm⟩ := h
  have hname : ∀ n ∈ ["aic", "bic", "aicc"], ∃ c, Criterion.ofName? n = some c := by
    intro n hn
    rcases List.mem_cons.1 hn with rfl | hn
    · exact ⟨.aic, by decide⟩
    rcases List.mem_cons.1 hn with rfl | hn
    · exact ⟨.bic, by decide⟩
    obtain rfl := List.mem_singleton.1 hn
    exact ⟨.aicc, by decide⟩
  obtain ⟨c, hc⟩ := hname _ hm
  exact ⟨c, congrArg Except.ok hc⟩

end Contract

/-- **A value that keeps the contract as it is written down keeps it.** -/
theorem Setting.verdict_of_accepts {t : Setting} {v : Value} (h : t.Accepts v) : t.verdict v = .ok true := by
  have hread : ∀ {α : Type} {read : Except Fault (Option α)}, (∃ a, read = .ok (some a)) →
      read.map (·.isSome) = .ok true := by
    rintro α read ⟨a, rfl⟩
    rfl
  cases t with
  | inputs =>
    rcases h with rfl | ⟨g, hg, haxes⟩
    · rfl
    · refine hread ?_
      rw [Contract.inputs_of_holdsNumbers hg (Nat.le_trans haxes (by decide)), if_pos haxes]
      split
      · exact ⟨_, rfl⟩
      · exact ⟨_, rfl⟩
  | periods => exact hread (Contract.exists_periods_of_accepts h)
  | model =>
    obtain ⟨m, rfl⟩ := h
    rfl
  | horizon => exact hread (Contract.exists_horizon_of_accepts h)
  | outlier =>
    obtain ⟨x, hx⟩ := h
    obtain ⟨r, hr, -⟩ := Value.exists_real_of_number? hx
    exact hread ⟨r, congrArg Except.ok hr⟩
  | unitRootTest | stepwise | verbose | concentrated | arma =>
    obtain ⟨b, hb⟩ := h
    exact hread ⟨b, congrArg Except.ok hb⟩
  | initial | fixed => exact hread (Contract.exists_vector_of_accepts h)
  | criterion => exact hread (Contract.exists_criterion_of_accepts h)

namespace Supplied

variable {options : List (String × Value)}

/-- Each option is a value for a setting, and keeps the contract of that setting. -/
def AreAccepted (options : List (String × Value)) : Prop :=
  ∀ o ∈ options, ∃ t : Setting, Setting.canonicalName o.1 = t.name ∧ t.Accepts o.2

/-- Given or not, the value of a setting keeps its contract. -/
theorem AreAccepted.accepts (h : AreAccepted options) (t : Setting) : t.Accepts ((canonical options).value t) := by
  unfold value
  cases hlookup : (canonical options).lookup t.name with
  | none => exact t.accepts_default
  | some v =>
    obtain ⟨before, after, hsplit, -⟩ := List.lookup_eq_some_iff.1 hlookup
    have hmem : (t.name, v) ∈ canonical options := by
      rw [hsplit]
      exact List.mem_append_right _ List.mem_cons_self
    obtain ⟨o, ho, heq⟩ := List.mem_map.1 hmem
    obtain ⟨hname, rfl⟩ := Prod.mk.inj heq
    obtain ⟨t', hname', haccepts⟩ := h o ho
    obtain rfl : t' = t := Setting.name_injective (hname'.symm.trans hname)
    exact haccepts

theorem AreAccepted.ofOptions_eq_ok (h : AreAccepted options) (hnodup : (names (canonical options)).Nodup) :
    ofOptions options = .ok (canonical options) := by
  have hknown : ∀ n ∈ names (canonical options), Setting.isName n = true := by
    intro n hn
    rw [names_canonical, names, List.map_map] at hn
    obtain ⟨o, ho, rfl⟩ := List.mem_map.1 hn
    obtain ⟨t, hname, -⟩ := h o ho
    show Setting.isName (Setting.canonicalName o.1) = true
    rw [hname]
    exact t.isName_name
  rw [ofOptions_eq, nameRefusal?_eq_none_iff.2 ⟨hnodup, hknown⟩]

end Supplied

namespace Settings

open Supplied

variable {options : List (String × Value)}

/-- **Options that keep their contracts are accepted**, if none is given twice. -/
theorem exists_of_areAccepted (h : AreAccepted options) (hnodup : (names (canonical options)).Nodup) :
    ∃ s, (resolve options).result = .ok s := by
  obtain ⟨d, hd⟩ := exists_draft_iff.2 fun t => Setting.verdict_of_accepts (h.accepts t)
  obtain ⟨horizon, hhorizon⟩ := Draft.exists_wholeHorizon d.horizon
  obtain ⟨x, hx⟩ := h.accepts .outlier
  obtain ⟨r, hr, hdouble⟩ := Value.exists_real_of_number? hx
  have hsame : r = d.outlier := by
    have hreal := hd.outlier
    rw [Contract.real, hr] at hreal
    exact Option.some.inj (Except.ok.inj hreal)
  exact ⟨_, resolve_eq_ok_iff.2 ⟨_, d, horizon, x, h.ofOptions_eq_ok hnodup, hd, hhorizon, hsame ▸ hdouble, rfl⟩⟩

/-- **The contract of settings, both ways.**

Settings that come of a call have one value for each of the thirteen names, of the sort that is promised for it, and
their horizon is the floor of what was asked for, with one warning exactly if that was not whole. And a call is
accepted if its options are settings, each given once with numbers, text, truth values or vectors and matrices of
numbers that keep the contract of the setting. -/
theorem resolve_documented (options : List (String × Value)) :
    (∀ s, (resolve options).result = .ok s →
      names s.options = ["u", "periods", "model", "h", "outlier", "t_test", "stepwise", "verbose", "c_llik", "arma",
        "p0", "p", "criterion"] ∧
      (∀ t : Setting, ∃ v, s.options.lookup t.name = some v ∧ t.Promised v) ∧
      FollowsHorizon ((options.lookup Setting.horizon.name).getD .absent) s.horizon (resolve options).warnings) ∧
    ((names (canonical options)).Nodup → AreAccepted options → ∃ s, (resolve options).result = .ok s) := by
  refine ⟨fun s hs => ⟨rfl, fun t => ?_, followsHorizon_of_resolve hs⟩, fun hnodup h => exists_of_areAccepted h hnodup⟩
  refine ⟨s.value t, ?_, (promises_of_resolve hs).promised (axes_le_of_resolve hs) t⟩
  rw [Settings.options, lookup_named, if_pos t.mem_all]

/-- Two periods in a list, a setting by its second name, a criterion in capitals and a horizon of two and a half. -/
theorem resolve_documented_half :
    ∃ s, (resolve [("periods", .list [.float (.ofInt 4), .int 2]), ("tTest", .bool true), ("criterion", .text "BIC"),
        ("h", .float (.ofRatio false 5 2))]).result = .ok s ∧
      (∃ v, s.options.lookup "periods" = some v ∧ Setting.periods.Promised v) ∧ s.horizon = some 2 ∧
      (resolve [("periods", .list [.float (.ofInt 4), .int 2]), ("tTest", .bool true), ("criterion", .text "BIC"),
        ("h", .float (.ofRatio false 5 2))]).warnings = [.fractionalHorizon] := by
  obtain ⟨hpromised, haccepted⟩ := resolve_documented [("periods", .list [.float (.ofInt 4), .int 2]),
    ("tTest", .bool true), ("criterion", .text "BIC"), ("h", .float (.ofRatio false 5 2))]
  have hperiods : (Value.list [.float (.ofInt 4), .int 2]).HoldsNumbers (.ofList [.ofInt 4, .ofInt 2]) := by
    refine @Value.HoldsNumbers.list [(.float (.ofInt 4), .scalar (.ofInt 4)), (.int 2, .scalar (.ofInt 2))] _ ?_ rfl
    simp only [List.forall_mem_cons]
    exact ⟨.number rfl, .number (by decide +kernel), fun p hp => absurd hp List.not_mem_nil⟩
  have hvector : (∀ x ∈ [Double.ofInt 4, .ofInt 2], x.isFinite = true ∧ Double.zero.lt x = true) ∧
      [Double.ofInt 4, .ofInt 2].Nodup := by decide +kernel
  have haccepts : AreAccepted [("periods", .list [.float (.ofInt 4), .int 2]), ("tTest", .bool true),
      ("criterion", .text "BIC"), ("h", .float (.ofRatio false 5 2))] := by
    unfold AreAccepted
    simp only [List.forall_mem_cons]
    refine ⟨⟨.periods, by decide, Or.inr ⟨_, hperiods, Nat.le_refl 1, by decide, hvector⟩⟩,
      ⟨.unitRootTest, by decide, true, rfl⟩, ⟨.criterion, by decide, "BIC", rfl, by decide +kernel⟩,
      ⟨.horizon, by decide, Or.inr ⟨_, rfl, Or.inr (by decide +kernel)⟩⟩, fun o ho => absurd ho List.not_mem_nil⟩
  obtain ⟨s, hs⟩ := haccepted (by decide) haccepts
  obtain ⟨-, hsettings, hhorizon⟩ := hpromised s hs
  have hrat : (Value.float (.ofRatio false 5 2)).toRat? = some (5 / 2) := by decide +kernel
  have hfraction : (Value.float (.ofRatio false 5 2)).IsFractional := ⟨5 / 2, hrat, by decide +kernel⟩
  have hrange : (Value.float (.ofRatio false 5 2)).InExactRange := nofun
  refine ⟨s, hs, hsettings .periods, ?_, hhorizon.warns hrange hfraction⟩
  cases hk : s.horizon with
  | none =>
    rcases hhorizon.open_iff.1 hk with habsent | hnan
    · cases habsent
    · cases hnan
  | some k =>
    obtain ⟨q, hq, rfl⟩ := hhorizon.floor hrange k hk
    obtain rfl : 5 / 2 = q := Option.some.inj (hrat.symm.trans hq)
    exact congrArg some (by decide +kernel)

end Settings

end StructuralSeries
