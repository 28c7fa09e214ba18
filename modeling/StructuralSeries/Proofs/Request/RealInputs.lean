import StructuralSeries.Proofs.Sample.Trimmed
import StructuralSeries.Proofs.Session.Steps

/-!
# Whether a request has inputs

A request tells whether it has real inputs by the columns that it keeps. Real inputs keep a column for each observation
that is left once missing values are cut off, so a request with at most two observations left tells that it has none,
although it was given some (`Request.hasInputs_iff`). In every other case it tells what it was given.
-/

namespace StructuralSeries

namespace Request

/-- What is stored of a request tells the same as the request. -/
theorem run_get_hasInputs [Text.Reader] (r : Request) (s : Store) :
    ((Step.get s.requests.length "has_inputs").run (s.add (r.fields s.cells.length))).2 =
      .ok (.bool r.hasInputs) := by
  have hpath : pathNames "has_inputs" = ["has_inputs"] := by decide +kernel
  have hfollow : ∀ cells, Reached.follow cells (r.fields s.cells.length).1 ["has_inputs"] =
      .ok (.held (.constant (.bool r.hasInputs))) := fun _ => rfl
  rw [Store.run_get (Store.request_add s _), hpath, hfollow]
  rfl

/-- **A request has inputs exactly if it was given more than two columns of them and, if anything is cut off its series,
more than two observations are left.** So it tells what it was given unless the series is cut down to one or two
observations. -/
theorem hasInputs_iff [Text.Reader] {y frequency : Value} {options : List (String × Value)} {r : Request}
    (h : (setup y frequency options).result = .ok r) :
    ∃ (y₀ : Series) (u : Inputs) (before after : List Double),
      Series.ofValue y = .ok y₀ ∧ u.Given options ∧ y₀.Trims r.series before after ∧
      (r.hasInputs = true ↔ 2 < u.width ∧ (before.length + after.length = 0 ∨ 2 < r.n)) ∧
      ((r.hasInputs = true ↔ 2 < u.width) ↔ ¬ (2 < u.width ∧ 0 < before.length + after.length ∧ r.n ≤ 2)) ∧
      ∀ s : Store, ((Step.get s.requests.length "has_inputs").run (s.add (r.fields s.cells.length))).2 =
        .ok (.bool r.hasInputs) := by
  obtain ⟨st, hst, rfl⟩ := setup_eq_ok_iff.1 h
  obtain ⟨y₀, u, horizon, hy, hu, hhorizon, hsample⟩ := Sample.prepare_eq_ok_iff.1 hst.sample
  have hfits : 2 < u.width → y₀.length ≤ u.width := (Sample.exists_horizonFor_iff _).1 ⟨horizon, hhorizon⟩
  obtain ⟨before, after, htrims, hcut⟩ := Sample.exists_cutFrom hsample hfits
  have hiff := hcut.isReal_iff
  refine ⟨y₀, u, before, after, hy, hst.given hu, htrims, hiff, ?_, run_get_hasInputs _⟩
  show (st.sample.inputs.isReal = true ↔ _) ↔ ¬ (_ ∧ _ ∧ st.sample.series.values.length ≤ 2)
  rw [hiff]
  omega

/-- Four columns of inputs for four values, of which the first and the last are missing: two columns are left, and the
request tells that it has no inputs. With one value more it has them. -/
theorem hasInputs_iff_two_left :
    (∃ (r : Request) (u : Inputs), (setup (.list [.float .nan, .int 1, .int 2, .float .nan]) (.int 4)
        [("u", .list [.int 1, .int 2, .int 3, .int 4])]).result = .ok r ∧
      u.Given [("u", .list [.int 1, .int 2, .int 3, .int 4])] ∧ u.width = 4 ∧ r.n = 2 ∧
      r.hasInputs = false ∧ ¬ (r.hasInputs = true ↔ 2 < u.width)) ∧
    ∃ r, (setup (.list [.float .nan, .int 1, .int 2, .int 3]) (.int 4)
        [("u", .list [.int 1, .int 2, .int 3, .int 4])]).result = .ok r ∧ r.n = 3 ∧ r.hasInputs = true := by
  obtain ⟨u, hu, hwidth⟩ := Inputs.exists_given [("u", .list [.int 1, .int 2, .int 3, .int 4])]
    (by decide +kernel : _ = some (some (some 4)))
  have hwide : 2 < u.width := by rw [hwidth]; decide
  constructor
  · have hr : (setup (.list [.float .nan, .int 1, .int 2, .float .nan]) (.int 4)
        [("u", .list [.int 1, .int 2, .int 3, .int 4])]).result.toOption.map n = some 2 := by decide +kernel
    have hy : (Series.ofValue (.list [.float .nan, .int 1, .int 2, .float .nan])).toOption.map Series.length =
        some 4 := by decide +kernel
    obtain ⟨r, hr, hn⟩ := exists_of_toOption_map hr
    obtain ⟨y₁, hy, hlen⟩ := exists_of_toOption_map hy
    obtain ⟨y₀, u', before, after, hy₀, hu', htrims, hiff, htells, -⟩ := hasInputs_iff hr
    obtain rfl := hu.unique hu'
    cases hy.symm.trans hy₀
    have hsplit := htrims.length_eq
    have hseries : r.series.length = 2 := hn
    have hnot : ¬ (r.hasInputs = true ↔ 2 < u.width) := fun hc =>
      htells.1 hc ⟨hwide, by omega, Nat.le_of_eq hn⟩
    refine ⟨r, u, hr, hu, hwidth, hn, Bool.eq_false_iff.2 fun hc => hnot (iff_of_true hc hwide), hnot⟩
  · have hr : (setup (.list [.float .nan, .int 1, .int 2, .int 3]) (.int 4)
        [("u", .list [.int 1, .int 2, .int 3, .int 4])]).result.toOption.map n = some 3 := by decide +kernel
    obtain ⟨r, hr, hn⟩ := exists_of_toOption_map hr
    obtain ⟨y₀, u', before, after, -, hu', -, hiff, -⟩ := hasInputs_iff hr
    obtain rfl := hu.unique hu'
    exact ⟨r, hr, hn, hiff.2 ⟨hwide, Or.inr (by rw [hn]; decide)⟩⟩

end Request

end StructuralSeries
