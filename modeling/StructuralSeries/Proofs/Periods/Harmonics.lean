import StructuralSeries.Proofs.Double.Quotients
import StructuralSeries.Proofs.Periods.Positive
import StructuralSeries.Proofs.Settings.Documented
import StructuralSeries.Proofs.Settings.Written

/-!
# The periods of a frequency

A frequency is any real number, and its size decides what its periods are (`Periods.ofValues_frequency`): there is the
single period one for annual data, there are none between one and two, and from two on there are as many as half the
frequency counts, each of them nearest to the frequency over its number (`Periods.AreHarmonics`). What comes of a
frequency can be given back as explicit periods.

## Two steps

1. A frequency is read as a double that is on the same side of one, and that is the frequency itself above one
   (`Periods.frequencyOf_cases`).
2. Half of that double is exact, so the number of periods is; the quotients stay two apart from zero and are told apart.
-/

namespace StructuralSeries

/-! ## Frequencies -/

/-- A bound of frequencies; larger ones have more harmonics than memory holds. -/
def Periods.frequencyBound : Nat := 2 ^ 40

/-- If the value is a whole number of fixed width, then 64 bits hold it. -/
def Value.FitsWord (v : Value) : Prop := ∀ n, v.real? = some (.word n) → n.natAbs ≤ Value.wordBound

namespace Periods

variable {v : Value} {q : ℚ}

/-- A whole number up to one is read as a double up to one. -/
theorem ofInt_le_one {n : Int} (h : n ≤ 1) : (Double.ofInt n).le .one = true := by
  rcases lt_or_ge n 0 with hneg | hpos
  · have hplace : (Double.ofInt n).place = some (-(Format.double.rank n.natAbs 1 : Int)) := by
      rw [Double.ofInt, decide_eq_true hneg]
      rfl
    rw [Double.le, hplace, Double.place_one, decide_eq_true_eq]
    omega
  · obtain ⟨k, rfl⟩ := Int.eq_ofNat_of_zero_le hpos
    have hk : k ≤ 1 := by omega
    rw [Double.le_iff_of_toRat? (Double.toRat?_ofInt (Nat.le_trans hk (by decide))) Double.toRat?_one]
    exact_mod_cast hk

/-- A whole number below the bound is on its side of one, and above one it is its own double. -/
theorem ofInt_cases {n : Int} (h : (n : ℚ) < frequencyBound) :
    ((n : ℚ) ≤ 1 ∧ (Double.ofInt n).le .one = true) ∨ (1 : ℚ) < n ∧ (Double.ofInt n).toRat? = some (n : ℚ) := by
  by_cases hone : n ≤ 1
  · exact Or.inl ⟨by exact_mod_cast hone, ofInt_le_one hone⟩
  · obtain ⟨k, rfl⟩ := Int.eq_ofNat_of_zero_le (show 0 ≤ n by omega)
    have hk : k < frequencyBound := by exact_mod_cast h
    have hexact : frequencyBound ≤ Double.exactBound := by decide +kernel
    refine Or.inr ⟨by exact_mod_cast Int.not_le.1 hone, ?_⟩
    rw [Double.toRat?_ofInt (Nat.le_trans (Nat.le_of_lt hk) hexact), Int.cast_natCast]

theorem frequencyOf_of_real? {r : Value.Real} (h : v.real? = some r) {f : Double} (hf : r.toDouble = .ok f)
    (hfinite : f.isFinite = true) : frequencyOf v = .ok f := by
  unfold frequencyOf
  rw [h]
  show (r.toDouble >>= fun f => _) = _
  rw [hf, ok_bind, if_pos hfinite]
  rfl

/-- **What a frequency is read as.** -/
theorem frequencyOf_cases (hq : v.toRat? = some q) (hbound : q < frequencyBound) (hword : v.FitsWord) :
    (v.IsHuge ∧ frequencyOf v = .error .tooLarge) ∨ ¬ v.IsHuge ∧ ∃ f, frequencyOf v = .ok f ∧ f.isFinite = true ∧
      ((q ≤ 1 ∧ f.le .one = true) ∨ 1 < q ∧ f.toRat? = some q) := by
  obtain ⟨r, hr, hrat⟩ := Option.bind_eq_some_iff.1 hq
  by_cases hhuge : v.IsHuge
  · refine Or.inl ⟨hhuge, ?_⟩
    unfold frequencyOf
    rw [hr]
    show (r.toDouble >>= fun f => _) = _
    rw [(Value.toDouble_of_real? hr).2 ⟨hhuge, rfl⟩]
    rfl
  · refine Or.inr ⟨hhuge, ?_⟩
    cases r with
    | whole n =>
      cases hrat
      have hn : n.natAbs < Double.wholeBound :=
        Nat.not_le.1 fun hle => hhuge ⟨n, Value.real?_eq_whole_iff.1 hr, hle⟩
      have hfinite := Double.isFinite_ofInt_iff.2 hn
      exact ⟨_, frequencyOf_of_real? hr (Value.wholeToDouble_eq_ok_iff.2 ⟨hn, rfl⟩) hfinite, hfinite,
        ofInt_cases hbound⟩
    | word n =>
      cases hrat
      have hwide : Value.wordBound < Double.wholeBound := by decide +kernel
      have hfinite := Double.isFinite_ofInt_iff.2 (Nat.lt_of_le_of_lt (hword n hr) hwide)
      exact ⟨_, frequencyOf_of_real? hr rfl hfinite, hfinite, ofInt_cases hbound⟩
    | double x =>
      have hx : x.toRat? = some q := hrat
      have hfinite := Double.isFinite_of_toRat? hx
      refine ⟨x, frequencyOf_of_real? hr rfl hfinite, hfinite, ?_⟩
      rcases le_or_gt q 1 with hle | hlt
      · exact Or.inl ⟨hle, (Double.le_iff_of_toRat? hx Double.toRat?_one).2 hle⟩
      · exact Or.inr ⟨hlt, hx⟩

/-! ## Harmonics -/

/-- The harmonics of a frequency of at least two: as many as half the frequency counts, the first of them the frequency
itself, each nearest to the frequency over its number, none shorter than two, and each shorter than those before it. -/
structure AreHarmonics (q : ℚ) (ps : List Double) : Prop where
  length : (ps.length : ℤ) = ⌊q / 2⌋
  first : ∃ x, ps.head? = some x ∧ x.toRat? = some q
  nearest : ∀ (j : Nat) (hj : j < ps.length), ps[j].IsNearest (q / (j + 1 : Nat))
  two_le : ∀ x ∈ ps, ∃ r, x.toRat? = some r ∧ 2 ≤ r
  decreasing : ps.Pairwise fun x y => y.lt x = true

/-- The number of harmonics is exact. -/
theorem harmonicCount_eq {f : Double} (hf : f.toRat? = some q) (hq : 1 ≤ q) : harmonicCount f = ⌊q / 2⌋ := by
  rw [harmonicCount, Double.floor?_eq, Double.toRat?_divCount_two hf hq]
  rfl

/-- **The quotients of a frequency are its harmonics.** -/
theorem areHarmonics_range {f : Double} (hf : f.toRat? = some q) (htwo : 2 ≤ q) (hbound : q < frequencyBound) :
    AreHarmonics q ((List.range ⌊q / 2⌋.toNat).map fun j => f.divCount (j + 1)) := by
  have hpos : 0 < q := by linarith
  have hcount : 1 ≤ ⌊q / 2⌋ := Int.le_floor.2 (by push_cast; linarith)
  -- a harmonic is numbered by a count of which the frequency has two
  have hnumber : ∀ j, j < ⌊q / 2⌋.toNat → ((j + 1 : Nat) : ℚ) * 2 ≤ q := by
    intro j hj
    have hfloor : ((j + 1 : Nat) : ℤ) ≤ ⌊q / 2⌋ := by omega
    have hhalf : (((j + 1 : Nat) : ℤ) : ℚ) ≤ q / 2 := Int.le_floor.1 hfloor
    rw [Int.cast_natCast] at hhalf
    linarith
  have hnearest : ∀ j, j < ⌊q / 2⌋.toNat → (f.divCount (j + 1)).IsNearest (q / (j + 1 : Nat)) :=
    fun j _ => Double.isNearest_divCount hf hpos (Nat.succ_pos j)
  refine ⟨?length, ?first, ?nearest, ?two_le, ?decreasing⟩
  case length =>
    rw [List.length_map, List.length_range]
    omega
  case first =>
    obtain ⟨k, hk⟩ := Nat.exists_eq_succ_of_ne_zero (show ⌊q / 2⌋.toNat ≠ 0 by omega)
    refine ⟨f, ?_, hf⟩
    rw [hk, List.range_succ_eq_map, List.map_cons, List.head?_cons, Double.divCount_one hf hpos]
  case nearest =>
    intro j hj
    rw [List.length_map, List.length_range] at hj
    rw [List.getElem_map, List.getElem_range]
    exact hnearest j hj
  case two_le =>
    intro x hx
    obtain ⟨j, hj, rfl⟩ := List.mem_map.1 hx
    have hj := List.mem_range.1 hj
    obtain ⟨r, hr, -⟩ := hnearest j hj
    have hrat := Double.toRat?_ofInt (n := 2) (by decide)
    refine ⟨r, hr, (hnearest j hj).le hr hrat ?_⟩
    rw [le_div_iff₀ (Nat.cast_pos.2 (Nat.succ_pos j)), mul_comm]
    exact hnumber j hj
  case decreasing =>
    rw [List.pairwise_map]
    refine List.pairwise_lt_range.imp_of_mem fun {i j} _ hj hij => ?_
    refine Double.lt_divCount hf (by linarith) (Nat.succ_pos i) (by omega) ?_
    have hless : ((j + 1 : Nat) : ℚ) < frequencyBound := by
      have hnumber := hnumber j (List.mem_range.1 hj)
      have hcast : (0 : ℚ) < (j + 1 : Nat) := Nat.cast_pos.2 (Nat.succ_pos j)
      linarith
    exact Nat.le_of_lt (Nat.cast_lt.1 hless)

namespace AreHarmonics

variable {ps : List Double}

theorem exists_cons (h : AreHarmonics q ps) : ∃ x rest, ps = x :: rest ∧ x.isNaN = false := by
  obtain ⟨x, hx, hrat⟩ := h.first
  obtain ⟨rest, rfl⟩ := List.head?_eq_some_iff.1 hx
  exact ⟨x, rest, rfl, Double.isNaN_of_toRat? hrat⟩

/-- Harmonics are finite, positive and different. -/
theorem arePeriods (h : AreHarmonics q ps) : Contract.arePeriods ps = true := by
  refine Contract.arePeriods_iff.2 ⟨fun x hx => ?_, h.decreasing.imp ?_⟩
  · obtain ⟨r, hr, htwo⟩ := h.two_le x hx
    have hzero : Double.zero.toRat? = some ((0 : Nat) : ℚ) := Double.toRat?_ofInt (Nat.zero_le _)
    refine ⟨Double.isFinite_of_toRat? hr, (Double.lt_iff_of_toRat? hzero hr).2 ?_⟩
    rw [Nat.cast_zero]
    linarith
  · rintro x y hlt rfl
    cases x with
    | nan => cases hlt
    | signed s m => cases s <;> simp [Double.lt, Double.place] at hlt

end AreHarmonics

/-! ## Periods of a frequency -/

theorem ofValues_absent (v : Value) :
    ofValues v .absent = frequencyOf v >>= fun f => harmonics f >>= fun ps => supplied (.ofList ps) := rfl

/-- What becomes of a frequency, by its size. -/
theorem ofValues_cases (hq : v.toRat? = some q) (hbound : q < frequencyBound) (hword : v.FitsWord) :
    (v.IsHuge ∧ ofValues v .absent = .error .tooLarge) ∨ ¬ v.IsHuge ∧
      ((q ≤ 1 ∧ ofValues v .absent = .ok (.ofList [.one])) ∨
        ((1 < q ∧ q < 2) ∧ ofValues v .absent = .error (.refused .noPeriods)) ∨
        2 ≤ q ∧ ∃ ps, ofValues v .absent = .ok (.ofList ps) ∧ AreHarmonics q ps) := by
  rcases frequencyOf_cases hq hbound hword with ⟨hhuge, hf⟩ | ⟨hhuge, f, hf, -, hside⟩
  · exact Or.inl ⟨hhuge, by rw [ofValues_absent, hf]; rfl⟩
  · refine Or.inr ⟨hhuge, ?_⟩
    rw [ofValues_absent, hf, ok_bind]
    rcases hside with ⟨hle, hone⟩ | ⟨hlt, hrat⟩
    · refine Or.inl ⟨hle, ?_⟩
      rw [harmonics, if_pos hone, ok_bind, supplied_ofList_cons, if_neg (by decide +kernel)]
    · right
      have hnot : f.le .one = false := by
        rw [← Bool.not_eq_true, Double.le_iff_of_toRat? hrat Double.toRat?_one]
        exact not_le.2 hlt
      have hcount : harmonicCount f = ⌊q / 2⌋ := harmonicCount_eq hrat hlt.le
      have hfew : ⌊q / 2⌋ < (periodLimit : Int) := by
        have hbelow : ⌊q / 2⌋ < (frequencyBound : Int) := Int.floor_lt.2 (by push_cast; linarith)
        have hlimit : (frequencyBound : Int) ≤ (periodLimit : Int) := by decide +kernel
        omega
      rw [harmonics, if_neg (by simp [hnot]), hcount, if_neg (Int.not_le.2 hfew), ok_bind]
      rcases lt_or_ge q 2 with hsmall | htwo
      · have hzero : ⌊q / 2⌋ = 0 := Int.floor_eq_iff.2 ⟨by push_cast; linarith, by push_cast; linarith⟩
        rw [hzero]
        exact Or.inl ⟨⟨hlt, hsmall⟩, rfl⟩
      · have hharmonics := areHarmonics_range hrat htwo hbound
        refine Or.inr ⟨htwo, _, ?_, hharmonics⟩
        obtain ⟨x, rest, heq, hnan⟩ := hharmonics.exists_cons
        rw [heq, supplied_ofList_cons, if_neg (by simp [hnan])]

/-- Periods that are given back are returned as they are. -/
theorem ofValues_lineValue {f : Double} {ps : List Double} (hf : frequencyOf v = .ok f) (hne : ps ≠ [])
    (h : Contract.arePeriods ps = true) : ofValues v (Request.lineValue ps) = .ok (.ofList ps) := by
  have hexplicit : explicitOf (Request.lineValue ps) = .ok (some (.ofList ps)) := by
    show (Request.lineValue ps).doubles.map _ = _
    rw [Request.lineValue, Value.doubles_float64]
    rfl
  show (frequencyOf v >>= fun f => explicitOf (Request.lineValue ps) >>= derive f) = _
  rw [hf, hexplicit, ok_bind, ok_bind]
  have hnan := Contract.isNaN_of_arePeriods h hne
  obtain ⟨x, rest, rfl⟩ := List.exists_cons_of_ne_nil hne
  show supplied (.ofList (x :: rest)) = _
  rw [supplied_ofList_cons, if_neg (by simpa using hnan)]

/-- **The periods of a frequency.**

A frequency below the bound that is at most one gives the single period one; one between one and two gives no periods,
and that is refused; and one of at least two gives its harmonics. The exception is a whole number so far below zero that
it is no double: it is a fault. Periods that come of a frequency keep the contract of explicit periods, and if they are
given back then they are returned as they are. -/
theorem ofValues_frequency (hq : v.toRat? = some q) (hbound : q < frequencyBound) (hword : v.FitsWord) :
    (ofValues v .absent = .error .tooLarge ↔ v.IsHuge) ∧
    (¬ v.IsHuge →
      (q ≤ 1 → ofValues v .absent = .ok (.ofList [.one])) ∧
      (ofValues v .absent = .error (.refused .noPeriods) ↔ 1 < q ∧ q < 2) ∧
      (2 ≤ q → ∃ ps, ofValues v .absent = .ok (.ofList ps) ∧ AreHarmonics q ps)) ∧
    (∀ g, ofValues v .absent = .ok g → Contract.arePeriods g.data = true ∧
      Contract.periods (Request.lineValue g.data) = .ok (some (some g.data)) ∧
      ofValues v (Request.lineValue g.data) = .ok g) := by
  have hback : ∀ ps, ofValues v .absent = .ok (.ofList ps) → ps ≠ [] → Contract.arePeriods ps = true →
      ∀ g, ofValues v .absent = .ok g → Contract.arePeriods g.data = true ∧
        Contract.periods (Request.lineValue g.data) = .ok (some (some g.data)) ∧
        ofValues v (Request.lineValue g.data) = .ok g := by
    intro ps hps hne hperiods g hg
    obtain rfl : Grid.ofList ps = g := Except.ok.inj (hps.symm.trans hg)
    obtain ⟨f, hf, -⟩ := bind_eq_ok.1 ((ofValues_absent v).symm.trans hg)
    exact ⟨hperiods, Contract.periods_lineValue hne hperiods, ofValues_lineValue hf hne hperiods⟩
  rcases ofValues_cases hq hbound hword with ⟨hhuge, h⟩ | ⟨hhuge, ⟨hle, h⟩ | ⟨hbetween, h⟩ | ⟨htwo, ps, h, hps⟩⟩
  · rw [h]
    exact ⟨iff_of_true rfl hhuge, fun hnot => absurd hhuge hnot, nofun⟩
  · refine ⟨iff_of_false (by rw [h]; nofun) hhuge, fun _ => ⟨fun _ => h, ?_, fun htwo => ?_⟩,
      hback _ h (List.cons_ne_nil _ _) (by decide +kernel)⟩
    · exact iff_of_false (by rw [h]; nofun) fun hbetween => absurd hbetween.1 (not_lt.2 hle)
    · linarith
  · rw [h]
    refine ⟨iff_of_false nofun hhuge, fun _ => ⟨fun hle => ?_, iff_of_true rfl hbetween, fun htwo => ?_⟩, nofun⟩
    · exact absurd hbetween.1 (not_lt.2 hle)
    · exact absurd hbetween.2 (not_lt.2 htwo)
  · obtain ⟨x, rest, heq, -⟩ := hps.exists_cons
    refine ⟨iff_of_false (by rw [h]; nofun) hhuge, fun _ => ⟨fun hle => ?_, ?_, fun _ => ⟨ps, h, hps⟩⟩,
      hback ps h (heq ▸ List.cons_ne_nil _ _) hps.arePeriods⟩
    · linarith
    · exact iff_of_false (by rw [h]; nofun) fun hbetween => absurd hbetween.2 (not_lt.2 htwo)

/-- Five observations in a year have two harmonics, and a whole number that is too large for a double is a fault
although it is below one. -/
theorem ofValues_frequency_five :
    (∃ ps, ofValues (.int 5) .absent = .ok (.ofList ps) ∧ ps.length = 2 ∧ AreHarmonics 5 ps ∧
      ofValues (.int 5) (Request.lineValue ps) = .ok (.ofList ps)) ∧
    ofValues (.int (-(Double.wholeBound : Int))) .absent = .error .tooLarge := by
  constructor
  · obtain ⟨-, hsize, hback⟩ := @ofValues_frequency (.int 5) 5 rfl (by rw [frequencyBound]; norm_num) nofun
    have hsmall : ¬ (Value.int 5).IsHuge := by
      rintro ⟨n, heq, hn⟩
      cases heq
      exact absurd hn (by decide +kernel)
    obtain ⟨ps, hps, hharmonics⟩ := (hsize hsmall).2.2 (by norm_num)
    have hfloor : ⌊(5 / 2 : ℚ)⌋ = 2 := by norm_num [Int.floor_eq_iff]
    have hlength := hharmonics.length
    rw [hfloor] at hlength
    exact ⟨ps, hps, by exact_mod_cast hlength, hharmonics, (hback _ hps).2.2⟩
  · have hbelow : ((-(Double.wholeBound : Int) : Int) : ℚ) < frequencyBound := by
      have hle : (0 : ℚ) ≤ (Double.wholeBound : ℚ) := Nat.cast_nonneg _
      have hpos : (0 : ℚ) < (frequencyBound : ℚ) := Nat.cast_pos.2 (by decide)
      push_cast
      linarith
    obtain ⟨hfault, -⟩ := @ofValues_frequency (.int (-(Double.wholeBound : Int))) _ rfl hbelow nofun
    exact hfault.2 ⟨_, rfl, by rw [Int.natAbs_neg, Int.natAbs_natCast]⟩

end Periods

end StructuralSeries
