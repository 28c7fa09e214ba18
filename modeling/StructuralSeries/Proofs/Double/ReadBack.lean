import StructuralSeries.Double.Layout
import StructuralSeries.Proofs.Double.Digits
import StructuralSeries.Proofs.Double.Quotients

/-!
# Written doubles are read back

A positive finite double that is written without an exponent is a plain number (`Layout.IsPlain`), and it is read as the
double that was written (`Layout.read?_positional`).

## Three steps

1. The decimal that is chosen for a double rounds to it: a candidate is one that does, and the exact expansion is the
   double itself (`Format.rank_shortest`).
2. Zeros at the end of a coefficient are worth as much in the exponent (`Decimal.rank_mul_pow`), so they may be left
   out (`Layout.exists_significant`).
3. Wherever the point is put among digits, they are read as the same number (`Layout.exists_read?_pointed`).
-/

namespace StructuralSeries

/-! ## Decimals of one value -/

namespace Format

theorem rank_congr {f : Format} {n d n' d' : Nat} (hd : 0 < d) (hd' : 0 < d') (h : n * d' = n' * d) :
    f.rank n d = f.rank n' d' := by
  rw [rank_eq_min, rank_eq_min]
  refine congrArg (min f.top) (openRank_congr hd hd' ?_)
  rw [Nat.mul_right_comm, h, Nat.mul_right_comm]

end Format

namespace Decimal

theorem toDigits_mul_pow {c : Nat} (hc : 0 < c) (k : Nat) :
    Nat.toDigits 10 (c * 10 ^ k) = Nat.toDigits 10 c ++ List.replicate k '0' := by
  induction k with
  | zero => simp
  | succ k ih =>
    have hpos : 0 < c * 10 ^ k := Nat.mul_pos hc (Nat.pow_pos (by decide))
    have hlast := Nat.toDigits_append_toDigits (b := 10) (n := c * 10 ^ k) (d := 0) (by decide) hpos (by decide)
    have hnext : c * 10 ^ (k + 1) = 10 * (c * 10 ^ k) + 0 := by rw [Nat.pow_succ]; ring
    rw [hnext, ← hlast, ih, List.append_assoc, List.replicate_succ']
    rfl

theorem width_mul_pow {c : Nat} (hc : 0 < c) (k : Nat) : width (c * 10 ^ k) = width c + k := by
  rw [width, toDigits_mul_pow hc, List.length_append, List.length_replicate, width]

theorem lt_width {n k : Nat} (hk : 0 < k) (h : 10 ^ k ≤ n) : k < width n :=
  Nat.lt_of_not_le fun hle => Nat.not_lt.2 h ((Nat.length_toDigits_le_iff (by decide) hk).1 hle)

/-- The rank of a decimal within reach is the rank of its ratio. -/
theorem rank_eq (f : Format) (d : Decimal) :
    rank f d = if d.coefficient = 0 then 0
      else if (reach : Int) < width d.coefficient + d.exponent then f.top
      else if (width d.coefficient + d.exponent : Int) < -(reach : Int) then 0
      else f.rank d.ratio.1 d.ratio.2 := rfl

theorem ratio_of_nonneg {d : Decimal} (h : 0 ≤ d.exponent) : d.ratio = (d.coefficient * 10 ^ d.exponent.toNat, 1) :=
  if_pos h

theorem ratio_of_neg {d : Decimal} (h : d.exponent < 0) : d.ratio = (d.coefficient, 10 ^ (-d.exponent).toNat) :=
  if_neg (Int.not_le.2 h)

theorem ratio_pos (d : Decimal) : 0 < d.ratio.2 := by
  rcases lt_or_ge d.exponent 0 with h | h
  · rw [ratio_of_neg h]
    exact Nat.pow_pos (by decide)
  · rw [ratio_of_nonneg h]
    exact Nat.one_pos

theorem ratio_mul_pow (c k : Nat) (e : Int) :
    (⟨c * 10 ^ k, e⟩ : Decimal).ratio.1 * (⟨c, e + k⟩ : Decimal).ratio.2 =
      (⟨c, e + k⟩ : Decimal).ratio.1 * (⟨c * 10 ^ k, e⟩ : Decimal).ratio.2 := by
  rcases lt_or_ge e 0 with he | he
  · obtain ⟨a, ha⟩ := Int.eq_ofNat_of_zero_le (show 0 ≤ -e by omega)
    rw [ratio_of_neg (d := ⟨c * 10 ^ k, e⟩) he]
    rcases lt_or_ge (e + k) 0 with hek | hek
    · rw [ratio_of_neg (d := ⟨c, e + k⟩) hek]
      have hexp : (-e).toNat = k + (-(e + k)).toNat := by omega
      show c * 10 ^ k * 10 ^ (-(e + k)).toNat = c * 10 ^ (-e).toNat
      rw [hexp, Nat.pow_add, Nat.mul_assoc]
    · rw [ratio_of_nonneg (d := ⟨c, e + k⟩) hek]
      have hexp : k = (e + k).toNat + (-e).toNat := by omega
      show c * 10 ^ k * 1 = c * 10 ^ (e + k).toNat * 10 ^ (-e).toNat
      rw [Nat.mul_one, Nat.mul_assoc, ← Nat.pow_add, ← hexp]
  · rw [ratio_of_nonneg (d := ⟨c * 10 ^ k, e⟩) he, ratio_of_nonneg (d := ⟨c, e + k⟩) (show 0 ≤ e + k by omega)]
    have hexp : (e + k).toNat = k + e.toNat := by omega
    show c * 10 ^ k * 10 ^ e.toNat * 1 = c * 10 ^ (e + k).toNat * 1
    rw [hexp, Nat.pow_add, Nat.mul_one, Nat.mul_one, Nat.mul_assoc]

/-- **Zeros at the end of a coefficient are worth as much in the exponent.** -/
theorem rank_mul_pow (f : Format) (c k : Nat) (e : Int) : rank f ⟨c * 10 ^ k, e⟩ = rank f ⟨c, e + k⟩ := by
  rw [rank_eq, rank_eq]
  dsimp only
  rcases Nat.eq_zero_or_pos c with rfl | hc
  · rw [Nat.zero_mul, if_pos rfl, if_pos rfl]
  · have hne : c * 10 ^ k ≠ 0 := (Nat.mul_pos hc (Nat.pow_pos (by decide))).ne'
    have hplaces : (width (c * 10 ^ k) + e : Int) = width c + (e + k) := by
      rw [width_mul_pow hc]
      push_cast
      ring
    rw [if_neg hne, if_neg hc.ne', hplaces,
      Format.rank_congr (ratio_pos _) (ratio_pos _) (ratio_mul_pow c k e)]

end Decimal

/-! ## The decimal of a double -/

namespace Format

/-- The exact expansion of a rank within reach has this rank. -/
theorem rank_exactDecimal_of_width {f : Format} {r : Nat} (hunit : 0 < f.unitExponent)
    (hne : (f.exactDecimal r).coefficient ≠ 0)
    (hlow : f.unitExponent ≤ Decimal.width (f.exactDecimal r).coefficient + Decimal.reach)
    (hhigh : Decimal.width (f.exactDecimal r).coefficient ≤ Decimal.reach + f.unitExponent) :
    Decimal.rank f (f.exactDecimal r) = min f.top r := by
  have hexponent : (f.exactDecimal r).exponent = -(f.unitExponent : Int) := rfl
  have hratio : (f.exactDecimal r).ratio = (f.units r * 5 ^ f.unitExponent, 10 ^ f.unitExponent) := by
    rw [Decimal.ratio_of_neg (by omega), hexponent, Int.neg_neg, Int.toNat_natCast]
    rfl
  rw [Decimal.rank_eq, if_neg hne, if_neg (by omega), if_neg (by omega), hratio, rank_eq_min]
  refine congrArg (min f.top) (openRank_of_units (Nat.pow_pos (by decide)) ?_)
  rw [Nat.mul_assoc, ← Nat.mul_pow]

/-- The exact expansion of a positive double is within reach. -/
theorem rank_exactDecimal {r : Nat} (hpos : 0 < r) (h : r < double.top) :
    Decimal.rank .double (double.exactDecimal r) = r := by
  have hunits_pos : 0 < double.units r := Nat.lt_of_lt_of_le hpos (double.le_units r)
  have hlow : 674 < Decimal.width (double.exactDecimal r).coefficient := by
    have hfive : 10 ^ 674 ≤ Nat.pow 5 double.unitExponent := by decide +kernel
    exact Decimal.lt_width (by decide) (Nat.le_trans hfive (Nat.le_mul_of_pos_left _ hunits_pos))
  have hhigh : Decimal.width (double.exactDecimal r).coefficient ≤ 1474 := by
    have hunits : double.units r ≤ (2 ^ (double.fractionBits + 1) - 1) * 2 ^ 2045 := units_le h
    have hlargest : (2 ^ (double.fractionBits + 1) - 1) * 2 ^ 2045 * Nat.pow 5 double.unitExponent < 10 ^ 1474 := by
      decide +kernel
    refine Decimal.width_le (by decide) ?_
    calc (double.exactDecimal r).coefficient
      _ ≤ (2 ^ (double.fractionBits + 1) - 1) * 2 ^ 2045 * Nat.pow 5 double.unitExponent :=
        Nat.mul_le_mul_right _ hunits
      _ < 10 ^ 1474 := hlargest
  have hunit : double.unitExponent = 1074 := rfl
  have hreach : Decimal.reach = 400 := rfl
  have hpositive : 0 < double.unitExponent := by decide
  have hne : (double.exactDecimal r).coefficient ≠ 0 := by
    intro hzero
    rw [hzero] at hlow
    exact absurd hlow (by decide)
  have hwithin := rank_exactDecimal_of_width hpositive hne (by omega) (by omega)
  rw [hwithin, Nat.min_eq_right (Nat.le_of_lt h)]

/-- **The decimal that is chosen for a positive double rounds to it.** -/
theorem rank_shortest {r : Nat} (hpos : 0 < r) (h : r < double.top) :
    Decimal.rank .double (double.shortest r) = r := by
  unfold shortest
  dsimp only
  cases hfound : (List.range mostDigits).findSome? fun i : Nat =>
      double.candidate r (double.places r - (i + 1 : Nat)) with
  | none => exact rank_exactDecimal hpos h
  | some d =>
    obtain ⟨i, -, hi⟩ := List.exists_of_findSome?_eq_some hfound
    exact candidate_reads_back hi

end Format

/-! ## Digits and a point -/

namespace Decimal

theorem ofDigits_append (ds es : List Char) : ofDigits (ds ++ es) = ofDigits ds * 10 ^ es.length + ofDigits es := by
  unfold ofDigits
  rw [Nat.ofDigitChars_append, Nat.ofDigitChars_eq_ofDigitChars_zero (l := es), Nat.mul_comm]

theorem ofDigits_replicate_zero (k : Nat) : ofDigits (List.replicate k '0') = 0 := by
  induction k with
  | zero => rfl
  | succ k ih =>
    rw [List.replicate_succ', ofDigits_append, ih]
    rfl

theorem ofDigits_zeros_append (k : Nat) (ds : List Char) : ofDigits (List.replicate k '0' ++ ds) = ofDigits ds := by
  rw [ofDigits_append, ofDigits_replicate_zero, Nat.zero_mul, Nat.zero_add]

/-- Text that begins with a digit has no sign. -/
theorem takeSign_of_isDigit {c : Char} (h : c.isDigit = true) (cs : List Char) :
    takeSign (c :: cs) = (false, c :: cs) := by
  unfold takeSign
  split
  · next heq => cases heq; cases h
  · next heq => cases heq; cases h
  · rfl

/-- Digits with a point among them are read as one coefficient. -/
theorem read?_of_point {ws fs : List Char} (hne : ws ≠ []) (h : ∀ c ∈ ws ++ fs, c.isDigit = true) :
    read? (ws ++ '.' :: fs) = some ⟨ofDigits (ws ++ fs), -(fs.length : Int)⟩ := by
  have hws : ∀ c ∈ ws, c.isDigit = true := fun c hc => h c (List.mem_append_left _ hc)
  have hfs : ∀ c ∈ fs, c.isDigit = true := fun c hc => h c (List.mem_append_right _ hc)
  have htake : (ws ++ '.' :: fs).takeWhile Char.isDigit = ws := by
    rw [List.takeWhile_append_of_pos hws]
    simp
  have hdrop : (ws ++ '.' :: fs).dropWhile Char.isDigit = '.' :: fs := by
    rw [List.dropWhile_append_of_pos hws]
    simp
  have hsplit : splitDigits (ws ++ '.' :: fs) = (ws, fs, []) := by
    unfold splitDigits
    rw [hdrop, htake]
    show (ws, fs.takeWhile Char.isDigit, fs.dropWhile Char.isDigit) = _
    rw [List.takeWhile_eq_self_iff.2 hfs, List.dropWhile_eq_nil_iff.2 hfs]
  unfold read?
  rw [hsplit]
  simp [hne, trailingExponent?]

end Decimal

namespace Layout

/-- A plain number: digits, and perhaps a point and more digits. -/
def IsPlain (cs : List Char) : Prop :=
  ∃ ws fs, ws ≠ [] ∧ (∀ c ∈ ws ++ fs, c.isDigit = true) ∧ (cs = ws ++ fs ∨ fs ≠ [] ∧ cs = ws ++ '.' :: fs)

/-- **Digits are read as the same number wherever the point stands.** -/
theorem exists_read?_pointed {ds : List Char} (hne : ds ≠ []) (h : ∀ c ∈ ds, c.isDigit = true) (places : Int) :
    IsPlain (positional.pointed ds places) ∧ ∃ d, Decimal.read? (positional.pointed ds places) = some d ∧
      ∀ f, Decimal.rank f d = Decimal.rank f ⟨Decimal.ofDigits ds, places - ds.length⟩ := by
  have hzeros : ∀ k, ∀ c ∈ List.replicate k '0', c.isDigit = true := by
    intro k c hc
    rw [List.eq_of_mem_replicate hc]
    rfl
  have hpoint : ∀ {ws fs : List Char}, ws ≠ [] → fs ≠ [] → (∀ c ∈ ws ++ fs, c.isDigit = true) →
      Decimal.ofDigits (ws ++ fs) = Decimal.ofDigits ds → -(fs.length : Int) = places - ds.length →
      IsPlain (ws ++ '.' :: fs) ∧ ∃ d, Decimal.read? (ws ++ '.' :: fs) = some d ∧
        ∀ f, Decimal.rank f d = Decimal.rank f ⟨Decimal.ofDigits ds, places - ds.length⟩ := by
    intro ws fs hws hfs hdigits hcoefficient hexponent
    exact ⟨⟨ws, fs, hws, hdigits, Or.inr ⟨hfs, rfl⟩⟩, _, Decimal.read?_of_point hws hdigits,
      fun f => by rw [hcoefficient, hexponent]⟩
  unfold pointed
  split
  -- the point comes before all digits
  · next hplaces =>
    refine @hpoint ['0'] (List.replicate (-places).toNat '0' ++ ds) (List.cons_ne_nil _ _) (by simp [hne]) ?_ ?_ ?_
    · intro c hc
      rcases List.mem_append.1 hc with hc | hc
      · obtain rfl := List.mem_singleton.1 hc
        rfl
      · exact (List.mem_append.1 hc).elim (hzeros _ c) (h c)
    · exact Decimal.ofDigits_zeros_append ((-places).toNat + 1) ds
    · rw [List.length_append, List.length_replicate]
      omega
  · split
    -- the number is whole
    · next hplaces hlength =>
      obtain ⟨k, hk⟩ := Nat.exists_eq_add_of_le hlength
      have hdigits : ∀ c ∈ ds ++ List.replicate k '0', c.isDigit = true :=
        fun c hc => (List.mem_append.1 hc).elim (h c) (hzeros k c)
      have hwhole : ds ++ List.replicate (places.toNat - ds.length) '0' ++ positional.whole =
          ds ++ List.replicate k '0' := by
        rw [hk, Nat.add_sub_cancel_left]
        exact List.append_nil _
      rw [hwhole]
      have hsome : ds ++ List.replicate k '0' ≠ [] := by simp [hne]
      refine ⟨⟨_, [], hsome, by simpa using hdigits, Or.inl (List.append_nil _).symm⟩, _,
        Decimal.read?_of_digits hsome hdigits, fun f => ?_⟩
      rw [Decimal.ofDigits_append, Decimal.ofDigits_replicate_zero, Nat.add_zero, List.length_replicate,
        Decimal.rank_mul_pow]
      congr 2
      omega
    -- the point comes among the digits
    · next hplaces hlength =>
      refine hpoint ?_ ?_ ?_ ?_ ?_
      · simp only [ne_eq, List.take_eq_nil_iff, hne, or_false]
        omega
      · simp only [ne_eq, List.drop_eq_nil_iff]
        omega
      · rwa [List.take_append_drop]
      · rw [List.take_append_drop]
      · rw [List.length_drop]
        omega

/-- A whole number is the digits that are written of it, and zeros. -/
theorem exists_significant (n : Nat) :
    ∃ k, n = Decimal.ofDigits (significant n) * 10 ^ k ∧ Decimal.width n = (significant n).length + k := by
  have hsplit : Nat.toDigits 10 n =
      significant n ++ ((Nat.toDigits 10 n).reverse.takeWhile (· = '0')).reverse := by
    rw [significant, ← List.reverse_append, List.takeWhile_append_dropWhile, List.reverse_reverse]
  have hzeros : ((Nat.toDigits 10 n).reverse.takeWhile (· = '0')).reverse =
      List.replicate ((Nat.toDigits 10 n).reverse.takeWhile (· = '0')).length '0' := by
    rw [List.eq_replicate_iff, List.length_reverse]
    refine ⟨rfl, fun c hc => ?_⟩
    simpa using List.mem_takeWhile_imp (List.mem_reverse.1 hc)
  rw [hzeros] at hsplit
  generalize ((Nat.toDigits 10 n).reverse.takeWhile (· = '0')).length = k at hsplit
  refine ⟨k, ?_, ?_⟩
  · have hvalue : Decimal.ofDigits (Nat.toDigits 10 n) = n := Nat.ofDigitChars_toDigits (by decide) (by decide)
    rw [hsplit, Decimal.ofDigits_append, Decimal.ofDigits_replicate_zero, Nat.add_zero, List.length_replicate] at hvalue
    exact hvalue.symm
  · rw [Decimal.width, hsplit, List.length_append, List.length_replicate]

/-- A plain number begins with a digit. -/
theorem IsPlain.exists_cons {cs : List Char} (h : IsPlain cs) : ∃ c rest, cs = c :: rest ∧ c.isDigit = true := by
  obtain ⟨ws, fs, hne, hdigits, hform⟩ := h
  obtain ⟨c, ws, rfl⟩ := List.exists_cons_of_ne_nil hne
  have hc : c.isDigit = true := hdigits c List.mem_cons_self
  rcases hform with rfl | ⟨-, rfl⟩
  · exact ⟨c, _, rfl, hc⟩
  · exact ⟨c, _, rfl, hc⟩

/-- A plain number is read as the double nearest to its decimal. -/
theorem IsPlain.read?_eq {cs : List Char} (h : IsPlain cs) {d : Decimal} (hd : Decimal.read? cs = some d) :
    Double.read? cs = some (d.toDouble false) := by
  obtain ⟨c, rest, rfl, hc⟩ := h.exists_cons
  unfold Double.read?
  rw [Double.readNamed?_eq_none List.mem_cons_self hc]
  unfold Double.readDecimal?
  rw [Decimal.takeSign_of_isDigit hc]
  show (Decimal.read? (c :: rest)).map (Decimal.toDouble false) = _
  rw [hd, Option.map_some]

/-- **A positive double without an exponent is read as the double that was written.** -/
theorem read?_positional {m : Magnitude} (hpos : 0 < m.rank) (h : m.rank < Format.double.top) :
    IsPlain (positional.text (.signed false m)) ∧
      Double.read? (positional.text (.signed false m)) = some (.signed false m) := by
  have hshortest := Format.rank_shortest hpos h
  generalize hd : Format.double.shortest m.rank = d at hshortest
  obtain ⟨c, e⟩ := d
  have htext : positional.text (.signed false m) =
      positional.pointed (significant c) (Decimal.width c + e) := by
    show (if m.isInfinite then ['i', 'n', 'f'] else positional.rankText .double m.rank) = _
    rw [if_neg (by simp [Double.isInfinite_eq_false h]), rankText, if_neg hpos.ne', hd]
    rfl
  obtain ⟨k, hc, hwidth⟩ := exists_significant c
  have hne : significant c ≠ [] := by
    intro hnil
    rw [hnil] at hc
    have hzero : c = 0 := hc.trans (Nat.zero_mul _)
    rw [Decimal.rank_eq, if_pos hzero] at hshortest
    omega
  have hdigits : ∀ a ∈ significant c, a.isDigit = true := fun a ha => isDigit_of_mem_significant ha
  obtain ⟨hplain, d, hread, hrank⟩ := exists_read?_pointed hne hdigits (Decimal.width c + e)
  have hback : Decimal.rank .double d = m.rank := by
    have hplaces : (Decimal.width c + e - (significant c).length : Int) = e + k := by omega
    rw [hrank, hplaces, ← Decimal.rank_mul_pow, ← hc, hshortest]
  rw [htext]
  refine ⟨hplain, ?_⟩
  rw [hplain.read?_eq hread, Decimal.toDouble]
  simp only [hback, Nat.min_eq_right m.rank_le]

end Layout

end StructuralSeries
