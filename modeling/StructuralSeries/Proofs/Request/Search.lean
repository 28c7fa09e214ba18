import StructuralSeries.Proofs.Double.ReadBack
import StructuralSeries.Proofs.Periods.Positive
import StructuralSeries.Proofs.Request.Model
import StructuralSeries.Proofs.Settings.Kept

/-!
# The search for a cycle

A model that leaves its cycle open has it searched for from four times the first period on. The cycle of its request
is the hint that says so: a minus sign, the number and a wildcard (`Token.IsHint`).

The number is exact, since four times a double needs no rounding (`Double.mul_negFour`). There is one exception: four
times a first period may be past all doubles, and then the hint is infinite (`Request.cycle_of_search`). Nothing
before it refuses such a period, which is finite itself.
-/

namespace StructuralSeries

/-! ## Four times a double -/

theorem Format.units_doubled_doubled (f : Format) (r : Nat) : f.units (f.doubled (f.doubled r)) = 4 * f.units r := by
  rw [units_doubled, units_doubled, ← Nat.mul_assoc]

namespace Double

variable {m : Magnitude}

/-- A product of finite numbers is one ratio that is rounded. -/
theorem mul_signed {a b : Magnitude} (s t : Bool) (ha : a.isInfinite = false) (hb : b.isInfinite = false) :
    (signed s a).mul (signed t b) =
      ofRatio (s ^^ t) (a.units * b.units) (Magnitude.unitsOfOne * Magnitude.unitsOfOne) :=
  if_neg (by simp [ha, hb])

/-- **Four times a double needs no rounding**, unless it is past all doubles. -/
theorem mul_negFour (h : m.rank < Format.double.top) :
    (ofInt (-4)).mul (.signed false m) =
      .signed true ⟨min Format.double.top (Format.double.doubled (Format.double.doubled m.rank)),
        Nat.min_le_left _ _⟩ := by
  have hsign : ofInt (-4) = .signed true (.ofRatio 4 1) := rfl
  have hfinite : (Magnitude.ofRatio 4 1).isInfinite = false := by decide +kernel
  have hfour : (Magnitude.ofRatio 4 1).units = 4 * Magnitude.unitsOfOne := units_rank (by decide)
  have hunits : (Magnitude.ofRatio 4 1).units * m.units =
      Format.double.units (Format.double.doubled (Format.double.doubled m.rank)) * Magnitude.unitsOfOne := by
    rw [hfour, Format.units_doubled_doubled, Magnitude.units]
    ring
  have hrank : Format.double.rank ((Magnitude.ofRatio 4 1).units * m.units)
      (Magnitude.unitsOfOne * Magnitude.unitsOfOne) =
        min Format.double.top (Format.double.doubled (Format.double.doubled m.rank)) := by
    rw [rank_unitsOfOne _ unitsOfOne_pos, Format.openRank_of_units unitsOfOne_pos hunits]
  rw [hsign, mul_signed true false hfinite (isInfinite_eq_false h), ofRatio, Magnitude.ofRatio]
  simp only [hrank]
  rfl

/-- The value of a magnitude that is known as a ratio. -/
theorem toRat?_of_units (h : m.rank < Format.double.top) {a b : Nat} (hb : 0 < b)
    (hunits : m.units * b = a * Magnitude.unitsOfOne) : (signed false m).toRat? = some ((a : ℚ) / (b : ℚ)) := by
  rw [toRat?_signed h, Option.some.injEq, div_eq_div_iff unitsOfOne_pos_rat.ne' (Nat.cast_pos.2 hb).ne']
  exact_mod_cast hunits

/-- A fourth of the first whole number that is past all doubles in place. -/
def fourthBound : Nat := 2 ^ 1022

/-- Four times a double is finite exactly below the bound. -/
theorem doubled_doubled_lt_iff :
    Format.double.doubled (Format.double.doubled m.rank) < Format.double.top ↔
      m.units < fourthBound * Magnitude.unitsOfOne := by
  have htop : Format.double.units Format.double.top = 4 * (fourthBound * Magnitude.unitsOfOne) := by decide +kernel
  rw [← Format.double.units_strictMono.lt_iff_lt, htop, Format.units_doubled_doubled, Magnitude.units]
  omega

end Double

/-! ## Hints -/

namespace Token

/-- A hint for a number: a minus sign, a plain number that is read as this one, and a wildcard. -/
def IsHint (t : Token) (q : ℚ) : Prop :=
  ∃ number x, t = '-' :: number ++ [wildcard] ∧ Layout.IsPlain number ∧ Double.read? number = some x ∧
    x.toRat? = some q

/-- **The hint is exact below the bound, and infinite from the bound on.** -/
theorem searchHint_of_toRat? {first : Double} {q : ℚ} (h : first.toRat? = some q) (hq : 0 < q) :
    (q < Double.fourthBound → IsHint (searchHint first ++ [wildcard]) (4 * q)) ∧
      (Double.fourthBound ≤ q → searchHint first = ['-', 'i', 'n', 'f']) := by
  obtain ⟨m, rfl, htop, hunits⟩ := Double.exists_of_toRat?_pos h hq
  have hone := Double.unitsOfOne_pos_rat
  have hbound : Format.double.doubled (Format.double.doubled m.rank) < Format.double.top ↔
      q < Double.fourthBound := by
    rw [Double.doubled_doubled_lt_iff, ← mul_lt_mul_iff_left₀ hone, hunits]
    exact_mod_cast Iff.rfl
  have hfour : Format.double.units (Format.double.doubled (Format.double.doubled m.rank)) = 4 * m.units :=
    Format.double.units_doubled_doubled m.rank
  unfold searchHint
  rw [Double.mul_negFour htop]
  generalize Format.double.doubled (Format.double.doubled m.rank) = r at hbound hfour
  constructor
  · intro hlt
    have hr := hbound.2 hlt
    simp only [Nat.min_eq_right (Nat.le_of_lt hr)]
    have hpos : 0 < r := by
      refine Nat.pos_of_ne_zero fun hzero => ?_
      rw [hzero, Format.units_zero] at hfour
      have hnone : m.units = 0 := by omega
      rw [hnone, Nat.cast_zero] at hunits
      exact (mul_pos hq hone).ne' hunits
    obtain ⟨hplain, hread⟩ := Layout.read?_positional (m := ⟨r, Nat.le_of_lt hr⟩) hpos hr
    refine ⟨_, _, ?_, hplain, hread, ?_⟩
    · rfl
    · rw [Double.toRat?_signed hr]
      refine congrArg some ?_
      rw [div_eq_iff hone.ne', mul_assoc, hunits, Magnitude.units, hfour]
      push_cast
      ring
  · intro hle
    have hr : Format.double.top ≤ r := Nat.not_lt.1 fun hlt => absurd (hbound.1 hlt) (not_lt.2 hle)
    simp only [Nat.min_eq_left hr]
    rfl

end Token

/-! ## Requests -/

namespace Request

variable {y frequency : Value} {options : List (String × Value)} {r : Request} {s : Settings}

/-- A lone wildcard for the cycle becomes the hint of the first period that is given. -/
theorem components_of_search [Text.Reader] {first : Double} {rest : List Double} {parsed : Components.Parsed}
    (h : (setup y frequency options).result = .ok r) (hs : (Settings.resolve options).result = .ok s)
    (hperiods : s.periods = some (first :: rest)) (hmodel : Components.parse s.model = .ok parsed)
    (hcycle : parsed.components.cycle = [Token.wildcard]) :
    ∃ c, r.components = .ok c ∧ c.cycle = Token.searchHint first ++ [Token.wildcard] := by
  obtain ⟨st, hst, -, hcomponents⟩ := components_of_setup h
  obtain rfl : s = st.settings := Except.ok.inj (hs.symm.trans hst.settings)
  refine ⟨_, hcomponents, ?_⟩
  have hderive := hst.periods
  rw [hperiods] at hderive
  have hgrid : st.periods = .ofList (first :: rest) := Periods.eq_of_supplied hderive
  have hm := hst.compiled
  rw [hgrid] at hm
  obtain ⟨parsed', hparsed, hm⟩ := Compiled.ofValue_eq_ok_iff.1 hm
  obtain rfl : parsed = parsed' := Except.ok.inj (hmodel.symm.trans hparsed)
  obtain ⟨-, u, hu, hm⟩ := Compiled.ofComponents_eq_ok_iff.1 hm
  rw [← hm]
  have hplain : (parsed.components.plain first).cycle = [Token.wildcard] := by
    have hlower : (parsed.components.plain first).cycle = Text.lower parsed.components.cycle := by
      unfold Components.plain
      split <;> rfl
    rw [hlower, hcycle]
    decide
  rw [hplain] at hu
  exact (Except.ok.inj hu).symm

/-- **The hint of a search.** The first of explicit periods is a positive number `q`, and the cycle of a request whose
model leaves its cycle open is the exact hint for `4 q`. From `2 ^ 1022` on the hint is infinite instead. -/
theorem cycle_of_search [Text.Reader] {periods : List Double} {parsed : Components.Parsed}
    (h : (setup y frequency options).result = .ok r) (hs : (Settings.resolve options).result = .ok s)
    (hperiods : s.periods = some periods) (hmodel : Components.parse s.model = .ok parsed)
    (hcycle : parsed.components.cycle = [Token.wildcard]) :
    ∃ c first q, r.components = .ok c ∧ periods.head? = some first ∧ first.toRat? = some q ∧ 0 < q ∧
      (q < Double.fourthBound → c.cycle.IsHint (4 * q)) ∧
      (Double.fourthBound ≤ q → c.cycle = ['-', 'i', 'n', 'f', '?']) := by
  have hpromises := Settings.promises_of_resolve hs
  obtain ⟨first, rest, rfl⟩ := List.exists_cons_of_ne_nil (hpromises.periods_ne_nil periods hperiods)
  obtain ⟨hfinite, hpos⟩ := (Contract.arePeriods_iff.1 (hpromises.arePeriods _ hperiods)).1 first List.mem_cons_self
  obtain ⟨m, rfl, hm⟩ := Double.exists_of_pos hpos
  have htop : m.rank < Format.double.top := Double.rank_lt_of_isInfinite (by simpa [Double.isFinite] using hfinite)
  have hq := Double.toRat?_signed htop
  have hzero : (0 : ℚ) < (m.units : ℚ) / (Magnitude.unitsOfOne : ℚ) :=
    div_pos (Nat.cast_pos.2 (Nat.lt_of_lt_of_le (Nat.pos_of_ne_zero hm) (Format.double.le_units _)))
      Double.unitsOfOne_pos_rat
  obtain ⟨hexact, hinfinite⟩ := Token.searchHint_of_toRat? hq hzero
  obtain ⟨c, hc, hcycle⟩ := components_of_search h hs hperiods hmodel hcycle
  refine ⟨c, _, _, hc, rfl, hq, hzero, fun hlt => hcycle ▸ hexact hlt, fun hle => ?_⟩
  rw [hcycle, hinfinite hle]
  rfl

/-- The options of a search for a cycle with one explicit period. -/
def searching (period : Double) : List (String × Value) :=
  [("model", .text "llt/?/none/none"), ("periods", .list [.float period])]

/-- A fractional period has an exact hint. A period that is a double still, but whose hint is none, has an infinite
one. -/
theorem cycle_of_search_fractional :
    (∃ r c, (setup (.list [.int 1, .int 3, .int 2]) (.int 4) (searching (.ofRatio false 6679 128))).result = .ok r ∧
      r.model = "llt/-208.71875?/none/none" ∧ r.components = .ok c ∧ c.cycle.IsHint (6679 / 32)) ∧
    ∃ r c, (setup (.list [.int 1, .int 3, .int 2]) (.int 4)
        (searching (.ofRatio false Double.fourthBound 1))).result = .ok r ∧
      r.components = .ok c ∧ c.cycle = ['-', 'i', 'n', 'f', '?'] := by
  have hparse : Components.parse "llt/?/none/none" =
      .ok ⟨⟨['l', 'l', 't'], [Token.wildcard], Token.off, Token.off⟩, false⟩ := by decide +kernel
  constructor
  · have hsetup : (setup (.list [.int 1, .int 3, .int 2]) (.int 4)
        (searching (.ofRatio false 6679 128))).result.toOption.map (·.model) =
          some "llt/-208.71875?/none/none" := by decide +kernel
    have hsettings : (Settings.resolve (searching (.ofRatio false 6679 128))).result.toOption.map
          (fun s => (s.periods, s.model)) = some (some [.ofRatio false 6679 128], "llt/?/none/none") := by
      decide +kernel
    obtain ⟨r, hr, hmodel⟩ := exists_of_toOption_map hsetup
    obtain ⟨s, hs, hread⟩ := exists_of_toOption_map hsettings
    obtain ⟨hperiods, hname⟩ := Prod.mk.inj hread
    obtain ⟨c, first, q, hc, hfirst, hq, -, hexact, -⟩ := cycle_of_search hr hs hperiods (hname ▸ hparse) rfl
    obtain rfl := Option.some.inj hfirst
    have hvalue : q = (6679 : Nat) / (128 : Nat) :=
      Option.some.inj (hq.symm.trans (Double.toRat?_of_units (by decide +kernel) (by decide) (by decide +kernel)))
    have hbelow : q < Double.fourthBound := by
      have hlarge : (53 : Nat) ≤ Double.fourthBound := by decide +kernel
      have hcast : ((53 : Nat) : ℚ) ≤ Double.fourthBound := Nat.cast_le.2 hlarge
      rw [hvalue]
      push_cast at hcast ⊢
      linarith
    have hint := hexact hbelow
    rw [show (4 : ℚ) * q = 6679 / 32 by rw [hvalue]; norm_num] at hint
    exact ⟨r, c, hr, hmodel, hc, hint⟩
  · have hsetup : (setup (.list [.int 1, .int 3, .int 2]) (.int 4)
        (searching (.ofRatio false Double.fourthBound 1))).result.toOption.map (·.model) =
          some "llt/-inf?/none/none" := by decide +kernel
    have hsettings : (Settings.resolve (searching (.ofRatio false Double.fourthBound 1))).result.toOption.map
          (fun s => (s.periods, s.model)) = some (some [.ofRatio false Double.fourthBound 1], "llt/?/none/none") := by
      decide +kernel
    obtain ⟨r, hr, -⟩ := exists_of_toOption_map hsetup
    obtain ⟨s, hs, hread⟩ := exists_of_toOption_map hsettings
    obtain ⟨hperiods, hname⟩ := Prod.mk.inj hread
    obtain ⟨c, first, q, hc, hfirst, hq, -, -, hinfinite⟩ := cycle_of_search hr hs hperiods (hname ▸ hparse) rfl
    obtain rfl := Option.some.inj hfirst
    have hvalue : q = (Double.fourthBound : Nat) / (1 : Nat) :=
      Option.some.inj (hq.symm.trans (Double.toRat?_of_units (by decide +kernel) (by decide) (by decide +kernel)))
    refine ⟨r, c, hr, hc, hinfinite ?_⟩
    rw [hvalue, Nat.cast_one, div_one]

end Request

end StructuralSeries
