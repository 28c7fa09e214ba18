import StructuralSeries.Text.Blank
import StructuralSeries.Text.Lower

/-!
# Lower-casing settles at once

The lower case of a text is a fixed point of lower-casing. It has no blank that the text has not, and neither a
sign nor a slash: all that it puts in the place of a character are letters and a combining dot.

## Two steps

1. **Runs**: the images of a run of the table lie in no run, and past the blanks and signs of ASCII. It takes the
   two ends of each run to see that, not its characters.
2. **Texts**: a character of a lower case is one of four or an image of the table. Whether a sigma ends its word
   does not matter, since both of its lower-case forms are settled.
-/

namespace StructuralSeries.Text

/-! ## Runs -/

namespace LowerRun

/-- The number of the last image of a run. -/
def lastImage (r : LowerRun) : Nat := r.target + (r.last - r.first)

/-- Whether no image of a run lies in another one: the images lie on one side of it, or in its gaps. -/
def avoids (r s : LowerRun) : Bool :=
  Nat.blt r.lastImage s.first || Nat.blt s.last r.target ||
    ((r.step == 2 || r.first == r.last) && s.step == 2 && (r.target + s.first) % 2 == 1)

/-- Whether the images of a run are characters past the signs of ASCII, none of them blank or `İ`. -/
def isSound (r : LowerRun) : Bool :=
  let apart (lo hi : Nat) : Bool := Nat.blt r.lastImage lo || Nat.blt hi r.target
  Nat.blt 0x60 r.target && apart 0x85 0x85 && apart 0xA0 0xA0 && apart 0x130 0x130 &&
    apart 0x1680 0x1680 && apart 0x2000 0x205F && apart 0x3000 0x3000 && apart 0xD800 0xDFFF && Nat.blt r.lastImage 0x110000

theorem bounds_of_has {r : LowerRun} {n : Nat} (h : r.has n = true) :
    r.first ≤ n ∧ n ≤ r.last ∧ (n - r.first) % r.step = 0 := by
  simpa [has, and_assoc] using h

/-- A run that is avoided holds no image. -/
theorem has_eq_false_of_avoids {r s : LowerRun} (h : r.avoids s = true) {n : Nat} (hn : r.has n = true) :
    s.has (r.target + (n - r.first)) = false := by
  obtain ⟨hfirst, hlast, hstep⟩ := bounds_of_has hn
  rw [Bool.eq_false_iff]
  intro hs
  obtain ⟨hfirst', hlast', hstep'⟩ := bounds_of_has hs
  simp only [avoids, lastImage, Bool.or_eq_true, Bool.and_eq_true, Nat.blt_eq, beq_iff_eq] at h
  rcases h with (h | h) | ⟨⟨hr, hs2⟩, hodd⟩
  · omega
  · omega
  · rw [hs2] at hstep'
    rcases hr with hr | hr
    · rw [hr] at hstep
      omega
    · omega

end LowerRun

theorem avoids_of_mem : ∀ r ∈ lowerRuns, ∀ s ∈ lowerRuns, r.avoids s = true := by
  have h : (lowerRuns.all fun r => lowerRuns.all r.avoids) = true := by decide +kernel
  simpa only [List.all_eq_true] using h

theorem isSound_of_mem : ∀ r ∈ lowerRuns, r.isSound = true := by
  have h : lowerRuns.all LowerRun.isSound = true := by decide +kernel
  simpa only [List.all_eq_true] using h

/-! ## Characters -/

/-- A character that lower-casing leaves as it is wherever it stands. -/
def IsLower (c : Char) : Prop := c ≠ 'İ' ∧ lowerChar c = c

instance (c : Char) : Decidable (IsLower c) := inferInstanceAs (Decidable (_ ∧ _))

theorem IsLower.ne_sigma {c : Char} (h : IsLower c) : c ≠ 'Σ' := by
  rintro rfl
  exact absurd h.2 (by decide)

/-- The lower case of a character is the character or its image in a run. -/
theorem lowerChar_cases (c : Char) :
    lowerChar c = c ∨
      ∃ r ∈ lowerRuns, r.has c.toNat = true ∧ lowerChar c = Char.ofNat (r.target + (c.toNat - r.first)) := by
  unfold lowerChar
  cases hf : lowerRuns.find? (·.has c.toNat) with
  | none => exact Or.inl rfl
  | some r => exact Or.inr ⟨r, List.mem_of_find?_eq_some hf, by simpa using List.find?_some hf, rfl⟩

/-- A character in no run is left as it is. -/
theorem lowerChar_eq_self {c : Char} (h : ∀ r ∈ lowerRuns, r.has c.toNat = false) : lowerChar c = c := by
  rcases lowerChar_cases c with hc | ⟨r, hr, hn, -⟩
  · exact hc
  · exact absurd hn (by simp [h r hr])

/-- An image of a run keeps its number, and is past the signs of ASCII, not blank and not `İ`. -/
theorem image_bounds {r : LowerRun} (hr : r ∈ lowerRuns) {c d : Char} (hc : r.has c.toNat = true)
    (hd : d = Char.ofNat (r.target + (c.toNat - r.first))) :
    d.toNat = r.target + (c.toNat - r.first) ∧ 0x60 < d.toNat ∧ d.toNat ≠ 0x130 ∧ isBlank d = false := by
  obtain ⟨hfirst, hlast, -⟩ := LowerRun.bounds_of_has hc
  have hs := isSound_of_mem r hr
  simp only [LowerRun.isSound, LowerRun.lastImage, Bool.and_eq_true, Bool.or_eq_true, Nat.blt_eq] at hs
  have hn : d.toNat = r.target + (c.toNat - r.first) := by
    have hv : (r.target + (c.toNat - r.first)).isValidChar := by
      unfold Nat.isValidChar
      omega
    rw [hd, Char.ofNat, dif_pos hv]
    rfl
  refine ⟨hn, by omega, by omega, ?_⟩
  simp only [isBlank, Bool.or_eq_false_iff, Bool.and_eq_false_iff, decide_eq_false_iff_not, beq_eq_false_iff_ne]
  omega

theorem isLower_lowerChar {c : Char} (h : c ≠ 'İ') : IsLower (lowerChar c) := by
  rcases lowerChar_cases c with hc | ⟨r, hr, hn, hc⟩
  · rw [hc]
    exact ⟨h, hc⟩
  · obtain ⟨hd, -, hI, -⟩ := image_bounds hr hn hc
    -- no run starts again where another one ends up
    refine ⟨fun he => hI (by rw [he]; rfl), lowerChar_eq_self fun s hs => ?_⟩
    rw [hd]
    exact LowerRun.has_eq_false_of_avoids (avoids_of_mem r hr s hs) hn

/-- Lower-casing a character makes no blank. -/
theorem isBlank_lowerChar {c : Char} (h : isBlank c = false) : isBlank (lowerChar c) = false := by
  rcases lowerChar_cases c with hc | ⟨r, hr, hn, hc⟩
  · rw [hc]
    exact h
  · exact (image_bounds hr hn hc).2.2.2

/-- Lower-casing a character makes no sign of ASCII. -/
theorem lowerChar_ne {c d : Char} (hd : d.toNat ≤ 0x60) (h : c ≠ d) : lowerChar c ≠ d := by
  rcases lowerChar_cases c with hc | ⟨r, hr, hn, hc⟩
  · rw [hc]
    exact h
  · have hlt := (image_bounds hr hn hc).2.1
    rintro rfl
    omega

/-! ## Texts -/

/-- The two characters that stand for `İ` and the two that stand for a capital sigma. -/
def substitutes : List Char := ['i', '\u0307', 'ς', 'σ']

/-- What may stand in a lower case: a substitute or the lower case of a character of the text. -/
theorem mem_lowerFrom {before cs : List Char} {d : Char} (h : d ∈ lowerFrom before cs) :
    d ∈ substitutes ∨ ∃ c ∈ cs, c ≠ 'İ' ∧ d = lowerChar c := by
  -- what was read before only decides between the two small sigmas
  induction cs generalizing before with
  | nil => simp [lowerFrom] at h
  | cons c after ih =>
    rcases List.mem_append.1 h with h | h
    · unfold lowerAt at h
      split at h
      · exact Or.inl (List.mem_append_left ['ς', 'σ'] h)
      · split at h
        · refine Or.inl ?_
          rw [List.mem_singleton.1 h]
          split <;> decide
        · next hI _ => exact Or.inr ⟨c, List.mem_cons_self, hI, List.mem_singleton.1 h⟩
    · rcases ih h with h | ⟨x, hx, hI, hd⟩
      · exact Or.inl h
      · exact Or.inr ⟨x, List.mem_cons_of_mem _ hx, hI, hd⟩

theorem isLower_of_mem_lower {cs : List Char} {d : Char} (h : d ∈ lower cs) : IsLower d := by
  rcases mem_lowerFrom h with h | ⟨c, -, hI, rfl⟩
  · have hall : (substitutes.all fun x => decide (IsLower x)) = true := by decide
    exact of_decide_eq_true (List.all_eq_true.1 hall d h)
  · exact isLower_lowerChar hI

theorem isBlank_of_mem_lower {cs : List Char} (hcs : ∀ c ∈ cs, isBlank c = false) {d : Char}
    (h : d ∈ lower cs) : isBlank d = false := by
  rcases mem_lowerFrom h with h | ⟨c, hc, -, rfl⟩
  · have hall : (substitutes.all fun x => decide (isBlank x = false)) = true := by decide
    exact of_decide_eq_true (List.all_eq_true.1 hall d h)
  · exact isBlank_lowerChar (hcs c hc)

/-- A sign of ASCII that is not in a text is not in its lower case. -/
theorem not_mem_lower {cs : List Char} {d : Char} (hd : d.toNat ≤ 0x60) (hcs : d ∉ cs) : d ∉ lower cs := by
  intro h
  rcases mem_lowerFrom h with h | ⟨c, hc, -, he⟩
  · have hall : (substitutes.all fun x => decide (0x60 < x.toNat)) = true := by decide
    exact absurd (of_decide_eq_true (List.all_eq_true.1 hall d h)) (by omega)
  · exact lowerChar_ne hd (fun hcd => hcs (hcd ▸ hc)) he.symm

/-- Lower-casing keeps the characters that are settled. -/
theorem mem_lowerFrom_of_isLower {before cs : List Char} {d : Char} (hd : IsLower d) (h : d ∈ cs) :
    d ∈ lowerFrom before cs := by
  induction cs generalizing before with
  | nil => cases h
  | cons c after ih =>
    refine List.mem_append.2 ?_
    rcases List.mem_cons.1 h with rfl | h
    · rw [lowerAt, if_neg hd.1, if_neg hd.ne_sigma, hd.2]
      exact Or.inl List.mem_cons_self
    · exact Or.inr (ih h)

/-- A settled sign of ASCII is in the lower case of a text exactly if it is in the text. -/
theorem mem_lower_iff {cs : List Char} {d : Char} (hascii : d.toNat ≤ 0x60) (hd : IsLower d) :
    d ∈ lower cs ↔ d ∈ cs :=
  ⟨fun h => Decidable.byContradiction fun hcs => not_mem_lower hascii hcs h, mem_lowerFrom_of_isLower hd⟩

/-- The lower case of a text that is not empty is not empty. -/
theorem lower_ne_nil {cs : List Char} (h : cs ≠ []) : lower cs ≠ [] := by
  cases cs with
  | nil => exact absurd rfl h
  | cons c after =>
    have hc : lowerAt [] c after ≠ [] := by
      unfold lowerAt
      split
      · simp
      · split <;> simp
    intro he
    exact hc (List.append_eq_nil_iff.1 he).1

theorem lowerFrom_eq_self {before cs : List Char} (h : ∀ c ∈ cs, IsLower c) : lowerFrom before cs = cs := by
  induction cs generalizing before with
  | nil => rfl
  | cons c after ih =>
    have hc := h c List.mem_cons_self
    rw [lowerFrom, ih fun x hx => h x (List.mem_cons_of_mem _ hx), lowerAt, if_neg hc.1, if_neg hc.ne_sigma, hc.2]
    rfl

/-- A text of settled characters is its own lower case. -/
theorem lower_eq_self {cs : List Char} (h : ∀ c ∈ cs, IsLower c) : lower cs = cs := lowerFrom_eq_self h

/-- **The lower case of a text is its own lower case.** -/
theorem lower_lower (cs : List Char) : lower (lower cs) = lower cs :=
  lower_eq_self fun _ hc => isLower_of_mem_lower hc

end StructuralSeries.Text
