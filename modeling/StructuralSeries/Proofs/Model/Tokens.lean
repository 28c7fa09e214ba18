import StructuralSeries.Model.Canonical
import StructuralSeries.Proofs.Double.Written
import StructuralSeries.Proofs.Text.LowerCase

/-!
# Tokens in their final form

A token goes through three rewrites: lower-casing, the order of an ARMA component, the signs of the cycles. For
each of them this module says which form it reaches, that a token of that form is left as it is, and that it
neither opens nor switches off a component.

## Shape

* `Token.IsSettled` — the form that lower-casing reaches and the other two keep
* `Token.IsClosed` — the form that `withOrder` reaches
* `Token.IsSigned` — the form that `explicitCycle` reaches, if the first period is positive

The other two rewrites only add characters, and those that they add are settled themselves. So what is to be
shown of a token is said of its characters (`isSettled_iff`).
-/

namespace StructuralSeries

namespace Token

/-! ## Settled tokens -/

/-- Neither empty nor with a separator or a blank in it. Such tokens are what a model string names. -/
structure IsReadable (t : Token) : Prop where
  ne_nil : t ≠ []
  no_separator : separator ∉ t
  no_blank : ∀ c ∈ t, Text.isBlank c = false

/-- A readable token that is its own lower case. -/
structure IsSettled (t : Token) : Prop extends t.IsReadable where
  lower : Text.lower t = t

/-- A character of a settled token. -/
def IsSettledChar (c : Char) : Prop := c ≠ separator ∧ Text.isBlank c = false ∧ Text.IsLower c

theorem isSettled_iff {t : Token} : t.IsSettled ↔ t ≠ [] ∧ ∀ c ∈ t, IsSettledChar c := by
  constructor
  · intro h
    refine ⟨h.ne_nil, fun c hc => ⟨?_, h.no_blank c hc, ?_⟩⟩
    · rintro rfl
      exact h.no_separator hc
    · have hl := h.lower
      rw [← hl] at hc
      exact Text.isLower_of_mem_lower hc
  · rintro ⟨hne, h⟩
    exact
      { ne_nil := hne
        no_separator := fun hc => (h _ hc).1 rfl
        no_blank := fun c hc => (h c hc).2.1
        lower := Text.lower_eq_self fun c hc => (h c hc).2.2 }

/-- Settled characters in front of a settled token. -/
theorem IsSettled.prepend {t : Token} (h : t.IsSettled) {before : List Char}
    (hb : ∀ c ∈ before, IsSettledChar c) : IsSettled (before ++ t) := by
  obtain ⟨hne, hc⟩ := isSettled_iff.1 h
  refine isSettled_iff.2 ⟨by simp [hne], fun c hm => ?_⟩
  rcases List.mem_append.1 hm with hm | hm
  · exact hb c hm
  · exact hc c hm

/-- Settled characters behind a settled token. -/
theorem IsSettled.append {t : Token} (h : t.IsSettled) {after : List Char}
    (ha : ∀ c ∈ after, IsSettledChar c) : IsSettled (t ++ after) := by
  obtain ⟨hne, hc⟩ := isSettled_iff.1 h
  refine isSettled_iff.2 ⟨by simp [hne], fun c hm => ?_⟩
  rcases List.mem_append.1 hm with hm | hm
  · exact hc c hm
  · exact ha c hm

/-- The lower case of a readable token is settled. -/
theorem IsReadable.isSettled_lower {t : Token} (h : t.IsReadable) : IsSettled (Text.lower t) where
  ne_nil := Text.lower_ne_nil h.ne_nil
  no_separator := Text.not_mem_lower (by decide) h.no_separator
  no_blank := fun _ hc => Text.isBlank_of_mem_lower h.no_blank hc
  lower := Text.lower_lower t

/-- A sign of ASCII that is no slash is settled, and so is a digit. -/
theorem isSettledChar_of_lt {c : Char} (h : 0x20 < c.toNat) (h' : c.toNat < 0x41) (hs : c ≠ separator) :
    IsSettledChar c := by
  refine ⟨hs, ?_, ?_, ?_⟩
  · simp only [Text.isBlank, Bool.or_eq_false_iff, Bool.and_eq_false_iff, decide_eq_false_iff_not,
      beq_eq_false_iff_ne]
    omega
  · rintro rfl
    exact absurd h' (by decide)
  · refine Text.lowerChar_eq_self fun r hr => ?_
    -- the first run starts with the capital letters
    have hfirst : (Text.lowerRuns.all fun r => Nat.ble 0x41 r.first) = true := by decide
    have hr := Nat.le_of_ble_eq_true (List.all_eq_true.1 hfirst r hr)
    rw [Bool.eq_false_iff]
    intro hn
    have := (Text.LowerRun.bounds_of_has hn).1
    omega

theorem isSettledChar_of_isDigit {c : Char} (h : c.isDigit = true) : IsSettledChar c := by
  simp only [Char.isDigit, Bool.and_eq_true, decide_eq_true_eq] at h
  have h1 : 48 ≤ c.toNat := h.1
  have h2 : c.toNat ≤ 57 := h.2
  refine isSettledChar_of_lt (by omega) (by omega) ?_
  rintro rfl
  exact absurd h1 (by decide)

theorem isSettledChar_of_mem_signs {c : Char} (h : c ∈ Layout.signs) : IsSettledChar c := by
  simp only [Layout.signs, List.mem_cons, List.not_mem_nil, or_false] at h
  rcases h with rfl | rfl | rfl | rfl | rfl | rfl
  all_goals exact ⟨by decide, by decide, by decide, by decide⟩

/-! ## The order of an ARMA component -/

/-- An ARMA component whose order is written out and closed. -/
def IsClosed (t : Token) : Prop := mentions arma t = true → '(' ∈ t ∧ t.getLast? = some ')'

theorem withOrder_cases (t : Token) :
    t.withOrder = t ∨ t.withOrder = t ++ defaultOrder ∨ t.withOrder = t ++ [')'] := by
  unfold withOrder
  split
  · exact Or.inl rfl
  · split
    · exact Or.inr (Or.inl rfl)
    · split
      · exact Or.inr (Or.inr rfl)
      · exact Or.inl rfl

theorem isClosed_withOrder (t : Token) : t.withOrder.IsClosed := by
  unfold IsClosed withOrder
  intro hm
  split at hm
  · next h => exact absurd hm (by simpa using h)
  · split
    · contradiction
    · split
      · simp [defaultOrder]
      · next ho =>
        have ho : '(' ∈ t := by simpa using ho
        split
        · simp [ho]
        · next hl => exact ⟨ho, by simpa using hl⟩

/-- A closed order is left as it is. -/
theorem IsClosed.withOrder_eq {t : Token} (h : t.IsClosed) : t.withOrder = t := by
  unfold withOrder
  split
  · rfl
  · next hm =>
    obtain ⟨ho, hl⟩ := h (by simpa using hm)
    rw [if_neg (by simpa using ho), if_neg (by simpa using hl)]

theorem IsSettled.withOrder {t : Token} (h : t.IsSettled) : t.withOrder.IsSettled := by
  have horder : ∀ c ∈ ')' :: defaultOrder, IsSettledChar c := by
    intro c hc
    simp only [defaultOrder, List.mem_cons, List.not_mem_nil, or_false] at hc
    rcases hc with rfl | rfl | rfl | rfl | rfl | rfl
    all_goals exact isSettledChar_of_lt (by decide) (by decide) (by decide)
  rcases withOrder_cases t with ht | ht | ht <;> rw [ht]
  · exact h
  · exact h.append fun c hc => horder c (List.mem_cons_of_mem _ hc)
  · refine h.append fun c hc => horder c ?_
    rw [List.mem_singleton.1 hc]
    exact List.mem_cons_self

/-- An order leaves nothing to be identified. -/
theorem isOpen_withOrder (t : Token) : t.withOrder.isOpen = t.isOpen := by
  rcases withOrder_cases t with ht | ht | ht <;> rw [ht]
  · simp [isOpen, defaultOrder, wildcard]
  · simp [isOpen, wildcard]

/-- An order does not switch a component off. -/
theorem withOrder_eq_off_iff {t : Token} : t.withOrder = off ↔ t = off := by
  constructor
  · intro h
    rcases withOrder_cases t with ht | ht | ht
    · rw [← ht, h]
    · have hl := congrArg List.getLast? (ht.symm.trans h)
      simp [defaultOrder, off] at hl
    · have hl := congrArg List.getLast? (ht.symm.trans h)
      simp [off] at hl
  · rintro rfl
    decide

/-! ## The signs of the cycles -/

/-- No cycle, or cycles that start with a sign. -/
def IsSigned (t : Token) : Prop := t = off ∨ t.head? = some '+' ∨ t.head? = some '-'

/-- What becomes of the cycles: a lone wildcard gets the hint, a period without a sign is fixed, and other cycles
stay. -/
theorem explicitCycle_cases {t u : Token} {first : Double} {rest : List Double}
    (h : t.explicitCycle (.ofList (first :: rest)) = .ok u) :
    (t = [wildcard] ∧ u = searchHint first ++ [wildcard]) ∨ (t.IsSigned ∧ u = t) ∨
      (t ≠ off ∧ u = '+' :: t) := by
  unfold explicitCycle at h
  split at h
  · next ht => exact Or.inl ⟨ht, (Except.ok.inj h).symm⟩
  · split at h
    · next ht => exact Or.inr (Or.inl ⟨Or.inl ht, (Except.ok.inj h).symm⟩)
    · next ht =>
      split at h
      · cases h
      · next c cs _ =>
        have h := (Except.ok.inj h).symm
        split at h
        · next hc =>
          refine Or.inr (Or.inl ⟨Or.inr ?_, h⟩)
          rcases hc with rfl | rfl
          · exact Or.inl rfl
          · exact Or.inr rfl
        · exact Or.inr (Or.inr ⟨ht, h⟩)

/-- Cycles that are not empty can be made explicit. -/
theorem exists_explicitCycle {t : Token} (h : t ≠ []) (first : Double) (rest : List Double) :
    ∃ u, t.explicitCycle (.ofList (first :: rest)) = .ok u := by
  unfold explicitCycle
  split
  · exact ⟨_, rfl⟩
  · split
    · exact ⟨_, rfl⟩
    · cases t with
      | nil => exact absurd rfl h
      | cons c cs => exact ⟨_, rfl⟩

/-- Signed cycles are left as they are. -/
theorem IsSigned.explicitCycle_eq {t : Token} (h : t.IsSigned) (periods : Grid Double) :
    t.explicitCycle periods = .ok t := by
  unfold explicitCycle
  rcases h with rfl | h
  · rw [if_neg (by decide), if_pos rfl]
  · cases t with
    | nil => simp at h
    | cons c cs =>
      simp only [List.head?_cons, Option.some.injEq] at h
      have hw : c :: cs ≠ [wildcard] := by
        rintro he
        cases he
        revert h
        decide
      rw [if_neg hw]
      split
      · rfl
      · show Except.ok _ = _
        rw [if_pos h]

/-- Signs and hints leave open what is open. -/
theorem isOpen_explicitCycle {t u : Token} {first : Double} {rest : List Double}
    (h : t.explicitCycle (.ofList (first :: rest)) = .ok u) : u.isOpen = t.isOpen := by
  rcases explicitCycle_cases h with ⟨rfl, rfl⟩ | ⟨-, rfl⟩ | ⟨-, rfl⟩
  · simp [isOpen]
  · rfl
  · simp [isOpen, wildcard]

/-- Signs and hints do not switch the cycle off. -/
theorem explicitCycle_eq_off_iff {t u : Token} {first : Double} {rest : List Double}
    (h : t.explicitCycle (.ofList (first :: rest)) = .ok u) : u = off ↔ t = off := by
  rcases explicitCycle_cases h with ⟨rfl, rfl⟩ | ⟨-, rfl⟩ | ⟨ht, rfl⟩
  -- a hint still ends in the wildcard
  · refine iff_of_false (fun he => ?_) (by decide)
    have hl := congrArg List.getLast? he
    simp [wildcard, off] at hl
  · rfl
  · exact iff_of_false (by simp [off]) ht

/-- The hint of a positive period starts with a minus sign. -/
theorem head?_searchHint {first : Double} (h : Double.zero.lt first = true) :
    (searchHint first).head? = some '-' := by
  obtain ⟨m, rfl, hm⟩ := Double.exists_of_pos h
  obtain ⟨n, hn⟩ := Double.mul_eq_negative (a := .ofRatio 4 1) (by decide +kernel) hm
  rw [searchHint, show Double.ofInt (-4) = .signed true (.ofRatio 4 1) from rfl, hn]
  exact Layout.head?_text_of_negative _ _

theorem isSigned_of_explicitCycle {t u : Token} {first : Double} {rest : List Double}
    (hpos : Double.zero.lt first = true) (h : t.explicitCycle (.ofList (first :: rest)) = .ok u) :
    u.IsSigned := by
  rcases explicitCycle_cases h with ⟨-, rfl⟩ | ⟨ht, rfl⟩ | ⟨-, rfl⟩
  · refine Or.inr (Or.inr ?_)
    rw [List.head?_append, head?_searchHint hpos]
    rfl
  · exact ht
  · exact Or.inr (Or.inl rfl)

theorem IsSettled.explicitCycle {t u : Token} {first : Double} {rest : List Double} (ht : t.IsSettled)
    (h : t.explicitCycle (.ofList (first :: rest)) = .ok u) : u.IsSettled := by
  rcases explicitCycle_cases h with ⟨rfl, rfl⟩ | ⟨-, rfl⟩ | ⟨-, rfl⟩
  · have hhint : ∀ c ∈ searchHint first, IsSettledChar c := by
      intro c hc
      rcases Layout.mem_positional_text hc with hc | hc
      · exact isSettledChar_of_isDigit hc
      · exact isSettledChar_of_mem_signs hc
    exact ht.prepend hhint
  · exact ht
  · show IsSettled (['+'] ++ t)
    refine ht.prepend fun c hc => ?_
    rw [List.mem_singleton.1 hc]
    exact isSettledChar_of_lt (by decide) (by decide) (by decide)

end Token

end StructuralSeries
