import StructuralSeries.Proofs.Double.Digits
import StructuralSeries.Proofs.Series.Lines

/-!
# Series from mixed lists

The elements of a list become one array before any of them is read, so what an element is read as can depend on the
others. What it is read as in a list is `Value.readAmong`, and it depends on two things about the list:

* whether the array is one of text: there is text among the elements, and nothing that only an array of arbitrary
  objects holds (`Value.IsReadAsText`);
* whether all elements are whole numbers, which are read in a way of their own (`Value.AreWhole`).

In an array of text every element is read from its text. A truth value is then lost, and numbers are not, if the reader
reads back what was written (`Value.ReadsBack`). Text itself can be read in several ways: an array of text drops its
end, and digits that are a whole number among whole numbers are rounded by the reader elsewhere
(`Series.ofValue_mixed`). The reader that rounds to nearest rounds them to the same number
(`Value.textAmong_nearest`).

Elements are compared as values (`Double.SameValue`), for which zeros are the same: a whole number forgets the sign of
a zero that text writes.
-/

namespace StructuralSeries

/-- The same number, zeros of either sign being one, or both not a number. -/
def Double.SameValue (x y : Double) : Prop := x.place = y.place

/-- A missing truth value is not one that is read. -/
theorem Double.not_sameValue_nan (b : Bool) : ¬ nan.SameValue (if b then one else zero) := by
  cases b <;> exact nofun

namespace Value

/-! ## What an element is read as -/

/-- The elements that a list may mix. -/
inductive IsPlain : Value → Prop
  | absent : IsPlain .absent
  | bool (b : Bool) : IsPlain (.bool b)
  | int {n : Int} (h : n.natAbs < Double.wholeBound) : IsPlain (.int n)
  | float (x : Double) : IsPlain (.float x)
  | text (s : String) : IsPlain (.text s)

/-- The array of these elements is one of text: there is text among them, and nothing that only an array of arbitrary
objects holds. -/
def IsReadAsText (vs : List Value) : Prop := (∃ s, text s ∈ vs) ∧ ∀ v ∈ vs, v.kind ≠ .object

/-- The kind of the array that elements become. -/
def kindOfAll (vs : List Value) : Kind := Kind.joinAll (vs.map kind)

/-- The elements are whole numbers, as they are read in one array. -/
def AreWhole [Text.Reader] (vs : List Value) : Prop := (wholeObservations? (kindOfAll vs) vs).isSome = true

instance [Text.Reader] (vs : List Value) : Decidable (AreWhole vs) := inferInstanceAs (Decidable (_ = true))

/-- What text is read as in a list: the whole number that it writes, if all elements are whole numbers, and else what
the reader makes of the text that the array holds. -/
def textAmong [Text.Reader] (vs : List Value) (s : String) : Double :=
  let t := if kindOfAll vs = .text then Text.held s else s
  if AreWhole vs then .ofInt ((Text.lenientWhole? t).getD 0) else Text.observed t

/-- What an element is read as in a list. -/
def readAmong [Text.Reader] (vs : List Value) : Value → Double
  | bool b => if kindOfAll vs = .text then .nan else if b then .one else .zero
  | int n => .ofInt n
  | float x => x
  | text s => textAmong vs s
  | _ => .nan

/-- The text of a number is read back as that number. -/
def ReadsBack [Text.Reader] (c : Value) : Prop :=
  ∀ r x, c.real? = some r → r.toDouble = .ok x → Text.observed c.asText = x

theorem IsPlain.elements? {c : Value} (h : c.IsPlain) : c.elements? = some (.single c) := by
  cases h <;> rfl

theorem textIn?_text (kind : Kind) (s : String) :
    (text s).textIn? kind = some (if kind = .text then Text.held s else s) := by
  unfold textIn?
  split <;> rfl

/-- How an element of a series is read: as a whole number among whole numbers, or as an observation. -/
theorem exists_of_observations [Text.Reader] {kind : Kind} {cells : List Value} {xs : List Double}
    (h : observations kind cells = .ok xs) {i : Nat} {c : Value} (hc : cells[i]? = some c) :
    ∃ a, xs[i]? = some a ∧
      (((wholeObservations? kind cells).isSome = true ∧ ∃ n, c.wholeIn? kind = some n ∧ a = .ofInt n) ∨
        ((wholeObservations? kind cells).isSome ≠ true ∧ observation kind c = .ok a)) := by
  unfold observations at h
  split at h
  · next ns hns =>
    cases h
    obtain ⟨ms, hms, hfit⟩ := Option.bind_eq_some_iff.1 hns
    obtain ⟨-, heq⟩ := Option.ite_none_right_eq_some.1 hfit
    cases heq
    obtain ⟨n, hn, hwhole⟩ := getElem?_of_mapM_eq_some hms hc
    obtain ⟨-, hwhole⟩ := Option.ite_none_right_eq_some.1 hwhole
    exact ⟨.ofInt n, by rw [List.getElem?_map, hn]; rfl, Or.inl ⟨by rw [hns]; rfl, n, hwhole, rfl⟩⟩
  · next hnone =>
    obtain ⟨a, ha, hread⟩ := getElem?_of_mapM h hc
    exact ⟨a, ha, Or.inr ⟨by rw [hnone]; exact nofun, hread⟩⟩

/-- Among whole numbers, an element is read as the whole number that it writes. -/
theorem readAmong_of_whole [Text.Reader] {vs : List Value} {c : Value} (h : c.IsPlain) (hwhole : AreWhole vs) {n : Int}
    (hn : c.wholeIn? (kindOfAll vs) = some n) : .ofInt n = c.readAmong vs := by
  cases h with
  | bool b =>
    -- a truth value is a whole number in an array of arbitrary objects alone
    obtain ⟨hall, heq⟩ := Option.ite_none_right_eq_some.1 hn
    cases heq
    rw [readAmong, hall]
    cases b <;> rfl
  | int _ =>
    cases hn
    rfl
  | text s =>
    rw [wholeIn?, textIn?_text, Option.bind_some] at hn
    simp only [readAmong, textAmong, if_pos hwhole, hn, Option.getD_some]
  | _ => cases hn

/-- Among other elements, it is read as the observation that it is in the array. -/
theorem readAmong_of_observation [Text.Reader] {vs : List Value} {c : Value} (h : c.IsPlain) (hback : c.ReadsBack)
    (hkind : c.kind.width ≤ (kindOfAll vs).width) (hwhole : ¬ AreWhole vs) {a : Double}
    (ha : observation (kindOfAll vs) c = .ok a) : a = c.readAmong vs := by
  cases h with
  | absent =>
    generalize kindOfAll vs = kind at ha hkind
    cases kind with
    | object =>
      cases ha
      rfl
    | _ => exact absurd hkind (by decide)
  | bool b =>
    rw [readAmong]
    generalize kindOfAll vs = kind at ha ⊢
    cases kind with
    | text =>
      cases ha
      show Text.observed (shownBool b) = .nan
      rw [Text.observed, Text.Reader.number?_shownBool]
      rfl
    | _ =>
      cases ha
      rfl
  | @int n hn =>
    generalize kindOfAll vs = kind at ha
    cases kind with
    | object => exact (wholeToDouble_eq_ok_iff.1 ha).2.symm
    | text =>
      cases ha
      exact hback (.whole n) _ rfl (wholeToDouble_eq_ok_iff.2 ⟨hn, rfl⟩)
    | _ =>
      cases ha
      rfl
  | float x =>
    generalize kindOfAll vs = kind at ha
    cases kind with
    | text =>
      cases ha
      exact hback (.double x) x rfl rfl
    | _ =>
      cases ha
      rfl
  | text s =>
    rw [readAmong, textAmong, if_neg hwhole]
    generalize kindOfAll vs = kind at ha hkind ⊢
    cases kind with
    | text | object =>
      cases ha
      rfl
    | _ => exact absurd (show Kind.text.width ≤ _ from hkind) (by decide)

end Value

namespace Kind

theorem eq_of_width_eq {k l : Kind} (h : k.width = l.width) : k = l := by
  cases k <;> cases l <;> first | rfl | cases h

/-- The widest of several kinds is one of them. -/
theorem joinAll_mem {ks : List Kind} (h : joinAll ks ≠ bool) : joinAll ks ∈ ks := by
  induction ks with
  | nil => exact absurd rfl h
  | cons k ks ih =>
    have hjoin : joinAll (k :: ks) = if k.width ≤ (joinAll ks).width then joinAll ks else k := rfl
    rw [hjoin] at h ⊢
    split
    · next hle =>
      rw [if_pos hle] at h
      exact List.mem_cons_of_mem _ (ih h)
    · exact List.mem_cons_self

end Kind

namespace Value

theorem exists_text_of_kind {v : Value} (h : v.kind = .text) : ∃ s, v = text s := by
  cases v with
  | text s => exact ⟨s, rfl⟩
  | int n =>
    have h : (if -(wordBound : Int) ≤ n ∧ n < 2 * (wordBound : Int) then Kind.int else Kind.object) = .text := h
    split at h <;> cases h
  | fixed x => cases x <;> simp [kind, Fixed.kind] at h
  | _ => cases h

/-- **Whether an array is one of text.** -/
theorem kindOfAll_eq_text_iff {vs : List Value} : kindOfAll vs = .text ↔ IsReadAsText vs := by
  unfold kindOfAll
  constructor
  · intro h
    have hne : Kind.joinAll (vs.map kind) ≠ .bool := by
      rw [h]
      decide
    have hmem := Kind.joinAll_mem hne
    rw [h] at hmem
    obtain ⟨v, hv, hkind⟩ := List.mem_map.1 hmem
    obtain ⟨s, rfl⟩ := exists_text_of_kind hkind
    refine ⟨⟨s, hv⟩, fun w hw hobject => ?_⟩
    have hle := Kind.width_le_joinAll (List.mem_map_of_mem (f := kind) hw)
    rw [h, hobject] at hle
    exact absurd hle (by decide)
  · rintro ⟨⟨s, hs⟩, hobject⟩
    refine Kind.eq_of_width_eq (Nat.le_antisymm (Kind.width_joinAll_le ?_) ?_)
    · intro k hk
      obtain ⟨v, hv, rfl⟩ := List.mem_map.1 hk
      have hne := hobject v hv
      cases hkind : v.kind with
      | object => exact absurd hkind hne
      | _ => decide
    · exact Kind.width_le_joinAll (List.mem_map_of_mem (f := kind) hs)

end Value

/-! ## The reader that rounds to nearest -/

/-- A short whole number is the same value if it is read as a decimal number. -/
theorem Double.sameValue_toDouble {n : Nat} (h : n < 10 ^ 20) (negative : Bool) :
    (Decimal.toDouble negative ⟨n, 0⟩).SameValue (.ofInt (if negative then -(n : Int) else n)) := by
  have hmagnitude : Decimal.toDouble negative ⟨n, 0⟩ = .signed negative (.ofRatio n 1) := by
    simp [Decimal.toDouble, Magnitude.ofRatio, Decimal.rank_of_whole h, Format.rank_le_top]
  rw [hmagnitude, SameValue, ofInt, ofRatio]
  cases negative with
  | false =>
    have hn : ¬ (n : Int) < 0 := by omega
    simp [hn]
  | true =>
    by_cases hn : n = 0
    · simp [hn, place, Magnitude.ofRatio]
    · simp [Nat.pos_of_ne_zero hn]

/-- Text that is a short whole number is read as a value of that number. -/
theorem Text.exists_lenientDouble?_of_whole {s : String} {n : Int} (h : lenientWhole? s = some n)
    (hn : n.natAbs < 10 ^ 20) : ∃ x, lenientDouble? s = some x ∧ x.SameValue (.ofInt n) := by
  unfold lenientWhole? at h
  dsimp only at h
  split at h
  · cases h
  · next hfew =>
    obtain ⟨hne, hdigits, rfl⟩ := Decimal.whole?_eq_some_iff.1 h
    obtain ⟨c, hc⟩ := List.exists_mem_of_ne_nil _ hne
    have hnamed : Double.readNamed? s.toList = none :=
      Double.readNamed?_eq_none (mem_of_mem_trim (Decimal.mem_of_mem_takeSign hc)) (hdigits c hc)
    have hshort : Decimal.ofDigits (Decimal.takeSign (trim isAsciiBlank s.toList)).2 < 10 ^ 20 := by
      split at hn <;> omega
    refine ⟨_, ?_, Double.sameValue_toDouble hshort _⟩
    unfold lenientDouble?
    dsimp only
    rw [hnamed, if_neg hfew]
    show (Decimal.read? (Decimal.takeSign (trim isAsciiBlank s.toList)).2).map _ = _
    rw [Decimal.read?_of_digits hne hdigits]
    rfl

namespace Value

/-- Numbers that a word holds have at most twenty digits. -/
theorem natAbs_lt_of_fitOneWord {ns : List Int} (h : fitOneWord ns = true) {n : Int} (hn : n ∈ ns) :
    n.natAbs < 10 ^ 20 := by
  have hbound : 2 * wordBound < 10 ^ 20 := by decide
  simp only [fitOneWord, Bool.or_eq_true, List.all_eq_true, Bool.and_eq_true, decide_eq_true_eq] at h
  rcases h with h | h
  · have := h n hn
    omega
  · have := h n hn
    omega

/-- **Read to the nearest double, text is the same value among whole numbers as elsewhere.** The list matters to it in
whether it is one of text, which drops the end of the text. -/
theorem textAmong_nearest {vs : List Value} {s : String} (hs : text s ∈ vs) :
    (textAmong vs s).SameValue (Text.observed (if kindOfAll vs = .text then Text.held s else s)) := by
  unfold textAmong
  dsimp only
  split
  · next hwhole =>
    obtain ⟨ns, hns⟩ := Option.isSome_iff_exists.1 hwhole
    obtain ⟨ms, hms, hfit⟩ := Option.bind_eq_some_iff.1 hns
    obtain ⟨hfit, heq⟩ := Option.ite_none_right_eq_some.1 hfit
    cases heq
    obtain ⟨i, hi⟩ := List.getElem?_of_mem hs
    obtain ⟨n, hn, hread⟩ := getElem?_of_mapM_eq_some hms hi
    obtain ⟨-, hread⟩ := Option.ite_none_right_eq_some.1 hread
    rw [wholeIn?, textIn?_text, Option.bind_some] at hread
    obtain ⟨x, hx, hsame⟩ :=
      Text.exists_lenientDouble?_of_whole hread (natAbs_lt_of_fitOneWord hfit (List.mem_of_getElem? hn))
    have hobserved : Text.observed (if kindOfAll vs = .text then Text.held s else s) = x :=
      congrArg (fun read : Option Double => read.getD .nan) hx
    rw [hread, hobserved]
    exact hsame.symm
  · rfl

end Value

/-! ## Lists -/

namespace Value

/-- What text is read as in a list depends on the two ways in which lists differ. -/
theorem textAmong_congr [Text.Reader] {vs ws : List Value} (htext : IsReadAsText vs ↔ IsReadAsText ws)
    (hwhole : AreWhole vs ↔ AreWhole ws) (s : String) : textAmong vs s = textAmong ws s := by
  simp only [← kindOfAll_eq_text_iff] at htext
  simp only [textAmong, htext, hwhole]

/-- **An element is read alike in two lists** unless it is a truth value, of which only one list is one of text, or text
that one list reads as another number. -/
theorem readAmong_sameValue_iff [Text.Reader] {vs ws : List Value} {c : Value} (h : c.IsPlain) :
    (c.readAmong vs).SameValue (c.readAmong ws) ↔
      (∀ b, c = .bool b → (IsReadAsText vs ↔ IsReadAsText ws)) ∧
        ∀ s, c = .text s → (textAmong vs s).SameValue (textAmong ws s) := by
  cases h with
  | bool b =>
    have hboth : (∀ t, Value.bool b = .bool t → (IsReadAsText vs ↔ IsReadAsText ws)) ↔
        (kindOfAll vs = .text ↔ kindOfAll ws = .text) := by
      rw [kindOfAll_eq_text_iff, kindOfAll_eq_text_iff]
      exact ⟨fun h => h b rfl, fun h _ _ => h⟩
    rw [hboth, and_iff_left nofun, readAmong, readAmong]
    by_cases hv : kindOfAll vs = .text <;> by_cases hw : kindOfAll ws = .text
    · rw [if_pos hv, if_pos hw]
      exact iff_of_true rfl (iff_of_true hv hw)
    · rw [if_pos hv, if_neg hw]
      exact iff_of_false (Double.not_sameValue_nan b) fun h => hw (h.1 hv)
    · rw [if_neg hv, if_pos hw]
      exact iff_of_false (fun h => Double.not_sameValue_nan b h.symm) fun h => hv (h.2 hw)
    · rw [if_neg hv, if_neg hw]
      exact iff_of_true rfl (iff_of_false hv hw)
  | text s =>
    constructor
    · intro h
      refine ⟨nofun, fun t ht => ?_⟩
      cases ht
      exact h
    · exact fun h => h.2 s rfl
  | _ => exact iff_of_true rfl ⟨nofun, nofun⟩

end Value

namespace Series

open Value

/-- **What an element of a list is read as**, at its place in the series. -/
theorem getElem?_of_list [Text.Reader] {vs : List Value} (hvs : ∀ v ∈ vs, v.IsPlain) {y : Series}
    (hy : ofValue (.list vs) = .ok y) {i : Nat} {c : Value} (hc : vs[i]? = some c) (hback : c.ReadsBack) :
    y.values[i]? = some (c.readAmong vs) := by
  obtain ⟨es, cells, hes, hline, hread⟩ := ofValue_eq_ok_iff.1 hy
  rw [elements?_list fun v hv => (hvs v hv).elements?] at hes
  cases hes
  obtain rfl := eq_data_of_line? hline
  have hmem := List.mem_of_getElem? hc
  have hplain := hvs c hmem
  obtain ⟨a, ha, ⟨hwhole, n, hn, rfl⟩ | ⟨hwhole, hobserved⟩⟩ := exists_of_observations hread hc
  · rw [ha, readAmong_of_whole hplain hwhole hn]
  · rw [ha, readAmong_of_observation hplain hback (Kind.width_le_joinAll (List.mem_map_of_mem hmem)) hwhole hobserved]

/-- **How far an element of a list affects the others.**

Take two lists that are read as series and have the same element at some place. The text of the element is read back, if
it is a number. At that place the series have the same value with two exceptions: the element is a truth value, and one
list is read as text and the other is not; or it is text that the two lists read as different numbers. Unless the
element is text, the same value is the same double. And lists that are both read as text or both not, and both of whole
numbers or both not, have the same double there, whatever the element is. -/
theorem ofValue_mixed [Text.Reader] {vs ws : List Value} (hvs : ∀ v ∈ vs, v.IsPlain) (hws : ∀ w ∈ ws, w.IsPlain)
    {y z : Series} (hy : ofValue (.list vs) = .ok y) (hz : ofValue (.list ws) = .ok z) {i : Nat} {c : Value}
    (hc : vs[i]? = some c) (hc' : ws[i]? = some c) (hback : c.ReadsBack) :
    ∃ a b, y.values[i]? = some a ∧ z.values[i]? = some b ∧
      (a.SameValue b ↔ (∀ t, c = .bool t → (IsReadAsText vs ↔ IsReadAsText ws)) ∧
        ∀ s, c = .text s → (textAmong vs s).SameValue (textAmong ws s)) ∧
      ((∀ s, c ≠ .text s) → a.SameValue b → a = b) ∧
      ((IsReadAsText vs ↔ IsReadAsText ws) → (AreWhole vs ↔ AreWhole ws) → a = b) := by
  have hplain := hvs c (List.mem_of_getElem? hc)
  refine ⟨_, _, getElem?_of_list hvs hy hc hback, getElem?_of_list hws hz hc' hback, readAmong_sameValue_iff hplain,
    fun hnot h => ?_, fun htext hwhole => ?_⟩
  · cases hplain with
    | bool b =>
      -- a truth value that is missing is not the same as a number
      have hboth := ((readAmong_sameValue_iff (.bool b)).1 h).1 b rfl
      rw [← kindOfAll_eq_text_iff, ← kindOfAll_eq_text_iff] at hboth
      simp only [readAmong, hboth]
    | text s => exact absurd rfl (hnot s)
    | _ => rfl
  · cases hplain with
    | bool b =>
      rw [← kindOfAll_eq_text_iff, ← kindOfAll_eq_text_iff] at htext
      simp only [readAmong, htext]
    | text s => exact textAmong_congr htext hwhole s
    | _ => rfl

/-- A truth value beside text is missing, and beside whole numbers it is one. -/
theorem ofValue_mixed_truth :
    ∃ (y z : Series) (a b : Double), ofValue (.list [.int 1, .bool true, .text "x", .int 2]) = .ok y ∧
      ofValue (.list [.int 1, .bool true, .int 5, .int 2]) = .ok z ∧ y.values[1]? = some a ∧ z.values[1]? = some b ∧
      ¬ a.SameValue b := by
  have hint : ∀ n ∈ [1, 2, 5], (Value.int n).IsPlain := by
    intro n hn
    have hsmall : n.natAbs ≤ 5 := by
      simp at hn
      omega
    exact .int (Nat.lt_of_le_of_lt hsmall (by decide +kernel))
  have hvs : ∀ v ∈ [Value.int 1, .bool true, .text "x", .int 2], v.IsPlain := by
    simp only [List.forall_mem_cons]
    exact ⟨hint 1 (by decide), .bool true, .text "x", hint 2 (by decide), nofun⟩
  have hws : ∀ w ∈ [Value.int 1, .bool true, .int 5, .int 2], w.IsPlain := by
    simp only [List.forall_mem_cons]
    exact ⟨hint 1 (by decide), .bool true, hint 5 (by decide), hint 2 (by decide), nofun⟩
  have hy : (ofValue (.list [.int 1, .bool true, .text "x", .int 2])).toOption.map (fun _ => ()) = some () := by
    decide +kernel
  have hz : (ofValue (.list [.int 1, .bool true, .int 5, .int 2])).toOption.map (fun _ => ()) = some () := by
    decide +kernel
  obtain ⟨y, hy, -⟩ := exists_of_toOption_map hy
  obtain ⟨z, hz, -⟩ := exists_of_toOption_map hz
  obtain ⟨a, b, ha, hb, hiff, -⟩ := ofValue_mixed (i := 1) (c := .bool true) hvs hws hy hz rfl rfl nofun
  refine ⟨y, z, a, b, hy, hz, ha, hb, fun hsame => ?_⟩
  have hreads : IsReadAsText [Value.int 1, .bool true, .text "x", .int 2] := by
    refine ⟨⟨"x", by simp⟩, ?_⟩
    simp [Value.kind, wordBound]
  obtain ⟨⟨s, hs⟩, -⟩ := ((hiff.1 hsame).1 true rfl).1 hreads
  simp at hs

end Series

end StructuralSeries
