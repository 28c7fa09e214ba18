import Mathlib.Data.List.Duplicate
import Mathlib.Data.List.Sort
import Mathlib.Data.String.Basic
import StructuralSeries.Proofs.Report
import StructuralSeries.Proofs.Settings.Drafts

/-!
# Options are known by their canonical names

The names of options are looked at before any value is: a setting that is given twice, or a name that is none, fails
the call whatever the values are. After that only the value of each setting counts. So it makes no difference in which
order options are written, which of two names is used, or whether a default is written out
(`Settings.resolve_by_names`).

## Shape

* `Supplied.canonical` — the options of a call under canonical names
* `Supplied.nameRefusal?` — what is wrong with their names
* `Settings.resolve_congr` — names that are equally right and settings of equal values have one outcome
-/

namespace StructuralSeries

/-! ## Canonical names -/

namespace Setting

theorem name_injective : Function.Injective name := by
  have hall : ∀ s ∈ all, ∀ t ∈ all, s.name = t.name → s = t := by decide +kernel
  exact fun s t => hall s (mem_all s) t (mem_all t)

theorem canonicalName_name (s : Setting) : canonicalName s.name = s.name := by cases s <;> decide

theorem isName_name (s : Setting) : isName s.name = true :=
  List.any_eq_true.2 ⟨s, mem_all s, decide_eq_true rfl⟩

/-- A name stands for itself, unless it is the second name of a setting. -/
theorem canonicalName_cases (n : String) : canonicalName n = n ∨ (n, canonicalName n) ∈ aliases := by
  unfold canonicalName
  cases h : aliases.lookup n with
  | none => exact Or.inl rfl
  | some m =>
    obtain ⟨before, after, heq, -⟩ := List.lookup_eq_some_iff.1 h
    right
    simp [heq]

/-- A setting has at most one second name, which is none of the first ones. -/
theorem aliases_apart {a b n m : String} (ha : (a, n) ∈ aliases) (hb : (b, m) ∈ aliases) :
    a ≠ m ∧ (n = m → a = b) := by
  have hall : ∀ p ∈ aliases, ∀ q ∈ aliases, p.1 ≠ q.2 ∧ (p.2 = q.2 → p.1 = q.1) := by decide
  exact hall _ ha _ hb

theorem canonicalName_of_mem_aliases {a n : String} (h : (a, n) ∈ aliases) :
    canonicalName a = n ∧ canonicalName n = n := by
  have hall : ∀ p ∈ aliases, canonicalName p.1 = p.2 ∧ canonicalName p.2 = p.2 := by decide
  exact hall _ h

end Setting

namespace Supplied

/-- The names of options. -/
def names (options : List (String × Value)) : List String := options.map Prod.fst

/-- Options under their canonical names. -/
def canonical (options : List (String × Value)) : Supplied :=
  options.map fun o => (Setting.canonicalName o.1, o.2)

theorem names_canonical (options : List (String × Value)) :
    names (canonical options) = (names options).map Setting.canonicalName := by
  simp [names, canonical, Function.comp_def]

theorem canonical_append (before after : List (String × Value)) :
    canonical (before ++ after) = canonical before ++ canonical after := List.map_append

/-! ## What is wrong with names -/

/-- Names in their order. -/
def inOrder (names : List String) : List String := names.mergeSort fun a b => !decide (b < a)

/-- Why canonical names are refused, if they are. -/
def nameRefusal? (names : List String) : Option Refusal :=
  match firstRepeated? [] names with
  | some n => some (.repeatedOption n)
  | none =>
    match names.filter fun n => !Setting.isName n with
    | [] => none
    | unknown => some (.unknownOptions (inOrder unknown))

theorem nameRefusal?_eq_none_iff {names : List String} :
    nameRefusal? names = none ↔ names.Nodup ∧ ∀ n ∈ names, Setting.isName n = true := by
  unfold nameRefusal?
  cases hfirst : firstRepeated? [] names with
  | some n =>
    refine iff_of_false nofun fun ⟨hnodup, _⟩ => ?_
    rw [firstRepeated?_eq_none_iff.2 ⟨hnodup, fun _ _ => List.not_mem_nil⟩] at hfirst
    cases hfirst
  | none =>
    obtain ⟨hnodup, -⟩ := firstRepeated?_eq_none_iff.1 hfirst
    dsimp only
    cases hunknown : names.filter fun n => !Setting.isName n with
    | nil =>
      refine iff_of_true rfl ⟨hnodup, fun n hn => ?_⟩
      simpa using List.filter_eq_nil_iff.1 hunknown n hn
    | cons n unknown =>
      refine iff_of_false nofun fun ⟨_, hknown⟩ => ?_
      have hn : n ∈ names.filter fun n => !Setting.isName n := by
        rw [hunknown]
        exact List.mem_cons_self
      simp [hknown n (List.mem_filter.1 hn).1] at hn

theorem ofOptions_eq (options : List (String × Value)) :
    ofOptions options =
      match nameRefusal? (names (canonical options)) with
      | some why => .error (.refused why)
      | none => .ok (canonical options) := by
  show (match firstRepeated? [] (names (canonical options)) with
    | some n => _
    | none => match (names (canonical options)).filter fun n => !Setting.isName n with
      | [] => _
      | unknown => _) = _
  unfold nameRefusal?
  cases firstRepeated? [] (names (canonical options)) with
  | some n => rfl
  | none =>
    dsimp only
    cases (names (canonical options)).filter fun n => !Setting.isName n with
    | nil => rfl
    | cons n unknown => rfl

/-- A draft reads the values of settings and nothing else. -/
theorem draft_congr {supplied supplied' : Supplied} (h : ∀ s, supplied.value s = supplied'.value s) :
    supplied.draft = supplied'.draft := by
  unfold draft
  simp only [require, broken, h]

end Supplied

namespace Settings

open Supplied

variable {options options' : List (String × Value)}

theorem resolve_of_nameRefusal? {why : Refusal} (h : nameRefusal? (names (canonical options)) = some why) :
    resolve options = .ofExcept (.error (.refused why)) := by
  unfold resolve
  rw [ofOptions_eq, h]
  rfl

theorem resolve_of_names (h : nameRefusal? (names (canonical options)) = none) :
    resolve options = (liftM (canonical options).draft : Report Draft) >>= Draft.settle := by
  unfold resolve
  rw [ofOptions_eq, h]
  exact Report.liftM_ok_chain _ _

/-- **Calls whose names are equally right and whose settings have equal values have one outcome.** -/
theorem resolve_congr
    (hnames : nameRefusal? (names (canonical options)) = nameRefusal? (names (canonical options')))
    (hvalues : nameRefusal? (names (canonical options)) = none →
      ∀ s, (canonical options).value s = (canonical options').value s) :
    resolve options = resolve options' := by
  cases hn : nameRefusal? (names (canonical options)) with
  | some why => rw [resolve_of_nameRefusal? hn, resolve_of_nameRefusal? (hnames ▸ hn)]
  | none => rw [resolve_of_names hn, resolve_of_names (hnames ▸ hn), draft_congr (hvalues hn)]

/-- Names that are wrong fail every call that uses them, whatever its values are. -/
theorem resolve_of_names_eq {why : Refusal} (h : nameRefusal? (names (canonical options)) = some why)
    (hnames : names options' = names options) : resolve options' = .ofExcept (.error (.refused why)) := by
  apply resolve_of_nameRefusal?
  rw [names_canonical, hnames, ← names_canonical, h]

end Settings

/-! ## Repeated names -/

namespace Supplied

/-- An option is given under both of its names. -/
def GivenTwice (options : List (String × Value)) (n : String) : Prop :=
  ∃ a, (a, n) ∈ Setting.aliases ∧ a ∈ names options ∧ n ∈ names options

theorem GivenTwice.mem_aliases {options : List (String × Value)} {n : String} (h : GivenTwice options n) :
    n ∈ Setting.aliases.map Prod.snd := by
  obtain ⟨a, ha, -, -⟩ := h
  exact List.mem_map_of_mem ha

/-- A repeated name was there before, or it is there twice. -/
theorem duplicate_of_firstRepeated? {seen names : List String} {n : String}
    (h : firstRepeated? seen names = some n) : n ∈ names ∧ (n ∈ seen ∨ List.Duplicate n names) := by
  induction names generalizing seen with
  | nil => simp [firstRepeated?] at h
  | cons m names ih =>
    rw [firstRepeated?] at h
    by_cases hm : m ∈ seen
    · rw [if_pos hm, Option.some.injEq] at h
      subst h
      exact ⟨List.mem_cons_self, Or.inl hm⟩
    · rw [if_neg hm] at h
      obtain ⟨hmem, hseen⟩ := ih h
      refine ⟨List.mem_cons_of_mem _ hmem, ?_⟩
      rcases hseen with hseen | hdup
      · rcases List.mem_cons.1 hseen with rfl | hseen
        · exact Or.inr (List.Mem.duplicate_cons_self hmem)
        · exact Or.inl hseen
      · exact Or.inr (hdup.duplicate_cons m)

/-- Which names were there before only matters for the names that follow. -/
theorem firstRepeated?_congr {seen seen' names : List String} (h : ∀ n ∈ names, n ∈ seen ↔ n ∈ seen') :
    firstRepeated? seen names = firstRepeated? seen' names := by
  induction names generalizing seen seen' with
  | nil => rfl
  | cons m names ih =>
    obtain ⟨hm, hrest⟩ := List.forall_mem_cons.1 h
    have hnext : firstRepeated? (m :: seen) names = firstRepeated? (m :: seen') names := by
      apply ih
      intro n hn
      rw [List.mem_cons, List.mem_cons, hrest n hn]
    rw [firstRepeated?, firstRepeated?, hnext]
    simp only [hm]

/-- A name that is there once does not count. -/
theorem firstRepeated?_insert {seen before after : List String} {n : String} (hseen : n ∉ seen) (hb : n ∉ before)
    (ha : n ∉ after) : firstRepeated? seen (before ++ n :: after) = firstRepeated? seen (before ++ after) := by
  induction before generalizing seen with
  | nil =>
    rw [List.nil_append, List.nil_append, firstRepeated?, if_neg hseen]
    apply firstRepeated?_congr
    intro m hm
    have hne : m ≠ n := fun heq => ha (heq ▸ hm)
    simp [hne]
  | cons m before ih =>
    rw [List.mem_cons, not_or] at hb
    rw [List.cons_append, List.cons_append, firstRepeated?, firstRepeated?,
      ih (by simp [hb.1, hseen]) hb.2]

section GivenTwice

variable {options : List (String × Value)} {n : String}

/-- **Among different names, a canonical name that is repeated belongs to an option under both of its names.** -/
theorem givenTwice_of_duplicate (hdistinct : (names options).Nodup)
    (h : List.Duplicate n (names (canonical options))) : GivenTwice options n := by
  rw [names_canonical, List.duplicate_iff_sublist, List.sublist_map_iff] at h
  obtain ⟨pair, hpair, heq⟩ := h
  obtain ⟨a, b, rfl, ha, hb⟩ : ∃ a b, pair = [a, b] ∧ Setting.canonicalName a = n ∧ Setting.canonicalName b = n := by
    obtain ⟨a, rest, rfl, ha, hrest⟩ := List.map_eq_cons_iff.1 heq.symm
    obtain ⟨b, rfl, hb⟩ := List.map_eq_singleton_iff.1 hrest
    exact ⟨a, b, rfl, ha, hb⟩
  have hne : a ≠ b := by
    have hnodup := hdistinct.sublist hpair
    simpa using hnodup
  have hmem : a ∈ names options ∧ b ∈ names options :=
    ⟨hpair.subset (by simp), hpair.subset (by simp)⟩
  -- one of the two is the first name, and the other one the second
  rcases Setting.canonicalName_cases a with ha' | ha'
  · rcases Setting.canonicalName_cases b with hb' | hb'
    · exact absurd ((ha'.symm.trans ha).trans (hb.symm.trans hb')) hne
    · rw [hb] at hb'
      have han : a = n := ha'.symm.trans ha
      exact ⟨b, hb', hmem.2, han ▸ hmem.1⟩
  · rw [ha] at ha'
    rcases Setting.canonicalName_cases b with hb' | hb'
    · have hbn : b = n := hb'.symm.trans hb
      exact ⟨a, ha', hmem.1, hbn ▸ hmem.2⟩
    · rw [hb] at hb'
      exact absurd ((Setting.aliases_apart ha' hb').2 rfl) hne

/-- An option that is given under both of its names is refused, or another one is. -/
theorem exists_of_givenTwice (hdistinct : (names options).Nodup) (h : GivenTwice options n) :
    ∃ m, GivenTwice options m ∧ nameRefusal? (names (canonical options)) = some (.repeatedOption m) := by
  obtain ⟨a, halias, ha, hn⟩ := h
  cases hr : firstRepeated? [] (names (canonical options)) with
  | some m =>
    obtain ⟨-, hseen | hdup⟩ := duplicate_of_firstRepeated? hr
    · cases hseen
    · exact ⟨m, givenTwice_of_duplicate hdistinct hdup, by simp [nameRefusal?, hr]⟩
  | none =>
    exfalso
    rw [names_canonical] at hr
    obtain ⟨hnodup, -⟩ := firstRepeated?_eq_none_iff.1 hr
    obtain ⟨ha', hn'⟩ := Setting.canonicalName_of_mem_aliases halias
    have heq := List.inj_on_of_nodup_map hnodup ha hn (ha'.trans hn'.symm)
    exact (Setting.aliases_apart halias halias).1 heq

/-- Names of which no setting has both are not repeated. -/
theorem firstRepeated?_of_not_givenTwice (hdistinct : (names options).Nodup) (h : ∀ n, ¬ GivenTwice options n) :
    firstRepeated? [] (names (canonical options)) = none := by
  cases hr : firstRepeated? [] (names (canonical options)) with
  | none => rfl
  | some m =>
    obtain ⟨-, hseen | hdup⟩ := duplicate_of_firstRepeated? hr
    · cases hseen
    · exact absurd (givenTwice_of_duplicate hdistinct hdup) (h m)

end GivenTwice

/-! ## Other orders -/

theorem inOrder_perm (names : List String) : (inOrder names).Perm names := List.mergeSort_perm _ _

theorem inOrder_pairwise (names : List String) : (inOrder names).Pairwise (· ≤ ·) := by
  have htrans : ∀ a b c : String, (!decide (b < a)) = true → (!decide (c < b)) = true → (!decide (c < a)) = true := by
    simp only [Bool.not_eq_true', decide_eq_false_iff_not, not_lt]
    exact fun a b c => le_trans
  have htotal : ∀ a b : String, ((!decide (b < a)) || !decide (a < b)) = true := by
    simp only [Bool.or_eq_true, Bool.not_eq_true', decide_eq_false_iff_not, not_lt]
    exact le_total
  refine (List.pairwise_mergeSort htrans htotal names).imp ?_
  intro a b h
  simpa only [Bool.not_eq_true', decide_eq_false_iff_not, not_lt] using h

/-- The order of names does not depend on how they were written. -/
theorem inOrder_congr {names names' : List String} (h : names.Perm names') : inOrder names = inOrder names' := by
  refine List.Perm.eq_of_pairwise (fun a b _ _ => le_antisymm) (inOrder_pairwise names) (inOrder_pairwise names') ?_
  exact ((inOrder_perm names).trans h).trans (inOrder_perm names').symm

theorem lookup_perm {supplied supplied' : Supplied} (h : supplied.Perm supplied') (hnodup : (names supplied).Nodup)
    (n : String) : supplied.lookup n = supplied'.lookup n := by
  induction h with
  | nil => rfl
  | cons o _ ih =>
    obtain ⟨-, hrest⟩ := List.nodup_cons.1 hnodup
    rw [List.lookup_cons, List.lookup_cons, ih hrest]
  | swap o p _ =>
    have hne : p.1 ≠ o.1 := by
      intro heq
      exact (List.nodup_cons.1 hnodup).1 (by simp [heq])
    rw [List.lookup_cons, List.lookup_cons, List.lookup_cons, List.lookup_cons]
    by_cases hp : n = p.1
    · have ho : (n == o.1) = false := beq_eq_false_iff_ne.2 (hp ▸ hne)
      rw [ho]
    · have hp : (n == p.1) = false := beq_eq_false_iff_ne.2 hp
      rw [hp]
  | trans h₁ _ ih₁ ih₂ => exact (ih₁ hnodup).trans (ih₂ ((h₁.map Prod.fst).nodup_iff.1 hnodup))

/-! ## One more option -/

section Insert

variable {before after : Supplied} {s t : Setting} {v : Value}

/-- A setting that is there once does not make names wrong. -/
theorem nameRefusal?_insert {before after : List String} (hb : s.name ∉ before) (ha : s.name ∉ after) :
    nameRefusal? (before ++ s.name :: after) = nameRefusal? (before ++ after) := by
  have hknown : (s.name :: after).filter (fun n => !Setting.isName n) = after.filter fun n => !Setting.isName n :=
    List.filter_cons_of_neg (by simp [s.isName_name])
  unfold nameRefusal?
  rw [firstRepeated?_insert List.not_mem_nil hb ha, List.filter_append, List.filter_append, hknown]

theorem lookup_eq_none (h : s.name ∉ names before) : before.lookup s.name = none := by
  rw [List.lookup_eq_none_iff]
  intro o ho
  have hne : s.name ≠ o.1 := fun heq => h (heq ▸ List.mem_map_of_mem ho)
  simpa using hne

theorem value_insert_self (hb : s.name ∉ names before) : value (before ++ (s.name, v) :: after) s = v := by
  rw [value, List.lookup_append, lookup_eq_none hb, List.lookup_cons_self]
  rfl

/-- An option has no part in the other settings. -/
theorem value_insert_of_ne (h : t ≠ s) :
    value (before ++ (s.name, v) :: after) t = value (before ++ after) t := by
  have hne : (t.name == s.name) = false := beq_eq_false_iff_ne.2 fun heq => h (Setting.name_injective heq)
  rw [value, value, List.lookup_append, List.lookup_append, List.lookup_cons, hne]

/-- A setting that is not given has its default. -/
theorem value_eq_default (h : s.name ∉ names before) : value before s = s.default := by
  rw [value, lookup_eq_none h]
  rfl

/-- Writing a default out changes no value. -/
theorem value_insert_default (hb : s.name ∉ names before) (ha : s.name ∉ names after) (t : Setting) :
    value (before ++ (s.name, s.default) :: after) t = value (before ++ after) t := by
  by_cases hts : t = s
  · subst hts
    have habsent : t.name ∉ names (before ++ after) := by
      rw [names, List.map_append, List.mem_append, not_or]
      exact ⟨hb, ha⟩
    rw [value_insert_self hb, value_eq_default habsent]
  · exact value_insert_of_ne hts

end Insert

section InsertOption

variable {before after : List (String × Value)} {s : Setting} {n : String} {v : Value}

theorem canonical_insert (hn : Setting.canonicalName n = s.name) :
    canonical (before ++ (n, v) :: after) = canonical before ++ (s.name, v) :: canonical after := by
  rw [canonical_append, ← hn]
  rfl

theorem not_mem_names_canonical {options : List (String × Value)}
    (h : ∀ o ∈ options, Setting.canonicalName o.1 ≠ s.name) : s.name ∉ names (canonical options) := by
  rw [names_canonical, names, List.map_map]
  intro hmem
  obtain ⟨o, ho, heq⟩ := List.mem_map.1 hmem
  exact h o ho heq

theorem fresh_canonical (h : ∀ o ∈ before ++ after, Setting.canonicalName o.1 ≠ s.name) :
    s.name ∉ names (canonical before) ∧ s.name ∉ names (canonical after) :=
  ⟨not_mem_names_canonical fun o ho => h o (List.mem_append_left _ ho),
    not_mem_names_canonical fun o ho => h o (List.mem_append_right _ ho)⟩

/-- An option of a setting that is not given otherwise does not make names wrong. -/
theorem nameRefusal?_insert_option (hn : Setting.canonicalName n = s.name)
    (h : ∀ o ∈ before ++ after, Setting.canonicalName o.1 ≠ s.name) :
    nameRefusal? (names (canonical (before ++ (n, v) :: after))) =
      nameRefusal? (names (canonical (before ++ after))) := by
  obtain ⟨hb, ha⟩ := fresh_canonical h
  rw [canonical_insert hn, canonical_append, names, List.map_append, List.map_cons]
  show nameRefusal? (names (canonical before) ++ s.name :: names (canonical after)) = _
  rw [nameRefusal?_insert hb ha, names, names, names, List.map_append]

/-- A setting without a second name is not given if its name is not. -/
theorem ne_of_not_mem_names {options : List (String × Value)} (h₁ : s.name ∉ Setting.aliases.map Prod.fst)
    (h₂ : s.name ∉ Setting.aliases.map Prod.snd) (h : s.name ∉ names options) :
    ∀ o ∈ options, Setting.canonicalName o.1 ≠ s.name :=
  fun _ ho heq => h ((Setting.canonicalName_eq_iff h₁ h₂).1 heq ▸ List.mem_map_of_mem ho)

end InsertOption

end Supplied

/-! ## Settings -/

namespace Settings

open Supplied

variable {options reordered : List (String × Value)}

/-- Options in another order have the same outcome, unless settings are given twice. -/
theorem resolve_perm (h : options.Perm reordered)
    (honce : firstRepeated? [] (names (canonical options)) = none) : resolve reordered = resolve options := by
  have hcanonical : (canonical options).Perm (canonical reordered) := h.map _
  have hnames : (names (canonical options)).Perm (names (canonical reordered)) := hcanonical.map _
  obtain ⟨hnodup, -⟩ := firstRepeated?_eq_none_iff.1 honce
  have honce' : firstRepeated? [] (names (canonical reordered)) = none :=
    firstRepeated?_eq_none_iff.2 ⟨hnames.nodup_iff.1 hnodup, fun _ _ => List.not_mem_nil⟩
  symm
  apply resolve_congr
  · have hunknown := hnames.filter fun n => !Setting.isName n
    unfold nameRefusal?
    rw [honce, honce']
    dsimp only
    cases hu : (names (canonical options)).filter fun n => !Setting.isName n with
    | nil =>
      rw [hu] at hunknown
      rw [hunknown.nil_eq.symm]
    | cons n unknown =>
      cases hu' : (names (canonical reordered)).filter fun n => !Setting.isName n with
      | nil =>
        rw [hu, hu'] at hunknown
        cases hunknown.eq_nil
      | cons m unknown' =>
        rw [hu, hu'] at hunknown
        dsimp only
        rw [inOrder_congr hunknown]
  · intro _ s
    rw [value, value, lookup_perm hcanonical hnodup]

/-- A call that writes a default out has the outcome of the call that does not. -/
theorem resolve_insert_default {before after : List (String × Value)} {s : Setting} {n : String}
    (hn : Setting.canonicalName n = s.name) (h : ∀ o ∈ before ++ after, Setting.canonicalName o.1 ≠ s.name) :
    resolve (before ++ (n, s.default) :: after) = resolve (before ++ after) := by
  obtain ⟨hb, ha⟩ := fresh_canonical h
  apply resolve_congr
  · exact nameRefusal?_insert_option hn h
  · intro _ t
    rw [canonical_insert hn, canonical_append, value_insert_default hb ha]

/-- Different names in another order are wrong in the same way, unless settings are given twice. -/
theorem resolve_perm_cases (hdistinct : (names options).Nodup) (h : options.Perm reordered) :
    resolve reordered = resolve options ∨ ∃ n m, n ≠ m ∧ GivenTwice options n ∧ GivenTwice options m ∧
      resolve options = .ofExcept (.error (.refused (.repeatedOption n))) ∧
      resolve reordered = .ofExcept (.error (.refused (.repeatedOption m))) := by
  by_cases honce : ∀ n, ¬ GivenTwice options n
  · exact Or.inl (resolve_perm h (firstRepeated?_of_not_givenTwice hdistinct honce))
  · obtain ⟨k, hk⟩ := not_forall_not.1 honce
    have hnames : (names options).Perm (names reordered) := h.map Prod.fst
    have hreordered : ∀ {k}, GivenTwice options k ↔ GivenTwice reordered k := by
      intro k
      simp only [GivenTwice, hnames.mem_iff]
    obtain ⟨n, hn, hrefused⟩ := exists_of_givenTwice hdistinct hk
    obtain ⟨m, hm, hrefused'⟩ := exists_of_givenTwice (hnames.nodup_iff.1 hdistinct) (hreordered.1 hk)
    have hn' := resolve_of_nameRefusal? hrefused
    have hm' := resolve_of_nameRefusal? hrefused'
    by_cases heq : n = m
    · left
      rw [hn', hm', heq]
    · exact Or.inr ⟨n, m, heq, hn, hreordered.2 hm, hn', hm'⟩

/-- Names that are no settings fail the call, all of them in their order. -/
theorem resolve_of_unknown (hdistinct : (names options).Nodup) (honce : ∀ n, ¬ GivenTwice options n)
    {o : String × Value} (ho : o ∈ options) (hname : Setting.isName (Setting.canonicalName o.1) = false) :
    nameRefusal? (names (canonical options)) =
      some (.unknownOptions (inOrder ((names (canonical options)).filter fun n => !Setting.isName n))) := by
  have hmem : Setting.canonicalName o.1 ∈ (names (canonical options)).filter fun n => !Setting.isName n := by
    rw [List.mem_filter, names_canonical]
    exact ⟨List.mem_map_of_mem (List.mem_map_of_mem ho), by simp [hname]⟩
  unfold nameRefusal?
  rw [firstRepeated?_of_not_givenTwice hdistinct honce]
  dsimp only
  cases hu : (names (canonical options)).filter fun n => !Setting.isName n with
  | nil =>
    rw [hu] at hmem
    cases hmem
  | cons n unknown => rfl

/-- **The outcome of a call depends on the values that settings have under their canonical names.**

Of a call whose options have different names, the order of the options does not matter, except that a call that gives
each setting with a second name under both of them may be refused for another one of these; it does not matter which
name of a setting is used; and it does not matter whether a default is written out. Names that are wrong fail the call
whatever the values are: a setting that is given twice, or else names that are no settings. -/
theorem resolve_by_names (hdistinct : (names options).Nodup) :
    (∀ reordered : List (String × Value), options.Perm reordered →
      resolve reordered = resolve options ∨
        (∀ a ∈ Setting.aliases, GivenTwice options a.2) ∧ ∃ n m,
          resolve options = .ofExcept (.error (.refused (.repeatedOption n))) ∧ GivenTwice options n ∧
          resolve reordered = .ofExcept (.error (.refused (.repeatedOption m))) ∧ GivenTwice options m) ∧
    (∀ (before after : List (String × Value)) (n m : String) (v : Value), options = before ++ (n, v) :: after →
      Setting.canonicalName m = Setting.canonicalName n → resolve (before ++ (m, v) :: after) = resolve options) ∧
    (∀ (before after : List (String × Value)) (s : Setting) (n : String), options = before ++ after →
      Setting.canonicalName n = s.name → (∀ o ∈ options, Setting.canonicalName o.1 ≠ s.name) →
      resolve (before ++ (n, s.default) :: after) = resolve options) ∧
    (∀ n, GivenTwice options n → ∃ m, GivenTwice options m ∧ ∀ others, names others = names options →
      resolve others = .ofExcept (.error (.refused (.repeatedOption m)))) ∧
    (∀ o ∈ options, Setting.isName (Setting.canonicalName o.1) = false → (∀ n, ¬ GivenTwice options n) →
      ∃ unknown, Setting.canonicalName o.1 ∈ unknown ∧ unknown.Pairwise (· ≤ ·) ∧
        (∀ n ∈ unknown, Setting.isName n = false) ∧ ∀ others, names others = names options →
          resolve others = .ofExcept (.error (.refused (.unknownOptions unknown)))) := by
  refine ⟨?order, ?second, ?default, ?twice, ?unknown⟩
  case order =>
    intro reordered h
    rcases resolve_perm_cases hdistinct h with heq | ⟨n, m, hne, hn, hm, hrefused, hrefused'⟩
    · exact Or.inl heq
    · refine Or.inr ⟨?_, n, m, hrefused, hn, hrefused', hm⟩
      -- there are only two settings with a second name
      have htwo : ∀ a ∈ Setting.aliases, ∀ n ∈ Setting.aliases.map Prod.snd, ∀ m ∈ Setting.aliases.map Prod.snd,
          n ≠ m → a.2 = n ∨ a.2 = m := by decide
      intro a ha
      rcases htwo a ha n hn.mem_aliases m hm.mem_aliases hne with heq | heq
      · exact heq ▸ hn
      · exact heq ▸ hm
  case second =>
    rintro before after n m v rfl hm
    have hcanonical : canonical (before ++ (m, v) :: after) = canonical (before ++ (n, v) :: after) := by
      simp only [canonical, List.map_append, List.map_cons, hm]
    apply resolve_congr
    · rw [hcanonical]
    · intro _ s
      rw [hcanonical]
  case default =>
    rintro before after s n rfl hn h
    exact resolve_insert_default hn h
  case twice =>
    intro n hn
    obtain ⟨m, hm, hrefused⟩ := exists_of_givenTwice hdistinct hn
    exact ⟨m, hm, fun others hothers => resolve_of_names_eq hrefused hothers⟩
  case unknown =>
    intro o ho hname honce
    refine ⟨_, ?_, inOrder_pairwise _, ?_, fun others hothers =>
      resolve_of_names_eq (resolve_of_unknown hdistinct honce ho hname) hothers⟩
    · rw [(inOrder_perm _).mem_iff, List.mem_filter, names_canonical]
      exact ⟨List.mem_map_of_mem (List.mem_map_of_mem ho), by simp [hname]⟩
    · intro n hn
      rw [(inOrder_perm _).mem_iff, List.mem_filter] at hn
      simpa using hn.2

/-- A second name in another order, replaced by the first one, and next to a default under a second name. -/
theorem resolve_by_names_second_name :
    (names [("h", .int 3), ("tTest", .bool true)]).Nodup ∧
      resolve [("tTest", .bool true), ("h", .int 3)] = resolve [("h", .int 3), ("tTest", .bool true)] ∧
      resolve [("h", .int 3), ("t_test", .bool true)] = resolve [("h", .int 3), ("tTest", .bool true)] ∧
      resolve [("h", .int 3), ("cLlik", .bool true), ("tTest", .bool true)] =
        resolve [("h", .int 3), ("tTest", .bool true)] := by
  have hdistinct : (names [("h", .int 3), ("tTest", .bool true)]).Nodup := by decide
  obtain ⟨horder, hsecond, hdefault, -⟩ := resolve_by_names hdistinct
  refine ⟨hdistinct, ?_, hsecond [("h", .int 3)] [] "tTest" "t_test" _ rfl (by decide),
    hdefault [("h", .int 3)] [("tTest", .bool true)] .concentrated "cLlik" rfl (by decide) (by decide)⟩
  rcases horder _ (List.Perm.swap _ _ _) with heq | ⟨htwice, -⟩
  · exact heq
  · obtain ⟨-, -, -, hfirst⟩ := htwice ("tTest", "t_test") (by decide)
    exact absurd hfirst (by decide)

end Settings

end StructuralSeries
