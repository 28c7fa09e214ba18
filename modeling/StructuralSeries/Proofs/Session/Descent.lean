import Mathlib.Data.List.Induction
import StructuralSeries.Proofs.Session.Steps

/-!
# Descent in sessions

Requests are set up or made as they are given, and others evolve from them. So every request descends from one that
a step has founded (`Store.exists_founder`), and from no other (`Store.Descends.founder_unique`).

## Shape

* `Store.Descends` — descent from a request by changes that are all allowed
* `Store.Founds` — the steps that found a family
* `Store.Related` — having the same founder
-/

namespace StructuralSeries

namespace Store

variable [Text.Reader]

/-! ## Descent -/

/-- After `steps` the request `number` descends from the request `root`, which is there since `start`: it is that
request, or it evolves from a descendant by changes that are allowed. -/
inductive Descends (allowed : List (String × Value) → Prop) (start : List Step) (root : Nat) :
    List Step → Nat → Prop
  | root : Descends allowed start root start root
  | evolve {steps : List Step} {number : Nat} {changes : List (String × Value)} {answer : Value}
      (h : Descends allowed start root steps number) (hchanges : allowed changes)
      (hok : ((Step.evolve number changes).run (empty.after steps)).2.result = .ok answer) :
      Descends allowed start root (steps ++ [.evolve number changes]) (empty.after steps).requests.length
  | later {steps : List Step} {number : Nat} (h : Descends allowed start root steps number) (step : Step) :
      Descends allowed start root (steps ++ [step]) number

/-- The last of these steps sets up or makes the request `root`. -/
inductive Founds : List Step → Nat → Prop
  | setup {before : List Step} {y frequency : Value} {options : List (String × Value)} {answer : Value}
      (hok : ((Step.setup y frequency options).run (empty.after before)).2.result = .ok answer) :
      Founds (before ++ [.setup y frequency options]) (empty.after before).requests.length
  | make {before : List Step} {given : List (String × Value)} {answer : Value}
      (hok : ((Step.make given).run (empty.after before)).2.result = .ok answer) :
      Founds (before ++ [.make given]) (empty.after before).requests.length

/-- Descent by any changes. -/
abbrev IsOffspring : List Step → Nat → List Step → Nat → Prop := Descends fun _ => True

/-- Two requests descend from the same set-up, or from the same request that was made as given. -/
def Related (steps : List Step) (a b : Nat) : Prop :=
  ∃ start root, Founds start root ∧ IsOffspring start root steps a ∧ IsOffspring start root steps b

section Descent

variable {allowed : List (String × Value) → Prop} {start steps : List Step} {root number : Nat}

theorem Founds.lt (h : Founds start root) : root < (empty.after start).requests.length := by
  cases h with
  | @setup before y frequency options answer hok =>
    obtain ⟨r, hr⟩ := Step.exists_of_run_setup hok
    rw [after_concat, (Step.run_setup hr).1, length_requests_add]
    exact Nat.lt_succ_self _
  | @make before given answer hok =>
    obtain ⟨placed, hplaced⟩ := Step.exists_of_run_make hok
    rw [after_concat, (Step.run_make hplaced).1, length_requests_add]
    exact Nat.lt_succ_self _

/-- A descendant is there. -/
theorem Descends.lt (h : Descends allowed start root steps number)
    (hroot : root < (empty.after start).requests.length) : number < (empty.after steps).requests.length := by
  induction h with
  | root => exact hroot
  | @evolve steps number changes answer _ _ hok _ =>
    obtain ⟨old, placed, hold, hplaced⟩ := Step.exists_of_run_evolve hok
    rw [after_concat, (Step.run_evolve hold hplaced).1, length_requests_add]
    exact Nat.lt_succ_self _
  | @later steps number _ step ih => exact Nat.lt_of_lt_of_le ih (length_requests_le_after steps [step])

theorem Descends.append (h : Descends allowed start root steps number) (later : List Step) :
    Descends allowed start root (steps ++ later) number := by
  induction later generalizing steps with
  | nil => rwa [List.append_nil]
  | cons step later ih =>
    rw [List.append_cons]
    exact ih (h.later step)

theorem Related.append {a b : Nat} (h : Related steps a b) (later : List Step) : Related (steps ++ later) a b := by
  obtain ⟨start, root, hfounds, ha, hb⟩ := h
  exact ⟨start, root, hfounds, ha.append later, hb.append later⟩

/-- A step adds at most one request: one that founds a family, or one that evolves from another. -/
theorem requests_of_run (steps : List Step) (step : Step) :
    (empty.after (steps ++ [step])).requests = (empty.after steps).requests ∨
      (Founds (steps ++ [step]) (empty.after steps).requests.length ∧
        (empty.after (steps ++ [step])).requests.length = (empty.after steps).requests.length + 1) ∨
      ∃ number changes answer, step = .evolve number changes ∧
        ((Step.evolve number changes).run (empty.after steps)).2.result = .ok answer ∧
        (empty.after (steps ++ [step])).requests.length = (empty.after steps).requests.length + 1 := by
  have hdoes := Step.does_run (empty.after steps) step
  rw [after_concat]
  generalize ht : (step.run (empty.after steps)).1 = t at hdoes
  cases hdoes with
  | setup hr => exact Or.inr (Or.inl ⟨.setup (Step.run_setup hr).2, length_requests_add _ _⟩)
  | make hmade =>
    obtain ⟨-, answer, hok⟩ := Step.run_make hmade
    exact Or.inr (Or.inl ⟨.make hok, length_requests_add _ _⟩)
  | evolve hold hevolved =>
    obtain ⟨-, answer, hok⟩ := Step.run_evolve hold hevolved
    exact Or.inr (Or.inr ⟨_, _, answer, rfl, hok, length_requests_add _ _⟩)
  | write _ _ _ => exact Or.inl rfl
  | stay => exact Or.inl rfl

/-- **Every request descends from one that was founded.** -/
theorem exists_founder (steps : List Step) {number : Nat} (h : number < (empty.after steps).requests.length) :
    ∃ start root, Founds start root ∧ IsOffspring start root steps number := by
  induction steps using List.reverseRecOn generalizing number with
  | nil => cases h
  | append_singleton steps step ih =>
    have hold : number < (empty.after steps).requests.length →
        ∃ start root, Founds start root ∧ IsOffspring start root (steps ++ [step]) number := by
      intro hlt
      obtain ⟨start, root, hfounds, hdescends⟩ := ih hlt
      exact ⟨start, root, hfounds, hdescends.later step⟩
    rcases requests_of_run steps step with hsame | ⟨hfounds, hlen⟩ | ⟨parent, changes, answer, rfl, hok, hlen⟩
    · exact hold (hsame ▸ h)
    · rcases Nat.lt_succ_iff_lt_or_eq.1 (hlen ▸ h) with hlt | rfl
      · exact hold hlt
      · exact ⟨_, _, hfounds, .root⟩
    · rcases Nat.lt_succ_iff_lt_or_eq.1 (hlen ▸ h) with hlt | rfl
      · exact hold hlt
      · obtain ⟨old, placed, hparent, -⟩ := Step.exists_of_run_evolve hok
        obtain ⟨start, root, hfounds, hdescends⟩ := ih (lt_of_request hparent)
        exact ⟨start, root, hfounds, hdescends.evolve trivial hok⟩

theorem related_self (h : number < (empty.after steps).requests.length) : Related steps number number := by
  obtain ⟨start, root, hfounds, hdescends⟩ := exists_founder steps h
  exact ⟨start, root, hfounds, hdescends, hdescends⟩

/-- Who descends from a founder after one more step: who did before, the founder itself if the step founds it, and the
request that the step evolves from a descendant. -/
theorem IsOffspring.concat_cases {step : Step} (hfounds : Founds start root)
    (h : IsOffspring start root (steps ++ [step]) number) :
    (number < (empty.after steps).requests.length ∧ IsOffspring start root steps number) ∨
      number = (empty.after steps).requests.length ∧
        ((start = steps ++ [step] ∧ root = number) ∨
          ∃ parent changes, step = .evolve parent changes ∧ IsOffspring start root steps parent) := by
  generalize hall : steps ++ [step] = all at h
  cases h with
  | root =>
    refine Or.inr ⟨?_, Or.inl ⟨rfl, rfl⟩⟩
    cases hfounds with
    | setup _ | make _ =>
      obtain ⟨rfl, -⟩ := List.append_inj' hall rfl
      rfl
  | evolve hparent _ _ =>
    obtain ⟨rfl, hstep⟩ := List.append_inj' hall rfl
    exact Or.inr ⟨rfl, Or.inr ⟨_, _, List.cons.inj hstep |>.1, hparent⟩⟩
  | later hbefore _ =>
    obtain ⟨rfl, -⟩ := List.append_inj' hall rfl
    exact Or.inl ⟨hbefore.lt hfounds.lt, hbefore⟩

/-- No step founds a family and evolves another. -/
theorem Founds.ne_evolve {parent : Nat} {changes : List (String × Value)} (h : Founds start root) :
    start ≠ steps ++ [.evolve parent changes] := by
  rintro rfl
  generalize hall : steps ++ [Step.evolve parent changes] = all at h
  cases h with
  | setup _ | make _ =>
    obtain ⟨-, hstep⟩ := List.append_inj' hall rfl
    cases hstep

/-- **A request has one founder.** -/
theorem IsOffspring.founder_unique {start' : List Step} {root' : Nat} (hfounds : Founds start root)
    (hfounds' : Founds start' root') (h : IsOffspring start root steps number)
    (h' : IsOffspring start' root' steps number) : root = root' := by
  induction steps using List.reverseRecOn generalizing number with
  | nil =>
    have hlt := h.lt hfounds.lt
    cases hlt
  | append_singleton steps step ih =>
    rcases h.concat_cases hfounds with ⟨hlt, h⟩ | ⟨heq, h⟩
    · rcases h'.concat_cases hfounds' with ⟨-, h'⟩ | ⟨heq', -⟩
      · exact ih h h'
      · omega
    · rcases h'.concat_cases hfounds' with ⟨hlt', -⟩ | ⟨-, h'⟩
      · omega
      · rcases h with ⟨hstart, rfl⟩ | ⟨parent, changes, rfl, hparent⟩
        · rcases h' with ⟨-, rfl⟩ | ⟨parent, changes, rfl, -⟩
          · rfl
          · exact absurd hstart hfounds.ne_evolve
        · rcases h' with ⟨hstart, rfl⟩ | ⟨_, _, hstep, hparent'⟩
          · exact absurd hstart hfounds'.ne_evolve
          · cases hstep
            exact ih hparent hparent'

end Descent

end Store

end StructuralSeries
