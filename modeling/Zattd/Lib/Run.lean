/-
  Runs of a LABELLED transition relation, and the two inductions over them that a development
  needs once: an invariant kept by every step holds after every run, and a step-by-step
  REFINEMENT of an abstract machine is a refinement of its runs.

  Runs grow at the END (`snoc`), because what is said about them is said backwards ("since the last
  reset", "immediately after the step").
-/
import Mathlib

set_option linter.unusedVariables false

namespace Zattd

variable {S T L : Type} {step : S → L → S → Prop}

/-- `Run step s ls s'`: the steps labelled `ls`, in that order, can lead from `s` to `s'`. -/
inductive Run (step : S → L → S → Prop) (s : S) : List L → S → Prop
  | nil : Run step s [] s
  | snoc {ls : List L} {l : L} {s₁ s₂ : S} :
      Run step s ls s₁ → step s₁ l s₂ → Run step s (ls ++ [l]) s₂

namespace Run

variable {s s' s₁ s₂ : S} {ls ls' : List L} {l : L}

/-- One step is a run. -/
theorem one (h : step s l s') : Run step s [l] s' := snoc nil h

/-- A run can be gone on with. -/
theorem append (h : Run step s ls s₁) (h' : Run step s₁ ls' s') : Run step s (ls ++ ls') s' := by
  induction h' with
  | nil => simpa using h
  | snoc _ hl ih => rw [← List.append_assoc]; exact snoc ih hl

/-- Every step of a run starts where a run of the labels before it ends. -/
theorem split {post : List L} (h : Run step s (ls ++ l :: post) s') :
    ∃ s₁ s₂, Run step s ls s₁ ∧ step s₁ l s₂ ∧ Run step s₂ post s' := by
  generalize hall : ls ++ l :: post = all at h
  induction h generalizing post with
  | nil => simp at hall
  | @snoc init last s₁ s₂ hinit hlast ih =>
    rcases List.eq_nil_or_concat post with rfl | ⟨post', l', rfl⟩
    · obtain ⟨rfl, hl⟩ := List.append_inj' hall rfl
      obtain rfl : l = last := by simpa using hl
      exact ⟨s₁, s₂, hinit, hlast, nil⟩
    · rw [List.concat_eq_append, ← List.cons_append, ← List.append_assoc] at hall
      obtain ⟨hpre, hl⟩ := List.append_inj' hall rfl
      obtain rfl : l' = last := by simpa using hl
      obtain ⟨t₁, t₂, h₁, h₂, h₃⟩ := ih hpre
      rw [List.concat_eq_append]
      exact ⟨t₁, t₂, h₁, h₂, snoc h₃ hlast⟩

/-- Every label of a run is that of a step. -/
theorem of_mem (h : Run step s ls s') (hl : l ∈ ls) : ∃ s₁ s₂, step s₁ l s₂ := by
  obtain ⟨pre, post, rfl⟩ := List.append_of_mem hl
  obtain ⟨s₁, s₂, -, hstep, -⟩ := h.split
  exact ⟨s₁, s₂, hstep⟩

/-- Without labels nothing has happened. -/
theorem eq_of_nil (h : Run step s [] s') : s' = s := by
  generalize hall : ([] : List L) = all at h
  cases h with
  | nil => rfl
  | snoc _ _ => simp at hall

/-- Steps that lead nowhere can be taken one after the other. -/
theorem stay (h : ∀ l ∈ ls, step s l s) : Run step s ls s := by
  induction ls using List.reverseRecOn with
  | nil => exact nil
  | append_singleton ls l ih =>
    refine snoc (ih fun l' hl' => h l' (List.mem_append_left _ hl')) (h l ?_)
    exact List.mem_append_right _ (List.mem_singleton_self l)

/-- **Invariants.**  What the start satisfies and every step keeps holds after every run. -/
theorem invariant (I : S → Prop) (hkeep : ∀ s l s', I s → step s l s' → I s')
    (h : Run step s ls s') (h₀ : I s) : I s' := by
  induction h with
  | nil => exact h₀
  | snoc _ hl ih => exact hkeep _ _ _ ih hl

/-- **Refinement.**  If, under an invariant, every concrete step moves the abstract value the way
    the abstract machine `next` does, a run moves it the way `next` folded over the labels does. -/
theorem refines (I : S → Prop) (abs : S → T) (next : T → L → T)
    (hkeep : ∀ s l s', I s → step s l s' → I s')
    (hnext : ∀ s l s', I s → step s l s' → abs s' = next (abs s) l)
    (h : Run step s ls s') (h₀ : I s) : abs s' = ls.foldl next (abs s) := by
  induction h with
  | nil => rfl
  | snoc hr hl ih =>
    rw [List.foldl_append, List.foldl_cons, List.foldl_nil, ← ih]
    exact hnext _ _ _ (hr.invariant I hkeep h₀) hl

/-- A property lost along a run was lost at one of its steps. -/
theorem lost_at (P : S → Prop) (h : Run step s ls s') (hs : P s) (hs' : ¬P s') :
    ∃ pre l post s₁ s₂, ls = pre ++ l :: post ∧ Run step s pre s₁ ∧ step s₁ l s₂ ∧ P s₁ ∧ ¬P s₂ := by
  induction h with
  | nil => exact absurd hs hs'
  | @snoc init last s₁ s₂ hr hl ih =>
    by_cases h₁ : P s₁
    · exact ⟨init, last, [], s₁, s₂, rfl, hr, hl, h₁, hs'⟩
    · obtain ⟨pre, l, post, t₁, t₂, rfl, hpre, hl', hP⟩ := ih h₁
      exact ⟨pre, l, post ++ [last], t₁, t₂, by simp, hpre, hl', hP⟩

/-- **Batches.**  If every step takes the first `n` of what there is to see, and leaves the rest, a
    run takes it batch by batch, and nothing twice. -/
theorem batches {n : ℕ} (I : S → Prop) (view : S → List T) {step : S → List T → S → Prop}
    {batches : List (List T)} (hkeep : ∀ s l s', I s → step s l s' → I s')
    (htake : ∀ s l s', I s → step s l s' → l = (view s).take n ∧ view s' = (view s).drop n)
    (h : Run step s batches s') (h₀ : I s) :
    batches.flatten = (view s).take (n * batches.length) ∧
      view s' = (view s).drop (n * batches.length) := by
  induction h with
  | nil => exact ⟨(List.take_zero).symm, rfl⟩
  | @snoc init last s₁ s₂ hr hl ih =>
    obtain ⟨htaken, hleft⟩ := ih
    obtain ⟨hlast, hrest⟩ := htake _ _ _ (hr.invariant I hkeep h₀) hl
    have hlength : n * (init ++ [last]).length = n * init.length + n := by
      rw [List.length_append, List.length_singleton, Nat.mul_succ]
    rw [hlength]
    constructor
    · rw [List.flatten_append, List.flatten_singleton, htaken, hlast, hleft, ← List.take_add]
    · rw [hrest, hleft, List.drop_drop]

end Run

end Zattd
