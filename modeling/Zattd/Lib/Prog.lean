/-
  Programs that talk to a shared world through COMMANDS.

  A server function is neither a pure function nor a plain state transformer: it computes a bit,
  issues a command (a statement to a database, a read of the clock, a write to a socket), looks at
  the answer, computes on.  Between two of its commands anything may happen to the world, a command
  may fail, and the world may be free to answer in more than one way.  `Prog C A α` is exactly that
  skeleton: a tree of commands `c : C`, branching over the answers in `A c`, with a value at every
  leaf.  What a command MEANS is left to a relation

      step : S → (c : C) → A c → S → Prop

  ("in state `s` command `c` may be answered `a`, leaving `s'`"), so the same program can be run
  under several meanings: every statement succeeds, any statement may fail, one statement at a time
  interleaved with other programs.

  * `Runs`    — the runs of a program, with the TRACE of its commands and answers;
  * `Issues`  — how many commands of a kind are issued on every path, whatever is answered;
  * `exec`    — the runs of a deterministic world, computed.

  Nothing here knows what the commands are.
-/
import Mathlib

set_option linter.unusedVariables false

namespace Zattd

/-- A program over the commands `C`, where `c` is answered by an element of `A c`. -/
inductive Prog (C : Type) (A : C → Type) (α : Type) : Type
  | ret (a : α) : Prog C A α
  | call (c : C) (next : A c → Prog C A α) : Prog C A α

namespace Prog

variable {C : Type} {A : C → Type} {S α β γ : Type}

/-- Run `p`, then whatever `f` makes of its value. -/
def bind : Prog C A α → (α → Prog C A β) → Prog C A β
  | .ret a, f => f a
  | .call c next, f => .call c fun a => (next a).bind f

/-- Issue one command and return its answer. -/
def issue (c : C) : Prog C A (A c) := .call c .ret

instance : Monad (Prog C A) where
  pure := .ret
  bind := bind

@[simp] theorem bind_ret (p : Prog C A α) : p.bind .ret = p := by
  induction p with
  | ret a => rfl
  | call c next ih => exact congrArg (Prog.call c) (funext ih)

/-- Programs in sequence can be bracketed either way. -/
theorem bind_assoc (p : Prog C A α) (f : α → Prog C A β) (g : β → Prog C A γ) :
    (p.bind f).bind g = p.bind fun a => (f a).bind g := by
  induction p with
  | ret a => rfl
  | call c next ih => exact congrArg (Prog.call c) (funext ih)

instance : LawfulMonad (Prog C A) :=
  LawfulMonad.mk' (Prog C A) bind_ret (fun _ _ => rfl) bind_assoc

/-! ## Runs -/

/-- `Runs step s p tr a s'`: from `s`, program `p` can end in `s'` with value `a`, having issued the
    commands of `tr` and received the answers of `tr`, in that order. -/
inductive Runs (step : S → (c : C) → A c → S → Prop) :
    S → Prog C A α → List ((c : C) × A c) → α → S → Prop
  | ret (s : S) (a : α) : Runs step s (.ret a) [] a s
  | call {s s₁ s' : S} {c : C} {next : A c → Prog C A α} {ans : A c}
      {tr : List ((c : C) × A c)} {a : α} :
      step s c ans s₁ → Runs step s₁ (next ans) tr a s' →
      Runs step s (.call c next) (⟨c, ans⟩ :: tr) a s'

section Runs

variable {step : S → (c : C) → A c → S → Prop} {s s' : S} {tr : List ((c : C) × A c)}

@[simp] theorem runs_ret {a b : α} :
    Runs step s (.ret a) tr b s' ↔ tr = [] ∧ b = a ∧ s' = s := by
  constructor
  · intro h; cases h; exact ⟨rfl, rfl, rfl⟩
  · rintro ⟨rfl, rfl, rfl⟩; exact .ret _ _

@[simp] theorem runs_pure {a b : α} :
    Runs step s (pure a : Prog C A α) tr b s' ↔ tr = [] ∧ b = a ∧ s' = s := runs_ret

/-- A run of a command is its answer, and a run of what follows. -/
theorem runs_call {c : C} {next : A c → Prog C A α} {a : α} :
    Runs step s (.call c next) tr a s' ↔
      ∃ ans s₁ tr', step s c ans s₁ ∧ Runs step s₁ (next ans) tr' a s' ∧ tr = ⟨c, ans⟩ :: tr' := by
  constructor
  · intro h; cases h with
    | call hc hn => exact ⟨_, _, _, hc, hn, rfl⟩
  · rintro ⟨ans, s₁, tr', hc, hn, rfl⟩; exact .call hc hn

/-- The runs of a sequence are the runs of its first half continued by runs of its second half. -/
@[simp] theorem runs_bind {p : Prog C A α} {f : α → Prog C A β} {b : β} :
    Runs step s (p >>= f) tr b s' ↔
      ∃ tr₁ a s₁ tr₂, Runs step s p tr₁ a s₁ ∧ Runs step s₁ (f a) tr₂ b s' ∧ tr = tr₁ ++ tr₂ := by
  show Runs step s (p.bind f) tr b s' ↔ _
  induction p generalizing s tr with
  | ret a =>
    constructor
    · intro h; exact ⟨[], a, s, tr, .ret s a, h, rfl⟩
    · rintro ⟨tr₁, a', s₁, tr₂, h₁, h₂, rfl⟩
      obtain ⟨rfl, rfl, rfl⟩ := runs_ret.mp h₁
      exact h₂
  | call c next ih =>
    show Runs step s (.call c fun a => (next a).bind f) tr b s' ↔ _
    constructor
    · intro h
      obtain ⟨ans, s₁, tr', hc, hn, rfl⟩ := runs_call.mp h
      obtain ⟨tr₁, a, s₂, tr₂, h₁, h₂, rfl⟩ := (ih ans).mp hn
      exact ⟨⟨c, ans⟩ :: tr₁, a, s₂, tr₂, .call hc h₁, h₂, rfl⟩
    · rintro ⟨tr₁, a, s₂, tr₂, h₁, h₂, rfl⟩
      obtain ⟨ans, s₁, tr', hc, hn, rfl⟩ := runs_call.mp h₁
      exact .call hc ((ih ans).mpr ⟨tr', a, s₂, tr₂, hn, h₂, rfl⟩)

@[simp] theorem runs_issue {c : C} {ans : A c} :
    Runs step s (issue c) tr ans s' ↔ step s c ans s' ∧ tr = [⟨c, ans⟩] := by
  constructor
  · intro h
    obtain ⟨ans', s₁, tr', hc, hn, rfl⟩ := runs_call.mp h
    obtain ⟨rfl, rfl, rfl⟩ := runs_ret.mp hn
    exact ⟨hc, rfl⟩
  · rintro ⟨hc, rfl⟩; exact .call hc (.ret _ _)

/-- A program that is left out under a condition. -/
theorem runs_optional {c : Prop} [Decidable c] {p : Prog C A α} {a b : α} :
    Runs step s (if c then pure a else p) tr b s' ↔
      (c ∧ tr = [] ∧ b = a ∧ s' = s) ∨ (¬c ∧ Runs step s p tr b s') := by
  by_cases hc : c
  · rw [if_pos hc, runs_pure]
    simp [hc]
  · rw [if_neg hc]
    simp [hc]

/-- Runs under a tighter meaning of the commands are runs under a looser one. -/
theorem Runs.mono {step' : S → (c : C) → A c → S → Prop} {p : Prog C A α} {a : α}
    (hstep : ∀ s c ans s', step s c ans s' → step' s c ans s')
    (h : Runs step s p tr a s') : Runs step' s p tr a s' := by
  induction h with
  | ret s a => exact .ret s a
  | call hc _ ih => exact .call (hstep _ _ _ _ hc) ih

end Runs

/-! ## Counting commands on every path -/

/-- On every path of the program, whatever is answered, exactly `n` of the issued commands satisfy
    `hit`.  `Issues hit p 0` says that `p` never issues such a command. -/
inductive Issues (hit : C → Bool) : Prog C A α → Nat → Prop
  | ret (a : α) : Issues hit (.ret a) 0
  | call {c : C} {next : A c → Prog C A α} {n : Nat} :
      (∀ ans, Issues hit (next ans) n) → Issues hit (.call c next) ((if hit c then 1 else 0) + n)

section Issues

variable {hit : C → Bool} {m n : Nat}

theorem Issues.pure (a : α) : Issues (A := A) hit (pure a : Prog C A α) 0 := .ret a

/-- Counts add up. -/
theorem Issues.bind {p : Prog C A α} {f : α → Prog C A β}
    (hp : Issues hit p m) (hf : ∀ a, Issues hit (f a) n) : Issues hit (p >>= f) (m + n) := by
  show Issues hit (p.bind f) (m + n)
  induction hp with
  | ret a => rw [Nat.zero_add]; exact hf a
  | call _ ih => rw [Nat.add_assoc]; exact .call ih

theorem Issues.issue (c : C) : Issues (A := A) hit (issue c) (if hit c then 1 else 0) :=
  .call (n := 0) fun ans => .ret ans

/-- A silent prefix leaves the count to the continuation. -/
theorem Issues.bind_zero {p : Prog C A α} {f : α → Prog C A β}
    (hp : Issues hit p 0) (hf : ∀ a, Issues hit (f a) n) : Issues hit (p >>= f) n := by
  simpa using hp.bind hf

/-- One silent command leaves the count to the continuation. -/
theorem Issues.skip {c : C} {f : A c → Prog C A β} (hc : hit c = false)
    (hf : ∀ a, Issues hit (f a) n) : Issues hit (Prog.issue c >>= f) n :=
  have h : Issues hit (Prog.issue c : Prog C A (A c)) (if hit c then 1 else 0) := .issue c
  Issues.bind_zero (by simpa [hc] using h) hf

/-- Both branches have to have the same count. -/
theorem Issues.ite {P : Prop} [Decidable P] {p q : Prog C A α}
    (hp : P → Issues hit p n) (hq : ¬P → Issues hit q n) : Issues hit (if P then p else q) n := by
  by_cases h : P
  · rw [if_pos h]; exact hp h
  · rw [if_neg h]; exact hq h

/-- A program that never issues such a command starts with another one and goes on the same way. -/
theorem Issues.of_call {c : C} {next : A c → Prog C A α} (h : Issues hit (.call c next) 0) :
    hit c = false ∧ ∀ ans, Issues hit (next ans) 0 := by
  generalize hn : 0 = n at h
  cases h with
  | @call _ _ n' hnext =>
    cases hc : hit c with
    | false => simp only [hc, Bool.false_eq_true, ↓reduceIte, Nat.zero_add] at hn; exact ⟨rfl, hn ▸ hnext⟩
    | true => rw [hc, if_pos rfl] at hn; omega

/-- The trace of any run holds as many such commands as every path issues. -/
theorem Runs.countP_eq {step : S → (c : C) → A c → S → Prop} {s s' : S} {p : Prog C A α}
    {tr : List ((c : C) × A c)} {a : α} (h : Runs step s p tr a s') (hp : Issues hit p n) :
    tr.countP (fun e => hit e.1) = n := by
  induction h generalizing n with
  | ret s a => cases hp; rfl
  | call _ _ ih =>
    cases hp with
    | call hnext => rw [List.countP_cons, ih (hnext _), Nat.add_comm]

/-- A relation kept by every command outside `hit` relates the two ends of any run of a program
    that issues none of them: the frame rule. -/
theorem Runs.frame {step : S → (c : C) → A c → S → Prop} {s s' : S} {p : Prog C A α}
    {tr : List ((c : C) × A c)} {a : α} (R : S → S → Prop) (hrefl : ∀ s, R s s)
    (htrans : ∀ {s₁ s₂ s₃}, R s₁ s₂ → R s₂ s₃ → R s₁ s₃)
    (hstep : ∀ s c ans s', hit c = false → step s c ans s' → R s s')
    (h : Runs step s p tr a s') (hp : Issues hit p 0) : R s s' := by
  induction h with
  | ret s a => exact hrefl s
  | call hc _ ih =>
    obtain ⟨hmiss, hnext⟩ := hp.of_call
    exact htrans (hstep _ _ _ _ hmiss hc) (ih (hnext _))

end Issues

/-! ## Deterministic worlds -/

/-- The run of a program in a world that has one answer to every command: its trace, its value and
    the state it ends in. -/
def exec (respond : S → (c : C) → A c × S) : Prog C A α → S → List ((c : C) × A c) × α × S
  | .ret a, s => ([], a, s)
  | .call c next, s =>
    let ans := respond s c
    let rest := exec respond (next ans.1) ans.2
    (⟨c, ans.1⟩ :: rest.1, rest.2)

theorem exec_issue (respond : S → (c : C) → A c × S) (c : C) (s : S) :
    exec respond (issue c) s = ([⟨c, (respond s c).1⟩], (respond s c).1, (respond s c).2) := rfl

/-- The run of a sequence is the run of its first half continued by that of its second half. -/
theorem exec_bind (respond : S → (c : C) → A c × S) (p : Prog C A α) (f : α → Prog C A β) (s : S) :
    exec respond (p >>= f) s =
      ((exec respond p s).1 ++ (exec respond (f (exec respond p s).2.1) (exec respond p s).2.2).1,
        (exec respond (f (exec respond p s).2.1) (exec respond p s).2.2).2) := by
  show exec respond (p.bind f) s = _
  induction p generalizing s with
  | ret a => rfl
  | call c next ih =>
    show (_ :: (exec respond ((next (respond s c).1).bind f) (respond s c).2).1,
      (exec respond ((next (respond s c).1).bind f) (respond s c).2).2) = _
    rw [ih]
    rfl

/-- A world whose one answer is always an allowed one computes an allowed run.  It may have more to
    it (`T`) than what the commands are about (`S`). -/
theorem exec_runs_along {T : Type} {step : S → (c : C) → A c → S → Prop}
    {respond : T → (c : C) → A c × T} (view : T → S)
    (hstep : ∀ t c, step (view t) c (respond t c).1 (view (respond t c).2)) (p : Prog C A α) (t : T) :
    Runs step (view t) p (exec respond p t).1 (exec respond p t).2.1 (view (exec respond p t).2.2) := by
  induction p generalizing t with
  | ret a => exact .ret _ a
  | call c next ih => exact .call (hstep t c) (ih _ _)

/-- What is executed is a run, if each answer is one that the step relation allows. -/
theorem exec_runs {step : S → (c : C) → A c → S → Prop} {respond : S → (c : C) → A c × S}
    (hstep : ∀ s c, step s c (respond s c).1 (respond s c).2) (p : Prog C A α) (s : S) :
    Runs step s p (exec respond p s).1 (exec respond p s).2.1 (exec respond p s).2.2 :=
  exec_runs_along id hstep p s

end Prog

end Zattd
