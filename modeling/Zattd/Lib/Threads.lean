/-
  THREADS: programs that run at once over one world, one command of one of them at a time.

  What a thread has learned from an answer may be out of date when it issues its next command.  What
  can still be said about runs of threads is of two kinds.

  * `conserved` — ACCOUNTS.  Every command, with its answer, changes a value of the world and is
    entered into the account of the thread that issues it.  If every program settles its account
    before it ends, whatever it is answered, the value is as before when all threads have ended: in
    between it is off by the sum of the accounts.
  * `secured` — ASSERTIONS that the other threads respect.  What a thread knows is carried from one of
    its commands to the next only as far as it is stable under the steps of the others (`R`).
  * `exec_run` — the run for a given schedule, computed.
-/
import Zattd.Lib.Prog
import Zattd.Lib.Run

set_option linter.unusedVariables false

namespace Zattd

namespace Threads

variable {C : Type} {A : C → Type} {S G α β : Type}

/-- One of the threads issues a command and is answered. -/
inductive Step (step : S → (c : C) → A c → S → Prop) :
    S × List (Prog C A α) → (c : C) × A c → S × List (Prog C A α) → Prop
  | mk {s s' : S} {before after : List (Prog C A α)} {c : C} {next : A c → Prog C A α} {a : A c} :
      step s c a s' →
      Step step (s, before ++ .call c next :: after) ⟨c, a⟩ (s', before ++ next a :: after)

/-- All threads have ended. -/
def Done (ps : List (Prog C A α)) : Prop := ∀ p ∈ ps, ∃ a, p = .ret a

/-- The program has ended. -/
def ended : Prog C A α → Bool
  | .ret _ => true
  | .call _ _ => false

theorem done_of_ended {ps : List (Prog C A α)} (h : ps.all ended = true) : Done ps := by
  intro p hp
  have hended := List.all_eq_true.mp h p hp
  cases p with
  | ret a => exact ⟨a, rfl⟩
  | call c next => cases hended

/-! ## Accounts -/

section Accounts

variable [AddCommGroup G] {ok : C → Prop} {entry : (c : C) → A c → G}

/-- With `d` on its account, the program issues only commands that are `ok`, and whatever they are
    answered, its value and its account satisfy `Q` in the end. -/
def Accounts (ok : C → Prop) (entry : (c : C) → A c → G) (Q : α → G → Prop) :
    Prog C A α → G → Prop
  | .ret a, d => Q a d
  | .call c next, d => ok c ∧ ∀ a, Accounts ok entry Q (next a) (d + entry c a)

/-- The account is settled in the end. -/
abbrev Settles (ok : C → Prop) (entry : (c : C) → A c → G) (p : Prog C A α) (d : G) : Prop :=
  Accounts ok entry (fun _ d' => d' = 0) p d

theorem accounts_pure {Q : α → G → Prop} {a : α} {d : G} (h : Q a d) :
    Accounts ok entry Q (pure a : Prog C A α) d := h

/-- A command is entered in the account with its answer. -/
theorem accounts_issue {c : C} {Q : A c → G → Prop} {d : G} (hok : ok c)
    (h : ∀ a, Q a (d + entry c a)) : Accounts ok entry Q (Prog.issue c) d := ⟨hok, h⟩

theorem Accounts.mono {p : Prog C A α} {Q Q' : α → G → Prop} {d : G}
    (h : Accounts ok entry Q p d) (hQ : ∀ a d', Q a d' → Q' a d') : Accounts ok entry Q' p d := by
  induction p generalizing d with
  | ret a => exact hQ a d h
  | call c next ih => exact ⟨h.1, fun a => ih a (h.2 a)⟩

/-- Accounts are carried on through a sequence. -/
theorem Accounts.bind {p : Prog C A α} {f : α → Prog C A β} {Q : β → G → Prop} {d : G}
    (h : Accounts ok entry (fun a d' => Accounts ok entry Q (f a) d') p d) :
    Accounts ok entry Q (p >>= f) d := by
  induction p generalizing d with
  | ret a => exact h
  | call c next ih => exact ⟨h.1, fun a => ih a (h.2 a)⟩

/-- `D` is what the threads have on their accounts together. -/
inductive Owing (ok : C → Prop) (entry : (c : C) → A c → G) : List (Prog C A α) → G → Prop
  | nil : Owing ok entry [] 0
  | cons {p : Prog C A α} {ps : List (Prog C A α)} {d D : G} :
      Settles ok entry p d → Owing ok entry ps D → Owing ok entry (p :: ps) (d + D)

/-- At the start nothing is owed. -/
theorem owing_start {ps : List (Prog C A α)} (h : ∀ p ∈ ps, Settles ok entry p 0) :
    Owing ok entry ps 0 := by
  induction ps with
  | nil => exact .nil
  | cons p ps ih =>
    rw [← add_zero (0 : G)]
    exact .cons (h p (List.mem_cons_self ..)) (ih fun q hq => h q (List.mem_cons_of_mem _ hq))

/-- The command of one thread is entered into the sum. -/
theorem Owing.step {before after : List (Prog C A α)} {c : C} {next : A c → Prog C A α} {D : G}
    (h : Owing ok entry (before ++ .call c next :: after) D) :
    ok c ∧ ∀ a, Owing ok entry (before ++ next a :: after) (D + entry c a) := by
  induction before generalizing D with
  | nil =>
    obtain ⟨⟩ | ⟨hp, hps⟩ := h
    refine ⟨hp.1, fun a => ?_⟩
    rw [add_right_comm]
    exact .cons (hp.2 a) hps
  | cons q before ih =>
    obtain ⟨⟩ | ⟨hq, hps⟩ := h
    obtain ⟨hok, hnext⟩ := ih hps
    refine ⟨hok, fun a => ?_⟩
    rw [add_assoc]
    exact .cons hq (hnext a)

/-- When all are done, nothing is owed. -/
theorem Owing.done {ps : List (Prog C A α)} {D : G} (h : Owing ok entry ps D) (hdone : Done ps) :
    D = 0 := by
  induction h with
  | nil => rfl
  | cons hp _ ih =>
    obtain ⟨a, rfl⟩ := hdone _ (List.mem_cons_self ..)
    have hzero := ih fun q hq => hdone q (List.mem_cons_of_mem _ hq)
    rw [hzero, add_zero]
    exact hp

/-- What every `ok` command keeps, the threads keep. -/
theorem keeps {step : S → (c : C) → A c → S → Prop} {I : S → Prop}
    (hkeep : ∀ s c a s', I s → ok c → step s c a s' → I s') {s s' : S} {ps ps' : List (Prog C A α)}
    {tr : List ((c : C) × A c)} (hrun : Run (Step step) (s, ps) tr (s', ps')) (hI : I s)
    (hps : ∀ p ∈ ps, Settles ok entry p 0) : I s' := by
  have hboth := hrun.invariant (fun sp => I sp.1 ∧ ∃ D, Owing ok entry sp.2 D) (by
      rintro sp₁ e sp₂ ⟨hI₁, D, howing⟩ hstep
      cases hstep with
      | @mk s₁ s₂ before after c next a hc =>
        obtain ⟨hok, hnext⟩ := howing.step
        exact ⟨hkeep _ _ _ _ hI₁ hok hc, _, hnext a⟩)
    ⟨hI, 0, owing_start hps⟩
  exact hboth.1

/-- **Accounts are settled.**  Under an invariant, let a step change a value of the world by what is
    entered for its command.  Threads that settle their accounts leave the value as it was. -/
theorem conserved {step : S → (c : C) → A c → S → Prop} {I : S → Prop} {value : S → G}
    (hkeep : ∀ s c a s', I s → ok c → step s c a s' → I s' ∧ value s' = value s + entry c a)
    {s s' : S} {ps ps' : List (Prog C A α)} {tr : List ((c : C) × A c)}
    (hrun : Run (Step step) (s, ps) tr (s', ps')) (hI : I s) (hps : ∀ p ∈ ps, Settles ok entry p 0) :
    I s' ∧ (Done ps' → value s' = value s) := by
  -- in between, the value is off by what the threads owe
  have hoff := hrun.invariant
    (fun sp => I sp.1 ∧ ∃ D, Owing ok entry sp.2 D ∧ value sp.1 = value s + D) (by
      rintro sp₁ e sp₂ ⟨hI₁, D, howing, hvalue⟩ hstep
      cases hstep with
      | @mk s₁ s₂ before after c next a hc =>
        obtain ⟨hok, hnext⟩ := howing.step
        obtain ⟨hI₂, hvalue₂⟩ := hkeep _ _ _ _ hI₁ hok hc
        refine ⟨hI₂, _, hnext a, ?_⟩
        rw [hvalue₂, hvalue, add_assoc])
    ⟨hI, 0, owing_start hps, (add_zero _).symm⟩
  obtain ⟨hI', D, howing, hvalue⟩ := hoff
  refine ⟨hI', fun hdone => ?_⟩
  rw [hvalue, howing.done hdone, add_zero]

end Accounts

/-! ## Assertions -/

section Assertions

variable {step : S → (c : C) → A c → S → Prop} {I : S → Prop} {R : S → S → Prop}

/-- From `s` on, with other threads between its commands that keep `I` and move by `R`, the program
    keeps `I` and moves by `R`, and its value satisfies `Q` in the state it ends in. -/
def Secure (step : S → (c : C) → A c → S → Prop) (I : S → Prop) (R : S → S → Prop)
    (Q : α → S → Prop) : Prog C A α → S → Prop
  | .ret a, s => Q a s
  | .call c next, s => ∀ s₁, R s s₁ → I s₁ → ∀ a s₂, step s₁ c a s₂ →
      I s₂ ∧ R s₁ s₂ ∧ Secure step I R Q (next a) s₂

theorem secure_pure {Q : α → S → Prop} {a : α} {s : S} (h : Q a s) :
    Secure step I R Q (pure a : Prog C A α) s := h

/-- A command is secure if it is so after anything that the others may have done. -/
theorem secure_issue {c : C} {Q : A c → S → Prop} {s : S}
    (h : ∀ s₁, R s s₁ → I s₁ → ∀ a s₂, step s₁ c a s₂ → I s₂ ∧ R s₁ s₂ ∧ Q a s₂) :
    Secure step I R Q (Prog.issue c) s := h

/-- What follows starts from what has been secured. -/
theorem Secure.bind {p : Prog C A α} {f : α → Prog C A β} {Q : β → S → Prop} {s : S}
    (h : Secure step I R (fun a s' => Secure step I R Q (f a) s') p s) :
    Secure step I R Q (p >>= f) s := by
  induction p generalizing s with
  | ret a => exact h
  | call c next ih =>
    intro s₁ hR hI a s₂ hstep
    obtain ⟨hI₂, hR₂, hnext⟩ := h s₁ hR hI a s₂ hstep
    exact ⟨hI₂, hR₂, ih a hnext⟩

theorem Secure.mono {p : Prog C A α} {Q Q' : α → S → Prop} {s : S} (h : Secure step I R Q p s)
    (hQ : ∀ a s', Q a s' → Q' a s') : Secure step I R Q' p s := by
  induction p generalizing s with
  | ret a => exact hQ a s h
  | call c next ih =>
    intro s₁ hR hI a s₂ hstep
    obtain ⟨hI₂, hR₂, hnext⟩ := h s₁ hR hI a s₂ hstep
    exact ⟨hI₂, hR₂, ih a hnext⟩

/-- Steps of others do no harm. -/
theorem Secure.rely {p : Prog C A α} {s s' : S} (htrans : ∀ s₁ s₂ s₃, R s₁ s₂ → R s₂ s₃ → R s₁ s₃)
    (h : Secure step I R (fun _ _ => True) p s) (hR : R s s') :
    Secure step I R (fun _ _ => True) p s' := by
  cases p with
  | ret a => trivial
  | call c next => exact fun s₁ hR₁ => h s₁ (htrans _ _ _ hR hR₁)

/-- **Assertions are respected.**  Threads that are secure keep `I`, and move by `R`. -/
theorem secured (hrefl : ∀ s, R s s) (htrans : ∀ s₁ s₂ s₃, R s₁ s₂ → R s₂ s₃ → R s₁ s₃)
    {s s' : S} {ps ps' : List (Prog C A α)} {tr : List ((c : C) × A c)}
    (hrun : Run (Step step) (s, ps) tr (s', ps')) (hI : I s)
    (hps : ∀ p ∈ ps, Secure step I R (fun _ _ => True) p s) : I s' ∧ R s s' := by
  have hall := hrun.invariant
    (fun sp => I sp.1 ∧ R s sp.1 ∧ ∀ p ∈ sp.2, Secure step I R (fun _ _ => True) p sp.1) (by
      rintro sp₁ e sp₂ ⟨hI₁, hR₁, hsecure⟩ hstep
      cases hstep with
      | @mk s₁ s₂ before after c next a hc =>
        have hmem : Prog.call c next ∈ before ++ .call c next :: after := by simp
        obtain ⟨hI₂, hR₂, hnext⟩ := hsecure _ hmem s₁ (hrefl s₁) hI₁ a s₂ hc
        refine ⟨hI₂, htrans _ _ _ hR₁ hR₂, fun p hp => ?_⟩
        -- the thread that has moved, or another
        have hp' : p = next a ∨ p ∈ before ++ .call c next :: after := by
          rw [List.mem_append, List.mem_cons] at hp ⊢
          tauto
        rcases hp' with rfl | hother
        · exact hnext
        · exact (hsecure p hother).rely htrans hR₂)
    ⟨hI, hrefl s, hps⟩
  exact ⟨hall.1, hall.2.1⟩

end Assertions

/-! ## Schedules -/

/-- Thread `i` issues its next command, if it is allowed to. -/
def advance (respond : S → (c : C) → A c × S) (allowed : S → C → Bool) (s : S) :
    List (Prog C A α) → Nat → Option (((c : C) × A c) × S × List (Prog C A α))
  | [], _ => none
  | .ret _ :: _, 0 => none
  | .call c next :: ps, 0 =>
    if allowed s c then
      let ans := respond s c
      some (⟨c, ans.1⟩, ans.2, next ans.1 :: ps)
    else none
  | p :: ps, i + 1 => (advance respond allowed s ps i).map fun x => (x.1, x.2.1, p :: x.2.2)

/-- The threads go on in the order of the schedule.  One that cannot is passed over. -/
def exec (respond : S → (c : C) → A c × S) (allowed : S → C → Bool) :
    List Nat → S × List (Prog C A α) → List ((c : C) × A c) × S × List (Prog C A α)
  | [], sp => ([], sp)
  | i :: schedule, sp =>
    match advance respond allowed sp.1 sp.2 i with
    | none => exec respond allowed schedule sp
    | some x =>
      let rest := exec respond allowed schedule x.2
      (x.1 :: rest.1, rest.2)

section Schedules

variable {step : S → (c : C) → A c → S → Prop} {respond : S → (c : C) → A c × S}
  {allowed : S → C → Bool}

theorem advance_step (hstep : ∀ s c, allowed s c = true → step s c (respond s c).1 (respond s c).2)
    {s : S} {ps : List (Prog C A α)} {i : Nat} {x : ((c : C) × A c) × S × List (Prog C A α)}
    (h : advance respond allowed s ps i = some x) : Step step (s, ps) x.1 x.2 := by
  induction ps generalizing i x with
  | nil => cases h
  | cons p ps ih =>
    cases i with
    | zero =>
      cases p with
      | ret a => cases h
      | call c next =>
        unfold advance at h
        by_cases hc : allowed s c = true
        · rw [if_pos hc] at h
          obtain rfl := Option.some.inj h
          show Step step (s, [] ++ .call c next :: ps) _ (_, [] ++ next _ :: ps)
          exact .mk (hstep s c hc)
        · rw [if_neg hc] at h
          cases h
    | succ i =>
      have hrest : (advance respond allowed s ps i).map (fun x => (x.1, x.2.1, p :: x.2.2)) =
          some x := by
        cases p <;> exact h
      obtain ⟨⟨e, s', ps'⟩, hy, rfl⟩ := Option.map_eq_some_iff.mp hrest
      have hone : Step step (s, ps) e (s', ps') := ih hy
      cases hone with
      | @mk _ _ before after c next a hc =>
        show Step step (s, (p :: before) ++ .call c next :: after) _ (_, (p :: before) ++ next a :: after)
        exact .mk hc

/-- What is executed along a schedule is a run. -/
theorem exec_run (hstep : ∀ s c, allowed s c = true → step s c (respond s c).1 (respond s c).2)
    (schedule : List Nat) (sp : S × List (Prog C A α)) :
    Run (Step step) sp (exec respond allowed schedule sp).1
      (exec respond allowed schedule sp).2 := by
  induction schedule generalizing sp with
  | nil => exact .nil
  | cons i schedule ih =>
    unfold exec
    cases hadvance : advance respond allowed sp.1 sp.2 i with
    | none => exact ih sp
    | some x =>
      have hone : Run (Step step) sp [x.1] x.2 := .one (advance_step hstep hadvance)
      exact hone.append (ih x.2)

end Schedules

end Threads

end Zattd
