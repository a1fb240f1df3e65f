/-
  The PATHS of a program: what can be said of it whatever it is answered, and whoever else is at work.

  A program that runs among others is not seen from its first command to its last.  So what is said of
  it here is carried along its commands, one by one:

  * `Follows`  — answered as in a trace, the program has come so far;
  * `AtMost`   — no path has more than so many commands of a kind;
  * `Respects` — a CONTRACT: a command is issued only where it may be (the guarantee), and what the
    program has learned is used only as far as the others leave it alone (the rely).

  A state in which all current programs respect their contracts is left by any of their commands for
  another one: that is for the module about the machine that runs them.
-/
import Zattd.Lib.Prog
import Zattd.Lib.Run

set_option linter.unusedVariables false

namespace Zattd

namespace Prog

variable {C : Type} {A : C → Type} {S α β : Type}

/-! ## How far it has come -/

/-- Answered as in `tr`, by answers that `can` be given, program `p` comes to `q`. -/
inductive Follows (can : (c : C) → A c → Prop) (p : Prog C A α) :
    List ((c : C) × A c) → Prog C A α → Prop
  | start : Follows can p [] p
  | snoc {tr : List ((c : C) × A c)} {c : C} {next : A c → Prog C A α} {a : A c} :
      Follows can p tr (.call c next) → can c a → Follows can p (tr ++ [⟨c, a⟩]) (next a)

section Follows

variable {can : (c : C) → A c → Prop} {hit : C → Bool} {p q : Prog C A α}
  {tr tr' : List ((c : C) × A c)} {a : α} {n : Nat}

/-- Whatever has been answered could be. -/
theorem Follows.can_of_mem (h : Follows can p tr q) : ∀ e ∈ tr, can e.1 e.2 := by
  induction h with
  | start => intro e he; cases he
  | snoc _ hcan ih =>
    intro e he
    rcases List.mem_append.mp he with hold | hlast
    · exact ih e hold
    · rw [List.mem_singleton.mp hlast]
      exact hcan

/-- Who has come to `q`, in a state in which the answers lead to another, can go on from there. -/
theorem Follows.runs {step : S → (c : C) → A c → S → Prop} {s s₁ s' : S} {rest : List ((c : C) × A c)}
    (h : Follows can p tr q) (hanswered : Run (fun s e s' => step s e.1 e.2 s') s tr s₁)
    (hq : Runs step s₁ q rest a s') : Runs step s p (tr ++ rest) a s' := by
  induction h generalizing s₁ rest with
  | start =>
    obtain rfl := hanswered.eq_of_nil
    exact hq
  | @snoc tr c next ans _ _ ih =>
    obtain ⟨s₂, s₃, hbefore, hstep, hafter⟩ := hanswered.split
    obtain rfl := hafter.eq_of_nil
    rw [List.append_assoc]
    exact ih hbefore (.call hstep hq)

/-- What is issued on the way and what remains to be issued make up the count of every path. -/
theorem Follows.issues (h : Follows can p tr q) (hp : Issues hit p n) :
    ∃ m, Issues hit q m ∧ tr.countP (fun e => hit e.1) + m = n := by
  induction h with
  | start => exact ⟨n, hp, Nat.zero_add n⟩
  | @snoc tr c next a _ _ ih =>
    obtain ⟨m, hcall, hcount⟩ := ih
    cases hcall with
    | @call _ _ m' hnext =>
      refine ⟨m', hnext a, ?_⟩
      rw [List.countP_append, List.countP_singleton]
      show tr.countP (fun e => hit e.1) + (if hit c = true then 1 else 0) + m' = n
      omega

end Follows

/-! ## How long its paths are -/

/-- No path of the program has more than `n` of the commands that count. -/
inductive AtMost (hit : C → Bool) : Prog C A α → Nat → Prop
  | ret (a : α) (n : Nat) : AtMost hit (.ret a) n
  | hit {c : C} {next : A c → Prog C A α} {n : Nat} :
      hit c = true → (∀ a, AtMost hit (next a) n) → AtMost hit (.call c next) (n + 1)
  | miss {c : C} {next : A c → Prog C A α} {n : Nat} :
      hit c = false → (∀ a, AtMost hit (next a) n) → AtMost hit (.call c next) n

section AtMost

variable {hit : C → Bool} {can : (c : C) → A c → Prop} {p q : Prog C A α} {f : α → Prog C A β}
  {tr : List ((c : C) × A c)} {m n : Nat}

theorem AtMost.mono (h : AtMost hit p m) (hmn : m ≤ n) : AtMost hit p n := by
  induction h generalizing n with
  | ret a m => exact .ret a n
  | hit hc _ ih =>
    obtain ⟨n', rfl⟩ : ∃ n', n = n' + 1 := ⟨n - 1, by omega⟩
    exact .hit hc fun a => ih a (by omega)
  | miss hc _ ih => exact .miss hc fun a => ih a hmn

theorem AtMost.pure (a : α) : AtMost hit (pure a : Prog C A α) n := .ret a n

/-- Bounds add up. -/
theorem AtMost.bind (hp : AtMost hit p m) (hf : ∀ a, AtMost hit (f a) n) :
    AtMost hit (p >>= f) (m + n) := by
  show AtMost hit (p.bind f) (m + n)
  induction hp with
  | ret a m => exact (hf a).mono (Nat.le_add_left n m)
  | @hit c next m hc _ ih =>
    rw [Nat.add_right_comm]
    exact .hit hc ih
  | miss hc _ ih => exact .miss hc ih

/-- A command that counts, and what follows it. -/
theorem AtMost.then {c : C} {f : A c → Prog C A β} (hc : hit c = true)
    (hf : ∀ a, AtMost hit (f a) n) : AtMost hit (Prog.issue c >>= f) (n + 1) := .hit hc hf

/-- A command that does not count, and what follows it. -/
theorem AtMost.skip {c : C} {f : A c → Prog C A β} (hc : hit c = false)
    (hf : ∀ a, AtMost hit (f a) n) : AtMost hit (Prog.issue c >>= f) n := .miss hc hf

/-- A branch keeps to the bound that both sides keep to. -/
theorem AtMost.ite {P : Prop} [Decidable P] {p q : Prog C A α} (hp : P → AtMost hit p n)
    (hq : ¬P → AtMost hit q n) : AtMost hit (if P then p else q) n := by
  by_cases h : P
  · rw [if_pos h]; exact hp h
  · rw [if_neg h]; exact hq h

/-- Of fewer kinds of commands there are no more. -/
theorem AtMost.restrict {hit' : C → Bool} (h : AtMost hit p n) (himp : ∀ c, hit' c = true → hit c = true) :
    AtMost hit' p n := by
  induction h with
  | ret a n => exact .ret a n
  | @hit c next n _ _ ih =>
    cases hc : hit' c with
    | true => exact .hit hc ih
    | false => exact .miss hc fun a => (ih a).mono (Nat.le_succ n)
  | @miss c next n hc _ ih =>
    refine .miss (Bool.eq_false_of_not_eq_true fun hc' => ?_) ih
    exact Bool.false_ne_true (hc.symm.trans (himp c hc'))

/-- What is issued on every path is at most what it is. -/
theorem Issues.atMost (h : Issues hit p n) : AtMost hit p n := by
  induction h with
  | ret a => exact .ret a 0
  | @call c next n _ ih =>
    cases hc : hit c with
    | true =>
      rw [if_pos rfl, Nat.add_comm]
      exact .hit hc ih
    | false =>
      rw [if_neg Bool.false_ne_true, Nat.zero_add]
      exact .miss hc ih

/-- What is issued on the way and what remains to be issued are at most as many. -/
theorem Follows.atMost (h : Follows can p tr q) (hp : AtMost hit p n) :
    ∃ m, AtMost hit q m ∧ tr.countP (fun e => hit e.1) + m ≤ n := by
  induction h with
  | start => exact ⟨n, hp, (Nat.zero_add n).le⟩
  | @snoc tr c next a _ _ ih =>
    obtain ⟨m, hcall, hcount⟩ := ih
    rw [List.countP_append, List.countP_singleton]
    cases hcall with
    | @hit _ _ m' hc hnext =>
      refine ⟨m', hnext a, ?_⟩
      rw [if_pos hc]
      omega
    | miss hc hnext =>
      refine ⟨m, hnext a, ?_⟩
      rw [if_neg (by simp [hc])]
      omega

/-- No path of the program has more than `n` commands. -/
abbrev Short (p : Prog C A α) (n : Nat) : Prop := AtMost (fun _ => true) p n

/-- The number of commands on its longest path, if its paths are bounded. -/
noncomputable def depth (p : Prog C A α) : Nat := sInf {n | Short p n}

/-- A bound is one of the depth. -/
theorem AtMost.depth_le (h : Short p n) : p.depth ≤ n := Nat.sInf_le h

/-- Every command takes one off. -/
theorem AtMost.depth_next {c : C} {next : A c → Prog C A α} (h : Short (.call c next) n) (a : A c) :
    (next a).depth + 1 ≤ (Prog.call c next).depth := by
  have hdepth : Short (.call c next) (Prog.call c next).depth := Nat.sInf_mem ⟨n, h⟩
  generalize (Prog.call c next).depth = d at hdepth
  cases hdepth with
  | hit _ hnext => exact Nat.succ_le_succ (hnext a).depth_le
  | miss hc => cases hc

/-- What is left after a command is bounded by the same number. -/
theorem AtMost.next {c : C} {next : A c → Prog C A α} (h : Short (.call c next) n) (a : A c) :
    Short (next a) n := by
  cases h with
  | hit _ hnext => exact (hnext a).mono (Nat.le_succ _)
  | miss hc => cases hc

end AtMost

/-! ## Contracts -/

/-- From `s` on, with others between its commands that move the state by `R`, the program issues a
    command only where it `may`, and its value satisfies `Q` in the state it ends in. -/
def Respects (step : S → (c : C) → A c → S → Prop) (R : S → S → Prop) (may : S → C → Prop)
    (Q : α → S → Prop) : Prog C A α → S → Prop
  | .ret a, s => Q a s
  | .call c next, s => ∀ s₁, R s s₁ →
      may s₁ c ∧ ∀ a s₂, step s₁ c a s₂ → Respects step R may Q (next a) s₂

section Respects

variable {step : S → (c : C) → A c → S → Prop} {R : S → S → Prop} {may : S → C → Prop} {s s' : S}

/-- A program may rely on what the one before it has reached. -/
theorem Respects.bind {p : Prog C A α} {f : α → Prog C A β} {Q : β → S → Prop}
    (h : Respects step R may (fun a s' => Respects step R may Q (f a) s') p s) :
    Respects step R may Q (p >>= f) s := by
  induction p generalizing s with
  | ret a => exact h
  | call c next ih =>
    intro s₁ hR
    obtain ⟨hmay, hnext⟩ := h s₁ hR
    exact ⟨hmay, fun a s₂ hstep => ih a (hnext a s₂ hstep)⟩

/-- A command, and what follows it. -/
theorem Respects.then {c : C} {f : A c → Prog C A β} {Q : β → S → Prop}
    (h : ∀ s₁, R s s₁ → may s₁ c ∧ ∀ a s₂, step s₁ c a s₂ → Respects step R may Q (f a) s₂) :
    Respects step R may Q (Prog.issue c >>= f) s := h

/-- It may claim less. -/
theorem Respects.mono {p : Prog C A α} {Q Q' : α → S → Prop} (h : Respects step R may Q p s)
    (hQ : ∀ a s', Q a s' → Q' a s') : Respects step R may Q' p s := by
  induction p generalizing s with
  | ret a => exact hQ a s h
  | call c next ih =>
    intro s₁ hR
    obtain ⟨hmay, hnext⟩ := h s₁ hR
    exact ⟨hmay, fun a s₂ hstep => ih a (hnext a s₂ hstep)⟩

/-- In each branch its test is known. -/
theorem Respects.ite {P : Prop} [Decidable P] {p q : Prog C A α} {Q : α → S → Prop}
    (hp : P → Respects step R may Q p s) (hq : ¬P → Respects step R may Q q s) :
    Respects step R may Q (if P then p else q) s := by
  by_cases h : P
  · rw [if_pos h]; exact hp h
  · rw [if_neg h]; exact hq h

/-- Who can bear much of the others can bear less. -/
theorem Respects.less {R' : S → S → Prop} {p : Prog C A α} {Q : α → S → Prop}
    (h : Respects step R may Q p s) (hless : ∀ s₁ s₂, R' s₁ s₂ → R s₁ s₂) :
    Respects step R' may Q p s := by
  induction p generalizing s with
  | ret a => exact h
  | call c next ih =>
    intro s₁ hR
    obtain ⟨hmay, hnext⟩ := h s₁ (hless _ _ hR)
    exact ⟨hmay, fun a s₂ hstep => ih a (hnext a s₂ hstep)⟩

/-- **The rely.**  What the others do beforehand does no harm to a contract whose end they leave
    alone. -/
theorem Respects.rely {p : Prog C A α} {Q : α → S → Prop}
    (htrans : ∀ s₁ s₂ s₃, R s₁ s₂ → R s₂ s₃ → R s₁ s₃) (hQ : ∀ a s₁ s₂, Q a s₁ → R s₁ s₂ → Q a s₂)
    (h : Respects step R may Q p s) (hR : R s s') : Respects step R may Q p s' := by
  cases p with
  | ret a => exact hQ a _ _ h hR
  | call c next => exact fun s₁ hR₁ => h s₁ (htrans _ _ _ hR hR₁)

/-- A program that issues no command of a kind may issue all those it does, if the others of the kind
    are all that it may not.  What is known before is known afterwards if every command leaves it
    alone. -/
theorem Respects.of_issues {hit : C → Bool} {p : Prog C A α} {J : S → Prop}
    (hp : Issues hit p 0) (hmay : ∀ s c, J s → hit c = false → may s c)
    (hrely : ∀ s₁ s₂, J s₁ → R s₁ s₂ → J s₂)
    (hkeep : ∀ s₁ c a s₂, hit c = false → J s₁ → step s₁ c a s₂ → J s₂) (hJ : J s) :
    Respects step R may (fun _ s' => J s') p s := by
  induction p generalizing s with
  | ret a => exact hJ
  | call c next ih =>
    obtain ⟨hmiss, hnext⟩ := hp.of_call
    intro s₁ hR
    have hJ₁ := hrely _ _ hJ hR
    exact ⟨hmay s₁ c hJ₁ hmiss, fun a s₂ hstep => ih a (hnext a) (hkeep _ _ _ _ hmiss hJ₁ hstep)⟩

/-- It respects its contract from any state on, and nothing is said of its value. -/
def Obeys (step : S → (c : C) → A c → S → Prop) (R : S → S → Prop) (may : S → C → Prop)
    (p : Prog C A α) : Prop :=
  ∀ s, Respects step R may (fun _ _ => True) p s

theorem Obeys.pure (a : α) : Obeys step R may (pure a : Prog C A α) := fun _ => trivial

/-- What goes on whatever is the case. -/
theorem Respects.obeys {p : Prog C A α} {f : α → Prog C A β} {Q : α → S → Prop}
    (hp : Respects step R may Q p s) (hf : ∀ a, Obeys step R may (f a)) :
    Respects step R may (fun _ _ => True) (p >>= f) s :=
  Respects.bind (hp.mono fun a s' _ => hf a s')

/-- Obedience is kept by sequence, whatever the values. -/
theorem Obeys.bind {p : Prog C A α} {f : α → Prog C A β} (hp : Obeys step R may p)
    (hf : ∀ a, Obeys step R may (f a)) : Obeys step R may (p >>= f) := fun s => (hp s).obeys hf

/-- It is enough to look at the first command, and at what follows. -/
theorem Obeys.then {c : C} {f : A c → Prog C A β} (hc : ∀ s, may s c)
    (hf : ∀ a, Obeys step R may (f a)) : Obeys step R may (Prog.issue c >>= f) :=
  fun s s₁ _ => ⟨hc s₁, fun a s₂ _ => hf a s₂⟩

theorem obeys_issue {c : C} (hc : ∀ s, may s c) : Obeys step R may (Prog.issue c) :=
  fun s s₁ _ => ⟨hc s₁, fun _ _ _ => trivial⟩

theorem Obeys.ite {P : Prop} [Decidable P] {p q : Prog C A α} (hp : P → Obeys step R may p)
    (hq : ¬P → Obeys step R may q) : Obeys step R may (if P then p else q) := by
  by_cases h : P
  · rw [if_pos h]; exact hp h
  · rw [if_neg h]; exact hq h

/-- What is allowed where `J` holds is allowed all along, if nobody makes `J` false. -/
theorem Obeys.within {may' : S → C → Prop} {J : S → Prop} {p : Prog C A α}
    (h : Obeys step R may p) (hR : ∀ s₁ s₂, J s₁ → R s₁ s₂ → J s₂)
    (hstep : ∀ s₁ c a s₂, step s₁ c a s₂ → R s₁ s₂) (hmay : ∀ s c, J s → may s c → may' s c)
    (hJ : J s) : Respects step R may' (fun _ _ => True) p s := by
  have hrespects := h s
  clear h
  induction p generalizing s with
  | ret a => trivial
  | call c next ih =>
    intro s₁ hs₁
    have hJ₁ := hR _ _ hJ hs₁
    obtain ⟨hc, hnext⟩ := hrespects s₁ hs₁
    exact ⟨hmay _ _ hJ₁ hc, fun a s₂ hs₂ => ih a (hR _ _ hJ₁ (hstep _ _ _ _ hs₂)) (hnext a s₂ hs₂)⟩

/-- The value of a HISTORY VARIABLE after a trace: `next` says what a command with its answer does to
    it. -/
def track (next : S → (c : C) → A c → S) (s : S) (tr : List ((c : C) × A c)) : S :=
  tr.foldl (fun s e => next s e.1 e.2) s

/-- A contract in terms of history variables is kept by whoever has come so far, and all along. -/
theorem Follows.tracks {can : (c : C) → A c → Prop} {next : S → (c : C) → A c → S} {p q : Prog C A α}
    {tr : List ((c : C) × A c)} {Q : α → S → Prop} (h : Follows can p tr q)
    (hp : Respects (fun s c a s' => s' = next s c a) Eq may Q p s) :
    Respects (fun s c a s' => s' = next s c a) Eq may Q q (track next s tr) ∧
      ∀ pre e post, tr = pre ++ e :: post → may (track next s pre) e.1 := by
  induction h with
  | start => exact ⟨hp, fun pre e post hnil => by simp at hnil⟩
  | @snoc tr c f a _ _ ih =>
    obtain ⟨hcall, hall⟩ := ih
    obtain ⟨hmay, hnext⟩ := hcall _ rfl
    refine ⟨?_, fun pre e post hsplit => ?_⟩
    · unfold track
      rw [List.foldl_append]
      exact hnext a _ rfl
    · rcases List.eq_nil_or_concat post with rfl | ⟨post', e', rfl⟩
      · obtain ⟨rfl, he⟩ := List.append_inj' hsplit rfl
        obtain rfl : _ = e := by simpa using he
        exact hmay
      · rw [List.concat_eq_append, ← List.cons_append, ← List.append_assoc] at hsplit
        obtain ⟨hpre, -⟩ := List.append_inj' hsplit rfl
        exact hall pre e post' hpre

end Respects

end Prog

end Zattd
