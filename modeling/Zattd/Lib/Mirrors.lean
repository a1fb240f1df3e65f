/-
  TWO WORLDS, one machine: what a program does not LOOK at makes no difference to what it does.

  * `Blind`  — a program that goes on in one way, whichever of two answers that look the same it gets;
  * `Pool.Step.mirrored` — let worlds that look the same give answers that look the same; what a pool of
    blind programs does in the one, it does in the other, with the same jobs and the same workers.

  A property of two runs is so made one of single programs, and is proved along their commands.
-/
import Zattd.Lib.Paths
import Zattd.Lib.Workers

set_option linter.unusedVariables false

namespace Zattd

namespace Prog

variable {C : Type} {A : C → Type} {S α β : Type}

/-- From `s` on, with others between its commands that move the state by `R`, the program goes on in the
    same way if it is given an answer that looks the `same`. -/
def Blind (step : S → (c : C) → A c → S → Prop) (R : S → S → Prop) (same : (c : C) → A c → A c → Prop) :
    Prog C A α → S → Prop
  | .ret _, _ => True
  | .call c next, s => ∀ s₁, R s s₁ → ∀ a s₂, step s₁ c a s₂ →
      Blind step R same (next a) s₂ ∧ ∀ a', same c a a' → next a' = next a

variable {step : S → (c : C) → A c → S → Prop} {R : S → S → Prop} {same : (c : C) → A c → A c → Prop}
  {s s' : S}

/-- Who is only shown what cannot look like anything else is blind. -/
theorem Respects.blind {may : S → C → Prop} {Q : α → S → Prop} {p : Prog C A α}
    (h : Respects step R may Q p s) (hmay : ∀ s c, may s c → ∀ a a', same c a a' → a' = a) :
    Blind step R same p s := by
  induction p generalizing s with
  | ret a => trivial
  | call c next ih =>
    intro s₁ hR a s₂ hstep
    obtain ⟨hc, hnext⟩ := h s₁ hR
    refine ⟨ih a (hnext a s₂ hstep), fun a' ha' => ?_⟩
    rw [hmay s₁ c hc a a' ha']

/-- What follows may be blind for a reason of its own. -/
theorem Blind.bind {p : Prog C A α} {f : α → Prog C A β} (hp : Blind step R same p s)
    (hf : ∀ a s', Blind step R same (f a) s') : Blind step R same (p >>= f) s := by
  induction p generalizing s with
  | ret a => exact hf a s
  | call c next ih =>
    intro s₁ hR a s₂ hstep
    obtain ⟨hnext, hsame⟩ := hp s₁ hR a s₂ hstep
    refine ⟨ih a hnext, fun a' ha' => ?_⟩
    show (next a').bind f = (next a).bind f
    rw [hsame a' ha']

/-- A command, and what follows it. -/
theorem Blind.then {c : C} {f : A c → Prog C A β} (hsame : ∀ a a', same c a a' → f a' = f a)
    (hf : ∀ a s', Blind step R same (f a) s') : Blind step R same (Prog.issue c >>= f) s :=
  fun _ _ a s₂ _ => ⟨hf a s₂, hsame a⟩

theorem Blind.ite {P : Prop} [Decidable P] {p q : Prog C A α} (hp : P → Blind step R same p s)
    (hq : ¬P → Blind step R same q s) : Blind step R same (if P then p else q) s := by
  by_cases h : P
  · rw [if_pos h]; exact hp h
  · rw [if_neg h]; exact hq h

/-- It is blind to what it finds later, too. -/
theorem Blind.rely {p : Prog C A α} (htrans : ∀ s₁ s₂ s₃, R s₁ s₂ → R s₂ s₃ → R s₁ s₃)
    (h : Blind step R same p s) (hR : R s s') : Blind step R same p s' := by
  cases p with
  | ret a => trivial
  | call c next => exact fun s₁ hR₁ => h s₁ (htrans _ _ _ hR hR₁)

end Prog

namespace Pool

open Prog

variable {S C J : Type} {A : C → Type} {route : J → Nat} {step : S → (c : C) → A c → S → Prop}
  {work : J → Prog C A Unit → Prop} {R : S → S → Prop} {same : (c : C) → A c → A c → Prop}
  {s s' : Pool S C A J} {e : PoolEvent C A J}

/-- The events look the same: they are, but for the answer. -/
inductive Looks (same : (c : C) → A c → A c → Prop) : PoolEvent C A J → PoolEvent C A J → Prop
  | post (j : J) : Looks same (.post j) (.post j)
  | start (j : J) : Looks same (.start j) (.start j)
  | act {j : J} {c : C} {a a' : A c} : same c a a' → Looks same (.act j c a) (.act j c a')
  | finish (j : J) : Looks same (.finish j) (.finish j)

/-- What is run is blind. -/
def Blinded (step : S → (c : C) → A c → S → Prop) (R : S → S → Prop)
    (same : (c : C) → A c → A c → Prop) (s : Pool S C A J) : Prop :=
  ∀ i j p, (s.workers i).current = some (j, p) → Blind step R same p s.world

/-- A step leaves all programs blind that are at work, also one that it starts. -/
theorem Step.blinded (hrefl : ∀ s, R s s) (htrans : ∀ s₁ s₂ s₃, R s₁ s₂ → R s₂ s₃ → R s₁ s₃)
    (hstep : ∀ s c a s', step s c a s' → R s s')
    (hwork : ∀ j p, e = .start j → work j p → ∀ s, Blind step R same p s)
    (h : Step route step work s e s') (hs : Blinded step R same s) : Blinded step R same s' := by
  intro i j q hcurrent
  rcases h.current_cases hcurrent with ⟨hsame, -⟩ | ⟨he, -, hp⟩ | ⟨c, next, a, rfl, rfl, hbefore, rfl⟩
  · refine (hs i j q hsame).rely htrans ?_
    cases e with
    | act j' c a => exact hstep _ _ _ _ h.of_act.1
    | post j' | start j' | finish j' =>
      rw [h.world_eq fun _ _ _ heq => by cases heq]
      exact hrefl _
  · exact hwork j q he hp s'.world
  · exact (hs _ _ _ hbefore s.world (hrefl _) a _ h.of_act.1).1

/-- **Mirrored.**  In a world that looks like the one it is in, a pool of blind programs can make a step
    that looks like the one it makes, and is left the same. -/
theorem Step.mirrored {sim : S → S → Prop} {t : S} (hrefl : ∀ s, R s s)
    (hsim : ∀ s t c a s', sim s t → step s c a s' → ∃ a' t', step t c a' t' ∧ sim s' t' ∧ same c a a')
    (h : Step route step work s e s') (hs : Blinded step R same s) (ht : sim s.world t) :
    ∃ e' t', Step route step work { s with world := t } e' { s' with world := t' } ∧ sim s'.world t' ∧
      Looks same e e' := by
  cases h with
  | @post j queue current hworker => exact ⟨.post j, t, .post hworker, ht, .post j⟩
  | @start j queue p hworker hp => exact ⟨.start j, t, .start hworker hp, ht, .start j⟩
  | @act j queue c next a w hworker ha =>
    obtain ⟨a', t', ha', ht', hsame⟩ := hsim _ _ _ _ _ ht ha
    have hblind : Blind step R same (.call c next) s.world := hs (route j) j _ (by rw [hworker])
    have hnext : next a' = next a := (hblind s.world (hrefl _) a w ha).2 a' hsame
    refine ⟨.act j c a', t', ?_, ht', .act hsame⟩
    have hstep : Step route step work { s with world := t } (.act j c a')
        { ({ s with world := t } : Pool S C A J).setWorker (route j) ⟨queue, some (j, next a')⟩ with
          world := t' } := .act hworker ha'
    rw [hnext] at hstep
    exact hstep
  | @finish j queue hworker => exact ⟨.finish j, t, .finish hworker, ht, .finish j⟩

end Pool

end Zattd
