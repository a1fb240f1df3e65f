/-
  The MOMENT at which a job takes effect.

  Jobs of different workers go on between each other's commands, so a job is not done in one go.  But
  many commands are APART from the others: they leave the world alone, and it makes no difference to
  their answer when they are issued — a reply that is sent, a look at the clock, a query of a table that
  nobody writes to.  A job with at most one other command might as well be done in one go, at the moment
  of that command (`takesEffect`); and a job with none at any time at all, before everything else
  (`done_apart`).

  If all jobs are such, a pool is LINEARIZABLE: what has become of the world is what becomes of it when
  the jobs are done one after the other, in an order in which no job that was finished comes after one
  that had not been begun (`linearizable`).

  What nobody does, as long as all keep to their ways, is an invariant `I` of the world.
-/
import Zattd.Lib.Pools

set_option linter.unusedVariables false

namespace Zattd

variable {S C J : Type} {A : C → Type}

namespace Prog

variable {α : Type} {I : S → Prop} {step : S → (c : C) → A c → S → Prop} {hit : C → Bool}
  {p : Prog C A α} {s s' : S} {tr before after : List ((c : C) × A c)} {c : C} {ans : A c} {a : α}

/-- The command leaves the state alone, and would be answered so in any. -/
def Apart (I : S → Prop) (step : S → (c : C) → A c → S → Prop) (c : C) : Prop :=
  ∀ s a s', I s → step s c a s' → s' = s ∧ ∀ t, I t → step t c a t

/-- The steps from the states that satisfy `I`. -/
def Within (I : S → Prop) (step : S → (c : C) → A c → S → Prop) (s : S) (c : C) (a : A c) (s' : S) :
    Prop := I s ∧ step s c a s'

/-- Commands that are apart can be answered in any state. -/
theorem stay_of_apart (happart : ∀ c, hit c = false → Apart I step c)
    (hcan : ∀ e ∈ tr, Pool.Can (Within I step) e.1 e.2) (hmiss : ∀ e ∈ tr, hit e.1 = false) (hs : I s) :
    Run (fun s e s' => step s e.1 e.2 s') s tr s := by
  refine Run.stay fun e he => ?_
  obtain ⟨s₁, s₂, hI, hstep⟩ := hcan e he
  exact (happart e.1 (hmiss e he) s₁ e.2 s₂ hI hstep).2 s hs

/-- Who has issued no other command might have done so in any state. -/
theorem Follows.runs_apart (happart : ∀ c, hit c = false → Apart I step c)
    (h : Follows (Pool.Can (Within I step)) p tr (.ret a)) (hmiss : ∀ e ∈ tr, hit e.1 = false)
    (hs : I s) : Runs step s p tr a s := by
  have hruns := h.runs (stay_of_apart happart h.can_of_mem hmiss hs) (.ret s a)
  rwa [List.append_nil] at hruns

/-- And who has issued one, in the state in which that has been answered. -/
theorem Follows.runs_at (happart : ∀ c, hit c = false → Apart I step c)
    (h : Follows (Pool.Can (Within I step)) p (before ++ ⟨c, ans⟩ :: after) (.ret a))
    (hbefore : ∀ e ∈ before, hit e.1 = false) (hafter : ∀ e ∈ after, hit e.1 = false)
    (hs : I s) (hs' : I s') (hstep : step s c ans s') :
    Runs step s p (before ++ ⟨c, ans⟩ :: after) a s' := by
  have hcan := h.can_of_mem
  have hstay : Run (fun s e s' => step s e.1 e.2 s') s before s :=
    stay_of_apart happart (fun e he => hcan e (List.mem_append_left _ he)) hbefore hs
  have hstay' : Run (fun s e s' => step s e.1 e.2 s') s' after s' := by
    refine stay_of_apart happart (fun e he => hcan e ?_) hafter hs'
    exact List.mem_append_right _ (List.mem_cons_of_mem _ he)
  have hanswered : Run (fun s e s' => step s e.1 e.2 s') s (before ++ ⟨c, ans⟩ :: after) s' := by
    have hone := (hstay.snoc (l := ⟨c, ans⟩) hstep).append hstay'
    rwa [List.append_assoc] at hone
  have hruns := h.runs hanswered (.ret s' a)
  rwa [List.append_nil] at hruns

end Prog

namespace Pool

open Prog

variable {route : J → Nat} {step : S → (c : C) → A c → S → Prop} {work : J → Prog C A Unit → Prop}
  {s s₁ s₂ : Pool S C A J} {w₀ w : S} {e : PoolEvent C A J} {tr full pre post : List (PoolEvent C A J)}
  {j j' : J} {I : S → Prop} {hit : C → Bool}

/-- What every command keeps holds all the time. -/
theorem within (hkeep : ∀ w c a w', I w → step w c a w' → I w') (h : Run (Step route step work) s tr s₁)
    (hI : I s.world) : I s₁.world ∧ Run (Step route (Within I step) work) s tr s₁ := by
  induction h with
  | nil => exact ⟨hI, .nil⟩
  | @snoc tr e s₁ s₂ hrun hstep ih =>
    obtain ⟨hI₁, hrun'⟩ := ih
    cases hstep with
    | post hworker => exact ⟨hI₁, hrun'.snoc (.post hworker)⟩
    | start hworker hp => exact ⟨hI₁, hrun'.snoc (.start hworker hp)⟩
    | act hworker ha => exact ⟨hkeep _ _ _ _ hI₁ ha, hrun'.snoc (.act hworker ⟨hI₁, ha⟩)⟩
    | finish hworker => exact ⟨hI₁, hrun'.snoc (.finish hworker)⟩

section Moments

variable [DecidableEq J]

/-- The job that takes effect with this event: that of a command that is not apart; or one that is
    finished, if it has issued none in all that has happened. -/
def momentOf (hit : C → Bool) (full : List (PoolEvent C A J)) : PoolEvent C A J → Option J
  | .act j c _ => if hit c then some j else none
  | .finish j => if (acts j full).countP (fun e => hit e.1) = 0 then some j else none
  | _ => none

/-- The jobs that have taken effect, in this order. -/
def moments (hit : C → Bool) (full tr : List (PoolEvent C A J)) : List J :=
  tr.filterMap (momentOf hit full)

@[simp] theorem moments_append (full tr tr' : List (PoolEvent C A J)) :
    moments hit full (tr ++ tr') = moments hit full tr ++ moments hit full tr' := List.filterMap_append

theorem moments_one (full : List (PoolEvent C A J)) (e : PoolEvent C A J) :
    moments hit full [e] = (momentOf hit full e).toList := by
  cases h : momentOf hit full e with
  | none => exact List.filterMap_cons_none h
  | some j => exact List.filterMap_cons_some h

/-- A job takes effect with an event of its own. -/
theorem worksOn_of_momentOf (h : momentOf hit full e = some j) : e.worksOn = some j := by
  cases e with
  | post j' | start j' => cases h
  | act j' c a =>
    by_cases hc : hit c = true
    · exact (if_pos hc).symm.trans h
    · cases (if_neg hc).symm.trans h
  | finish j' =>
    by_cases hnone : (acts j' full).countP (fun e => hit e.1) = 0
    · exact (if_pos hnone).symm.trans h
    · cases (if_neg hnone).symm.trans h

/-- A job takes effect with its own events. -/
theorem count_moment_of_ne (h : e.worksOn ≠ some j) : (momentOf hit full e).toList.count j = 0 := by
  refine List.count_eq_zero_of_not_mem fun hmem => ?_
  exact h (worksOn_of_momentOf (Option.mem_toList.mp hmem))

/-- Between the moments the world stands still. -/
theorem Step.still (happart : ∀ c, hit c = false → Apart I step c) (h : Step route step work s₁ e s₂)
    (hI : I s₁.world) (hno : momentOf hit full e = none) : s₂.world = s₁.world := by
  cases h with
  | post hworker | start hworker hp | finish hworker => rfl
  | @act j queue c next a w hworker ha =>
    by_cases hc : hit c = true
    · cases (if_pos hc).symm.trans hno
    · exact (happart c (Bool.eq_false_of_not_eq_true hc) _ _ _ hI ha).1

/-- **At one moment.**  All that is done for a job could have been done when it takes effect. -/
theorem done_at (hkeep : ∀ w c a w', I w → step w c a w' → I w')
    (happart : ∀ c, hit c = false → Apart I step c) (hwork : ∀ p, work j p → AtMost hit p 1)
    (h : Run (Step route step work) (idle w₀) (pre ++ e :: post) s) (hI₀ : I w₀)
    (hnodup : (posted (pre ++ e :: post)).Nodup) (hI : I s₁.world) (hstep : Step route step work s₁ e s₂)
    (hmoment : momentOf hit (pre ++ e :: post) e = some j) (hfinished : j ∈ finished (pre ++ e :: post)) :
    ∃ p, work j p ∧ Runs step s₁.world p (acts j (pre ++ e :: post)) () s₂.world := by
  obtain ⟨p, hp, hfollows⟩ := (followed (within hkeep h hI₀).2 hnodup).finished j hfinished
  obtain ⟨m, -, hcount⟩ := hfollows.atMost (hwork p hp)
  refine ⟨p, hp, ?_⟩
  cases hstep with
  | post hworker | start hworker hq => cases hmoment
  | @act j' queue c next a w hworker ha =>
    by_cases hc : hit c = true
    · obtain rfl := Option.some.inj ((if_pos hc).symm.trans hmoment)
      have hacts : acts j' (pre ++ .act j' c a :: post) = acts j' pre ++ ⟨c, a⟩ :: acts j' post := by
        rw [← List.singleton_append, acts_append, acts_append, acts_act_self, List.singleton_append]
      rw [hacts] at hfollows hcount ⊢
      -- it is the only one
      rw [List.countP_append, List.countP_cons_of_pos (by exact hc)] at hcount
      refine hfollows.runs_at happart (fun e he => ?_) (fun e he => ?_) hI (hkeep _ _ _ _ hI ha) ha
      · have hzero : (acts j' pre).countP (fun e => hit e.1) = 0 := by omega
        exact Bool.eq_false_of_not_eq_true (List.countP_eq_zero.mp hzero e he)
      · have hzero : (acts j' post).countP (fun e => hit e.1) = 0 := by omega
        exact Bool.eq_false_of_not_eq_true (List.countP_eq_zero.mp hzero e he)
    · cases (if_neg hc).symm.trans hmoment
  | @finish j' queue hworker =>
    by_cases hnone : (acts j' (pre ++ .finish j' :: post)).countP (fun e => hit e.1) = 0
    · obtain rfl := Option.some.inj ((if_pos hnone).symm.trans hmoment)
      refine hfollows.runs_apart happart (fun e he => ?_) hI
      exact Bool.eq_false_of_not_eq_true (List.countP_eq_zero.mp hnone e he)
    · cases (if_neg hnone).symm.trans hmoment

/-- What is done for a job that has been finished has been done before. -/
theorem acts_of_finished (h : Run (Step route step work) (idle w₀) (pre ++ post) s)
    (hnodup : (posted (pre ++ post)).Nodup) (hj : j ∈ finished pre) :
    acts j (pre ++ post) = acts j pre := by
  rw [acts_append, List.append_right_eq_self, List.eq_nil_iff_forall_not_mem]
  rintro ⟨c, a⟩ hmem
  obtain ⟨e, he, hcommand⟩ := List.mem_filterMap.mp ((mem_commands_iff j c a post).mpr hmem)
  obtain ⟨before, after, rfl⟩ := List.append_of_mem he
  rw [← List.append_assoc] at h hnodup
  obtain ⟨s₁, s₂, hbefore, hstep, -⟩ := h.split
  cases hstep with
  | @act j' queue c' next a' w hworker ha =>
    obtain ⟨rfl, -⟩ := Prod.mk.inj (Option.some.inj hcommand)
    rw [posted_append] at hnodup
    have hdone : j' ∈ finished (pre ++ before) := by
      rw [finished_append]
      exact List.mem_append_left _ hj
    exact not_mem_jobs_of_finished hbefore (List.Nodup.of_append_left hnodup) hdone
      (mem_jobs_of_current (by rw [hworker]))
  | post hworker | start hworker hp | finish hworker => cases hcommand

/-- A job takes effect with each of its commands that is not apart; without such, when it is finished. -/
theorem count_moments (j : J) (tr : List (PoolEvent C A J)) : (moments hit full tr).count j =
    (acts j tr).countP (fun e => hit e.1) +
      if (acts j full).countP (fun e => hit e.1) = 0 then (finished tr).count j else 0 := by
  induction tr using List.reverseRecOn with
  | nil =>
    show 0 = 0 + if _ then 0 else 0
    rw [ite_self]
  | append_singleton tr e ih =>
    rw [moments_append, List.count_append, ih, moments_one, acts_append, List.countP_append,
      finished_append, List.count_append]
    cases e with
    | post j' | start j' =>
      show _ + 0 = _ + 0 + if _ then _ + 0 else 0
      rw [Nat.add_zero, Nat.add_zero, Nat.add_zero]
    | act j' c a =>
      have hfinished : finished [(.act j' c a : PoolEvent C A J)] = [] := rfl
      rw [hfinished, List.count_nil, Nat.add_zero]
      by_cases hj : j' = j
      · subst hj
        rw [acts_act_self, List.countP_singleton, momentOf]
        by_cases hc : hit c = true
        · simp only [if_pos hc, Option.toList_some, List.count_singleton_self]
          omega
        · simp only [if_neg hc, Option.toList_none, List.count_nil, Nat.add_zero]
      · have hne : (.act j' c a : PoolEvent C A J).worksOn ≠ some j := fun h => hj (Option.some.inj h)
        rw [count_moment_of_ne hne, acts_act_of_ne c a hj, List.countP_nil, Nat.add_zero, Nat.add_zero]
    | finish j' =>
      have hfinished : finished [(.finish j' : PoolEvent C A J)] = [j'] := rfl
      rw [acts_finish, List.countP_nil, Nat.add_zero, hfinished]
      by_cases hj : j' = j
      · subst hj
        rw [momentOf]
        by_cases hnone : (acts j' full).countP (fun e => hit e.1) = 0
        · simp only [if_pos hnone, Option.toList_some, List.count_singleton_self]
          omega
        · simp only [if_neg hnone, Option.toList_none, List.count_nil, Nat.add_zero]
      · have hne : (.finish j' : PoolEvent C A J).worksOn ≠ some j := fun h => hj (Option.some.inj h)
        have hother : List.count j [j'] = 0 := by simp [hj]
        rw [count_moment_of_ne hne, hother, Nat.add_zero, Nat.add_zero]

/-- When it is finished a job has taken effect. -/
theorem mem_moments_of_finished (h : Run (Step route step work) (idle w₀) (pre ++ post) s)
    (hnodup : (posted (pre ++ post)).Nodup) (hj : j ∈ finished pre) :
    j ∈ moments hit (pre ++ post) pre := by
  have hacts := acts_of_finished h hnodup hj
  have hpos : 0 < (finished pre).count j := List.count_pos_iff.mpr hj
  refine List.count_pos_iff.mp ?_
  rw [count_moments, hacts]
  split <;> omega

/-- While no worker is at work, only jobs that are finished have. -/
theorem finished_of_mem_moments (h : Run (Step route step work) (idle w₀) tr s)
    (hnodup : (posted tr).Nodup) (hidle : ∀ j, (s.workers (route j)).current = none)
    (hj : j ∈ moments hit tr tr) : j ∈ finished tr := by
  have hfollowed := followed h hnodup
  by_contra hnot
  have hacts : acts j tr = [] := by
    by_cases hposted : j ∈ posted tr
    · have hjobs := ((mem_posted_iff h).mp hposted).resolve_left hnot
      refine hfollowed.waiting (route j) j ?_
      rwa [Worker.jobs, hidle, Option.toList_none, List.map_nil, List.nil_append] at hjobs
    · exact hfollowed.unknown j hposted
  have hpos := List.count_pos_iff.mpr hj
  rw [count_moments, hacts, List.countP_nil, if_pos rfl, List.count_eq_zero_of_not_mem hnot] at hpos
  exact absurd hpos (lt_irrefl 0)

/-- **At one moment.**  A job with at most one command that is not apart takes effect between its start
    and its end: at that moment its program, run by itself, gets the same answers, and leads from the
    world before it to the world after. -/
theorem takesEffect (hkeep : ∀ w c a w', I w → step w c a w' → I w')
    (happart : ∀ c, hit c = false → Apart I step c) (hwork : ∀ p, work j p → AtMost hit p 1)
    (h : Run (Step route step work) (idle w₀) tr s) (hI₀ : I w₀) (hnodup : (posted tr).Nodup)
    (hj : j ∈ finished tr) :
    ∃ pre e post s₁ s₂, tr = pre ++ e :: post ∧ e.worksOn = some j ∧
      Run (Step route step work) (idle w₀) pre s₁ ∧ Step route step work s₁ e s₂ ∧
      ∃ p, work j p ∧ Runs step s₁.world p (acts j tr) () s₂.world := by
  have hmem : j ∈ moments hit (tr ++ []) tr :=
    mem_moments_of_finished (by rwa [List.append_nil]) (by rwa [List.append_nil]) hj
  rw [List.append_nil] at hmem
  obtain ⟨e, he, hmoment⟩ := List.mem_filterMap.mp hmem
  obtain ⟨pre, post, rfl⟩ := List.append_of_mem he
  obtain ⟨s₁, s₂, hpre, hstep, -⟩ := h.split
  refine ⟨pre, e, post, s₁, s₂, rfl, worksOn_of_momentOf hmoment, hpre, hstep, ?_⟩
  exact done_at hkeep happart hwork h hI₀ hnodup (within hkeep hpre hI₀).1 hstep hmoment hj

/-- What has become of the world is what becomes of it when jobs are done as they take effect. -/
theorem done_in_order (hkeep : ∀ w c a w', I w → step w c a w' → I w')
    (happart : ∀ c, hit c = false → Apart I step c)
    (hwork : ∀ j ∈ posted tr, ∀ p, work j p → AtMost hit p 1)
    (h : Run (Step route step work) (idle w₀) tr s) (hI₀ : I w₀) (hnodup : (posted tr).Nodup)
    (hidle : ∀ j, (s.workers (route j)).current = none)
    (hpre : Run (Step route step work) (idle w₀) pre s₁) (htr : tr = pre ++ post) :
    Run (Does step work) w₀ ((moments hit tr pre).map fun j => (j, acts j tr)) s₁.world := by
  induction hpre generalizing post with
  | nil => exact .nil
  | @snoc pre e s₁ s₂ hrun hstep ih =>
    have hwhole : tr = pre ++ e :: post := by rw [htr, List.append_assoc, List.singleton_append]
    have hI₁ := (within hkeep hrun hI₀).1
    rw [moments_append, List.map_append]
    refine (ih hwhole).append ?_
    cases hmoment : momentOf hit tr e with
    | none =>
      rw [moments, List.filterMap_cons_none hmoment, hstep.still happart hI₁ hmoment]
      exact .nil
    | some j =>
      have hj : j ∈ moments hit tr tr :=
        List.mem_filterMap.mpr ⟨e, by rw [hwhole]; simp, hmoment⟩
      have hfinished := finished_of_mem_moments h hnodup hidle hj
      have hworkj := hwork j ((mem_posted_iff h).mpr (Or.inl hfinished))
      rw [moments, List.filterMap_cons_some hmoment]
      refine Run.one ?_
      subst hwhole
      exact done_at hkeep happart hworkj h hI₀ hnodup hI₁ hstep hmoment hfinished

/-- No job takes effect twice. -/
theorem moments_nodup (hwork : ∀ j ∈ posted tr, ∀ p, work j p → AtMost hit p 1)
    (h : Run (Step route step work) (idle w₀) tr s) (hnodup : (posted tr).Nodup)
    (hidle : ∀ j, (s.workers (route j)).current = none) : (moments hit tr tr).Nodup := by
  refine List.nodup_iff_count_le_one.mpr fun j => ?_
  by_cases hj : j ∈ moments hit tr tr
  · have hfinished := finished_of_mem_moments h hnodup hidle hj
    obtain ⟨p, hp, hfollows⟩ := (followed h hnodup).finished j hfinished
    obtain ⟨m, -, hcount⟩ := hfollows.atMost (hwork j ((mem_posted_iff h).mpr (Or.inl hfinished)) p hp)
    have hone := List.nodup_iff_count_le_one.mp (finished_nodup h hnodup) j
    rw [count_moments]
    split <;> omega
  · rw [List.count_eq_zero_of_not_mem hj]
    exact Nat.zero_le 1

/-- **Linearizable.**  Let every job have at most one command that is not apart.  Then what has become
    of the world, when no worker is at work, is what becomes of it when the jobs that are finished are
    done one after the other, each with the answers that it has got, in an order which keeps theirs:
    whenever some are finished, and others have not been begun, the former come first. -/
theorem linearizable (hkeep : ∀ w c a w', I w → step w c a w' → I w')
    (happart : ∀ c, hit c = false → Apart I step c)
    (hwork : ∀ j ∈ posted tr, ∀ p, work j p → AtMost hit p 1)
    (h : Run (Step route step work) (idle w₀) tr s) (hI₀ : I w₀) (hnodup : (posted tr).Nodup)
    (hidle : ∀ j, (s.workers (route j)).current = none) :
    ∃ l : List J, Run (Does step work) w₀ (l.map fun j => (j, acts j tr)) s.world ∧
      l.Perm (finished tr) ∧
      ∀ pre post, tr = pre ++ post → ∃ l₁ l₂, l = l₁ ++ l₂ ∧ (∀ j ∈ finished pre, j ∈ l₁) ∧
        ∀ j ∈ l₁, ∃ e ∈ pre, e.worksOn = some j := by
  have hprefix : ∀ {pre post}, tr = pre ++ post → ∀ j ∈ finished pre, j ∈ moments hit tr pre := by
    rintro pre post rfl j hj
    exact mem_moments_of_finished h hnodup hj
  refine ⟨moments hit tr tr, ?_, ?_, fun pre post htr => ?_⟩
  · exact done_in_order hkeep happart hwork h hI₀ hnodup hidle h (List.append_nil tr).symm
  · refine (List.perm_ext_iff_of_nodup (moments_nodup hwork h hnodup hidle)
      (finished_nodup h hnodup)).mpr fun j => ?_
    exact ⟨fun hj => finished_of_mem_moments h hnodup hidle hj,
      fun hj => hprefix (List.append_nil tr).symm j hj⟩
  · refine ⟨moments hit tr pre, moments hit tr post, ?_, hprefix htr, fun j hj => ?_⟩
    · rw [← moments_append, ← htr]
    · obtain ⟨e, he, hmoment⟩ := List.mem_filterMap.mp hj
      exact ⟨e, he, worksOn_of_momentOf hmoment⟩

/-- **At any time.**  A job all of whose commands are apart is done as if it were alone in the world,
    before everything else. -/
theorem done_apart (hkeep : ∀ w c a w', I w → step w c a w' → I w')
    (happart : ∀ c, hit c = false → Apart I step c) (hwork : ∀ p, work j p → AtMost hit p 0)
    (h : Run (Step route step work) (idle w₀) tr s) (hI₀ : I w₀) (hnodup : (posted tr).Nodup)
    (hj : j ∈ finished tr) (hw : I w) : ∃ p, work j p ∧ Runs step w p (acts j tr) () w := by
  obtain ⟨p, hp, hfollows⟩ := (followed (within hkeep h hI₀).2 hnodup).finished j hj
  obtain ⟨m, -, hcount⟩ := hfollows.atMost (hwork p hp)
  have hnone : (acts j tr).countP (fun e => hit e.1) = 0 := by omega
  refine ⟨p, hp, hfollows.runs_apart happart (fun e he => ?_) hw⟩
  exact Bool.eq_false_of_not_eq_true (List.countP_eq_zero.mp hnone e he)

end Moments

end Pool

end Zattd
