/-
  What holds of a POOL in every interleaving of its workers.

  * `mem_posted_iff` — a job that has been posted is with one worker, or has been finished by him;
  * `followed`  — the commands that a job has issued are those of ONE path of its program, so far:
    what is known of all paths is known of every job, whoever was at work in between;
  * `respected` — contracts that tolerate each other are kept by all;
  * `monitored` — so the world goes a way on which each command is one that its job may issue;
  * `chosen` — where a job may have one of many programs, one can be named for each;
  * `goes_on`, `left_step` — a worker with a job can always go on, and not for ever.
-/
import Zattd.Lib.Paths
import Zattd.Lib.Threads
import Zattd.Lib.Workers

set_option linter.unusedVariables false

namespace Zattd

open Prog

variable {S C J : Type} {A : C → Type}

namespace Pool

variable {route : J → Nat} {step : S → (c : C) → A c → S → Prop} {work : J → Prog C A Unit → Prop}
  {s s' : Pool S C A J} {w₀ : S} {e : PoolEvent C A J} {tr tr' : List (PoolEvent C A J)} {i : Nat}
  {j : J}

/-! ## Where a job is -/

/-- A worker has only jobs that are routed to him. -/
theorem route_of_mem_jobs (h : Run (Step route step work) (idle w₀) tr s)
    (hj : j ∈ (s.workers i).jobs) : route j = i := by
  have hmem : j ∈ (posted tr).filter fun x => decide (route x = i) := by
    rw [posted_eq h i]
    exact List.mem_append_right _ hj
  exact of_decide_eq_true (List.mem_filter.mp hmem).2

/-- What has been posted has been finished, or is with its worker. -/
theorem mem_posted_iff (h : Run (Step route step work) (idle w₀) tr s) :
    j ∈ posted tr ↔ j ∈ finished tr ∨ j ∈ (s.workers (route j)).jobs := by
  have hall := posted_eq h (route j)
  have hself : ∀ l : List J, j ∈ l ↔ j ∈ l.filter fun x => decide (route x = route j) := by
    intro l
    simp [List.mem_filter]
  rw [hself (posted tr), hall, List.mem_append, ← hself]

/-- A job is counted among the jobs of its kind. -/
theorem count_filter_same {K : Type} [DecidableEq K] [DecidableEq J] (key : J → K) (j : J) (l : List J) :
    (l.filter fun x => decide (key x = key j)).count j = l.count j := by
  have hkept : decide (key j = key j) = true := decide_eq_true rfl
  exact List.count_filter (p := fun x => decide (key x = key j)) hkept

/-- Without repeats, it is not both. -/
theorem not_mem_jobs_of_finished (h : Run (Step route step work) (idle w₀) tr s)
    (hnodup : (posted tr).Nodup) (hj : j ∈ finished tr) : j ∉ (s.workers i).jobs := by
  intro hjobs
  have hi := route_of_mem_jobs h hjobs
  have hall := hnodup.filter fun x => decide (route x = i)
  rw [posted_eq h i] at hall
  have hmem : j ∈ (finished tr).filter fun x => decide (route x = i) :=
    List.mem_filter.mpr ⟨hj, decide_eq_true hi⟩
  exact List.disjoint_of_nodup_append hall hmem hjobs

/-- A worker has no job twice. -/
theorem jobs_nodup (h : Run (Step route step work) (idle w₀) tr s) (hnodup : (posted tr).Nodup) :
    (s.workers i).jobs.Nodup := by
  have hall := hnodup.filter fun x => decide (route x = i)
  rw [posted_eq h i] at hall
  exact List.Nodup.of_append_right hall

/-- Nothing is finished twice. -/
theorem finished_nodup [DecidableEq J] (h : Run (Step route step work) (idle w₀) tr s)
    (hnodup : (posted tr).Nodup) : (finished tr).Nodup := by
  apply List.nodup_iff_count_le_one.mpr
  intro j
  have hall := hnodup.filter fun x => decide (route x = route j)
  rw [posted_eq h (route j)] at hall
  have hone := List.nodup_iff_count_le_one.mp (List.Nodup.of_append_left hall) j
  rwa [count_filter_same route] at hone

/-- What a worker is at is one of its jobs. -/
theorem mem_jobs_of_current {q : Prog C A Unit} (h : (s.workers i).current = some (j, q)) :
    j ∈ (s.workers i).jobs := by
  unfold Worker.jobs
  rw [h]
  exact List.mem_cons_self ..

/-- So is what waits for it. -/
theorem mem_jobs_of_queue (h : j ∈ (s.workers i).queue) : j ∈ (s.workers i).jobs :=
  List.mem_append_right _ h

/-- Who has been finished issues nothing any more. -/
theorem Step.ne_act_of_finished (hrun : Run (Step route step work) (idle w₀) tr s)
    (hnodup : (posted tr).Nodup) (hstep : Step route step work s e s') (hj : j ∈ finished tr) (c : C)
    (a : A c) : e ≠ .act j c a := by
  rintro rfl
  obtain ⟨-, next, hcurrent⟩ := hstep.of_act
  exact not_mem_jobs_of_finished hrun hnodup hj (mem_jobs_of_current hcurrent)

/-- Nor does, yet, who is in a queue. -/
theorem Step.ne_act_of_queue (hrun : Run (Step route step work) (idle w₀) tr s)
    (hnodup : (posted tr).Nodup) (hstep : Step route step work s e s') (hj : j ∈ (s.workers i).queue)
    (c : C) (a : A c) : e ≠ .act j c a := by
  rintro rfl
  obtain ⟨-, next, hcurrent⟩ := hstep.of_act
  obtain rfl := route_of_mem_jobs hrun (mem_jobs_of_queue hj)
  -- then he would be there twice
  have hjobs := jobs_nodup hrun hnodup (i := route j)
  unfold Worker.jobs at hjobs
  rw [hcurrent] at hjobs
  exact (List.nodup_cons.mp hjobs).1 hj

/-! ## One path of its program -/

section Acts

variable [DecidableEq J]

/-- The commands that `j` has issued, with their answers. -/
def acts (j : J) (tr : List (PoolEvent C A J)) : List ((c : C) × A c) :=
  tr.filterMap fun
    | .act j' c a => if j' = j then some ⟨c, a⟩ else none
    | _ => none

@[simp] theorem acts_append (j : J) (tr tr' : List (PoolEvent C A J)) :
    acts j (tr ++ tr') = acts j tr ++ acts j tr' := List.filterMap_append

@[simp] theorem acts_post (j j' : J) : acts j [(.post j' : PoolEvent C A J)] = [] := rfl

@[simp] theorem acts_start (j j' : J) : acts j [(.start j' : PoolEvent C A J)] = [] := rfl

@[simp] theorem acts_finish (j j' : J) : acts j [(.finish j' : PoolEvent C A J)] = [] := rfl

theorem acts_act_self (j : J) (c : C) (a : A c) : acts j [.act j c a] = [⟨c, a⟩] := by
  simp [acts]

theorem acts_act_of_ne {j j' : J} (c : C) (a : A c) (h : j' ≠ j) : acts j [.act j' c a] = [] := by
  simp [acts, h]

/-- The commands that have been issued, with their answers. -/
def allActs (tr : List (PoolEvent C A J)) : List ((c : C) × A c) :=
  tr.filterMap fun
    | .act _ c a => some ⟨c, a⟩
    | _ => none

/-- What all have issued is what each of them has. -/
theorem sum_countP_acts (hit : (c : C) × A c → Bool) {l : List J} (hnodup : l.Nodup)
    (hall : ∀ e ∈ tr, ∀ j, e.worksOn = some j → j ∈ l) :
    (l.map fun j => (acts j tr).countP hit).sum = (allActs tr).countP hit := by
  induction tr with
  | nil =>
    show (l.map fun _ => 0).sum = 0
    simp
  | cons e tr ih =>
    have hsplit : ∀ j, acts j (e :: tr) = acts j [e] ++ acts j tr := fun j => acts_append j [e] tr
    have hfirst : (l.map fun j => (acts j [e]).countP hit).sum = (allActs [e]).countP hit := by
      cases e with
      | act j₀ c a =>
        have hmem : j₀ ∈ l := hall _ (List.mem_cons_self ..) j₀ rfl
        have hone : (l.map fun j => (acts j [(.act j₀ c a : PoolEvent C A J)]).countP hit) =
            l.map fun j => if j = j₀ then ([(⟨c, a⟩ : (c : C) × A c)].countP hit) else 0 := by
          refine List.map_congr_left fun j _ => ?_
          by_cases hj : j = j₀
          · subst hj
            rw [acts_act_self, if_pos rfl]
          · rw [acts_act_of_ne c a (Ne.symm hj), if_neg hj, List.countP_nil]
        rw [hone, ← List.sum_toFinset _ hnodup, Finset.sum_ite_eq', if_pos (List.mem_toFinset.mpr hmem)]
        rfl
      | post j₀ | start j₀ | finish j₀ =>
        show (l.map fun _ => 0).sum = 0
        simp
    have hrest := ih fun e' he' => hall e' (List.mem_cons_of_mem _ he')
    have hwhole : allActs (e :: tr) = allActs [e] ++ allActs tr := List.filterMap_append (l := [e])
    rw [hwhole, List.countP_append, ← hfirst, ← hrest, ← List.sum_map_add]
    refine congrArg List.sum (List.map_congr_left fun j _ => ?_)
    rw [hsplit, List.countP_append]

/-- The answers that commands can be given. -/
abbrev Can (step : S → (c : C) → A c → S → Prop) (c : C) (a : A c) : Prop := ∃ s s', step s c a s'

/-- After the events `tr`, in `s`: every job has gone some way on a path of its program — all of it if
    it is finished, nothing if it has not been begun. -/
structure Followed (step : S → (c : C) → A c → S → Prop) (work : J → Prog C A Unit → Prop)
    (tr : List (PoolEvent C A J)) (s : Pool S C A J) : Prop where
  finished : ∀ j ∈ finished tr, ∃ p, work j p ∧ Follows (Can step) p (acts j tr) (.ret ())
  current : ∀ i j q, (s.workers i).current = some (j, q) →
    ∃ p, work j p ∧ Follows (Can step) p (acts j tr) q
  waiting : ∀ i, ∀ j ∈ (s.workers i).queue, acts j tr = []
  unknown : ∀ j, j ∉ posted tr → acts j tr = []

/-- A job that issues nothing has issued what it had. -/
theorem acts_snoc_of_ne (h : ∀ c a, e ≠ .act j c a) : acts j (tr ++ [e]) = acts j tr := by
  rw [acts_append]
  cases e with
  | post | start | finish => exact List.append_nil _
  | act j' c a =>
    have hne : j' ≠ j := by
      rintro rfl
      exact h c a rfl
    rw [acts_act_of_ne c a hne, List.append_nil]

/-- A finished job has followed its program to the end: it was finished before, or is so now. -/
theorem Followed.snoc_finished (hrun : Run (Step route step work) (idle w₀) tr s)
    (hnodup : (posted tr).Nodup) (h : Followed step work tr s) (hstep : Step route step work s e s') :
    ∀ j ∈ Pool.finished (tr ++ [e]), ∃ p, work j p ∧
      Follows (Can step) p (acts j (tr ++ [e])) (.ret ()) := by
  intro j hj
  rw [finished_append] at hj
  rcases List.mem_append.mp hj with hold | hlast
  · rw [acts_snoc_of_ne (hstep.ne_act_of_finished hrun hnodup hold)]
    exact h.finished j hold
  · obtain rfl : e = .finish j := by
      cases e with
      | finish j' => rw [List.mem_singleton.mp hlast]
      | post | start | act => cases hlast
    obtain ⟨-, hcurrent⟩ := hstep.of_finish
    rw [acts_append, acts_finish, List.append_nil]
    exact h.current (route j) j _ hcurrent

/-- A job that is worked on has followed its program so far: it has gone on by one command, or is as it
    was. -/
theorem Followed.snoc_current (hrun : Run (Step route step work) (idle w₀) tr s)
    (h : Followed step work tr s) (hstep : Step route step work s e s') :
    ∀ i j q, (s'.workers i).current = some (j, q) →
      ∃ p, work j p ∧ Follows (Can step) p (acts j (tr ++ [e])) q := by
  intro i j q hcurrent
  rcases hstep.current_cases hcurrent with ⟨hsame, hother⟩ | ⟨rfl, rfl, hp⟩ |
    ⟨c, next, a, rfl, rfl, hbefore, rfl⟩
  · rw [acts_snoc_of_ne fun c a heq => hother j c a heq (route_of_mem_jobs hrun (mem_jobs_of_current hsame))]
    exact h.current i j q hsame
  · obtain ⟨-, queue, hworker⟩ := hstep.of_start
    rw [acts_append, acts_start, List.append_nil,
      h.waiting (route j) j (by rw [hworker]; exact List.mem_cons_self ..)]
    exact ⟨q, hp, .start⟩
  · obtain ⟨p, hp, hfollows⟩ := h.current _ _ _ hbefore
    rw [acts_append, acts_act_self]
    exact ⟨p, hp, .snoc hfollows ⟨_, _, hstep.of_act.1⟩⟩

/-- A job that waits has done nothing. -/
theorem Followed.snoc_waiting (hrun : Run (Step route step work) (idle w₀) tr s)
    (hnodup : (posted (tr ++ [e])).Nodup) (h : Followed step work tr s)
    (hstep : Step route step work s e s') : ∀ i, ∀ j ∈ (s'.workers i).queue, acts j (tr ++ [e]) = [] := by
  intro i j hj
  rw [posted_append] at hnodup
  rcases hstep.queue_cases hj with hold | ⟨rfl, -⟩
  · rw [acts_snoc_of_ne (hstep.ne_act_of_queue hrun (List.Nodup.of_append_left hnodup) hold)]
    exact h.waiting i j hold
  · -- it has come just now
    rw [acts_append, acts_post, List.append_nil]
    refine h.unknown j fun hold => ?_
    exact List.disjoint_of_nodup_append hnodup hold (List.mem_cons_self ..)

/-- Nor has one that has never been posted. -/
theorem Followed.snoc_unknown (hrun : Run (Step route step work) (idle w₀) tr s)
    (h : Followed step work tr s) (hstep : Step route step work s e s') :
    ∀ j, j ∉ posted (tr ++ [e]) → acts j (tr ++ [e]) = [] := by
  intro j hj
  rw [posted_append] at hj
  have hunknown : j ∉ posted tr := fun hold => hj (List.mem_append_left _ hold)
  rw [acts_snoc_of_ne ?_]
  · exact h.unknown j hunknown
  · rintro c a rfl
    obtain ⟨-, next, hcurrent⟩ := hstep.of_act
    exact hunknown ((mem_posted_iff hrun).mpr (Or.inr (mem_jobs_of_current hcurrent)))

/-- So each step keeps all jobs on the paths of their programs. -/
theorem Followed.snoc (hrun : Run (Step route step work) (idle w₀) tr s)
    (hnodup : (posted (tr ++ [e])).Nodup) (h : Followed step work tr s)
    (hstep : Step route step work s e s') : Followed step work (tr ++ [e]) s' := by
  have hbefore : (posted tr).Nodup := by
    rw [posted_append] at hnodup
    exact List.Nodup.of_append_left hnodup
  exact ⟨h.snoc_finished hrun hbefore hstep, h.snoc_current hrun hstep,
    h.snoc_waiting hrun hnodup hstep, h.snoc_unknown hrun hstep⟩

/-- **One path each.**  The commands that a job has issued are those of a path of its program. -/
theorem followed (h : Run (Step route step work) (idle w₀) tr s) (hnodup : (posted tr).Nodup) :
    Followed step work tr s := by
  induction h with
  | nil =>
    refine ⟨fun j hj => ?_, fun i j q hcurrent => ?_, fun i j hj => ?_, fun j _ => rfl⟩
    · cases hj
    · cases hcurrent
    · cases hj
  | @snoc tr e s₁ s₂ hrun hstep ih =>
    refine Followed.snoc hrun hnodup (ih ?_) hstep
    rw [posted_append] at hnodup
    exact List.Nodup.of_append_left hnodup

/-- What has been begun and is not finished, a worker is at. -/
theorem current_of (h : Run (Step route step work) (idle w₀) tr s) (hnodup : (posted tr).Nodup)
    (hbegun : acts j tr ≠ []) (hnot : j ∉ finished tr) :
    ∃ q, (s.workers (route j)).current = some (j, q) := by
  have hfollowed := followed h hnodup
  have hposted : j ∈ posted tr := by
    by_contra hunknown
    exact hbegun (hfollowed.unknown j hunknown)
  have hjobs := ((mem_posted_iff h).mp hposted).resolve_left hnot
  unfold Worker.jobs at hjobs
  rcases List.mem_append.mp hjobs with hwork | hqueue
  · obtain ⟨⟨j', q⟩, hq, rfl⟩ := List.mem_map.mp hwork
    exact ⟨q, Option.mem_toList.mp hq⟩
  · exact absurd (hfollowed.waiting _ j hqueue) hbegun

/-- What has been done for a job is nothing, or is on a path of its program, and all of it when the job is
    finished. -/
theorem path_of (h : Run (Step route step work) (idle w₀) tr s) (hnodup : (posted tr).Nodup) (j : J) :
    (acts j tr = [] ∧ j ∉ finished tr) ∨
    ∃ p q, work j p ∧ Follows (Can step) p (acts j tr) q ∧ (j ∈ finished tr → q = .ret ()) := by
  have hfollowed := followed h hnodup
  by_cases hfinished : j ∈ finished tr
  · obtain ⟨p, hp, hfollows⟩ := hfollowed.finished j hfinished
    exact Or.inr ⟨p, _, hp, hfollows, fun _ => rfl⟩
  by_cases hbegun : acts j tr = []
  · exact Or.inl ⟨hbegun, hfinished⟩
  · obtain ⟨q, hq⟩ := current_of h hnodup hbegun hfinished
    obtain ⟨p, hp, hfollows⟩ := hfollowed.current _ j q hq
    exact Or.inr ⟨p, q, hp, hfollows, fun hj => absurd hj hfinished⟩

end Acts

/-! ## Contracts -/

/-- **Contracts are kept.**  Let every command that a job may issue be one the others tolerate.  Then a
    job issues what it may, in every state the pool comes to. -/
theorem respected {I : S → Prop} {R : S → S → Prop} {may : J → S → C → Prop}
    (hrefl : ∀ s, R s s) (htrans : ∀ s₁ s₂ s₃, R s₁ s₂ → R s₂ s₃ → R s₁ s₃)
    (hI : ∀ s₁ s₂, I s₁ → R s₁ s₂ → I s₂)
    (hmay : ∀ j s c a s', I s → may j s c → step s c a s' → R s s')
    (hwork : ∀ j p s, work j p → I s → Respects step R (may j) (fun _ _ => True) p s)
    (h : Run (Step route step work) (idle w₀) tr s) (hI₀ : I w₀) :
    R w₀ s.world ∧
      (∀ i j p, (s.workers i).current = some (j, p) →
        Respects step R (may j) (fun _ _ => True) p s.world) ∧
      ∀ j c a s', Step route step work s (.act j c a) s' → may j s.world c := by
  have hall : R w₀ s.world ∧ ∀ i j p, (s.workers i).current = some (j, p) →
      Respects step R (may j) (fun _ _ => True) p s.world := by
    induction h with
    | nil => exact ⟨hrefl w₀, fun i j p hcurrent => by cases hcurrent⟩
    | @snoc tr e s₁ s₂ _ hstep ih =>
      obtain ⟨hR, hcontract⟩ := ih
      have hI₁ : I s₁.world := hI _ _ hI₀ hR
      have hmoved : R s₁.world s₂.world := by
        cases e with
        | act j c a =>
          obtain ⟨ha, next, hcurrent⟩ := hstep.of_act
          exact hmay _ _ _ _ _ hI₁ (hcontract _ _ _ hcurrent s₁.world (hrefl _)).1 ha
        | post j | start j | finish j =>
          rw [hstep.world_eq fun _ _ _ heq => by cases heq]
          exact hrefl _
      refine ⟨htrans _ _ _ hR hmoved, fun i j q hcurrent => ?_⟩
      rcases hstep.current_cases hcurrent with ⟨hsame, -⟩ | ⟨rfl, rfl, hp⟩ |
        ⟨c, next, a, rfl, rfl, hbefore, rfl⟩
      · -- others have been at work
        exact (hcontract i j q hsame).rely htrans (fun _ _ _ _ _ => trivial) hmoved
      · rw [hstep.of_start.1]
        exact hwork _ _ _ hp hI₁
      · exact (hcontract _ _ _ hbefore s₁.world (hrefl _)).2 a _ hstep.of_act.1
  refine ⟨hall.1, hall.2, fun j c a s' hstep => ?_⟩
  cases hstep with
  | @act _ queue _ next _ w hworker ha =>
    exact (hall.2 (route j) j (.call c next) (by rw [hworker]) s.world (hrefl _)).1

/-- The commands that have been issued, in order, with the jobs they were issued for. -/
def commands (tr : List (PoolEvent C A J)) : List (J × ((c : C) × A c)) :=
  tr.filterMap fun
    | .act j c a => some (j, ⟨c, a⟩)
    | _ => none

theorem commands_append (tr tr' : List (PoolEvent C A J)) :
    commands (tr ++ tr') = commands tr ++ commands tr' := List.filterMap_append

/-- Without the jobs, they are all that has been issued. -/
theorem allActs_eq (tr : List (PoolEvent C A J)) : allActs tr = (commands tr).map (·.2) := by
  unfold allActs commands
  rw [List.map_filterMap]
  refine List.filterMap_congr fun e _ => ?_
  cases e <;> rfl

/-- They are those of each of the jobs. -/
theorem mem_commands_iff [DecidableEq J] (j : J) (c : C) (a : A c) (tr : List (PoolEvent C A J)) :
    (j, ⟨c, a⟩) ∈ commands tr ↔ ⟨c, a⟩ ∈ acts j tr := by
  unfold commands acts
  rw [List.mem_filterMap, List.mem_filterMap]
  constructor
  · rintro ⟨e, he, hcommand⟩
    refine ⟨e, he, ?_⟩
    cases e with
    | act j' c' a' =>
      obtain ⟨rfl, hca⟩ := Prod.mk.inj (Option.some.inj hcommand)
      show (if j' = j' then some _ else none) = _
      rw [if_pos rfl, hca]
    | post j' | start j' | finish j' => cases hcommand
  · rintro ⟨e, he, hact⟩
    refine ⟨e, he, ?_⟩
    cases e with
    | act j' c' a' =>
      by_cases hj : j' = j
      · have hca : some (⟨c', a'⟩ : (c : C) × A c) = some ⟨c, a⟩ := (if_pos hj).symm.trans hact
        show some (j', (⟨c', a'⟩ : (c : C) × A c)) = _
        rw [hj, Option.some.inj hca]
      · cases (if_neg hj).symm.trans hact
    | post j' | start j' | finish j' => cases hact

/-- The jobs that have issued the commands with this mark, one for each command. -/
def issuers (hit : (c : C) × A c → Bool) (cmds : List (J × ((c : C) × A c))) : List J :=
  (cmds.filter fun e => hit e.2).map (·.1)

theorem issuers_append (hit : (c : C) × A c → Bool) (cmds cmds' : List (J × ((c : C) × A c))) :
    issuers hit (cmds ++ cmds') = issuers hit cmds ++ issuers hit cmds' := by
  unfold issuers
  rw [List.filter_append, List.map_append]

/-- A job is as often among them as it has issued such a command. -/
theorem count_issuers [DecidableEq J] (hit : (c : C) × A c → Bool) (j : J)
    (tr : List (PoolEvent C A J)) : (issuers hit (commands tr)).count j = (acts j tr).countP hit := by
  induction tr with
  | nil => rfl
  | cons e tr ih =>
    have hcommands : commands (e :: tr) = commands [e] ++ commands tr := commands_append [e] tr
    have hacts : acts j (e :: tr) = acts j [e] ++ acts j tr := acts_append j [e] tr
    rw [hcommands, issuers_append, List.count_append, ih, hacts, List.countP_append]
    refine congrArg (· + _) ?_
    cases e with
    | post | start | finish => rfl
    | act j' c a =>
      by_cases hj : j' = j
      · subst hj
        rw [acts_act_self]
        cases hc : hit ⟨c, a⟩ <;> simp [issuers, commands, hc]
      · rw [acts_act_of_ne c a hj]
        cases hc : hit ⟨c, a⟩ <;> simp [issuers, commands, hc, hj]

/-- A step of a MONITOR, which lets a command pass if the job may issue it. -/
def Passes (step : S → (c : C) → A c → S → Prop) (may : J → S → C → Prop) (s : S)
    (e : J × ((c : C) × A c)) (s' : S) : Prop :=
  may e.1 s e.2.1 ∧ step s e.2.1 e.2.2 s'

/-- **The monitor.**  If contracts are kept, the world goes from any point the way that a monitor lets
    it go: one command after the other, each of which the job may issue where it is issued. -/
theorem monitored {I : S → Prop} {R : S → S → Prop} {may : J → S → C → Prop}
    (hrefl : ∀ s, R s s) (htrans : ∀ s₁ s₂ s₃, R s₁ s₂ → R s₂ s₃ → R s₁ s₃)
    (hI : ∀ s₁ s₂, I s₁ → R s₁ s₂ → I s₂)
    (hmay : ∀ j s c a s', I s → may j s c → step s c a s' → R s s')
    (hwork : ∀ j p s, work j p → I s → Respects step R (may j) (fun _ _ => True) p s)
    (h : Run (Step route step work) (idle w₀) tr s) (hI₀ : I w₀)
    (h' : Run (Step route step work) s tr' s') :
    Run (Passes step may) s.world (commands tr') s'.world := by
  induction h' with
  | nil => exact .nil
  | @snoc tr' e s₁ s₂ hrun hstep ih =>
    have hallowed := (respected hrefl htrans hI hmay hwork (h.append hrun) hI₀).2.2
    rw [commands_append]
    cases hstep with
    | post hworker | start hworker hp | finish hworker =>
      show Run _ _ (commands tr' ++ []) s₁.world
      rw [List.append_nil]
      exact ih
    | @act j queue c next a w hworker ha =>
      have hmayj : may j s₁.world c := hallowed j c a _ (.act hworker ha)
      exact .snoc ih ⟨hmayj, ha⟩

/-! ## Work that is chosen -/

section Chosen

variable {M : Type} {program : J → M → Prog C A Unit} {m : J → M}
  {work' : J → Prog C A Unit → Prop}

/-- A step can be made with any work that has the program which is begun. -/
theorem Step.of_work (h : Step route step work s e s')
    (hwork : ∀ j p, e = .start j → work j p → work' j p) : Step route step work' s e s' := by
  cases h with
  | post hworker => exact .post hworker
  | start hworker hp => exact .start hworker (hwork _ _ rfl hp)
  | act hworker ha => exact .act hworker ha
  | finish hworker => exact .finish hworker

/-- A run with other programs, if what it starts is among those too. -/
theorem run_of_work (h : Run (Step route step work) s tr s')
    (hwork : ∀ j p, .start j ∈ tr → work j p → work' j p) : Run (Step route step work') s tr s' := by
  induction h with
  | nil => exact .nil
  | @snoc tr e s₁ s₂ _ hstep ih =>
    refine .snoc (ih fun j p hj => hwork j p (List.mem_append_left _ hj)) (hstep.of_work ?_)
    rintro j p rfl
    exact hwork j p (List.mem_append_right _ (List.mem_singleton_self _))

/-- What has been begun is finished, or its worker is at it. -/
theorem begun_cases (h : Run (Step route step work) (idle w₀) tr s) (hj : .start j ∈ tr) :
    j ∈ finished tr ∨ ∃ q, (s.workers (route j)).current = some (j, q) := by
  induction h with
  | nil => cases hj
  | @snoc tr e s₁ s₂ _ hstep ih =>
    rw [finished_append]
    rcases List.mem_append.mp hj with hold | hlast
    · rcases ih hold with hdone | ⟨q, hcurrent⟩
      · exact Or.inl (List.mem_append_left _ hdone)
      · rcases hstep.current_stays hcurrent with hat | rfl
        · exact Or.inr hat
        · exact Or.inl (List.mem_append_right _ (List.mem_singleton_self j))
    · obtain rfl := List.mem_singleton.mp hlast
      cases hstep with
      | @start _ queue p hworker hp => exact Or.inr ⟨p, by rw [setWorker_same]⟩

/-- So the next job of an idle worker has not been begun. -/
theorem not_begun (h : Run (Step route step work) (idle w₀) tr s) (hnodup : (posted tr).Nodup)
    {queue : List J} (hworker : s.workers (route j) = ⟨j :: queue, none⟩) : .start j ∉ tr := by
  intro hbegun
  have hqueue : j ∈ (s.workers (route j)).queue := by
    rw [hworker]
    exact List.mem_cons_self ..
  rcases begun_cases h hbegun with hdone | ⟨q, hcurrent⟩
  · exact not_mem_jobs_of_finished h hnodup hdone (mem_jobs_of_queue hqueue)
  · rw [hworker] at hcurrent
    cases hcurrent

/-- **One choice for each job.**  Where each job may have one of many programs, a run is one in which the
    programs have been chosen for all jobs at once: if they had been for what was done before, then for
    all of it. -/
theorem chosen (h : Run (Step route step fun j p => p = program j (m j)) (idle w₀) tr s)
    (h' : Run (Step route step fun j p => ∃ x, p = program j x) s tr' s')
    (hnodup : (posted (tr ++ tr')).Nodup) :
    ∃ m' : J → M, Run (Step route step fun j p => p = program j (m' j)) (idle w₀) tr s ∧
      Run (Step route step fun j p => p = program j (m' j)) s tr' s' := by
  classical
  induction h' with
  | nil => exact ⟨m, h, .nil⟩
  | @snoc tr' e s₁ s₂ _ hstep ih =>
    rw [← List.append_assoc] at hnodup
    have hbefore : (posted (tr ++ tr')).Nodup := by
      rw [posted_append] at hnodup
      exact List.Nodup.of_append_left hnodup
    obtain ⟨m', h₁, h₂⟩ := ih hbefore
    cases e with
    | start j =>
      obtain ⟨-, queue, hworker⟩ := hstep.of_start
      have hnot := not_begun (h₁.append h₂) hbefore hworker
      obtain ⟨x, hx⟩ : ∃ x, Step route step (fun j p => p = program j x) s₁ (.start j) s₂ := by
        cases hstep with
        | start hworker hp =>
          obtain ⟨x, hx⟩ := hp
          exact ⟨x, .start hworker hx⟩
      -- its choice makes no difference to what has been done before
      have hother : ∀ j' p, .start j' ∈ tr ++ tr' → p = program j' (m' j') →
          p = program j' (Function.update m' j x j') := by
        intro j' p hj' hp
        have hne : j' ≠ j := by
          rintro rfl
          exact hnot hj'
        rwa [Function.update_of_ne hne]
      refine ⟨Function.update m' j x, run_of_work h₁ fun j' p hj' => ?_, .snoc (run_of_work h₂ fun j' p hj' => ?_)
        (hx.of_work ?_)⟩
      · exact hother j' p (List.mem_append_left _ hj')
      · exact hother j' p (List.mem_append_right _ hj')
      · intro j' p heq hp
        obtain rfl := PoolEvent.start.inj heq
        rwa [Function.update_self]
    | post j | act j c a | finish j =>
      exact ⟨m', h₁, h₂.snoc (hstep.of_work fun _ _ heq => by cases heq)⟩

end Chosen

/-! ## A worker who is alone -/

/-- A job is done: its program is run to the end, with nothing in between. -/
def Does (step : S → (c : C) → A c → S → Prop) (work : J → Prog C A Unit → Prop) (w : S)
    (e : J × List ((c : C) × A c)) (w' : S) : Prop :=
  ∃ p, work e.1 p ∧ Runs step w p e.2 () w'

/-- The events of a worker who does a job from its beginning to its end. -/
def service (j : J) (es : List ((c : C) × A c)) : List (PoolEvent C A J) :=
  .start j :: es.map (fun e => .act j e.1 e.2) ++ [.finish j]

theorem ne_post_of_mem_service {es : List ((c : C) × A c)} (he : e ∈ service j es) (j' : J) :
    e ≠ .post j' := by
  rintro rfl
  rcases List.mem_append.mp he with hwork | hlast
  · rcases List.mem_cons.mp hwork with hstart | hact
    · cases hstart
    · obtain ⟨_, -, hpost⟩ := List.mem_map.mp hact
      cases hpost
  · cases List.mem_singleton.mp hlast

/-- Whatever a program can do by itself, a worker can do who is idle, if the others let him. -/
theorem serve {p : Prog C A Unit} {es : List ((c : C) × A c)} {queue : List J} {w : S}
    (hworker : s.workers (route j) = ⟨j :: queue, none⟩) (hp : work j p)
    (h : Runs step s.world p es () w) : Run (Step route step work) s (service j es)
      { s.setWorker (route j) ⟨queue, none⟩ with world := w } := by
  have htwice : ∀ (s : Pool S C A J) (x y : Worker C A J) (w₁ w₂ : S),
      { { s.setWorker (route j) x with world := w₁ }.setWorker (route j) y with world := w₂ } =
        { s.setWorker (route j) y with world := w₂ } := by
    intro s x y w₁ w₂
    simp only [setWorker, Function.update_idem]
  have hgo : ∀ {w₁ w : S} {q : Prog C A Unit} {es : List ((c : C) × A c)} {u : Unit},
      Runs step w₁ q es u w → ∀ s₁ : Pool S C A J, s₁.world = w₁ →
      s₁.workers (route j) = ⟨queue, some (j, q)⟩ →
      Run (Step route step work) s₁ (es.map (fun e => .act j e.1 e.2) ++ [.finish j])
        { s₁.setWorker (route j) ⟨queue, none⟩ with world := w } := by
    intro w₁ w q es u hruns
    induction hruns with
    | ret w u =>
      rintro s₁ rfl hworker₁
      exact .one (.finish hworker₁)
    | @call w₁ w₂ w₃ c next a es u hstep _ ih =>
      rintro s₁ rfl hworker₁
      have hrest := ih { s₁.setWorker (route j) ⟨queue, some (j, next a)⟩ with world := w₂ } rfl
        (setWorker_same ..)
      rw [htwice] at hrest
      exact (Run.one (.act hworker₁ hstep)).append hrest
  have hdone := hgo h { s.setWorker (route j) ⟨queue, some (j, p)⟩ with world := s.world } rfl
    (setWorker_same ..)
  rw [htwice] at hdone
  exact (Run.one (.start hworker hp)).append hdone

/-- From `w` a job has been begun, and comes to an end as soon as `q` does. -/
def Begins (step : S → (c : C) → A c → S → Prop) (work : J → Prog C A Unit → Prop) (w : S) (j : J)
    (begun : List ((c : C) × A c)) (q : Prog C A Unit) (w' : S) : Prop :=
  ∃ p, work j p ∧ ∀ rest w'', Runs step w' q rest () w'' → Runs step w p (begun ++ rest) () w''

theorem Begins.start {j : J} {p : Prog C A Unit} (hp : work j p) (w : S) :
    Begins step work w j [] p w :=
  ⟨p, hp, fun _ _ hrest => hrest⟩

theorem Begins.act {w w' w'' : S} {j : J} {begun : List ((c : C) × A c)} {c : C} {a : A c}
    {next : A c → Prog C A Unit} (h : Begins step work w j begun (.call c next) w')
    (ha : step w' c a w'') : Begins step work w j (begun ++ [⟨c, a⟩]) (next a) w'' := by
  obtain ⟨p, hp, hends⟩ := h
  refine ⟨p, hp, fun rest w₃ hrest => ?_⟩
  rw [List.append_assoc]
  exact hends _ _ (.call ha hrest)

theorem Begins.finish {w w' : S} {j : J} {begun : List ((c : C) × A c)}
    (h : Begins step work w j begun (.ret ()) w') : Does step work w (j, begun) w' := by
  obtain ⟨p, hp, hends⟩ := h
  have hdone := hends [] w' (.ret _ _)
  rw [List.append_nil] at hdone
  exact ⟨p, hp, hdone⟩

@[simp] theorem allActs_append (tr tr' : List (PoolEvent C A J)) :
    allActs (tr ++ tr') = allActs tr ++ allActs tr' := List.filterMap_append

/-- **One after the other.**  If all jobs go to one worker, then what has happened is that the jobs that
    are finished have been done in this order, each before the next; and one more may have been begun. -/
theorem serial {i : Nat} (hroute : ∀ j, route j = i) (h : Run (Step route step work) (idle w₀) tr s) :
    ∃ l w₁, Run (Does step work) w₀ l w₁ ∧ l.map Prod.fst = finished tr ∧
      ((s.workers i).current = none → s.world = w₁ ∧ allActs tr = l.flatMap Prod.snd) ∧
      ∀ j q, (s.workers i).current = some (j, q) → ∃ begun, Begins step work w₁ j begun q s.world ∧
        allActs tr = l.flatMap Prod.snd ++ begun := by
  induction h with
  | nil => exact ⟨[], w₀, .nil, rfl, fun _ => ⟨rfl, rfl⟩, fun j q hcurrent => by cases hcurrent⟩
  | @snoc tr e s₁ s₂ _ hstep ih =>
    obtain ⟨l, w₁, hrun, hjobs, hnone, hsome⟩ := ih
    have hidle : ∀ e, allActs [e] = [] → finished [e] = ([] : List J) →
        allActs (tr ++ [e]) = allActs tr ∧ finished (tr ++ [e]) = finished tr := by
      intro e hacts hfinished
      rw [allActs_append, finished_append, hacts, hfinished, List.append_nil, List.append_nil]
      exact ⟨rfl, rfl⟩
    cases hstep with
    | @post j queue current hworker =>
      obtain ⟨hacts, hfinished⟩ := hidle (.post j) rfl rfl
      rw [hroute j] at hworker
      rw [hacts, hfinished]
      refine ⟨l, w₁, hrun, hjobs, ?_⟩
      rw [hroute j, setWorker_same]
      rw [hworker] at hnone hsome
      exact ⟨hnone, hsome⟩
    | @start j queue p hworker hp =>
      obtain ⟨hacts, hfinished⟩ := hidle (.start j) rfl rfl
      rw [hroute j] at hworker
      rw [hacts, hfinished]
      obtain ⟨hworld, hall⟩ := hnone (by rw [hworker])
      refine ⟨l, w₁, hrun, hjobs, fun hcurrent => ?_, fun j' q hcurrent => ?_⟩
      · rw [hroute j, setWorker_same] at hcurrent
        cases hcurrent
      · rw [hroute j, setWorker_same] at hcurrent
        obtain ⟨rfl, rfl⟩ := Prod.mk.inj (Option.some.inj hcurrent)
        exact ⟨[], hworld ▸ Begins.start hp s₁.world, by rw [hall, List.append_nil]⟩
    | @act j queue c next a w hworker ha =>
      rw [hroute j] at hworker
      obtain ⟨begun, hbegun, hall⟩ := hsome j (.call c next) (by rw [hworker])
      have hacts : allActs (tr ++ [.act j c a]) = allActs tr ++ [⟨c, a⟩] := allActs_append _ _
      have hfinished : finished (tr ++ [.act j c a]) = finished tr := by simp [finished]
      have hsame : ((s₁.setWorker (route j) ⟨queue, some (j, next a)⟩).workers i).current =
          some (j, next a) := by rw [hroute j, setWorker_same]
      rw [hacts, hfinished]
      refine ⟨l, w₁, hrun, hjobs, fun hcurrent => ?_, fun j' q hcurrent => ?_⟩
      · exact absurd (hsame.symm.trans hcurrent) (Option.some_ne_none _)
      · obtain ⟨rfl, rfl⟩ := Prod.mk.inj (Option.some.inj (hsame.symm.trans hcurrent))
        exact ⟨begun ++ [⟨c, a⟩], hbegun.act ha, by rw [hall, List.append_assoc]⟩
    | @finish j queue hworker =>
      rw [hroute j] at hworker
      obtain ⟨begun, hbegun, hall⟩ := hsome j (.ret ()) (by rw [hworker])
      have hacts : allActs (tr ++ [.finish j]) = allActs tr := by simp [allActs]
      rw [hacts, finished_append, ← hjobs, hall]
      refine ⟨l ++ [(j, begun)], s₁.world, hrun.snoc hbegun.finish, by simp [finished],
        fun _ => ⟨rfl, by simp⟩, fun j' q hcurrent => ?_⟩
      rw [hroute j, setWorker_same] at hcurrent
      cases hcurrent

/-! ## Going on, and coming to an end -/

/-- A worker with a job is never stuck. -/
theorem goes_on (hwork : ∀ j, ∃ p, work j p) (hstep : ∀ s c, ∃ a s', step s c a s')
    (h : Run (Step route step work) (idle w₀) tr s) (hj : j ∈ (s.workers i).jobs) :
    ∃ e s', (∀ j', e ≠ .post j') ∧ Step route step work s e s' := by
  obtain rfl := route_of_mem_jobs h hj
  generalize hworker : s.workers (route j) = worker
  obtain ⟨queue, current⟩ := worker
  rw [hworker] at hj
  cases current with
  | none =>
    cases queue with
    | nil => cases hj
    | cons j' queue =>
      obtain ⟨p, hp⟩ := hwork j'
      have hroute : route j' = route j :=
        route_of_mem_jobs h (mem_jobs_of_queue (by rw [hworker]; exact List.mem_cons_self ..))
      exact ⟨.start j', _, nofun, .start (by rw [hroute]; exact hworker) hp⟩
  | some current =>
    obtain ⟨j', p⟩ := current
    have hroute : route j' = route j :=
      route_of_mem_jobs h (mem_jobs_of_current (q := p) (by rw [hworker]))
    cases p with
    | ret u => exact ⟨.finish j', _, nofun, .finish (by rw [hroute]; exact hworker)⟩
    | call c next =>
      obtain ⟨a, w, ha⟩ := hstep s.world c
      exact ⟨.act j' c a, _, nofun, .act (by rw [hroute]; exact hworker) ha⟩

section Left

variable {N n : Nat}

/-- How many steps are left to a worker at most, if no job issues more than `n` commands. -/
noncomputable def stepsLeft (n : Nat) (worker : Worker C A J) : Nat :=
  worker.queue.length * (n + 2) +
    match worker.current with
    | none => 0
    | some (_, p) => p.depth + 1

/-- And to `N` workers. -/
noncomputable def left (N n : Nat) (s : Pool S C A J) : Nat :=
  ∑ i ∈ Finset.range N, stepsLeft n (s.workers i)

theorem left_setWorker {k : Nat} (hk : k < N) (worker : Worker C A J) :
    left N n (s.setWorker k worker) + stepsLeft n (s.workers k) =
      left N n s + stepsLeft n worker := by
  have hmem : k ∈ Finset.range N := Finset.mem_range.mpr hk
  unfold left
  rw [← Finset.sum_erase_add _ _ hmem, ← Finset.sum_erase_add _ (fun i => stepsLeft n (s.workers i)) hmem,
    setWorker_same]
  have hothers : ∑ i ∈ (Finset.range N).erase k, stepsLeft n ((s.setWorker k worker).workers i) =
      ∑ i ∈ (Finset.range N).erase k, stepsLeft n (s.workers i) :=
    Finset.sum_congr rfl fun i hi => by rw [setWorker_of_ne _ _ (Finset.ne_of_mem_erase hi)]
  omega

/-- What is run has no more than `n` commands to go. -/
def Bounded (n : Nat) (s : Pool S C A J) : Prop :=
  ∀ i j p, (s.workers i).current = some (j, p) → Short p n

/-- Steps keep the rest of each job within the bound of its program. -/
theorem Step.bounded (hwork : ∀ j p, work j p → Short p n) (h : Step route step work s e s')
    (hs : Bounded n s) : Bounded n s' := by
  intro i j q hcurrent
  rcases h.current_cases hcurrent with ⟨hsame, -⟩ | ⟨-, -, hp⟩ | ⟨c, next, a, -, -, hbefore, rfl⟩
  · exact hs i j q hsame
  · exact hwork j q hp
  · exact (hs i j _ hbefore).next a

/-- So it is in every run. -/
theorem bounded (hwork : ∀ j p, work j p → Short p n)
    (h : Run (Step route step work) (idle w₀) tr s) : Bounded n s := by
  refine h.invariant (Bounded n) (fun _ _ _ hs hstep => hstep.bounded hwork hs) fun i j p hcurrent => ?_
  cases hcurrent

/-- A job that is posted adds its steps to what is left, and every other step takes one off. -/
theorem Step.left (hroute : ∀ j, route j < N) (hwork : ∀ j p, work j p → Short p n)
    (h : Step route step work s e s') (hs : Bounded n s) :
    (∃ j, e = .post j ∧ left N n s' = left N n s + (n + 2)) ∨
      (∀ j, e ≠ .post j) ∧ left N n s' + 1 ≤ left N n s := by
  cases h with
  | @post j queue current hworker =>
    refine Or.inl ⟨j, rfl, ?_⟩
    have hmoved := left_setWorker (n := n) (s := s) (hroute j) ⟨queue ++ [j], current⟩
    rw [hworker] at hmoved
    unfold stepsLeft at hmoved
    rw [List.length_append, List.length_singleton, Nat.add_mul, Nat.one_mul] at hmoved
    dsimp only at hmoved
    omega
  | @start j queue p hworker hp =>
    refine Or.inr ⟨nofun, ?_⟩
    have hmoved := left_setWorker (n := n) (s := s) (hroute j) ⟨queue, some (j, p)⟩
    have hdepth : p.depth ≤ n := (hwork j p hp).depth_le
    rw [hworker] at hmoved
    unfold stepsLeft at hmoved
    rw [List.length_cons, Nat.succ_mul] at hmoved
    dsimp only at hmoved
    omega
  | @act j queue c next a w hworker ha =>
    refine Or.inr ⟨nofun, ?_⟩
    have hmoved := left_setWorker (n := n) (s := s) (hroute j) ⟨queue, some (j, next a)⟩
    have hdepth := (hs (route j) j (.call c next) (by rw [hworker])).depth_next a
    rw [hworker] at hmoved
    unfold stepsLeft at hmoved
    dsimp only at hmoved
    show Pool.left N n (s.setWorker (route j) ⟨queue, some (j, next a)⟩) + 1 ≤ _
    omega
  | @finish j queue hworker =>
    refine Or.inr ⟨nofun, ?_⟩
    have hmoved := left_setWorker (n := n) (s := s) (hroute j) ⟨queue, none⟩
    rw [hworker] at hmoved
    unfold stepsLeft at hmoved
    dsimp only at hmoved
    omega

/-- Jobs are counted worker by worker. -/
theorem sum_filter_route (hroute : ∀ j, route j < N) (l : List J) :
    ∑ i ∈ Finset.range N, (l.filter fun j => decide (route j = i)).length = l.length := by
  induction l with
  | nil => simp
  | cons j l ih =>
    have hcons : ∀ i, ((j :: l).filter fun j => decide (route j = i)).length =
        (l.filter fun j => decide (route j = i)).length + if route j = i then 1 else 0 := by
      intro i
      by_cases hi : route j = i
      · simp [hi]
      · simp [hi]
    rw [Finset.sum_congr rfl fun i _ => hcons i, Finset.sum_add_distrib, ih, Finset.sum_ite_eq,
      if_pos (Finset.mem_range.mpr (hroute j)), List.length_cons]

/-- What has been posted has been finished or is with the workers. -/
theorem sum_jobs (hroute : ∀ j, route j < N) (h : Run (Step route step work) (idle w₀) tr s) :
    (finished tr).length + ∑ i ∈ Finset.range N, (s.workers i).jobs.length = (posted tr).length := by
  rw [← sum_filter_route hroute (posted tr), ← sum_filter_route hroute (finished tr),
    ← Finset.sum_add_distrib]
  refine Finset.sum_congr rfl fun i _ => ?_
  rw [posted_eq h i, List.length_append]

/-- What is left is at most what the jobs that are with the workers can take. -/
theorem left_le (hs : Bounded n s) :
    left N n s ≤ (∑ i ∈ Finset.range N, (s.workers i).jobs.length) * (n + 2) := by
  unfold left
  rw [Finset.sum_mul]
  refine Finset.sum_le_sum fun i _ => ?_
  unfold stepsLeft Worker.jobs
  generalize hworker : s.workers i = worker
  obtain ⟨queue, current⟩ := worker
  cases current with
  | none => simp
  | some current =>
    obtain ⟨j, p⟩ := current
    have hdepth : p.depth ≤ n := (hs i j p (by rw [hworker])).depth_le
    rw [List.length_append, List.length_map, Option.toList_some, List.length_singleton, Nat.add_mul]
    dsimp only
    omega

end Left

end Pool

end Zattd
