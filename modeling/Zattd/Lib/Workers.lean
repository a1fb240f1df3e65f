/-
  WORKERS with queues: several threads over one world, each doing the jobs that are posted to it one
  after the other.

  A job in progress is a program (`Prog`), and between any two of its commands the other workers may
  go on.  `route` says whose queue a job is put into.  What a worker has finished, the job it is at
  and its queue are, in this order, what has been posted to it (`posted_eq`), whatever the others do:
  so of two jobs of ONE worker the earlier is done before the later is begun (`inOrder`).  Nothing is
  said about jobs of different workers, and nothing could be.
-/
import Zattd.Lib.Prog
import Zattd.Lib.Run

set_option linter.unusedVariables false

namespace Zattd

/-- A worker: the jobs in its queue, and the one it is at, with what remains of its program. -/
structure Worker (C : Type) (A : C → Type) (J : Type) where
  queue : List J
  current : Option (J × Prog C A Unit)

/-- Workers over one world. -/
structure Pool (S C : Type) (A : C → Type) (J : Type) where
  world : S
  workers : Nat → Worker C A J

/-- What happens in a pool. -/
inductive PoolEvent (C : Type) (A : C → Type) (J : Type) : Type
  /-- A job is put into a queue. -/
  | post (j : J)
  /-- It is taken from the queue. -/
  | start (j : J)
  /-- A command of its program is answered. -/
  | act (j : J) (c : C) (a : A c)
  /-- Its program has ended. -/
  | finish (j : J)

variable {S C J : Type} {A : C → Type}

namespace Worker

/-- A worker with nothing to do. -/
def idle : Worker C A J := ⟨[], none⟩

/-- The job it is at, and those that wait. -/
def jobs (worker : Worker C A J) : List J :=
  worker.current.toList.map Prod.fst ++ worker.queue

end Worker

namespace PoolEvent

/-- The job that is worked on. -/
def worksOn : PoolEvent C A J → Option J
  | .post _ => none
  | .start j | .act j _ _ | .finish j => some j

end PoolEvent

namespace Pool

/-- All workers idle. -/
def idle (w : S) : Pool S C A J := ⟨w, fun _ => .idle⟩

/-- Another worker in the place of worker `i`. -/
def setWorker (s : Pool S C A J) (i : Nat) (worker : Worker C A J) : Pool S C A J :=
  { s with workers := Function.update s.workers i worker }

@[simp] theorem setWorker_same (s : Pool S C A J) (i : Nat) (worker : Worker C A J) :
    (s.setWorker i worker).workers i = worker := Function.update_self ..

@[simp] theorem setWorker_of_ne (s : Pool S C A J) {i i' : Nat} (worker : Worker C A J) (h : i' ≠ i) :
    (s.setWorker i worker).workers i' = s.workers i' := Function.update_of_ne h ..

/-- One step of a pool: a job `j` is put at the end of the queue of worker `route j`, or one worker
    goes on. -/
inductive Step (route : J → Nat) (step : S → (c : C) → A c → S → Prop)
    (work : J → Prog C A Unit → Prop) :
    Pool S C A J → PoolEvent C A J → Pool S C A J → Prop
  | post {s : Pool S C A J} {j : J} {queue : List J} {current : Option (J × Prog C A Unit)} :
      s.workers (route j) = ⟨queue, current⟩ →
      Step route step work s (.post j) (s.setWorker (route j) ⟨queue ++ [j], current⟩)
  | start {s : Pool S C A J} {j : J} {queue : List J} {p : Prog C A Unit} :
      s.workers (route j) = ⟨j :: queue, none⟩ → work j p →
      Step route step work s (.start j) (s.setWorker (route j) ⟨queue, some (j, p)⟩)
  | act {s : Pool S C A J} {j : J} {queue : List J} {c : C} {next : A c → Prog C A Unit} {a : A c}
      {w : S} :
      s.workers (route j) = ⟨queue, some (j, .call c next)⟩ → step s.world c a w →
      Step route step work s (.act j c a)
        { s.setWorker (route j) ⟨queue, some (j, next a)⟩ with world := w }
  | finish {s : Pool S C A J} {j : J} {queue : List J} :
      s.workers (route j) = ⟨queue, some (j, .ret ())⟩ →
      Step route step work s (.finish j) (s.setWorker (route j) ⟨queue, none⟩)

/-- The jobs posted, in order. -/
def posted (tr : List (PoolEvent C A J)) : List J :=
  tr.filterMap fun
    | .post j => some j
    | _ => none

/-- The jobs finished, in order. -/
def finished (tr : List (PoolEvent C A J)) : List J :=
  tr.filterMap fun
    | .finish j => some j
    | _ => none

/-- `j` is done before `j'` is begun: whenever `j'` is worked on, `j` has been finished, and is not
    worked on any more. -/
def InOrder (tr : List (PoolEvent C A J)) (j j' : J) : Prop :=
  ∀ pre e post, tr = pre ++ e :: post → e.worksOn = some j' →
    j ∈ finished pre ∧ ∀ e' ∈ e :: post, e'.worksOn ≠ some j

section Runs

variable {route : J → Nat} {step : S → (c : C) → A c → S → Prop} {work : J → Prog C A Unit → Prop}
  {s s' : Pool S C A J} {w₀ : S} {e : PoolEvent C A J} {tr : List (PoolEvent C A J)} {j j' : J}

@[simp] theorem posted_append (tr tr' : List (PoolEvent C A J)) :
    posted (tr ++ tr') = posted tr ++ posted tr' := List.filterMap_append

@[simp] theorem finished_append (tr tr' : List (PoolEvent C A J)) :
    finished (tr ++ tr') = finished tr ++ finished tr' := List.filterMap_append

/-- What one step does to the jobs of a worker: a job of his comes to the end, or the first goes. -/
theorem Step.jobs_cases (h : Step route step work s e s') (i : Nat) :
    (∃ j, e = .post j ∧ route j = i ∧ (s'.workers i).jobs = (s.workers i).jobs ++ [j]) ∨
    (∃ j, e = .finish j ∧ route j = i ∧ (s.workers i).jobs = j :: (s'.workers i).jobs) ∨
    ((∀ j, e = .post j ∨ e = .finish j → route j ≠ i) ∧ (s'.workers i).jobs = (s.workers i).jobs) := by
  cases h with
  | @post j queue current hworker =>
    by_cases hi : route j = i
    · subst hi
      refine Or.inl ⟨j, rfl, rfl, ?_⟩
      rw [hworker]
      simp [Worker.jobs]
    · refine Or.inr (Or.inr ⟨?_, ?_⟩)
      · rintro j' (heq | heq)
        · obtain rfl := PoolEvent.post.inj heq
          exact hi
        · cases heq
      · rw [setWorker_of_ne _ _ (Ne.symm hi)]
  | @finish j queue hworker =>
    by_cases hi : route j = i
    · subst hi
      refine Or.inr (Or.inl ⟨j, rfl, rfl, ?_⟩)
      rw [hworker]
      simp [Worker.jobs]
    · refine Or.inr (Or.inr ⟨?_, ?_⟩)
      · rintro j' (heq | heq)
        · cases heq
        · obtain rfl := PoolEvent.finish.inj heq
          exact hi
      · rw [setWorker_of_ne _ _ (Ne.symm hi)]
  | @start j queue p hworker hp =>
    refine Or.inr (Or.inr ⟨by simp, ?_⟩)
    by_cases hi : route j = i
    · subst hi
      rw [hworker]
      simp [Worker.jobs]
    · rw [setWorker_of_ne _ _ (Ne.symm hi)]
  | @act j queue c next a w hworker ha =>
    refine Or.inr (Or.inr ⟨by simp, ?_⟩)
    by_cases hi : route j = i
    · subst hi
      rw [hworker]
      simp [Worker.jobs]
    · show ((s.setWorker (route j) _).workers i).jobs = _
      rw [setWorker_of_ne _ _ (Ne.symm hi)]

/-- Where a job is begun it was the next one. -/
theorem Step.of_start (h : Step route step work s (.start j) s') :
    s'.world = s.world ∧ ∃ queue, s.workers (route j) = ⟨j :: queue, none⟩ := by
  cases h with
  | start hworker hp => exact ⟨rfl, _, hworker⟩

/-- Where a command is issued it was the next one of its job. -/
theorem Step.of_act {c : C} {a : A c} (h : Step route step work s (.act j c a) s') :
    step s.world c a s'.world ∧
      ∃ next, (s.workers (route j)).current = some (j, .call c next) := by
  cases h with
  | act hworker ha => exact ⟨ha, _, by rw [hworker]⟩

/-- A job is finished when its worker has come to its end, and nothing else happens. -/
theorem Step.of_finish (h : Step route step work s (.finish j) s') :
    s'.world = s.world ∧ (s.workers (route j)).current = some (j, .ret ()) := by
  cases h with
  | finish hworker => exact ⟨rfl, by rw [hworker]⟩

/-- Only a command changes the world. -/
theorem Step.world_eq (h : Step route step work s e s') (hno : ∀ j c a, e ≠ .act j c a) :
    s'.world = s.world := by
  cases h with
  | act hworker ha => exact absurd rfl (hno _ _ _)
  | post | start | finish => rfl

/-- What a worker is at after a step: what he was at, unless the step was his; what he has begun; or
    what is left of it after one command. -/
theorem Step.current_cases {i : Nat} {q : Prog C A Unit} (h : Step route step work s e s')
    (hcurrent : (s'.workers i).current = some (j, q)) :
    ((s.workers i).current = some (j, q) ∧ ∀ j' c a, e = .act j' c a → route j' ≠ i) ∨
    (e = .start j ∧ route j = i ∧ work j q) ∨
    ∃ c next a, e = .act j c a ∧ route j = i ∧ (s.workers i).current = some (j, .call c next) ∧
      q = next a := by
  cases h with
  | @post j' queue current hworker =>
    refine Or.inl ⟨?_, fun _ _ _ heq => by cases heq⟩
    by_cases hi : i = route j'
    · subst hi
      rw [setWorker_same] at hcurrent
      rw [hworker]
      exact hcurrent
    · rwa [setWorker_of_ne _ _ hi] at hcurrent
  | @start j' queue p hworker hp =>
    by_cases hi : i = route j'
    · subst hi
      rw [setWorker_same] at hcurrent
      obtain ⟨rfl, rfl⟩ := Prod.mk.inj (Option.some.inj hcurrent)
      exact Or.inr (Or.inl ⟨rfl, rfl, hp⟩)
    · rw [setWorker_of_ne _ _ hi] at hcurrent
      exact Or.inl ⟨hcurrent, fun _ _ _ heq => by cases heq⟩
  | @act j' queue c next a w hworker ha =>
    by_cases hi : i = route j'
    · subst hi
      have hafter : some (j', next a) = some (j, q) :=
        (congrArg Worker.current (setWorker_same s (route j') _)).symm.trans hcurrent
      obtain ⟨rfl, rfl⟩ := Prod.mk.inj (Option.some.inj hafter)
      exact Or.inr (Or.inr ⟨c, next, a, rfl, rfl, by rw [hworker], rfl⟩)
    · refine Or.inl ⟨by rwa [← setWorker_of_ne s ⟨queue, some (j', next a)⟩ hi], ?_⟩
      intro j'' c' a' heq
      obtain ⟨rfl, -⟩ := PoolEvent.act.inj heq
      exact Ne.symm hi
  | @finish j' queue hworker =>
    by_cases hi : i = route j'
    · subst hi
      rw [setWorker_same] at hcurrent
      cases hcurrent
    · rw [setWorker_of_ne _ _ hi] at hcurrent
      exact Or.inl ⟨hcurrent, fun _ _ _ heq => by cases heq⟩

/-- A job that a worker is at he stays at, until it is finished. -/
theorem Step.current_stays {i : Nat} {q : Prog C A Unit} (h : Step route step work s e s')
    (hcurrent : (s.workers i).current = some (j, q)) :
    (∃ q', (s'.workers i).current = some (j, q')) ∨ e = .finish j := by
  cases h with
  | @post j' queue current hworker =>
    refine Or.inl ⟨q, ?_⟩
    by_cases hi : i = route j'
    · subst hi
      rw [hworker] at hcurrent
      rw [setWorker_same]
      exact hcurrent
    · rwa [setWorker_of_ne _ _ hi]
  | @start j' queue p hworker hp =>
    by_cases hi : i = route j'
    · subst hi
      rw [hworker] at hcurrent
      cases hcurrent
    · exact Or.inl ⟨q, by rwa [setWorker_of_ne _ _ hi]⟩
  | @act j' queue c next a w hworker ha =>
    by_cases hi : i = route j'
    · subst hi
      rw [hworker] at hcurrent
      obtain ⟨rfl, -⟩ := Prod.mk.inj (Option.some.inj hcurrent)
      exact Or.inl ⟨next a, congrArg Worker.current (setWorker_same s (route j') _)⟩
    · refine Or.inl ⟨q, ?_⟩
      show ((s.setWorker (route j') ⟨queue, some (j', next a)⟩).workers i).current = some (j, q)
      rwa [setWorker_of_ne _ _ hi]
  | @finish j' queue hworker =>
    by_cases hi : i = route j'
    · subst hi
      rw [hworker] at hcurrent
      obtain ⟨rfl, -⟩ := Prod.mk.inj (Option.some.inj hcurrent)
      exact Or.inr rfl
    · exact Or.inl ⟨q, by rwa [setWorker_of_ne _ _ hi]⟩

/-- What is in a queue after a step was in it, or has just been posted. -/
theorem Step.queue_cases {i : Nat} (h : Step route step work s e s') (hj : j ∈ (s'.workers i).queue) :
    j ∈ (s.workers i).queue ∨ e = .post j ∧ route j = i := by
  cases h with
  | @post j' queue current hworker =>
    by_cases hi : i = route j'
    · subst hi
      rw [setWorker_same] at hj
      rw [hworker]
      rcases List.mem_append.mp hj with hold | hlast
      · exact Or.inl hold
      · obtain rfl := List.mem_singleton.mp hlast
        exact Or.inr ⟨rfl, rfl⟩
    · rw [setWorker_of_ne _ _ hi] at hj
      exact Or.inl hj
  | @start j' queue p hworker hp =>
    refine Or.inl ?_
    by_cases hi : i = route j'
    · subst hi
      rw [setWorker_same] at hj
      rw [hworker]
      exact List.mem_cons_of_mem _ hj
    · rwa [setWorker_of_ne _ _ hi] at hj
  | @act j' queue c next a w hworker ha =>
    refine Or.inl ?_
    by_cases hi : i = route j'
    · subst hi
      have hqueue : j ∈ ((s.setWorker (route j') ⟨queue, some (j', next a)⟩).workers (route j')).queue :=
        hj
      rw [setWorker_same] at hqueue
      rw [hworker]
      exact hqueue
    · rwa [← setWorker_of_ne s ⟨queue, some (j', next a)⟩ hi]
  | @finish j' queue hworker =>
    refine Or.inl ?_
    by_cases hi : i = route j'
    · subst hi
      rw [setWorker_same] at hj
      rw [hworker]
      exact hj
    · rwa [setWorker_of_ne _ _ hi] at hj

/-- The job that is worked on is the first of its worker. -/
theorem Step.jobs_head (h : Step route step work s e s') (hj : e.worksOn = some j) :
    ∃ rest, (s.workers (route j)).jobs = j :: rest := by
  cases h with
  | post hworker => cases hj
  | start hworker hp =>
    obtain rfl := Option.some.inj hj
    exact ⟨_, by rw [hworker]; rfl⟩
  | act hworker ha =>
    obtain rfl := Option.some.inj hj
    exact ⟨_, by rw [hworker]; rfl⟩
  | finish hworker =>
    obtain rfl := Option.some.inj hj
    exact ⟨_, by rw [hworker]; rfl⟩

/-- **First in, first out.**  What has been posted to a worker is what it has finished, then the job it
    is at and its queue. -/
theorem posted_eq (h : Run (Step route step work) (idle w₀) tr s) (i : Nat) :
    (posted tr).filter (fun j => decide (route j = i)) =
      (finished tr).filter (fun j => decide (route j = i)) ++ (s.workers i).jobs := by
  induction h with
  | nil => rfl
  | @snoc tr e s₁ s₂ hrun hstep ih =>
    rw [posted_append, finished_append, List.filter_append, List.filter_append, ih]
    rcases hstep.jobs_cases i with ⟨j, rfl, hi, hjobs⟩ | ⟨j, rfl, hi, hjobs⟩ | ⟨hother, hjobs⟩
    · rw [hjobs]
      simp [posted, finished, hi]
    · rw [hjobs]
      simp [posted, finished, hi]
    · have hnone : ∀ x : List J, x = posted [e] ∨ x = finished [e] →
          x.filter (fun j => decide (route j = i)) = [] := by
        rintro x hx
        apply List.filter_eq_nil_iff.mpr
        intro j hj hi
        refine hother j ?_ (of_decide_eq_true hi)
        rcases hx with rfl | rfl
        · cases e <;> simp [posted] at hj ⊢
          exact hj.symm
        · cases e <;> simp [finished] at hj ⊢
          exact hj.symm
      rw [hjobs, hnone _ (Or.inl rfl), hnone _ (Or.inr rfl)]
      simp

/-- What is worked on has been posted. -/
theorem mem_posted_of_worksOn (h : Run (Step route step work) (idle w₀) tr s) (he : e ∈ tr)
    (hj : e.worksOn = some j) : j ∈ posted tr := by
  obtain ⟨pre, post, rfl⟩ := List.append_of_mem he
  obtain ⟨s₁, s₂, hpre, hstep, -⟩ := h.split
  obtain ⟨rest, hjobs⟩ := hstep.jobs_head hj
  have hmem : j ∈ (posted pre).filter fun x => decide (route x = route j) := by
    rw [posted_eq hpre (route j), hjobs]
    simp
  rw [posted_append]
  exact List.mem_append_left _ (List.mem_of_mem_filter hmem)

end Runs

end Pool

end Zattd
