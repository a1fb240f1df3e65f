/-
  The WORKER POOL at the time packets are accepted.

  `Run` starts the workers one after the other, and shuts the pool down if one does not start.
  `ZAresdServer::Initialize` goes on as if it had not: the port is opened, and the first packet
  divides by the size of an empty pool.  So does one in a pool configured with no worker.

  The invariant (`StartUp`): from `Run` on, the pool is either complete and started or empty.
-/
import Zattd.Handler.ServerStart

set_option linter.unusedVariables false

namespace Zattd

namespace ZAresHandlerThreadManager

variable {m m' : ZAresHandlerThreadManager} {n : Nat}

/-- The two members say the same, and the threads know their places. -/
structure Consistent (m : ZAresHandlerThreadManager) : Prop where
  size : m.threadPool.length = m.threadPoolSize
  index : ∀ (i : Nat) (t : ZAresHandlerThread), m.threadPool[i]? = some t → t.threadIndex = i

/-- The threads before `i` have been started. -/
def StartedBelow (i : Nat) (m : ZAresHandlerThreadManager) : Prop :=
  ∀ (j : Nat) (t : ZAresHandlerThread), j < i → m.threadPool[j]? = some t → t.state = .started

theorem thread_ok {i : Nat} {t : ZAresHandlerThread} : m.thread i = .ok t ↔
    m.threadPool[i]? = some t := by
  unfold thread
  split
  · simp_all
  · simp_all

/-- Within the size there is a thread at every place. -/
theorem Consistent.thread (h : m.Consistent) {i : Nat} (hi : i < m.threadPoolSize) :
    ∃ t, m.threadPool[i]? = some t ∧ m.thread i = .ok t ∧ t.threadIndex = i := by
  have hlt : i < m.threadPool.length := by rw [h.size]; exact hi
  have hget : m.threadPool[i]? = some m.threadPool[i] := List.getElem?_eq_getElem hlt
  exact ⟨_, hget, thread_ok.mpr hget, h.index i _ hget⟩

theorem consistent_initializePool (n : Nat) : (new.initializePool n).Consistent := by
  constructor
  · simp [initializePool, new]
  · intro i t ht
    obtain ⟨i', hi', rfl⟩ := by simpa [initializePool, new] using ht
    obtain ⟨hlt, rfl⟩ := List.getElem?_eq_some_iff.mp hi'
    exact List.getElem_range hlt

/-- Starting one thread keeps the pool as it is otherwise. -/
theorem Consistent.set (h : m.Consistent) {i : Nat} {t : ZAresHandlerThread}
    (ht : m.threadPool[i]? = some t) (hbelow : StartedBelow i m) :
    ({ m with threadPool := m.threadPool.set i t.run } : ZAresHandlerThreadManager).Consistent ∧
      StartedBelow (i + 1) { m with threadPool := m.threadPool.set i t.run } := by
  have hlt : i < m.threadPool.length := (List.getElem?_eq_some_iff.mp ht).1
  refine ⟨⟨by simpa using h.size, ?_⟩, ?_⟩
  · intro j t' ht'
    by_cases hij : i = j
    · subst hij
      obtain rfl : t.run = t' := by simpa [hlt] using ht'
      exact h.index i t ht
    · exact h.index j t' (by simpa [List.getElem?_set_ne hij] using ht')
  · intro j t' hj ht'
    by_cases hij : i = j
    · subst hij
      obtain rfl : t.run = t' := by simpa [hlt] using ht'
      rfl
    · exact hbelow j t' (by omega) (by simpa [List.getElem?_set_ne hij] using ht')

/-- The loop of `Run` finds a thread at every place, and ends with all of them started if they
    all start. -/
theorem runLoop_spec (starts : Nat → Bool) {left i : Nat} (h : m.Consistent)
    (hbelow : StartedBelow i m) (hsize : i + left = m.threadPoolSize) : ∃ bRt m', runLoop starts left i m = .ok (bRt, m') ∧
      m'.threadPoolSize = m.threadPoolSize ∧ m'.Consistent ∧
      (bRt = true ↔ ∀ j, i ≤ j → j < m.threadPoolSize → starts j = true) ∧
      (bRt = true → StartedBelow m.threadPoolSize m') := by
  induction left generalizing i m with
  | zero =>
    obtain rfl : i = m.threadPoolSize := by omega
    exact ⟨true, m, rfl, rfl, h, iff_of_true rfl fun j hj hlt => by omega, fun _ => hbelow⟩
  | succ left ih =>
    obtain ⟨t, hget, hthread, hindex⟩ := h.thread (show i < m.threadPoolSize by omega)
    have hloop : runLoop starts (left + 1) i m = if starts t.threadIndex then
        runLoop starts left (i + 1) { m with threadPool := m.threadPool.set i t.run }
      else return (false, m) := by
      rw [runLoop, hthread]
      rfl
    rw [hloop, hindex]
    cases hstarts : starts i with
    | false =>
      refine ⟨false, m, rfl, rfl, h, iff_of_false Bool.false_ne_true fun hall => ?_, fun hfalse => by
        cases hfalse⟩
      rw [hall i (le_refl i) (by omega)] at hstarts
      cases hstarts
    | true =>
      obtain ⟨hset, hnext⟩ := h.set hget hbelow
      obtain ⟨bRt, m', hrun, hsame, hcons, hiff, hdone⟩ := ih hset hnext
        (by show i + 1 + left = m.threadPoolSize; omega)
      refine ⟨bRt, m', hrun, hsame, hcons, hiff.trans ⟨fun hall j hij hj => ?_, fun hall j hij hj =>
        hall j (by omega) hj⟩, hdone⟩
      rcases Nat.eq_or_lt_of_le hij with rfl | hlt
      · exact hstarts
      · exact hall j hlt hj

/-- `Shutdown` finds a thread at every place, and leaves none. -/
theorem Consistent.shutdown (h : m.Consistent) : m.shutdown = .ok new := by
  have hstopped : ∀ is : List Nat, (∀ i ∈ is, i < m.threadPoolSize) →
      ∃ ts, (is.mapM fun i => return (← m.thread i).stop : Except PoolFault _) = .ok ts := by
    intro is
    induction is with
    | nil => exact fun _ => ⟨[], rfl⟩
    | cons i is ih =>
      intro hall
      obtain ⟨t, -, hthread, -⟩ := h.thread (hall i List.mem_cons_self)
      obtain ⟨ts, hts⟩ := ih fun j hj => hall j (List.mem_cons_of_mem _ hj)
      refine ⟨t.stop :: ts, ?_⟩
      rw [List.mapM_cons, hthread, hts]
      rfl
  unfold ZAresHandlerThreadManager.shutdown
  split
  · obtain ⟨ts, hts⟩ := hstopped (List.range m.threadPoolSize) fun i hi => List.mem_range.mp hi
    rw [hts]
    rfl
  · have hzero : m.threadPoolSize = 0 := by omega
    have hempty : m.threadPool = [] := List.length_eq_zero_iff.mp (h.size.trans hzero)
    obtain ⟨threadPool, threadPoolSize⟩ := m
    subst hzero hempty
    rfl

/-- The pool is complete, and all its threads have been started. -/
structure Started (n : Nat) (m : ZAresHandlerThreadManager) : Prop where
  consistent : m.Consistent
  size : m.threadPoolSize = n
  started : StartedBelow n m

/-- `Run` has no fault: it starts all the threads, or leaves none. -/
theorem run_spec (starts : Nat → Bool) (h : m.Consistent) : ∃ bRt m', m.run starts = .ok (bRt, m') ∧
    (bRt = true ↔ ∀ i < m.threadPoolSize, starts i = true) ∧
    (bRt = true → m'.Started m.threadPoolSize) ∧ (bRt = false → m' = new) := by
  have hnone : StartedBelow 0 m := fun j t hj => absurd hj (Nat.not_lt_zero j)
  obtain ⟨bRt, m', hloop, hsize, hcons, hiff, hdone⟩ :=
    runLoop_spec starts h hnone (Nat.zero_add m.threadPoolSize)
  have hall : bRt = true ↔ ∀ i < m.threadPoolSize, starts i = true :=
    hiff.trans ⟨fun h i => h i (Nat.zero_le i), fun h i _ => h i⟩
  cases bRt with
  | true =>
    refine ⟨true, m', ?_, hall, fun _ => ⟨hcons, hsize, hdone rfl⟩, fun hfalse => by cases hfalse⟩
    rw [run, hloop]
    rfl
  | false =>
    refine ⟨false, new, ?_, hall, fun htrue => (Bool.false_ne_true htrue).elim, fun _ => rfl⟩
    have hshutdown := hcons.shutdown
    rw [run, hloop]
    show (do return (false, ← m'.shutdown) : Except PoolFault _) = _
    rw [hshutdown]
    rfl

/-- A started pool deals a packet to the thread in whose turn it is. -/
theorem Started.getNextThread (h : m.Started n) (hn : 1 ≤ n) (next : Nat) :
    ∃ t ∈ m.threadPool, m.getNextThread next = .ok t ∧ t.state = .started ∧
      t.threadIndex = HandlerThreads.getNextThread n next := by
  obtain rfl := h.size
  have hturn : HandlerThreads.getNextThread m.threadPoolSize next < m.threadPoolSize := by
    unfold HandlerThreads.getNextThread
    split
    · omega
    · exact Nat.mod_lt _ hn
  obtain ⟨t, hget, hthread, hindex⟩ := h.consistent.thread hturn
  refine ⟨t, List.mem_of_getElem? hget, ?_, h.started _ t hturn hget, hindex⟩
  rw [← hthread, ZAresHandlerThreadManager.getNextThread, HandlerThreads.getNextThread]
  by_cases hone : m.threadPoolSize = 1
  · rw [if_pos hone, if_pos hone]
  · rw [if_neg hone, if_neg hone, if_neg (by omega)]

/-- Whatever number is drawn, a packet that is admitted is posted to a thread of the pool that has been
    started and not stopped. -/
def CanServe (m : ZAresHandlerThreadManager) : Prop :=
  ∀ next sessionId packet, onDataReceived packet = .postDataToDbHandler → ∃ t ∈ m.threadPool,
    m.postDataToDbHandler next sessionId packet = .ok (t, ⟨next, sessionId, packet⟩) ∧
      t.state = .started

theorem Started.canServe (h : m.Started n) (hn : 1 ≤ n) : m.CanServe := by
  intro next sessionId packet hadmitted
  obtain ⟨t, hmem, hthread, hstate, -⟩ := h.getNextThread hn next
  refine ⟨t, hmem, ?_, hstate⟩
  rw [postDataToDbHandler, hthread]
  rfl

/-- A pool of size 0 divides by it. -/
theorem not_canServe (h : m.threadPoolSize = 0) : ¬m.CanServe := by
  intro hserves
  obtain ⟨t, -, hpost, -⟩ := hserves 0 0 ⟨messageMsgData, 0, []⟩ (by decide)
  rw [postDataToDbHandler, ZAresHandlerThreadManager.getNextThread, h] at hpost
  cases hpost

end ZAresHandlerThreadManager

namespace ZAresdServer

open ZAresHandlerThreadManager

variable {o : Outside} {s s' : ZAresdServer}

/-- The server comes into this state by `Initialize`. -/
def Reachable (o : Outside) (s : ZAresdServer) : Prop := ∃ ls, Run (Step o) start ls s

/-- All the workers that are configured start. -/
def AllStart (o : Outside) : Prop := ∀ i < o.maxConnCount, o.starts i = true

/-- The pool after `Run`. -/
def Ran (o : Outside) (m : ZAresHandlerThreadManager) : Prop :=
  (AllStart o ∧ m.Started o.maxConnCount) ∨ (¬AllStart o ∧ m = .new)

/-- The invariant of `Initialize`. -/
def StartUp (o : Outside) (s : ZAresdServer) : Prop :=
  match s.next with
  | .modelMainManager | .initializeThreads => s.threadManager = .new ∧ s.accepting = false
  | .runThreads => s.threadManager = ZAresHandlerThreadManager.new.initializePool o.maxConnCount ∧
      s.accepting = false
  | .netEngine | .registerPDUMessageFactory | .initMessageHandlerTable | .clientCommManager =>
      Ran o s.threadManager ∧ s.accepting = false
  | .returned _ => Ran o s.threadManager ∧ s.accepting = o.creates

theorem run_ran (o : Outside) : ∃ bRt m,
    (ZAresHandlerThreadManager.new.initializePool o.maxConnCount).run o.starts = .ok (bRt, m) ∧
      Ran o m := by
  obtain ⟨bRt, m, hrun, hall, hstarted, hnone⟩ :=
    run_spec o.starts (consistent_initializePool o.maxConnCount)
  refine ⟨bRt, m, hrun, ?_⟩
  cases bRt with
  | true => exact Or.inl ⟨hall.mp rfl, hstarted rfl⟩
  | false => exact Or.inr ⟨fun h => Bool.false_ne_true (hall.mpr h), hnone rfl⟩

/-- Every statement of `Initialize` keeps the invariant. -/
theorem Step.startUp {l : InitializeStep} (hs : StartUp o s) (h : Step o s l s') : StartUp o s' := by
  cases h with
  | modelMainManager hnext | netEngine hnext | registerPDUMessageFactory hnext
  | initMessageHandlerTable hnext =>
    simpa only [StartUp, hnext] using hs
  | initializeThreads hnext =>
    simp only [StartUp, hnext] at hs ⊢
    rw [hs.1]
    exact ⟨rfl, hs.2⟩
  | runThreads hnext hrun =>
    simp only [StartUp, hnext] at hs ⊢
    obtain ⟨bRt, m, hrun', hran⟩ := run_ran o
    rw [hs.1, hrun'] at hrun
    cases hrun
    exact ⟨hran, hs.2⟩
  | clientCommManager hnext =>
    simp only [StartUp, hnext] at hs ⊢
    exact ⟨hs.1, trivial⟩

theorem Reachable.startUp (h : Reachable o s) : StartUp o s := by
  obtain ⟨ls, hrun⟩ := h
  exact hrun.invariant (StartUp o) (fun _ _ _ hs hstep => Step.startUp hs hstep) ⟨rfl, rfl⟩

/-- `Initialize` has no fault of its own: it goes on until it returns. -/
theorem Reachable.progress (h : Reachable o s) :
    (∃ result, s.next = .returned result) ∨ ∃ l s', Step o s l s' := by
  have hs := h.startUp
  cases hnext : s.next with
  | modelMainManager => exact Or.inr ⟨_, _, .modelMainManager hnext⟩
  | initializeThreads => exact Or.inr ⟨_, _, .initializeThreads hnext⟩
  | runThreads =>
    simp only [StartUp, hnext] at hs
    obtain ⟨bRt, m, hrun, -⟩ := run_ran o
    rw [← hs.1] at hrun
    exact Or.inr ⟨_, _, .runThreads hnext hrun⟩
  | netEngine => exact Or.inr ⟨_, _, .netEngine hnext⟩
  | registerPDUMessageFactory => exact Or.inr ⟨_, _, .registerPDUMessageFactory hnext⟩
  | initMessageHandlerTable => exact Or.inr ⟨_, _, .initMessageHandlerTable hnext⟩
  | clientCommManager => exact Or.inr ⟨_, _, .clientCommManager hnext⟩
  | returned result => exact Or.inl ⟨result, rfl⟩

/-- If packets are accepted, `Run` is over, and the port has been opened. -/
theorem Reachable.ran (h : Reachable o s) (haccepting : s.accepting = true) :
    Ran o s.threadManager ∧ o.creates = true := by
  have hs := h.startUp
  unfold StartUp at hs
  split at hs
  all_goals rw [haccepting] at hs
  all_goals first
    | exact ⟨hs.1, hs.2.symm⟩
    | exact absurd hs.2.symm Bool.false_ne_true

/-- If the port can be opened, it is, whatever has become of the workers. -/
theorem exists_accepting (h : o.creates = true) : ∃ s, Reachable o s ∧ s.accepting = true := by
  obtain ⟨bRt, m, hrun, -⟩ := run_ran o
  have hrunning := Run.nil.snoc (Step.modelMainManager (o := o) (s := start) rfl)
    |>.snoc (.initializeThreads rfl) |>.snoc (.runThreads rfl hrun)
  have haccepting := hrunning.snoc (.netEngine rfl) |>.snoc (.registerPDUMessageFactory rfl)
    |>.snoc (.initMessageHandlerTable rfl) |>.snoc (.clientCommManager rfl)
  exact ⟨_, ⟨_, haccepting⟩, h⟩

/-- Wherever packets are accepted, the pool can serve them. -/
def PoolServes (o : Outside) : Prop :=
  ∀ s, Reachable o s → s.accepting = true → s.threadManager.CanServe

/-- **The pool.**  It can serve every packet that is accepted exactly if no packet is accepted at all, or
    there is a worker and every worker starts. -/
theorem poolServes_iff (o : Outside) :
    PoolServes o ↔ (o.creates = true → 1 ≤ o.maxConnCount ∧ AllStart o) := by
  constructor
  · intro hserves hcreates
    obtain ⟨s, hreachable, haccepting⟩ := exists_accepting hcreates
    have hserve := hserves s hreachable haccepting
    rcases (hreachable.ran haccepting).1 with ⟨hall, hstarted⟩ | ⟨-, hnew⟩
    · refine ⟨?_, hall⟩
      by_contra hnone
      exact not_canServe (by rw [hstarted.size]; omega) hserve
    · exact absurd hserve (not_canServe (by rw [hnew]; rfl))
  · intro hcondition s hreachable haccepting
    obtain ⟨hran, hcreates⟩ := hreachable.ran haccepting
    obtain ⟨hone, hall⟩ := hcondition hcreates
    rcases hran with ⟨-, hstarted⟩ | ⟨hnot, -⟩
    · exact hstarted.canServe hone
    · exact absurd hall hnot

/-- Five workers, of which the third does not start. -/
def thirdFails : Outside where
  maxConnCount := 5
  starts := fun i => decide (i ≠ 2)
  engineRuns := true
  creates := true

/-- The server listens all the same. -/
theorem not_forall_poolServes : ¬∀ o, PoolServes o := by
  intro hall
  obtain ⟨s, hreachable, haccepting⟩ := exists_accepting (o := thirdFails) rfl
  rcases (hreachable.ran haccepting).1 with ⟨hstart, -⟩ | ⟨-, hnew⟩
  · exact absurd (hstart 2 (by decide)) (by decide)
  · exact not_canServe (by rw [hnew]; rfl) (hall thirdFails s hreachable haccepting)

end ZAresdServer

end Zattd
