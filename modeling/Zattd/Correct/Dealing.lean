/-
  DEALING packets to threads: what `GetNextThread` makes of a stream of packets.

  1. `dealt_fairly` — the threads get equally many packets, or one gets one more.  (The numbers come
     back to 0 after 2^32 of them, in the middle of a round if the number of threads does not divide
     2^32: for each time they have, one more.)
  2. `one_thread_serial` — a pool of one thread, for which no number is drawn at all, is no pool: it
     does the packets one after the other, as they have been posted, and what is known of handlers that
     are run by themselves is known of it.

  Of two threads or more, nothing like 2. could be said.
-/
import Zattd.Correct.Delivery

set_option linter.unusedVariables false

namespace Zattd

open Prog

/-! ## Rounds -/

/-- The numbers below `N` that are `i` modulo `n`, when they start from 0 again at `m`. -/
theorem count_wrapped (m n i N : Nat) (hm : 0 < m) : Nat.count (fun k => k % m % n = i) N =
    N / m * Nat.count (fun k => k % n = i) m + Nat.count (fun k => k % n = i) (N % m) := by
  -- below `m`, they have not started again
  have hbelow : ∀ r ≤ m, Nat.count (fun k => k % m % n = i) r = Nat.count (fun k => k % n = i) r := by
    intro r hr
    rw [Nat.count_eq_card_filter_range, Nat.count_eq_card_filter_range]
    refine congrArg Finset.card (Finset.filter_congr fun k hk => ?_)
    rw [Nat.mod_eq_of_lt ((Finset.mem_range.mp hk).trans_le hr)]
  have hrounds : ∀ q r, Nat.count (fun k => k % m % n = i) (q * m + r) =
      q * Nat.count (fun k => k % m % n = i) m + Nat.count (fun k => k % m % n = i) r := by
    intro q r
    induction q with
    | zero => rw [Nat.zero_mul, Nat.zero_mul, Nat.zero_add, Nat.zero_add]
    | succ q ih =>
      rw [Nat.succ_mul, Nat.add_comm (q * m), Nat.add_assoc, Nat.count_add]
      simp only [Nat.add_mod_left]
      rw [ih, Nat.succ_mul]
      omega
  have hN : N = N / m * m + N % m := by rw [Nat.mul_comm, Nat.div_add_mod]
  conv_lhs => rw [hN]
  rw [hrounds, hbelow m le_rfl, hbelow _ (Nat.mod_lt N hm).le]

/-- In a row of numbers no rest comes up twice more than another one. -/
theorem count_mod_le {n i i' : Nat} (hn : 0 < n) (hi : i < n) (hi' : i' < n) (N : Nat) :
    Nat.count (fun k => k % n = i) N ≤ Nat.count (fun k => k % n = i') N + 1 := by
  have hcard : ∀ v < n, Nat.count (fun k => k % n = v) N = N / n + if v < N % n then 1 else 0 := by
    intro v hv
    have hcount := Nat.count_modEq_card N hn v
    simp only [Nat.ModEq, Nat.mod_eq_of_lt hv] at hcount
    exact hcount
  rw [hcard i hi, hcard i' hi']
  split <;> split <;> omega

namespace HandlerThreads

variable {n : Nat} {bo : ByteOrder} {model : ModelModule} {w₀ : World} {s : HandlerThreads}
  {tr : List ThreadsEvent}

/-- The packets that a thread has got. -/
def dealtTo (n i : Nat) (tr : List ThreadsEvent) : Nat :=
  (received tr).countP fun j => decide (threadOf n j = i)

/-- How many they are is known from the numbers. -/
theorem dealtTo_eq (h : Threaded n bo model w₀ tr s) (hn : n ≠ 1) (i : Nat) :
    dealtTo n i tr = Nat.count (fun k => k % 2 ^ 32 % n = i) (received tr).length := by
  have hlength : s.nextThread = (received tr).length := by
    rw [← List.length_range (n := s.nextThread), ← h.numbers, List.length_map]
  have hnumbers : ((received tr).map (·.number)).countP (fun k => decide (k % 2 ^ 32 % n = i)) =
      dealtTo n i tr := by
    rw [List.countP_map]
    refine List.countP_congr fun j _ => ?_
    have hthread : threadOf n j = j.number % 2 ^ 32 % n := if_neg hn
    rw [hthread]
    rfl
  rw [← hnumbers, h.numbers, hlength]
  rfl

/-- **Dealt fairly.**  After any packets, of any sessions, no thread has got more of them than another by
    more than one — and one more for each 2^32 packets.  All have gone to one of the threads. -/
theorem dealt_fairly (hn : 0 < n) (h : Run (Step n bo model) (start w₀) tr s) :
    (∀ i < n, ∀ i' < n, dealtTo n i tr ≤ dealtTo n i' tr + (received tr).length / 2 ^ 32 + 1) ∧
      ∑ i ∈ Finset.range n, dealtTo n i tr = (received tr).length := by
  have hthreaded := run_threaded h
  constructor
  · intro i hi i' hi'
    by_cases hone : n = 1
    · obtain rfl : i = i' := by omega
      omega
    rw [dealtTo_eq hthreaded hone, dealtTo_eq hthreaded hone, count_wrapped _ n i _ (by decide),
      count_wrapped _ n i' _ (by decide)]
    generalize (received tr).length = N
    -- in each full turn through 2^32 numbers one more, and one more in the last
    have hturn := count_mod_le hn hi hi' (2 ^ 32)
    have hlast := count_mod_le hn hi hi' (N % 2 ^ 32)
    have hturns := Nat.mul_le_mul_left (N / 2 ^ 32) hturn
    rw [Nat.mul_add, Nat.mul_one] at hturns
    omega
  · unfold dealtTo
    simp only [List.countP_eq_length_filter]
    exact Pool.sum_filter_route (threadOf_lt hn) (received tr)

/-- Three texts come on one session. -/
def threeTexts : List ThreadsEvent × World :=
  inTurn .big 0 (List.replicate 3 (default, 1, packetOf oneText)) emptyWorld

/-- Of two threads, one gets two of them and the other one. -/
theorem dealt_fairly_one :
    dealtTo 2 0 threeTexts.1 = 2 ∧ dealtTo 2 1 threeTexts.1 = 1 ∧
    (∀ i < 2, ∀ i' < 2, dealtTo 2 i threeTexts.1 ≤ dealtTo 2 i' threeTexts.1 + 0 + 1) ∧
      ∑ i ∈ Finset.range 2, dealtTo 2 i threeTexts.1 = 3 := by
  have hserved : Run (Step 2 .big zAresModelModule) (start emptyWorld) threeTexts.1
      (atRest 3 threeTexts.2) := inTurn_run (by decide) emptyWorld
  have hreceived : (received threeTexts.1).length = 3 := by decide
  have hfair := dealt_fairly Nat.two_pos hserved
  rw [hreceived] at hfair
  exact ⟨by decide, by decide, hfair⟩

/-! ## One thread -/

/-- A packet is served: its handler is run from the beginning to the end, with nothing in between. -/
abbrev Serves (bo : ByteOrder) (model : ModelModule) : World → Job × List Event → World → Prop :=
  Pool.Does Zattd.Step (Handles bo model)

/-- **One thread is a sequential server.**  In every run of a pool of one thread, the packets that are
    finished have been served one after the other, in the order in which they were posted — in that of
    their arrival, those of one session — and at most one more has been begun since.  What has been
    sent is what they have been sent, in this order; between two packets the world is that which the
    last one has left. -/
theorem one_thread_serial (h : Run (Step 1 bo model) (start w₀) tr s) :
    ∃ (l : List (Job × List Event)) (w₁ : World), Run (Serves bo model) w₀ l w₁ ∧
      Pool.posted (poolEvents tr) = l.map Prod.fst ++ (s.pool.workers 0).jobs ∧
      (∀ sessionId, (l.map Prod.fst).filter (fun j => decide (j.sessionId = sessionId)) <+:
        (received tr).filter fun j => decide (j.sessionId = sessionId)) ∧
      ((s.pool.workers 0).current = none →
        s.pool.world = w₁ ∧ sent tr = l.flatMap fun e => replies e.2) ∧
      ∀ j q, (s.pool.workers 0).current = some (j, q) → ∃ begun,
        Pool.Begins Zattd.Step (Handles bo model) w₁ j begun q s.pool.world ∧
        sent tr = (l.flatMap fun e => replies e.2) ++ replies begun := by
  have hthreaded := run_threaded h
  obtain ⟨l, w₁, hrun, hjobs, hnone, hsome⟩ := Pool.serial (i := 0) (fun j => rfl) hthreaded.pool
  have hreplies : ∀ l : List (Job × List Event),
      replies (l.flatMap Prod.snd) = l.flatMap fun e => replies e.2 := fun l => List.filterMap_flatMap ..
  have hposted : Pool.posted (poolEvents tr) = l.map Prod.fst ++ (s.pool.workers 0).jobs := by
    have hall := Pool.posted_eq hthreaded.pool 0
    have hkept : ∀ js : List Job, js.filter (fun j => decide (threadOf 1 j = 0)) = js :=
      fun js => List.filter_eq_self.mpr fun j _ => decide_eq_true rfl
    rw [hkept, hkept, ← hjobs] at hall
    exact hall
  refine ⟨l, w₁, hrun, hposted, fun sessionId => ?_, fun hcurrent => ?_, fun j q hcurrent => ?_⟩
  · rw [hthreaded.sessions sessionId, hposted, List.filter_append, List.append_assoc]
    exact List.prefix_append _ _
  · obtain ⟨hworld, hacts⟩ := hnone hcurrent
    refine ⟨hworld, ?_⟩
    unfold sent
    rw [hacts, hreplies]
  · obtain ⟨begun, hbegun, hacts⟩ := hsome j q hcurrent
    refine ⟨begun, hbegun, ?_⟩
    unfold sent
    rw [hacts, replies_append, hreplies]

/-- A text is served, then what cannot be parsed; the one reply is to the text. -/
theorem one_thread_serial_one :
    ∃ l : List (Job × List Event), Run (Serves .big zAresModelModule) emptyWorld l afterText.pool.world ∧
      l.map Prod.fst = [textJob, garbledJob] ∧ (sent textServed).length = 1 ∧
      sent textServed = l.flatMap fun e => replies e.2 := by
  obtain ⟨l, w₁, hrun, hposted, -, hidle, -⟩ := one_thread_serial (textServed_run 1)
  obtain ⟨hworld, hsent⟩ := hidle rfl
  have hboth : Pool.posted (poolEvents textServed) = [textJob, garbledJob] := by decide
  have hserves : l.map Prod.fst = [textJob, garbledJob] := by
    rw [← hboth, hposted]
    exact (List.append_nil _).symm
  exact ⟨l, hworld ▸ hrun, hserves, by decide, hsent⟩

end HandlerThreads

end Zattd
