/-
  The ledger of the message table, with all threads AT WORK.

  A thread stores a message with one command, counts it with a second and notes it as unread with a
  third, and others go on in between: they store, count and clear.  So the counters are not always what
  the table says.  But they are never ahead of it, and they lag behind by the messages that a thread
  has in hand, one each (`ledger_lags`); and when no thread has any, they are exact.

  1. what one command does to the table and to the counters (`books`);
  2. what has been done for one packet: noted at most as often as counted, counted at most as often as
     stored, stored at most once, and all of it when it is finished (`Tallied`);
  3. the sum over all packets.

  An operation on a counter is ONE command here.  The source looks an entry up under the lock of its map
  and goes on with it after the lock has been released: of what two threads do to one entry at the same
  time there, nothing is said.
-/
import Zattd.Correct.Provenance
import Zattd.Correct.UnreadReads

set_option linter.unusedVariables false

namespace Zattd

open Prog

/-! ## One command -/

/-- A message is counted in `counter_instance[a][b]`. -/
def CounterOp.isCountOf (a b : UInt32) : CounterOp → Bool
  | incrUserMsgCount f t => decide (f = a ∧ t = b)
  | _ => false

/-- What an operation does to `counter_instance[a][b]`. -/
theorem CounterOp.counter_run (op : CounterOp) (c : CacheManager) (a b : UInt32) :
    (op.run c).2.counter a b =
      if (a ≠ 0 ∧ b ≠ 0) ∧ op.isCountOf a b then c.counter a b + 1 else c.counter a b := by
  cases op with
  | incrUserMsgCount f t =>
    have hcounter := ZAresCounterManagerImpl.counter_incrUserMsgCount f t c a b
    show (ZAresCounterManagerImpl.incrUserMsgCount f t c).counter a b = _
    rw [hcounter]
    simp only [isCountOf, decide_eq_true_iff]
    by_cases hab : f = a ∧ t = b
    · obtain ⟨rfl, rfl⟩ := hab
      simp only [and_self, and_true]
    · rw [if_neg fun h => hab h.2, if_neg fun h => hab h.2]
  | increaseUserUnreadMsgCount f t =>
    simp only [isCountOf, Bool.false_eq_true, and_false, if_false]
    exact ZAresCounterManagerImpl.counter_increaseUserUnreadMsgCount f t c a b
  | clearUserUnreadItemCount x y t =>
    have hsame := (ZAresCounterManagerImpl.clearUserUnreadItemCount_others x y t c).1
    simp only [isCountOf, Bool.false_eq_true, and_false, if_false]
    show (ZAresCounterManagerImpl.clearUserUnreadItemCount x y t c).2.counter a b = _
    rw [CacheManager.counter, CacheManager.counter, hsame]
  | clearUserGroupCounter u g t =>
    have hsame : (ZAresCounterManagerImpl.clearUserGroupCounter u g t c).2.counterInstance =
        c.counterInstance := by
      unfold ZAresCounterManagerImpl.clearUserGroupCounter CacheManager.writeCounterAndLastIDs
      split
      · split <;> rfl
      · rfl
    simp only [isCountOf, Bool.false_eq_true, and_false, if_false]
    show (ZAresCounterManagerImpl.clearUserGroupCounter u g t c).2.counter a b = _
    rw [CacheManager.counter, CacheManager.counter, hsame]
  | getUnreadMsgCount _ _ _ => simp [isCountOf, run]
  | getUserFriendUnreadCount _ _ _ => simp [isCountOf, run]
  | getUserGroupUnreadCount _ _ _ _ => simp [isCountOf, run]
  | getUserGroupCount _ _ _ _ => simp [isCountOf, run]

namespace Event

/-- The command has stored a message from `a` to `b`. -/
def storesFor (a b : UInt32) : Event → Bool
  | ⟨.message (.insertMessage v), n⟩ =>
    decide (((0 : Int) < n) ∧ v.fromUserId = addParam a ∧ v.toUserId = addParam b)
  | _ => false

/-- The command has counted one. -/
def countsFor (a b : UInt32) : Event → Bool
  | ⟨.counter op, _⟩ => op.isCountOf a b
  | _ => false

/-- The command has noted one as unread. -/
def notesFor (a b : UInt32) : Event → Bool
  | ⟨.counter op, _⟩ => op.isIncreaseOf a b
  | _ => false

/-- The command has cleared the entry of `[a][b]` for a class of client types. -/
def clears (a b : UInt32) (k : ClientClass) : Event → Bool
  | ⟨.counter op, _⟩ => op.isAckOf a b k
  | _ => false

end Event

section Books

variable {w₀ w w' : World} {c : Cmd} {a : c.Answer} {sessionId : UInt64} {message : Message}

/-- Only the counters' own commands change them. -/
theorem Step.cache_eq (h : Step w c a w') (hc : ∀ op, c ≠ .counter op) : w'.cache = w.cache := by
  rcases h with hok | hfail
  · cases c with
    | counter op => exact absurd rfl (hc op)
    | nowMSTime | sendSessionData =>
      obtain rfl : w' = w := hok
      rfl
    | user | department =>
      obtain ⟨-, rfl⟩ := hok
      rfl
    | message | contact | group | file =>
      obtain ⟨t, -, rfl⟩ := hok
      rfl
  · cases c with
    | nowMSTime | counter | sendSessionData => exact absurd hfail id
    | user | department | contact | group | file | message =>
      obtain ⟨-, rfl⟩ := hfail
      rfl

theorem MsgData.IsText.ids {m : MsgData} (h : m.IsText) : m.fromUserId ≠ 0 ∧ m.toUserId ≠ 0 := by
  have hvalid := h.valid
  unfold MsgData.isInvalid at hvalid
  simp only [Bool.or_eq_false_iff, decide_eq_false_iff_not] at hvalid
  tauto

/-- A row that is added is one from `x` to `y`, or not. -/
theorem Step.rows_eq (h : Step w c a w') : ∃ rows, w'.db.imMessage = w.db.imMessage ++ rows ∧
    ∀ x y, rows.countP (MessageRow.isBetween x y) = if Event.storesFor x y ⟨c, a⟩ = true then 1 else 0 := by
  rcases h.messages_cases with ⟨hnot, hsame⟩ | ⟨hstores, v, id, rfl, hadded⟩
  · refine ⟨[], by rw [hsame, List.append_nil], fun x y => ?_⟩
    have hfor : Event.storesFor x y ⟨c, a⟩ = false := by
      cases c with
      | message s =>
        cases s with
        | selectMessages => rfl
        | insertMessage v => exact decide_eq_false fun hpos => of_decide_eq_false hnot hpos.1
      | _ => rfl
    rw [hfor, if_neg Bool.false_ne_true, List.countP_nil]
  · refine ⟨[v.row id], hadded, fun x y => ?_⟩
    have hpos : (0 : Int) < a := of_decide_eq_true hstores
    rw [List.countP_singleton]
    refine if_congr ?_ rfl rfl
    unfold MessageRow.isBetween Event.storesFor addParam
    rw [decide_eq_true_iff, decide_eq_true_iff]
    exact ⟨fun hids => ⟨hpos, hids⟩, fun hids => hids.2⟩

/-- A command that is permitted counts what it says it does. -/
theorem May.counter_eq (hmay : May sessionId message w₀ c) (h : Step w c a w') (x y : UInt32) :
    w'.cache.counter x y =
      w.cache.counter x y + if Event.countsFor x y ⟨c, a⟩ = true then 1 else 0 := by
  by_cases hc : ∃ op, c = .counter op
  · obtain ⟨op, rfl⟩ := hc
    obtain ⟨-, rfl⟩ := h.resolve_right id
    show (op.run w.cache).2.counter x y = w.cache.counter x y + if op.isCountOf x y = true then 1 else 0
    rw [CounterOp.counter_run]
    by_cases hxy : op.isCountOf x y = true
    · have hne : x ≠ 0 ∧ y ≠ 0 := by
        cases op with
        | incrUserMsgCount f t =>
          obtain ⟨rfl, rfl⟩ := of_decide_eq_true hxy
          cases hmay with
          | read hread => cases hread
          | countMessage htext => exact htext.ids
        | _ => cases hxy
      rw [if_pos ⟨hne, hxy⟩, if_pos hxy]
    · rw [if_neg fun h => hxy h.2, if_neg hxy, UInt32.add_zero]
  · have hnot : Event.countsFor x y ⟨c, a⟩ = false := by
      cases c with
      | counter op => exact absurd ⟨op, rfl⟩ hc
      | _ => rfl
    rw [h.cache_eq fun op hop => hc ⟨op, hop⟩, hnot, if_neg Bool.false_ne_true, UInt32.add_zero]

/-- And notes what it says it does, unless it clears the entry. -/
theorem May.entry_eq (hmay : May sessionId message w₀ c) (h : Step w c a w') (x y : UInt32)
    (k : ClientClass) (hclears : Event.clears x y k ⟨c, a⟩ = false) :
    w'.cache.entry x y k =
      w.cache.entry x y k + if Event.notesFor x y ⟨c, a⟩ = true then 1 else 0 := by
  by_cases hc : ∃ op, c = .counter op
  · obtain ⟨op, rfl⟩ := hc
    obtain ⟨-, rfl⟩ := h.resolve_right id
    have hack : op.isAckOf x y k = false := hclears
    show ((op.run w.cache).2.item? x y k).getD 0 =
      w.cache.entry x y k + if op.isIncreaseOf x y = true then 1 else 0
    rw [CounterOp.item?_run, hack, if_neg (c := _ ∧ false = true) fun h => Bool.false_ne_true h.2]
    by_cases hxy : op.isIncreaseOf x y = true
    · have hne : x ≠ 0 ∧ y ≠ 0 := by
        cases op with
        | increaseUserUnreadMsgCount f t =>
          obtain ⟨rfl, rfl⟩ := of_decide_eq_true hxy
          cases hmay with
          | read hread => cases hread
          | countUnread htext => exact htext.ids
        | _ => cases hxy
      rw [if_pos ⟨hne, hxy⟩, if_pos hxy]
      rfl
    · rw [if_neg fun h => hxy h.2, if_neg hxy, UInt32.add_zero]
      rfl
  · have hnot : Event.notesFor x y ⟨c, a⟩ = false := by
      cases c with
      | counter op => exact absurd ⟨op, rfl⟩ hc
      | _ => rfl
    rw [h.cache_eq fun op hop => hc ⟨op, hop⟩, hnot, if_neg Bool.false_ne_true, UInt32.add_zero]

end Books

namespace HandlerThreads

variable {n : Nat} {bo : ByteOrder} {w₀ w w' : World} {s s' : HandlerThreads}
  {tr tr' : List ThreadsEvent} {cmds : List (Job × Event)} {mem : Job → Memory} {j : Job} {a b : UInt32}

/-- The table and the counters follow the commands. -/
theorem books (h : Run (Passes bo mem) w cmds w') :
    ∃ rows, w'.db.imMessage = w.db.imMessage ++ rows ∧ ∀ a b,
      rows.countP (MessageRow.isBetween a b) = (cmds.map (·.2)).countP (Event.storesFor a b) ∧
      w'.cache.counter a b =
        w.cache.counter a b + UInt32.ofNat ((cmds.map (·.2)).countP (Event.countsFor a b)) ∧
      ∀ k, (∀ e ∈ cmds, Event.clears a b k e.2 = false) → w'.cache.entry a b k =
        w.cache.entry a b k + UInt32.ofNat ((cmds.map (·.2)).countP (Event.notesFor a b)) := by
  have hone : ∀ hit : Bool, UInt32.ofNat (if hit = true then 1 else 0) = if hit = true then 1 else 0 := by
    decide
  induction h with
  | nil =>
    refine ⟨[], (List.append_nil _).symm, fun a b => ⟨rfl, ?_, fun k _ => ?_⟩⟩ <;>
      exact (UInt32.add_zero _).symm
  | @snoc cmds e w₁ w₂ _ hstep ih =>
    obtain ⟨rows, hrows, hbooks⟩ := ih
    obtain ⟨⟨message, hasks, hmay⟩, hdo⟩ := hstep
    obtain ⟨rows', hrows', hcount'⟩ := hdo.rows_eq
    refine ⟨rows ++ rows', by rw [hrows', hrows, List.append_assoc], fun a b => ?_⟩
    obtain ⟨hstored, hcounter, hentry⟩ := hbooks a b
    rw [List.map_append, List.map_singleton, List.countP_append, List.countP_append, List.countP_append,
      List.countP_append, List.countP_singleton, List.countP_singleton, List.countP_singleton,
      UInt32.ofNat_add, UInt32.ofNat_add, hone, hone, ← UInt32.add_assoc, ← hcounter]
    refine ⟨by rw [hstored, hcount'], hmay.counter_eq hdo a b, fun k hclears => ?_⟩
    rw [← UInt32.add_assoc, ← hentry k fun e he => hclears e (List.mem_append_left _ he)]
    exact hmay.entry_eq hdo a b k (hclears e (List.mem_append_right _ (List.mem_singleton_self e)))

/-! ## One packet -/

/-- A message from `a` to `b`. -/
def IsFrom (a b : UInt32) (message : Message) : Prop :=
  ∃ m : Pdu MsgData, message = ⟨.msgData, m⟩ ∧ m.body.fromUserId = a ∧ m.body.toUserId = b

/-- What has been done for a packet: no step is ahead of the one before it, and if one is behind, a
    thread is at work on the packet. -/
structure Tallied (n : Nat) (bo : ByteOrder) (mem : Job → Memory) (a b : UInt32)
    (tr : List ThreadsEvent) (s : HandlerThreads) (j : Job) : Prop where
  notes_le : (Pool.acts j (poolEvents tr)).countP (Event.notesFor a b) ≤
    (Pool.acts j (poolEvents tr)).countP (Event.countsFor a b)
  counts_le : (Pool.acts j (poolEvents tr)).countP (Event.countsFor a b) ≤
    (Pool.acts j (poolEvents tr)).countP (Event.storesFor a b)
  stores_le : (Pool.acts j (poolEvents tr)).countP (Event.storesFor a b) ≤ 1
  inHand : (Pool.acts j (poolEvents tr)).countP (Event.notesFor a b) <
    (Pool.acts j (poolEvents tr)).countP (Event.storesFor a b) →
    AskedIn bo (mem j) j (IsFrom a b) ∧ ∃ q, (s.pool.workers (threadOf n j)).current = some (j, q)

/-- A command is for `a` and `b` only if it is of its kind. -/
theorem for_of_aside {e : Event} (he : Event.Aside e) (a b : UInt32) :
    Event.storesFor a b e = false ∧ Event.countsFor a b e = false ∧ Event.notesFor a b e = false := by
  obtain ⟨hstores, hcounts, hnotes⟩ := he
  obtain ⟨c, x⟩ := e
  cases c with
  | message s =>
    cases s with
    | selectMessages => exact ⟨rfl, rfl, rfl⟩
    | insertMessage v =>
      exact ⟨decide_eq_false fun hpos => of_decide_eq_false hstores hpos.1, rfl, rfl⟩
  | counter op =>
    cases op with
    | incrUserMsgCount => cases hcounts
    | increaseUserUnreadMsgCount => cases hnotes
    | _ => exact ⟨rfl, rfl, rfl⟩
  | _ => exact ⟨rfl, rfl, rfl⟩

/-- The commands of one message are all for its two users. -/
theorem for_of_allows {m : MsgData} {k : Phase} {e : Event} (he : Phase.Allows m k e.1) (a b : UInt32) :
    (m.fromUserId = a ∧ m.toUserId = b → Event.storesFor a b e = Event.stores e ∧
      Event.countsFor a b e = Event.counts e ∧ Event.notesFor a b e = Event.notes e) ∧
    (¬(m.fromUserId = a ∧ m.toUserId = b) → Event.storesFor a b e = false ∧
      Event.countsFor a b e = false ∧ Event.notesFor a b e = false) := by
  have hids : ∀ x y : UInt32, addParam x = addParam y ↔ x = y := by
    intro x y
    unfold addParam
    rw [Int.natCast_inj, UInt32.toNat_inj]
  obtain ⟨c, x⟩ := e
  cases c with
  | message s =>
    cases s with
    | selectMessages => exact ⟨fun _ => ⟨rfl, rfl, rfl⟩, fun _ => ⟨rfl, rfl, rfl⟩⟩
    | insertMessage v =>
      obtain ⟨-, hfrom, hto⟩ := he.store v rfl
      have hfor : Event.storesFor a b ⟨.message (.insertMessage v), x⟩ =
          decide (((0 : Int) < x) ∧ m.fromUserId = a ∧ m.toUserId = b) := by
        refine decide_eq_decide.mpr ?_
        rw [hfrom, hto, hids, hids]
      rw [hfor]
      refine ⟨fun hab => ⟨?_, rfl, rfl⟩, fun hab => ⟨decide_eq_false fun h => hab h.2, rfl, rfl⟩⟩
      show _ = decide ((0 : Int) < x)
      simp [hab]
  | counter op =>
    cases op with
    | incrUserMsgCount f t =>
      obtain ⟨-, rfl, rfl⟩ := he.count f t rfl
      exact ⟨fun hab => ⟨rfl, decide_eq_true hab, rfl⟩, fun hab => ⟨rfl, decide_eq_false hab, rfl⟩⟩
    | increaseUserUnreadMsgCount f t =>
      obtain ⟨-, rfl, rfl⟩ := he.note f t rfl
      exact ⟨fun hab => ⟨rfl, rfl, decide_eq_true hab⟩, fun hab => ⟨rfl, rfl, decide_eq_false hab⟩⟩
    | _ => exact ⟨fun _ => ⟨rfl, rfl, rfl⟩, fun _ => ⟨rfl, rfl, rfl⟩⟩
  | _ => exact ⟨fun _ => ⟨rfl, rfl, rfl⟩, fun _ => ⟨rfl, rfl, rfl⟩⟩

theorem countP_eq_of {l : List Event} {hit hit' : Event → Bool} (h : ∀ e ∈ l, hit e = hit' e) :
    l.countP hit = l.countP hit' := List.countP_congr fun e he => by rw [h e he]

theorem countP_eq_zero_of {l : List Event} {hit : Event → Bool} (h : ∀ e ∈ l, hit e = false) :
    l.countP hit = 0 := List.countP_eq_zero.mpr fun e he => by rw [h e he]; exact Bool.false_ne_true

theorem tallied (h : Run (Step n bo zAresModelModule) (start w₀) tr s)
    (hmem : RanIn n bo w₀ [] (start w₀) tr s mem) (a b : UInt32) (j : Job) :
    Tallied n bo mem a b tr s j := by
  have hnone : (∀ e ∈ Pool.acts j (poolEvents tr), Event.storesFor a b e = false ∧
      Event.countsFor a b e = false ∧ Event.notesFor a b e = false) → Tallied n bo mem a b tr s j := by
    intro hall
    have hstores := countP_eq_zero_of fun e he => (hall e he).1
    have hcounts := countP_eq_zero_of fun e he => (hall e he).2.1
    have hnotes := countP_eq_zero_of fun e he => (hall e he).2.2
    exact ⟨by omega, by omega, by omega, fun hlt => by omega⟩
  rcases path_phases h hmem j with ⟨haside, -⟩ | ⟨m, hasks, hallows, hend⟩
  · exact hnone fun e he => for_of_aside (haside e he) a b
  have hallowed : ∀ e ∈ Pool.acts j (poolEvents tr), ∃ k, Phase.Allows m.body k e.1 := by
    intro e he
    obtain ⟨pre, post, hsplit⟩ := List.append_of_mem he
    exact ⟨_, hallows pre e post hsplit⟩
  by_cases hab : m.body.fromUserId = a ∧ m.body.toUserId = b
  · -- its commands are for `a` and `b`, and its phase says how many of them there have been
    have hsame : ∀ e ∈ Pool.acts j (poolEvents tr), Event.storesFor a b e = Event.stores e ∧
        Event.countsFor a b e = Event.counts e ∧ Event.notesFor a b e = Event.notes e := by
      intro e he
      obtain ⟨k, hk⟩ := hallowed e he
      exact (for_of_allows hk a b).1 hab
    obtain ⟨hrows, htally, hunread⟩ := Phase.track_eq hallows
    rw [← countP_eq_of fun e he => (hsame e he).1] at hrows
    rw [← countP_eq_of fun e he => (hsame e he).2.1] at htally
    rw [← countP_eq_of fun e he => (hsame e he).2.2] at hunread
    have hle := Phase.tally_le (track Phase.next .waiting (Pool.acts j (poolEvents tr)))
    refine ⟨by omega, by omega, by omega, fun hlt => ⟨⟨_, hasks, m, rfl, hab⟩, ?_⟩⟩
    refine Pool.current_of hmem.after (run_threaded h).posted_nodup (fun hnothing => ?_) fun hfinished => ?_
    · rw [hnothing] at hlt
      exact absurd hlt (Nat.lt_irrefl 0)
    · obtain ⟨isStored, hreplied⟩ := hend hfinished
      rw [hrows, hunread, hreplied] at hlt
      exact absurd hlt (Nat.lt_irrefl _)
  · refine hnone fun e he => ?_
    obtain ⟨k, hk⟩ := hallowed e he
    exact (for_of_allows hk a b).2 hab

/-! ## All packets -/

/-- A thread is at work on a message from `a` to `b`. -/
def AtWork (bo : ByteOrder) (mem : Job → Memory) (a b : UInt32) (s : HandlerThreads) (i : Nat) : Prop :=
  ∃ j q, (s.pool.workers i).current = some (j, q) ∧ AskedIn bo (mem j) j (IsFrom a b)

open Classical in
/-- How many are. -/
noncomputable def inHand (n : Nat) (bo : ByteOrder) (mem : Job → Memory) (a b : UInt32)
    (s : HandlerThreads) : Nat := ((Finset.range n).filter (AtWork bo mem a b s)).card

/-- Nothing is in hand when no thread is at work. -/
theorem inHand_idle (bo : ByteOrder) (mem : Job → Memory) (a b : UInt32)
    (h : ∀ i < n, (s.pool.workers i).current = none) : inHand n bo mem a b s = 0 := by
  classical
  refine Finset.card_eq_zero.mpr (Finset.filter_eq_empty_iff.mpr ?_)
  rintro i hi ⟨j, q, hcurrent, -⟩
  rw [h i (Finset.mem_range.mp hi)] at hcurrent
  cases hcurrent

/-- What is behind is in hand: a thread has one packet at a time. -/
theorem card_behind_le (hn : 0 < n) {js : Finset Job} (h : ∀ j ∈ js, AskedIn bo (mem j) j (IsFrom a b) ∧
      ∃ q, (s.pool.workers (threadOf n j)).current = some (j, q)) : js.card ≤ inHand n bo mem a b s := by
  classical
  refine Finset.card_le_card_of_injOn (threadOf n) (fun j hj => ?_) fun j hj j' hj' hsame => ?_
  · obtain ⟨hasks, q, hq⟩ := h j hj
    exact Finset.mem_coe.mpr
      (Finset.mem_filter.mpr ⟨Finset.mem_range.mpr (threadOf_lt hn j), j, q, hq, hasks⟩)
  · obtain ⟨-, q, hq⟩ := h j hj
    obtain ⟨-, q', hq'⟩ := h j' hj'
    rw [hsame, hq'] at hq
    exact (Prod.mk.inj (Option.some.inj hq)).1.symm

/-- What has been issued for all. -/
abbrev events (tr : List ThreadsEvent) : List Event := (commands tr).map (·.2)

/-- So a count of all commands that is behind with every packet by what is in hand is so with all. -/
theorem events_le (hn : 0 < n) (h : Run (Step n bo zAresModelModule) (start w₀) tr s)
    (hmem : RanIn n bo w₀ [] (start w₀) tr s mem) {hit : Event → Bool} (hhit : ∀ j, (Pool.acts j (poolEvents tr)).countP (Event.notesFor a b) ≤
        (Pool.acts j (poolEvents tr)).countP hit ∧
      (Pool.acts j (poolEvents tr)).countP hit ≤ (Pool.acts j (poolEvents tr)).countP (Event.storesFor a b)) :
    (events tr).countP hit ≤ (events tr).countP (Event.storesFor a b) ∧
      (events tr).countP (Event.storesFor a b) ≤ (events tr).countP hit + inHand n bo mem a b s := by
  have hthreaded := run_threaded h
  have hworked : ∀ e ∈ poolEvents tr, ∀ j, e.worksOn = some j → j ∈ received tr := by
    intro e he j hj
    exact hthreaded.mem_received.mpr (Or.inl (Pool.mem_posted_of_worksOn hthreaded.pool he hj))
  have hsum : ∀ p, (events tr).countP p =
      ∑ j ∈ (received tr).toFinset, (Pool.acts j (poolEvents tr)).countP p := by
    intro p
    rw [List.sum_toFinset _ hthreaded.received_nodup,
      Pool.sum_countP_acts p hthreaded.received_nodup hworked, Pool.allActs_eq]
    rfl
  rw [hsum hit, hsum (Event.storesFor a b)]
  refine ⟨Finset.sum_le_sum fun j _ => (hhit j).2, ?_⟩
  -- the packets that are behind are one each
  have hbehind : ((received tr).toFinset.filter fun j => (Pool.acts j (poolEvents tr)).countP hit <
      (Pool.acts j (poolEvents tr)).countP (Event.storesFor a b)).card ≤ inHand n bo mem a b s := by
    refine card_behind_le hn fun j hj => ?_
    obtain ⟨hnotes, -⟩ := hhit j
    exact (tallied h hmem a b j).inHand (Nat.lt_of_le_of_lt hnotes (Finset.mem_filter.mp hj).2)
  rw [Finset.card_filter] at hbehind
  refine le_trans ?_ (Nat.add_le_add_left hbehind _)
  rw [← Finset.sum_add_distrib]
  refine Finset.sum_le_sum fun j _ => ?_
  have hone := (tallied h hmem a b j).stores_le
  split <;> omega

/-- What two counts have in common, whatever the word makes of them. -/
theorem lag_add {v v' : UInt32} {added counted lag lag' : Nat} (hv : v' = v + UInt32.ofNat counted)
    (hlag : counted + lag' = lag + added) :
    v' + UInt32.ofNat lag' = v + UInt32.ofNat (lag + added) := by
  rw [hv, UInt32.add_assoc, ← UInt32.ofNat_add, hlag]

/-- What is added to the table is added to a value of the counters, but for what is in hand. -/
def Lags (n : Nat) (bo : ByteOrder) (mem : Job → Memory) (a b : UInt32) (s s' : HandlerThreads)
    (rows : List MessageRow) (value : CacheManager → UInt32) : Prop :=
  ∃ lag lag', lag ≤ inHand n bo mem a b s ∧ lag' ≤ inHand n bo mem a b s' ∧
    value s'.pool.world.cache + UInt32.ofNat lag' =
      value s.pool.world.cache + UInt32.ofNat (lag + rows.countP (MessageRow.isBetween a b))

theorem Lags.exact {rows : List MessageRow} {value : CacheManager → UInt32}
    (h : Lags n bo mem a b s s' rows value) (hidle : ∀ i < n, (s.pool.workers i).current = none)
    (hidle' : ∀ i < n, (s'.pool.workers i).current = none) : value s'.pool.world.cache =
      value s.pool.world.cache + UInt32.ofNat (rows.countP (MessageRow.isBetween a b)) := by
  obtain ⟨lag, lag', hlag, hlag', hvalue⟩ := h
  rw [inHand_idle bo mem a b hidle] at hlag
  rw [inHand_idle bo mem a b hidle'] at hlag'
  obtain rfl := Nat.le_zero.mp hlag
  obtain rfl := Nat.le_zero.mp hlag'
  rw [Nat.zero_add] at hvalue
  rw [← hvalue]
  exact (UInt32.add_zero _).symm

theorem lags_between (hn : 0 < n) (h : Run (Step n bo zAresModelModule) (start w₀) tr s)
    (h' : Run (Step n bo zAresModelModule) s tr' s') (hmem : RanIn n bo w₀ tr s tr' s' mem)
    {rows : List MessageRow} (hrows : s'.pool.world.db.imMessage = s.pool.world.db.imMessage ++ rows)
    (a b : UInt32) :
    Lags n bo mem a b s s' rows (fun c => c.counter a b) ∧
      ∀ k, (∀ e ∈ events tr', Event.clears a b k e = false) →
        Lags n bo mem a b s s' rows fun c => c.entry a b k := by
  obtain ⟨rows', hrows', hbooks⟩ := books (passes_run hmem)
  obtain rfl : rows = rows' := List.append_cancel_left (hrows.symm.trans hrows')
  obtain ⟨hstored, hcounter, hentry⟩ := hbooks a b
  change _ = (events tr').countP _ at hstored
  change _ = _ + UInt32.ofNat ((events tr').countP _) at hcounter
  have hall : ∀ hit, (events (tr ++ tr')).countP hit = (events tr).countP hit + (events tr').countP hit := by
    intro hit
    unfold events commands
    rw [poolEvents_append, Pool.commands_append, List.map_append, List.countP_append]
  have hwhole := h.append h'
  have htallied := tallied h hmem.first a b
  have htallied' := tallied hwhole hmem.whole a b
  constructor
  · have hcounts := events_le hn h hmem.first fun j => ⟨(htallied j).notes_le, (htallied j).counts_le⟩
    have hcounts' := events_le hn hwhole hmem.whole fun j =>
      ⟨(htallied' j).notes_le, (htallied' j).counts_le⟩
    rw [hall, hall] at hcounts'
    refine ⟨_, _, Nat.sub_le_iff_le_add'.mpr hcounts.2, Nat.sub_le_iff_le_add'.mpr hcounts'.2,
      lag_add hcounter ?_⟩
    rw [hstored]
    omega
  · intro k hclears
    have hnotes := events_le hn h hmem.first fun j =>
      ⟨le_rfl, (htallied j).notes_le.trans (htallied j).counts_le⟩
    have hnotes' := events_le hn hwhole hmem.whole fun j =>
      ⟨le_rfl, (htallied' j).notes_le.trans (htallied' j).counts_le⟩
    rw [hall, hall] at hnotes'
    refine ⟨_, _, Nat.sub_le_iff_le_add'.mpr hnotes.2, Nat.sub_le_iff_le_add'.mpr hnotes'.2,
      lag_add (hentry k fun e he => hclears e.2 (List.mem_map_of_mem he)) ?_⟩
    show (events tr').countP _ + _ = _
    rw [hstored]
    omega

/-- **The ledger lags by what is in hand.**  In every run of any number of threads, whatever the
    statements are answered, between any two points of it: what is added to the table is added to the
    counters of its two users — `counter_instance` in any case, an entry if it is not cleared in
    between — but for the messages that the threads have in hand at either point, which may be
    stored and not counted yet.  When the threads are idle at both points, nothing is missing. -/
theorem ledger_lags (hn : 0 < n) (h : Run (Step n bo zAresModelModule) (start w₀) tr s)
    (h' : Run (Step n bo zAresModelModule) s tr' s') :
    ∃ rows, s'.pool.world.db.imMessage = s.pool.world.db.imMessage ++ rows ∧
      InMemory n bo w₀ tr s tr' s' (fun mem => ∀ a b,
        Lags n bo mem a b s s' rows (fun c => c.counter a b) ∧
        ∀ k, (∀ e ∈ events tr', Event.clears a b k e = false) →
          Lags n bo mem a b s s' rows fun c => c.entry a b k) ∧
      ((∀ i < n, (s.pool.workers i).current = none) → (∀ i < n, (s'.pool.workers i).current = none) →
        ∀ a b, s'.pool.world.cache.counter a b = s.pool.world.cache.counter a b +
            UInt32.ofNat (rows.countP (MessageRow.isBetween a b)) ∧
          ∀ k, (∀ e ∈ events tr', Event.clears a b k e = false) →
            s'.pool.world.cache.entry a b k = s.pool.world.cache.entry a b k +
              UInt32.ofNat (rows.countP (MessageRow.isBetween a b))) := by
  obtain ⟨mem, hmem⟩ := ran_in h h'
  obtain ⟨rows, hrows, -⟩ := books (passes_run hmem)
  refine ⟨rows, hrows, inMemory h h' fun mem hmem => lags_between hn h h' hmem hrows,
    fun hidle hidle' a b => ?_⟩
  obtain ⟨hcounter, hentry⟩ := lags_between hn h h' hmem hrows a b
  exact ⟨hcounter.exact hidle hidle', fun k hclears => (hentry k hclears).exact hidle hidle'⟩

/-- The text is one row, and has been counted once. -/
theorem ledger_lags_one :
    afterText.pool.world.db.imMessage = [textRow] ∧ afterText.pool.world.cache.counter 1 2 = 1 ∧
    InMemory 2 .big emptyWorld [] (start emptyWorld) textServed afterText fun mem =>
      Lags 2 .big mem 1 2 (start emptyWorld) afterText [textRow] fun c => c.counter 1 2 := by
  have hstored : afterText.pool.world.db.imMessage = [textRow] := by decide
  obtain ⟨rows, hrows, ⟨hmemories, hlags⟩, hidle⟩ := ledger_lags Nat.two_pos .nil (textServed_run 2)
  obtain rfl : rows = [textRow] := hrows.symm.trans hstored
  obtain ⟨hcounter, -⟩ := hidle (fun i _ => rfl) (fun i _ => rfl) 1 2
  refine ⟨hstored, ?_, hmemories, fun mem hmem => (hlags mem hmem 1 2).1⟩
  rw [hcounter]
  decide

end HandlerThreads

end Zattd
