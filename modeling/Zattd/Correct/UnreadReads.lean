/-
  Do the two READS of the unread counts agree?

  `GetUserFriendUnreadCount` looks one friend up in the map of the user.  `GetUnreadMsgCount` goes
  through the same map in the order of the ids, copies no more than 300 entries into a second map,
  and the response is filled from that.

  They agree.  An entry is made with 1 and taken away whole, so no entry is ever 0 (fewer than 2^32
  messages do not bring one back there), and the id 0 is never counted: `CacheManager` is private to
  the counter manager, which lets no 0 through.  The list is the first 300 of the entries.  When they
  are acknowledged the next 300 are listed, until there are none, and no friend comes up twice.
-/
import Zattd.Correct.Unread

set_option linter.unusedVariables false

namespace Zattd

open Prog

/-! ## The operations -/

namespace CounterOp

/-- A message is counted as unread. -/
def isIncrease : CounterOp → Bool
  | increaseUserUnreadMsgCount _ _ => true
  | _ => false

/-- A message is counted in the entry of `[a][b]`. -/
def isIncreaseOf (a b : UInt32) : CounterOp → Bool
  | increaseUserUnreadMsgCount f t => decide (f = a ∧ t = b)
  | _ => false

/-- The user `u` acknowledges the friend `f`, with a client of class `k`. -/
def isAckOf (u f : UInt32) (k : ClientClass) : CounterOp → Bool
  | clearUserUnreadItemCount x y t => decide (x = u ∧ y = f ∧ clientClass t = k)
  | _ => false

/-- What an operation does to an entry.  There is none under the id 0. -/
theorem item?_run (op : CounterOp) (c : CacheManager) (a b : UInt32) (k : ClientClass) :
    (op.run c).2.item? a b k =
      if (a ≠ 0 ∧ b ≠ 0) ∧ op.isIncreaseOf a b then some (c.entry a b k + 1)
      else if (a ≠ 0 ∧ b ≠ 0) ∧ op.isAckOf a b k then none
      else c.item? a b k := by
  cases op with
  | incrUserMsgCount f t =>
    simp only [isIncreaseOf, isAckOf, Bool.false_eq_true, and_false, if_false]
    exact ZAresCounterManagerImpl.item?_incrUserMsgCount f t c a b k
  | increaseUserUnreadMsgCount f t =>
    have hitem := ZAresCounterManagerImpl.item?_increaseUserUnreadMsgCount f t c a b k
    show (ZAresCounterManagerImpl.increaseUserUnreadMsgCount f t c).item? a b k = _
    rw [hitem]
    simp only [isIncreaseOf, isAckOf, decide_eq_true_iff, Bool.false_eq_true, and_false, if_false]
    by_cases hab : f = a ∧ t = b
    · obtain ⟨rfl, rfl⟩ := hab
      simp only [and_self, and_true]
    · rw [if_neg fun h => hab h.2, if_neg fun h => hab h.2]
  | clearUserUnreadItemCount x y t =>
    have hitem := ZAresCounterManagerImpl.item?_clearUserUnreadItemCount x y t c a b k
    show (ZAresCounterManagerImpl.clearUserUnreadItemCount x y t c).2.item? a b k = _
    rw [hitem]
    simp only [isIncreaseOf, isAckOf, decide_eq_true_iff, Bool.false_eq_true, and_false, if_false]
    by_cases hab : x = a ∧ y = b ∧ clientClass t = k
    · obtain ⟨rfl, rfl, rfl⟩ := hab
      simp only [and_self, and_true]
    · rw [if_neg fun h => hab h.2, if_neg fun h => hab h.2]
  | clearUserGroupCounter u g t =>
    have hsame : (ZAresCounterManagerImpl.clearUserGroupCounter u g t c).2.unreadInstance =
        c.unreadInstance := by
      unfold ZAresCounterManagerImpl.clearUserGroupCounter CacheManager.writeCounterAndLastIDs
      split
      · split <;> rfl
      · rfl
    simp only [isIncreaseOf, isAckOf, Bool.false_eq_true, and_false, if_false]
    show (ZAresCounterManagerImpl.clearUserGroupCounter u g t c).2.item? a b k = _
    rw [CacheManager.item?, CacheManager.item?, hsame]
  | getUnreadMsgCount _ _ _ => simp [isIncreaseOf, isAckOf, run]
  | getUserFriendUnreadCount _ _ _ => simp [isIncreaseOf, isAckOf, run]
  | getUserGroupUnreadCount _ _ _ _ => simp [isIncreaseOf, isAckOf, run]
  | getUserGroupCount _ _ _ _ => simp [isIncreaseOf, isAckOf, run]

theorem isIncrease_of_isIncreaseOf {op : CounterOp} {a b : UInt32}
    (h : op.isIncreaseOf a b = true) : op.isIncrease = true := by
  cases op <;> first | rfl | cases h

end CounterOp

/-- An operation of the counter manager on its cache. -/
def CounterStep (c : CacheManager) (op : CounterOp) (c' : CacheManager) : Prop := c' = (op.run c).2

theorem exists_counterRun (c : CacheManager) (ops : List CounterOp) :
    ∃ c', Run CounterStep c ops c' := by
  induction ops using List.reverseRecOn with
  | nil => exact ⟨c, .nil⟩
  | append_singleton ops op ih =>
    obtain ⟨c', hrun⟩ := ih
    exact ⟨_, hrun.snoc rfl⟩

/-! ## The entries after a run -/

/-- Nothing is counted under the id 0. -/
def NoneOfZero (c : CacheManager) : Prop := ∀ a b k, a = 0 ∨ b = 0 → c.item? a b k = none

theorem CounterStep.noneOfZero {c c' : CacheManager} {op : CounterOp} (hnone : NoneOfZero c)
    (h : CounterStep c op c') : NoneOfZero c' := by
  intro a b k h0
  have hids : ¬(a ≠ 0 ∧ b ≠ 0) := by tauto
  rw [show c' = (op.run c).2 from h, CounterOp.item?_run, if_neg fun h => hids h.1,
    if_neg fun h => hids h.1]
  exact hnone a b k h0

theorem counterRun_noneOfZero {c c' : CacheManager} {ops : List CounterOp}
    (h : Run CounterStep c ops c') (hnone : NoneOfZero c) : NoneOfZero c' :=
  h.invariant NoneOfZero (fun _ _ _ hnone hop => CounterStep.noneOfZero hnone hop) hnone

/-- **No entry is 0.**  An entry is at least 1, and at most the number of messages counted. -/
theorem counterRun_item? {c : CacheManager} {ops : List CounterOp} (h : Run CounterStep {} ops c)
    (hfew : ops.countP CounterOp.isIncrease < 2 ^ 32) {a b n : UInt32} {k : ClientClass}
    (hitem : c.item? a b k = some n) :
    0 < n.toNat ∧ n.toNat ≤ ops.countP CounterOp.isIncrease := by
  induction h generalizing n with
  | nil => cases hitem
  | @snoc ops op c₁ c hrun hop ih =>
    rw [List.countP_append] at hfew ⊢
    have hfew₁ : ops.countP CounterOp.isIncrease < 2 ^ 32 := by omega
    rw [show c = (op.run c₁).2 from hop, CounterOp.item?_run] at hitem
    by_cases hincrease : (a ≠ 0 ∧ b ≠ 0) ∧ op.isIncreaseOf a b
    · rw [if_pos hincrease, Option.some.injEq] at hitem
      have hone : List.countP CounterOp.isIncrease [op] = 1 := by
        rw [List.countP_singleton, if_pos (CounterOp.isIncrease_of_isIncreaseOf hincrease.2)]
      have hle : (c₁.entry a b k).toNat ≤ ops.countP CounterOp.isIncrease := by
        rw [CacheManager.entry]
        cases hold : c₁.item? a b k with
        | none => exact Nat.zero_le _
        | some m => exact (ih hfew₁ hold).2
      have hadd : n.toNat = (c₁.entry a b k).toNat + 1 := by
        rw [← hitem, UInt32.toNat_add, show (1 : UInt32).toNat = 1 from rfl]
        omega
      omega
    · rw [if_neg hincrease] at hitem
      by_cases hack : (a ≠ 0 ∧ b ≠ 0) ∧ op.isAckOf a b k
      · rw [if_pos hack] at hitem
        cases hitem
      · rw [if_neg hack] at hitem
        obtain ⟨hpos, hle⟩ := ih hfew₁ hitem
        exact ⟨hpos, by omega⟩

/-- Acknowledgements take entries away, and without a new message none comes up. -/
theorem counterRun_item?_acks {c c' : CacheManager} {ops : List CounterOp}
    (h : Run CounterStep c ops c') (hnew : ∀ op ∈ ops, op.isIncrease = false) {u f : UInt32}
    (hu : u ≠ 0) (hf : f ≠ 0) (k : ClientClass) :
    c'.item? u f k = if ops.any (·.isAckOf u f k) then none else c.item? u f k := by
  induction h with
  | nil => rfl
  | @snoc ops op c₁ c' hrun hop ih =>
    have hnot : ¬op.isIncreaseOf u f = true := by
      intro hincrease
      have hold := hnew op (by simp)
      rw [CounterOp.isIncrease_of_isIncreaseOf hincrease] at hold
      cases hold
    rw [show c' = (op.run c₁).2 from hop, CounterOp.item?_run, if_neg fun h => hnot h.2,
      ih fun op' hop' => hnew op' (List.mem_append_left _ hop'), List.any_append]
    by_cases hack : op.isAckOf u f k = true
    · rw [if_pos ⟨⟨hu, hf⟩, hack⟩, List.any_cons, hack]
      simp
    · rw [if_neg fun h => hack h.2, List.any_cons, Bool.eq_false_iff.mpr hack]
      simp

/-! ## The list -/

namespace CacheManager

/-- The entries of a user for a class of client types. -/
def unreadMap (c : CacheManager) (u : UInt32) (k : ClientClass) : Map UInt32 :=
  match c.unreadInstance[u]? with
  | some unread => unread.ofClass k
  | none => ∅

/-- They in the order of the friends. -/
def unreadList (c : CacheManager) (u : UInt32) (k : ClientClass) : List UserUnreadMsgCount :=
  (c.unreadMap u k).toList.map fun e => { fromUserId := e.1, unreadMsgCount := e.2 }

variable {c : CacheManager} {u : UInt32} {k : ClientClass}

theorem mem_unreadList_iff {f n : UInt32} :
    { fromUserId := f, unreadMsgCount := n } ∈ c.unreadList u k ↔ c.item? u f k = some n := by
  have hget : (c.unreadMap u k)[f]? = c.item? u f k := by
    rw [item?, unreadMap]
    cases c.unreadInstance[u]? with
    | none => exact Std.TreeMap.getElem?_emptyc
    | some unread => rfl
  rw [← hget, ← Std.TreeMap.mem_toList_iff_getElem?_eq_some, unreadList, List.mem_map]
  constructor
  · rintro ⟨⟨f', n'⟩, hmem, heq⟩
    injection heq with hf hn
    rw [← hf, ← hn]
    exact hmem
  · intro hmem
    exact ⟨(f, n), hmem, rfl⟩

theorem unreadList_ordered :
    (c.unreadList u k).Pairwise fun e e' => e.fromUserId < e'.fromUserId := by
  refine List.pairwise_map.mpr (List.Pairwise.imp (fun h => ?_)
    (Std.TreeMap.ordered_keys_toList (t := c.unreadMap u k)))
  exact Std.compare_eq_lt.mp h

/-- Lists in the order of the friends are told apart by their members. -/
theorem eq_of_mem_iff {l l' : List UserUnreadMsgCount}
    (h : l.Pairwise fun e e' => e.fromUserId < e'.fromUserId)
    (h' : l'.Pairwise fun e e' => e.fromUserId < e'.fromUserId) (hmem : ∀ e, e ∈ l ↔ e ∈ l') :
    l = l' := by
  let before : UserUnreadMsgCount → UserUnreadMsgCount → Prop :=
    fun e e' => e.fromUserId < e'.fromUserId
  have : Std.Irrefl before := ⟨fun e => UInt32.lt_irrefl _⟩
  have : Std.Antisymm before := ⟨fun e e' h h' => absurd h' (UInt32.lt_asymm h)⟩
  exact List.Pairwise.eq_of_mem_iff (r := before) h h' hmem

end CacheManager

open CacheManager (mem_unreadList_iff unreadList_ordered)

/-- The first 300 entries are listed: the second map gives them back as the first had them. -/
theorem listedCounts_eq {c : CacheManager} {u : UInt32} (hu : u ≠ 0) (t : UInt32) :
    listedCounts c u t = (c.unreadList u (clientClass t)).take 300 := by
  rw [listedCounts, ZAresCounterManagerImpl.getUnreadMsgCount, if_neg hu,
    CacheManager.findUnreadCount, CacheManager.unreadList, CacheManager.unreadMap]
  cases c.unreadInstance[u]? with
  | none => rfl
  | some unread =>
    simp only [Option.map_some, Option.getD_some, UserUnreadCount.getUnreadCountByClientType_eq]
    have hordered := (Std.TreeMap.ordered_keys_toList (t := unread.ofClass (clientClass t))).sublist
      (List.take_sublist 300 _)
    rw [← List.map_take]
    exact congrArg _ (OrderedMap.toList_insertAll hordered)

/-! ## Two reads of one state -/

/-- Those for whom the lookup finds something unread. -/
def unreadFriends (c : CacheManager) (u t : UInt32) : Set UInt32 :=
  {f | ZAresCounterManagerImpl.getUserFriendUnreadCount u f t c ≠ 0}

/-- What is listed and what is looked up is the same, as far as the list goes. -/
structure ReadsAgree (c : CacheManager) (u t : UInt32) (list : List UserUnreadMsgCount) : Prop where
  increasing : list.Pairwise fun e e' => e.fromUserId < e'.fromUserId
  listed : ∀ e ∈ list, e.unreadMsgCount ≠ 0 ∧
    e.unreadMsgCount = ZAresCounterManagerImpl.getUserFriendUnreadCount u e.fromUserId t c
  missing : ∀ f, (∀ e ∈ list, e.fromUserId ≠ f) →
    ZAresCounterManagerImpl.getUserFriendUnreadCount u f t c = 0 ∨
      list.length = 300 ∧ ∀ e ∈ list, e.fromUserId < f
  whole : (unreadFriends c u t).ncard ≤ 300 → ∀ f n,
    { fromUserId := f, unreadMsgCount := n } ∈ list ↔
      n ≠ 0 ∧ ZAresCounterManagerImpl.getUserFriendUnreadCount u f t c = n

/-- What a run leaves: nothing under the id 0, and no entry that is 0. -/
structure WellCounted (c : CacheManager) : Prop where
  noneOfZero : NoneOfZero c
  nonzero : ∀ {a b n : UInt32} {k : ClientClass}, c.item? a b k = some n → n ≠ 0

theorem counterRun_wellCounted {c : CacheManager} {ops : List CounterOp}
    (h : Run CounterStep {} ops c) (hfew : ops.countP CounterOp.isIncrease < 2 ^ 32) :
    WellCounted c where
  noneOfZero := counterRun_noneOfZero h fun a b k _ => rfl
  nonzero := by
    rintro a b n k hitem rfl
    exact Nat.lt_irrefl 0 (counterRun_item? h hfew hitem).1

section Reads

variable {c : CacheManager} {u : UInt32}

/-- The entries are what the lookups find. -/
theorem mem_unreadList_iff_count (hc : WellCounted c) (hu : u ≠ 0) (t : UInt32) {f n : UInt32} :
    { fromUserId := f, unreadMsgCount := n } ∈ c.unreadList u (clientClass t) ↔
      n ≠ 0 ∧ ZAresCounterManagerImpl.getUserFriendUnreadCount u f t c = n := by
  rw [mem_unreadList_iff]
  by_cases hf : f = 0
  · rw [hc.noneOfZero u f _ (Or.inr hf),
      ZAresCounterManagerImpl.getUserFriendUnreadCount_zero (Or.inr hf)]
    exact iff_of_false nofun fun h => h.1 h.2.symm
  · rw [ZAresCounterManagerImpl.getUserFriendUnreadCount_eq hu hf, CacheManager.entry]
    cases hitem : c.item? u f (clientClass t) with
    | none => exact iff_of_false nofun fun h => h.1 h.2.symm
    | some m =>
      rw [Option.some.injEq, Option.getD_some]
      constructor
      · rintro rfl
        exact ⟨hc.nonzero hitem, rfl⟩
      · intro h
        exact h.2

theorem exists_mem_unreadList_iff (hc : WellCounted c) (hu : u ≠ 0) (t : UInt32) {f : UInt32} :
    f ∈ (c.unreadList u (clientClass t)).map (·.fromUserId) ↔ f ∈ unreadFriends c u t := by
  rw [List.mem_map]
  constructor
  · rintro ⟨⟨f, n⟩, hmem, rfl⟩
    obtain ⟨hne, rfl⟩ := (mem_unreadList_iff_count hc hu t).mp hmem
    exact hne
  · intro hne
    exact ⟨⟨f, _⟩, (mem_unreadList_iff_count hc hu t).mpr ⟨hne, rfl⟩, rfl⟩

theorem nodup_unreadList (c : CacheManager) (u : UInt32) (k : ClientClass) :
    ((c.unreadList u k).map (·.fromUserId)).Nodup := by
  refine List.pairwise_map.mpr (unreadList_ordered.imp fun h heq => ?_)
  rw [heq] at h
  exact UInt32.lt_irrefl _ h

/-- There are as many entries as friends. -/
theorem ncard_unreadFriends (hc : WellCounted c) (hu : u ≠ 0) (t : UInt32) :
    (unreadFriends c u t).ncard = (c.unreadList u (clientClass t)).length := by
  have hset : unreadFriends c u t =
      (((c.unreadList u (clientClass t)).map (·.fromUserId)).toFinset : Set UInt32) := by
    ext f
    rw [List.coe_toFinset, Set.mem_ofPred_eq, exists_mem_unreadList_iff hc hu]
  rw [hset, Set.ncard_coe_finset, List.toFinset_card_of_nodup (nodup_unreadList _ _ _),
    List.length_map]

/-- Each entry is on a list of `n` or behind it. -/
theorem mem_unreadList_split (n : ℕ) {k : ClientClass} {e : UserUnreadMsgCount} :
    e ∈ c.unreadList u k ↔ e ∈ (c.unreadList u k).take n ∨ e ∈ (c.unreadList u k).drop n := by
  rw [← List.mem_append, List.take_append_drop]

/-- Who is on the list comes before who is behind it. -/
theorem lt_of_mem_take_drop {k : ClientClass} {e e' : UserUnreadMsgCount} {n : ℕ}
    (h : e ∈ (c.unreadList u k).take n) (h' : e' ∈ (c.unreadList u k).drop n) :
    e.fromUserId < e'.fromUserId := by
  have hordered := unreadList_ordered (c := c) (u := u) (k := k)
  rw [← List.take_append_drop n (c.unreadList u k), List.pairwise_append] at hordered
  exact hordered.2.2 e h e' h'

/-- **The reads agree.** -/
theorem listedCounts_agree (hc : WellCounted c) (hu : u ≠ 0) (t : UInt32) :
    ReadsAgree c u t (listedCounts c u t) := by
  rw [listedCounts_eq hu]
  have hmem : ∀ e ∈ (c.unreadList u (clientClass t)).take 300, e.unreadMsgCount ≠ 0 ∧
      ZAresCounterManagerImpl.getUserFriendUnreadCount u e.fromUserId t c = e.unreadMsgCount :=
    fun e he => (mem_unreadList_iff_count hc hu t).mp (List.mem_of_mem_take he)
  constructor
  · exact unreadList_ordered.sublist (List.take_sublist _ _)
  · intro e he
    exact ⟨(hmem e he).1, (hmem e he).2.symm⟩
  · intro f hmissing
    by_cases hcount : ZAresCounterManagerImpl.getUserFriendUnreadCount u f t c = 0
    · exact Or.inl hcount
    · -- the entry is there, so it is behind the list, and the list is full
      have hentry := (mem_unreadList_iff_count hc hu t).mpr ⟨hcount, rfl⟩
      have hbehind := ((mem_unreadList_split 300).mp hentry).resolve_left
        fun h => hmissing _ h rfl
      have hlong := List.length_pos_of_mem hbehind
      rw [List.length_drop] at hlong
      refine Or.inr ⟨?_, fun e he => lt_of_mem_take_drop he hbehind⟩
      rw [List.length_take]
      omega
  · intro hfew f n
    rw [ncard_unreadFriends hc hu] at hfew
    rw [List.take_of_length_le hfew]
    exact mem_unreadList_iff_count hc hu t

end Reads

/-! ## Acknowledging what is listed -/

/-- A list is read, and then the friends on it are acknowledged, with clients of the class and in
    any order.  Whatever else goes on meanwhile, there is no new message. -/
structure Round (u : UInt32) (k : ClientClass) (c : CacheManager) (list : List UserUnreadMsgCount)
    (c' : CacheManager) : Prop where
  read : ∃ t, clientClass t = k ∧ list = listedCounts c u t
  acknowledged : ∃ ops, Run CounterStep c ops c' ∧ (∀ op ∈ ops, op.isIncrease = false) ∧
    ∀ f, ops.any (·.isAckOf u f k) = true ↔ ∃ e ∈ list, e.fromUserId = f

/-- From a state on, reading and acknowledging round by round lists each friend once, and comes to
    an end. -/
structure Drains (c : CacheManager) (u t : UInt32) : Prop where
  possible : ∀ n, ∃ lists c', lists.length = n ∧ Run (Round u (clientClass t)) c lists c'
  once : ∀ lists c', Run (Round u (clientClass t)) c lists c' →
    (lists.flatten.map (·.fromUserId)).Nodup
  ends : ∀ lists c', Run (Round u (clientClass t)) c lists c' →
    (unreadFriends c u t).ncard ≤ 300 * lists.length → listedCounts c' u t = []
  all : ∀ lists c', Run (Round u (clientClass t)) c lists c' → listedCounts c' u t = [] →
    ∀ f n, { fromUserId := f, unreadMsgCount := n } ∈ lists.flatten ↔
      n ≠ 0 ∧ ZAresCounterManagerImpl.getUserFriendUnreadCount u f t c = n

namespace Round

variable {u : UInt32} {k : ClientClass} {c c' : CacheManager} {list : List UserUnreadMsgCount}

theorem noneOfZero (hnone : NoneOfZero c) (h : Round u k c list c') : NoneOfZero c' := by
  obtain ⟨ops, hrun, -, -⟩ := h.acknowledged
  exact counterRun_noneOfZero hrun hnone

/-- A round takes the first 300 entries and leaves the rest. -/
theorem take_drop (hu : u ≠ 0) (hnone : NoneOfZero c) (h : Round u k c list c') :
    list = (c.unreadList u k).take 300 ∧ c'.unreadList u k = (c.unreadList u k).drop 300 := by
  obtain ⟨t, rfl, hlist⟩ := h.read
  obtain ⟨ops, hrun, hnew, hacks⟩ := h.acknowledged
  rw [listedCounts_eq hu] at hlist
  refine ⟨hlist, CacheManager.eq_of_mem_iff unreadList_ordered
    (unreadList_ordered.sublist (List.drop_sublist _ _)) ?_⟩
  rintro ⟨f, n⟩
  by_cases hf : f = 0
  · have hold := hnone u f (clientClass t) (Or.inr hf)
    have hnow := counterRun_noneOfZero hrun hnone u f (clientClass t) (Or.inr hf)
    refine iff_of_false (fun hmem => ?_) fun hmem => ?_
    · rw [mem_unreadList_iff, hnow] at hmem
      cases hmem
    · have hentry := mem_unreadList_iff.mp ((mem_unreadList_split 300).mpr (Or.inr hmem))
      rw [hold] at hentry
      cases hentry
  · rw [mem_unreadList_iff, counterRun_item?_acks hrun hnew hu hf]
    by_cases hack : ops.any (·.isAckOf u f (clientClass t)) = true
    · -- an acknowledged friend is on the list, and those behind the list have larger ids
      rw [if_pos hack]
      refine iff_of_false nofun fun hmem => ?_
      obtain ⟨e, he, heq⟩ := (hacks f).mp hack
      rw [hlist] at he
      have hlt := lt_of_mem_take_drop he hmem
      rw [heq] at hlt
      exact UInt32.lt_irrefl _ hlt
    · rw [if_neg hack, ← mem_unreadList_iff, mem_unreadList_split 300]
      refine or_iff_right fun hmem => hack ((hacks f).mpr ?_)
      rw [← hlist] at hmem
      exact ⟨_, hmem, rfl⟩

/-- There is always a further round. -/
theorem exists_next (u t : UInt32) (c : CacheManager) :
    ∃ list c', Round u (clientClass t) c list c' := by
  let acks : List CounterOp := (listedCounts c u t).map fun e =>
    .clearUserUnreadItemCount u e.fromUserId t
  obtain ⟨c', hrun⟩ := exists_counterRun c acks
  refine ⟨listedCounts c u t, c', ⟨t, rfl, rfl⟩, acks, hrun, ?_, ?_⟩
  · intro op hop
    obtain ⟨e, -, rfl⟩ := List.mem_map.mp hop
    rfl
  · intro f
    simp [acks, CounterOp.isAckOf]

end Round

/-- **The rounds come to an end.** -/
theorem rounds_drain {c : CacheManager} {u : UInt32} (hc : WellCounted c) (hu : u ≠ 0) (t : UInt32) :
    Drains c u t := by
  have hbatches : ∀ lists c', Run (Round u (clientClass t)) c lists c' →
      lists.flatten = (c.unreadList u (clientClass t)).take (300 * lists.length) ∧
        c'.unreadList u (clientClass t) =
          (c.unreadList u (clientClass t)).drop (300 * lists.length) := by
    intro lists c' hrun
    exact hrun.batches NoneOfZero (·.unreadList u (clientClass t))
      (fun _ _ _ hnone hround => hround.noneOfZero hnone)
      (fun _ _ _ hnone hround => hround.take_drop hu hnone) hc.noneOfZero
  constructor
  · intro n
    induction n with
    | zero => exact ⟨[], c, rfl, .nil⟩
    | succ n ih =>
      obtain ⟨lists, c₁, hlength, hrun⟩ := ih
      obtain ⟨list, c', hround⟩ := Round.exists_next u t c₁
      exact ⟨lists ++ [list], c', by rw [List.length_append, hlength]; rfl, hrun.snoc hround⟩
  · intro lists c' hrun
    rw [(hbatches lists c' hrun).1]
    exact (nodup_unreadList c u _).sublist ((List.take_sublist _ _).map _)
  · intro lists c' hrun hfew
    rw [ncard_unreadFriends hc hu] at hfew
    rw [listedCounts_eq hu, (hbatches lists c' hrun).2, List.drop_of_length_le hfew]
    rfl
  · intro lists c' hrun hempty f n
    obtain ⟨hflatten, hleft⟩ := hbatches lists c' hrun
    -- the last list is empty, so nothing is left behind the rounds
    rw [listedCounts_eq hu, List.take_eq_nil_iff] at hempty
    have hnil := hempty.resolve_left (by omega)
    rw [hleft, List.drop_eq_nil_iff] at hnil
    rw [hflatten, List.take_of_length_le hnil]
    exact mem_unreadList_iff_count hc hu t

/-- **Two reads of the counts.**  After any operations that count fewer than 2^32 messages, the
    response to a user lists what the lookups find, up to the limit of 300, and acknowledging what is
    listed brings up the rest. -/
theorem unreadReads_agree {ops : List CounterOp} {w w' : World} {mem : Memory}
    {sessionId : UInt64} {request : Pdu UnreadMsgCountRequest} {tr : List Event}
    (hrun : Run CounterStep {} ops w.cache)
    (hfew : ops.countP CounterOp.isIncrease < 2 ^ 32) (hu : request.body.userId ≠ 0)
    (h : Runs Step w (unreadMsgCountRequestHandler zAresModelModule mem sessionId request) tr () w') :
    ∃ response : Pdu UnreadMsgCountResponse,
      replies tr = [(sessionId, ⟨.unreadMsgCountResponse, response⟩)] ∧
      response.body.userUnreadList =
        listedCounts w.cache request.body.userId request.body.clientType ∧
      ReadsAgree w.cache request.body.userId request.body.clientType response.body.userUnreadList ∧
      Drains w.cache request.body.userId request.body.clientType := by
  obtain ⟨-, hreplies⟩ := unreadMsgCountRequestHandler_runs h
  have hc := counterRun_wellCounted hrun hfew
  exact ⟨_, hreplies, rfl, listedCounts_agree hc hu _, rounds_drain hc hu _⟩

/-! ## One message -/

/-- After 1 has written to 2, the response to user 1 has one entry, and so has the lookup. -/
theorem unreadReads_agree_oneMessage : ∃ c : CacheManager,
    ZAresCounterManagerImpl.getUserFriendUnreadCount 1 2 17 c = 1 ∧
    ReadsAgree c 1 17 (listedCounts c 1 17) ∧ Drains c 1 17 := by
  let w : World :=
    { emptyWorld with cache := ((CounterOp.increaseUserUnreadMsgCount 1 2).run {}).2 }
  obtain ⟨w', hrequest⟩ := countRequest_runs 1 w
  have hrun : Run CounterStep {} [.increaseUserUnreadMsgCount 1 2] w.cache := .one rfl
  obtain ⟨response, -, hlist, hagree, hdrains⟩ :=
    unreadReads_agree hrun (by decide) (by decide) hrequest
  rw [hlist] at hagree
  exact ⟨w.cache, by decide, hagree, hdrains⟩

end Zattd
