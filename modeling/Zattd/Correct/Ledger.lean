/-
  The message counters as a LEDGER of the message table.

  Two stores are written for each message: the table gets a row, and the counters, which live in
  memory, go up by one, in three-level maps with a branch for each level that is not there yet.  A
  client that has read its messages clears one entry of one class of client types.  The ledger law
  says that nothing of this is lost: an entry is the number of rows the table has got since the entry
  was last cleared, and `counter_instance` is the number it has got at all, both modulo 2^32.
-/
import Zattd.Correct.SendMessage
import Zattd.Lib.OrderedMap
import Zattd.Lib.Run
import Zattd.Model.ZAresModelModule

set_option linter.unusedVariables false

namespace Zattd

open Prog

/-! ## Reading the counters -/

/-- The classes of client types, each with unread counts of its own. -/
inductive ClientClass
  | ios
  | android
  | other
  deriving DecidableEq

/-- The class of a client type. -/
def clientClass (clientType : UInt32) : ClientClass :=
  if clientType = 17 then .ios else if clientType = 18 then .android else .other

/-- The unread counts of a class. -/
def UserUnreadCount.ofClass (c : UserUnreadCount) : ClientClass → Map UInt32
  | .ios => c.userUnreadCountIos
  | .android => c.userUnreadCountAndroid
  | .other => c.userUnreadCountOther

namespace CacheManager

/-- `counter_instance[a][b]`, 0 when absent. -/
def counter (c : CacheManager) (a b : UInt32) : UInt32 :=
  (c.counterInstance[a]?.bind (·[b]?)).getD 0

/-- The entry of `[a][b]` for a class of client types, when there is one. -/
def item? (c : CacheManager) (a b : UInt32) (k : ClientClass) : Option UInt32 :=
  c.unreadInstance[a]?.bind fun unread => (unread.ofClass k)[b]?

/-- The entry, 0 when absent. -/
def entry (c : CacheManager) (a b : UInt32) (k : ClientClass) : UInt32 := (c.item? a b k).getD 0

end CacheManager

theorem UserUnreadCount.getUnreadCountByClientType_eq (c : UserUnreadCount) (t : UInt32) :
    c.getUnreadCountByClientType t = c.ofClass (clientClass t) := by
  unfold getUnreadCountByClientType clientClass
  by_cases h17 : t = 17
  · rw [if_pos h17, if_pos h17]; rfl
  · by_cases h18 : t = 18
    · rw [if_neg h17, if_neg h17, if_pos h18, if_pos h18]; rfl
    · rw [if_neg h17, if_neg h17, if_neg h18, if_neg h18]; rfl

theorem UserUnreadCount.ofClass_set (c : UserUnreadCount) (t : UInt32) (m : Map UInt32)
    (k : ClientClass) : (c.setUnreadCountByClientType t m).ofClass k =
      if k = clientClass t then m else c.ofClass k := by
  unfold setUnreadCountByClientType clientClass
  by_cases h17 : t = 17
  · rw [if_pos h17, if_pos h17]; cases k <;> rfl
  · by_cases h18 : t = 18
    · rw [if_neg h17, if_neg h17, if_pos h18, if_pos h18]; cases k <;> rfl
    · rw [if_neg h17, if_neg h17, if_neg h18, if_neg h18]; cases k <;> rfl

namespace ZAresCounterManagerImpl

/-- The lookup reads the entry. -/
theorem getUserFriendUnreadCount_eq {u f : UInt32} (hu : u ≠ 0) (hf : f ≠ 0) (t : UInt32)
    (c : CacheManager) : getUserFriendUnreadCount u f t c = c.entry u f (clientClass t) := by
  rw [getUserFriendUnreadCount, if_pos ⟨hu, hf⟩, CacheManager.entry, CacheManager.item?,
    CacheManager.findUnreadCount]
  cases c.unreadInstance[u]? with
  | none => rfl
  | some unread =>
    simp only [Option.map_some, Option.bind_some, UserUnreadCount.getUnreadCountByClientType_eq,
      Std.TreeMap.getD_eq_getD_getElem?]

theorem getUserFriendUnreadCount_zero {u f : UInt32} (h0 : u = 0 ∨ f = 0) (t : UInt32)
    (c : CacheManager) : getUserFriendUnreadCount u f t c = 0 := by
  rw [getUserFriendUnreadCount, if_neg (by tauto)]

end ZAresCounterManagerImpl

/-! ## What the operations do to an entry -/

open OrderedMap (getElem?_insert_eq getElem?_erase_eq)

theorem CacheManager.increment_getElem? (m : Map UInt32) (b b' : UInt32) :
    (increment m b)[b']? = if b = b' then some (m[b']?.getD 0 + 1) else m[b']? := by
  rw [increment, getElem?_insert_eq, Std.TreeMap.getD_eq_getD_getElem?]
  by_cases h : b = b'
  · rw [if_pos h, if_pos h, h]
  · rw [if_neg h, if_neg h]

namespace ZAresCounterManagerImpl

/-- The three branches of `CacheManager::IncrUserMsgCount` are one. -/
theorem incrUserMsgCount_eq (f t : UInt32) (c : CacheManager) : c.incrUserMsgCount f t =
    { c with
      counterInstance := c.counterInstance.insert f
        ((c.counterInstance[f]?.getD ∅).insert t (c.counter f t + 1)) } := by
  unfold CacheManager.incrUserMsgCount CacheManager.counter
  split
  · next hf => simp [hf]
  · next toUserIds hf =>
    split
    · next ht => simp [hf, ht]
    · next n ht => simp [hf, ht]

/-- Counting a message adds one to its own entry. -/
theorem counter_incrUserMsgCount (f t : UInt32) (c : CacheManager) (a b : UInt32) :
    (incrUserMsgCount f t c).counter a b =
      if (f ≠ 0 ∧ t ≠ 0) ∧ f = a ∧ t = b then c.counter a b + 1 else c.counter a b := by
  by_cases h0 : f = 0 ∨ t = 0
  · rw [incrUserMsgCount, if_pos h0, if_neg]
    rintro ⟨⟨hf, ht⟩, -⟩
    exact h0.elim hf ht
  have hne : f ≠ 0 ∧ t ≠ 0 := not_or.mp h0
  rw [incrUserMsgCount, if_neg h0, incrUserMsgCount_eq]
  show ((c.counterInstance.insert f _)[a]?.bind (·[b]?)).getD 0 = _
  rw [getElem?_insert_eq]
  by_cases hfa : f = a
  · subst hfa
    rw [if_pos rfl, Option.bind_some, getElem?_insert_eq]
    by_cases htb : t = b
    · subst htb
      rw [if_pos rfl, if_pos ⟨hne, rfl, rfl⟩, Option.getD_some]
    · rw [if_neg htb, if_neg fun h => htb h.2.2]
      unfold CacheManager.counter
      cases c.counterInstance[f]? <;> simp
  · rw [if_neg hfa, if_neg fun h => hfa h.2.1]
    rfl

theorem item?_incrUserMsgCount (f t : UInt32) (c : CacheManager) (a b : UInt32) (k : ClientClass) :
    (incrUserMsgCount f t c).item? a b k = c.item? a b k := by
  have hsame : (incrUserMsgCount f t c).unreadInstance = c.unreadInstance := by
    unfold incrUserMsgCount CacheManager.incrUserMsgCount
    split
    · rfl
    · split
      · rfl
      · split <;> rfl
  unfold CacheManager.item?
  rw [hsame]

/-- So are the two branches of `CacheManager::IncreaseUserUnreadMsgCount`. -/
theorem increaseUserUnreadMsgCount_eq (f t : UInt32) (c : CacheManager) :
    ∃ unread : UserUnreadCount, c.increaseUserUnreadMsgCount f t =
      { c with unreadInstance := c.unreadInstance.insert f unread } ∧
      ∀ k b, (unread.ofClass k)[b]? =
        if t = b then some (c.entry f b k + 1) else c.item? f b k := by
  unfold CacheManager.increaseUserUnreadMsgCount CacheManager.entry CacheManager.item?
  split
  · next unread hf =>
    refine ⟨_, rfl, fun k b => ?_⟩
    have hincr := CacheManager.increment_getElem? (unread.ofClass k) t b
    rw [hf, Option.bind_some]
    cases k <;> exact hincr
  · next hf =>
    refine ⟨_, rfl, fun k b => ?_⟩
    have hone := getElem?_insert_eq (∅ : Map UInt32) t b 1
    rw [hf, Option.bind_none, Option.getD_none, UInt32.zero_add]
    rw [Std.TreeMap.getElem?_emptyc] at hone
    cases k <;> exact hone

/-- Counting an unread message makes an entry of one, or adds one to the entry, in every class. -/
theorem item?_increaseUserUnreadMsgCount (f t : UInt32) (c : CacheManager) (a b : UInt32)
    (k : ClientClass) : (increaseUserUnreadMsgCount f t c).item? a b k =
      if (f ≠ 0 ∧ t ≠ 0) ∧ f = a ∧ t = b then some (c.entry a b k + 1) else c.item? a b k := by
  by_cases h0 : f = 0 ∨ t = 0
  · rw [increaseUserUnreadMsgCount, if_pos h0, if_neg]
    rintro ⟨⟨hf, ht⟩, -⟩
    exact h0.elim hf ht
  have hne : f ≠ 0 ∧ t ≠ 0 := not_or.mp h0
  obtain ⟨unread, heq, hunread⟩ := increaseUserUnreadMsgCount_eq f t c
  rw [increaseUserUnreadMsgCount, if_neg h0, heq]
  show ((c.unreadInstance.insert f unread)[a]?.bind fun unread => (unread.ofClass k)[b]?) = _
  rw [getElem?_insert_eq]
  by_cases hfa : f = a
  · subst hfa
    rw [if_pos rfl, Option.bind_some, hunread]
    by_cases htb : t = b
    · rw [if_pos htb, if_pos ⟨hne, rfl, htb⟩]
    · rw [if_neg htb, if_neg fun h => htb h.2.2]
  · rw [if_neg hfa, if_neg fun h => hfa h.2.1]
    rfl

theorem counter_increaseUserUnreadMsgCount (f t : UInt32) (c : CacheManager) (a b : UInt32) :
    (increaseUserUnreadMsgCount f t c).counter a b = c.counter a b := by
  have hsame : (increaseUserUnreadMsgCount f t c).counterInstance = c.counterInstance := by
    unfold increaseUserUnreadMsgCount CacheManager.increaseUserUnreadMsgCount
    split
    · rfl
    · split <;> rfl
  unfold CacheManager.counter
  rw [hsame]

/-- **Clearing** takes away one entry of one class, and nothing else. -/
theorem item?_clearUserUnreadItemCount (x y t : UInt32) (c : CacheManager) (a b : UInt32)
    (k : ClientClass) : (clearUserUnreadItemCount x y t c).2.item? a b k =
      if (x ≠ 0 ∧ y ≠ 0) ∧ x = a ∧ y = b ∧ clientClass t = k then none else c.item? a b k := by
  by_cases h0 : x = 0 ∨ y = 0
  · rw [clearUserUnreadItemCount, if_pos h0, if_neg]
    rintro ⟨⟨hx, hy⟩, -⟩
    exact h0.elim hx hy
  have hne : x ≠ 0 ∧ y ≠ 0 := not_or.mp h0
  rw [clearUserUnreadItemCount, if_neg h0]
  unfold CacheManager.findUnreadCount CacheManager.writeUnreadCount CacheManager.item?
  cases hx : c.unreadInstance[x]? with
  | none =>
    simp only [Option.map_none]
    by_cases hxa : x = a
    · subst hxa
      rw [hx]
      simp
    · rw [if_neg fun h => hxa h.2.1]
  | some unread =>
    simp only [Option.map_some]
    by_cases hxa : x = a
    · subst hxa
      rw [getElem?_insert_eq, if_pos rfl, hx, Option.bind_some, Option.bind_some,
        UserUnreadCount.ofClass_set, UserUnreadCount.getUnreadCountByClientType_eq]
      by_cases hk : k = clientClass t
      · subst hk
        rw [if_pos rfl, getElem?_erase_eq]
        simp [hne]
      · rw [if_neg hk, if_neg fun h => hk h.2.2.2.symm]
    · rw [getElem?_insert_eq, if_neg hxa, if_neg fun h => hxa h.2.1]

/-- Clearing leaves the other two maps alone. -/
theorem clearUserUnreadItemCount_others (x y t : UInt32) (c : CacheManager) :
    (clearUserUnreadItemCount x y t c).2.counterInstance = c.counterInstance ∧
      (clearUserUnreadItemCount x y t c).2.groupCounterInstance = c.groupCounterInstance := by
  unfold clearUserUnreadItemCount CacheManager.writeUnreadCount
  split
  · exact ⟨rfl, rfl⟩
  · split
    · exact ⟨rfl, rfl⟩
    · split <;> exact ⟨rfl, rfl⟩

end ZAresCounterManagerImpl

/-! ## The calls -/

/-- A message, stored or not, or a clearing of an entry. -/
inductive LedgerCall
  | sendIMMessage (fromUserId toUserId type : UInt32) (content : Bytes) (time : UInt32)
      (isSucess : Bool)
  | clearUserUnreadItemCount (userId friendUserId clientType : UInt32)

/-- A call with any arguments, and any outcome of its statements. -/
inductive LedgerStep (w : World) : LedgerCall → World → Prop
  | sendIMMessage {f t k time : UInt32} {content : Bytes} {isSucess : Bool} {tr : List Event}
      {w' : World} :
      Runs Step w (ZAresMessageManagerImpl.sendIMMessage f t k content time) tr isSucess w' →
      LedgerStep w (.sendIMMessage f t k content time isSucess) w'
  | clearUserUnreadItemCount {x y t : UInt32} {cleared : Bool} {tr : List Event} {w' : World} :
      Runs Step w (zAresModelModule.counterManager.clearUserUnreadItemCount x y t) tr cleared w' →
      LedgerStep w (.clearUserUnreadItemCount x y t) w'

/-- The row is a message from `a` to `b`. -/
def MessageRow.isBetween (a b : UInt32) (r : MessageRow) : Bool :=
  decide (r.fromUserId = a.toNat ∧ r.toUserId = b.toNat)

/-- The call clears the entry of `[a][b]` for the class `k`. -/
def LedgerCall.Clears (a b : UInt32) (k : ClientClass) : LedgerCall → Prop
  | .clearUserUnreadItemCount x y t => x = a ∧ y = b ∧ clientClass t = k
  | .sendIMMessage _ _ _ _ _ _ => False

/-- `calls` is `pre` followed by `post`, and the last clearing of the entry, if there is one, is the
    last call of `pre`. -/
structure LastCleared (a b : UInt32) (k : ClientClass) (calls pre post : List LedgerCall) :
    Prop where
  split : calls = pre ++ post
  last : pre = [] ∨ ∃ pre' l, pre = pre' ++ [l] ∧ l.Clears a b k
  since : ∀ l ∈ post, ¬l.Clears a b k

namespace LedgerStep

variable {w w' : World} {l : LedgerCall}

/-- What a call does to the messages and the counters: it stores and counts a message, or it clears
    an entry, or it leaves both alone. -/
theorem cases (h : LedgerStep w l w') :
    (∃ f t k content time row, l = .sendIMMessage f t k content time true ∧ f ≠ 0 ∧ t ≠ 0 ∧
      ZAresMessageManagerImpl.Holds row f t content ∧ w'.db.imMessage = w.db.imMessage ++ [row] ∧
      w'.cache = ZAresMessageManagerImpl.countMessage f t w.cache) ∨
    (∃ x y t, l = .clearUserUnreadItemCount x y t ∧ w'.db.imMessage = w.db.imMessage ∧
      w'.cache = (ZAresCounterManagerImpl.clearUserUnreadItemCount x y t w.cache).2) ∨
    (∃ f t k content time, l = .sendIMMessage f t k content time false ∧
      w'.db.imMessage = w.db.imMessage ∧ w'.cache = w.cache) := by
  cases h with
  | @sendIMMessage f t k time content isSucess tr w' hrun =>
    rcases ZAresMessageManagerImpl.sendIMMessage_runs hrun with
      ⟨rfl, hquiet⟩ | ⟨rfl, hf, ht, ⟨row, hholds, hrow⟩, hcache⟩
    · exact Or.inr (Or.inr ⟨f, t, k, content, time, rfl, hquiet.messages, hquiet.cache⟩)
    · exact Or.inl ⟨f, t, k, content, time, row, rfl, hf, ht, hholds, hrow, hcache⟩
  | @clearUserUnreadItemCount x y t cleared tr w' hrun =>
    obtain ⟨hclear, -⟩ := runs_issue.mp hrun
    obtain ⟨-, rfl⟩ := hclear.resolve_right id
    exact Or.inr (Or.inl ⟨x, y, t, rfl, rfl, rfl⟩)

theorem holds_isBetween {row : MessageRow} {f t : UInt32} {content : Bytes}
    (h : ZAresMessageManagerImpl.Holds row f t content) (a b : UInt32) :
    row.isBetween a b = decide (f = a ∧ t = b) := by
  unfold MessageRow.isBetween
  rw [h.fromUserId, h.toUserId]
  simp [UInt32.toNat_inj]

/-- The table only grows, and `counter_instance` with it. -/
theorem counter_eq (h : LedgerStep w l w') : ∃ rows, w'.db.imMessage = w.db.imMessage ++ rows ∧
    ∀ a b, w'.cache.counter a b =
      w.cache.counter a b + UInt32.ofNat (rows.countP (MessageRow.isBetween a b)) := by
  rcases h.cases with ⟨f, t, k, content, time, row, -, hf, ht, hholds, hrow, hcache⟩ |
    ⟨x, y, t, -, hrow, hcache⟩ | ⟨f, t, k, content, time, -, hrow, hcache⟩
  · refine ⟨[row], hrow, fun a b => ?_⟩
    rw [hcache, ZAresMessageManagerImpl.countMessage,
      ZAresCounterManagerImpl.counter_increaseUserUnreadMsgCount,
      ZAresCounterManagerImpl.counter_incrUserMsgCount, List.countP_singleton,
      holds_isBetween hholds]
    by_cases hab : f = a ∧ t = b
    · rw [if_pos ⟨⟨hf, ht⟩, hab⟩, if_pos (decide_eq_true hab)]
      rfl
    · rw [if_neg fun h => hab h.2, if_neg fun h => hab (of_decide_eq_true h)]
      exact (UInt32.add_zero _).symm
  · refine ⟨[], by rw [hrow, List.append_nil], fun a b => ?_⟩
    rw [hcache, CacheManager.counter,
      (ZAresCounterManagerImpl.clearUserUnreadItemCount_others x y t w.cache).1]
    exact (UInt32.add_zero _).symm
  · refine ⟨[], by rw [hrow, List.append_nil], fun a b => ?_⟩
    rw [hcache]
    exact (UInt32.add_zero _).symm

/-- An entry that a call does not clear goes up with the rows between its users. -/
theorem entry_eq {a b : UInt32} {k : ClientClass} (h : LedgerStep w l w') (hl : ¬l.Clears a b k) :
    ∃ rows, w'.db.imMessage = w.db.imMessage ++ rows ∧
      w'.cache.entry a b k =
        w.cache.entry a b k + UInt32.ofNat (rows.countP (MessageRow.isBetween a b)) := by
  rcases h.cases with ⟨f, t, k', content, time, row, -, hf, ht, hholds, hrow, hcache⟩ |
    ⟨x, y, t, rfl, hrow, hcache⟩ | ⟨f, t, k', content, time, -, hrow, hcache⟩
  · refine ⟨[row], hrow, ?_⟩
    rw [hcache, List.countP_singleton, holds_isBetween hholds]
    unfold CacheManager.entry
    rw [ZAresMessageManagerImpl.countMessage,
      ZAresCounterManagerImpl.item?_increaseUserUnreadMsgCount]
    by_cases hab : f = a ∧ t = b
    · rw [if_pos ⟨⟨hf, ht⟩, hab⟩, if_pos (decide_eq_true hab), CacheManager.entry,
        ZAresCounterManagerImpl.item?_incrUserMsgCount]
      rfl
    · rw [if_neg fun h => hab h.2, if_neg fun h => hab (of_decide_eq_true h),
        ZAresCounterManagerImpl.item?_incrUserMsgCount]
      exact (UInt32.add_zero _).symm
  · refine ⟨[], by rw [hrow, List.append_nil], ?_⟩
    rw [hcache, CacheManager.entry, ZAresCounterManagerImpl.item?_clearUserUnreadItemCount,
      if_neg fun h => hl h.2]
    exact (UInt32.add_zero _).symm
  · refine ⟨[], by rw [hrow, List.append_nil], ?_⟩
    rw [hcache]
    exact (UInt32.add_zero _).symm

/-- There are no entries for the id 0, which the counters refuse. -/
theorem item?_zero (h : LedgerStep w l w') {a b : UInt32} (h0 : a = 0 ∨ b = 0)
    (hnone : ∀ k, w.cache.item? a b k = none) (k : ClientClass) : w'.cache.item? a b k = none := by
  have hguard : ¬(a ≠ 0 ∧ b ≠ 0) := fun hne => h0.elim hne.1 hne.2
  rcases h.cases with ⟨f, t, k', content, time, row, -, hf, ht, -, -, hcache⟩ |
    ⟨x, y, t, -, -, hcache⟩ | ⟨f, t, k', content, time, -, -, hcache⟩
  · rw [hcache, ZAresMessageManagerImpl.countMessage,
      ZAresCounterManagerImpl.item?_increaseUserUnreadMsgCount, if_neg,
      ZAresCounterManagerImpl.item?_incrUserMsgCount]
    · exact hnone k
    · rintro ⟨hne, rfl, rfl⟩
      exact hguard hne
  · rw [hcache, ZAresCounterManagerImpl.item?_clearUserUnreadItemCount, hnone]
    split <;> rfl
  · rw [hcache]
    exact hnone k

/-- A clearing of the entry leaves it 0, and stores nothing. -/
theorem entry_cleared {a b : UInt32} {k : ClientClass} (h : LedgerStep w l w')
    (hl : l.Clears a b k) (hzero : a = 0 ∨ b = 0 → ∀ k, w.cache.item? a b k = none) :
    w'.cache.entry a b k = 0 := by
  rcases h.cases with ⟨f, t, k', content, time, row, rfl, -⟩ | ⟨x, y, t, rfl, hrow, hcache⟩ |
    ⟨f, t, k', content, time, rfl, -⟩
  · exact hl.elim
  · obtain ⟨rfl, rfl, rfl⟩ := hl
    rw [hcache, CacheManager.entry, ZAresCounterManagerImpl.item?_clearUserUnreadItemCount]
    by_cases hne : x ≠ 0 ∧ y ≠ 0
    · rw [if_pos ⟨hne, rfl, rfl, rfl⟩]
      rfl
    · rw [if_neg fun h => hne h.1, hzero (by tauto)]
      rfl
  · exact hl.elim

end LedgerStep

/-! ## Runs of calls -/

theorem ofNat_countP_append (p : MessageRow → Bool) (rows rows' : List MessageRow) :
    UInt32.ofNat ((rows ++ rows').countP p) =
      UInt32.ofNat (rows.countP p) + UInt32.ofNat (rows'.countP p) := by
  rw [List.countP_append, UInt32.ofNat_add]

/-- The rows that a run adds to the table are counted. -/
theorem run_counter {w₀ w : World} {calls : List LedgerCall} (h₀ : w₀.cache = {})
    (h : Run LedgerStep w₀ calls w) : ∃ rows, w.db.imMessage = w₀.db.imMessage ++ rows ∧
      ∀ a b, w.cache.counter a b = UInt32.ofNat (rows.countP (MessageRow.isBetween a b)) := by
  induction h with
  | nil =>
    refine ⟨[], (List.append_nil _).symm, fun a b => ?_⟩
    rw [h₀]
    rfl
  | snoc _ hl ih =>
    obtain ⟨rows, hrows, hcount⟩ := ih
    obtain ⟨rows', hrows', hcount'⟩ := hl.counter_eq
    refine ⟨rows ++ rows', by rw [hrows', hrows, List.append_assoc], fun a b => ?_⟩
    rw [hcount', hcount, ofNat_countP_append]

theorem run_item?_zero {w₀ w : World} {calls : List LedgerCall} (h₀ : w₀.cache = {})
    (h : Run LedgerStep w₀ calls w) {a b : UInt32} (hab : a = 0 ∨ b = 0) (k : ClientClass) :
    w.cache.item? a b k = none := by
  revert k
  induction h with
  | nil => intro k; rw [h₀]; rfl
  | snoc _ hl ih => exact hl.item?_zero hab ih

/-- The rows that a run adds to the table after the last clearing of an entry are in the entry. -/
theorem run_entry {w₀ w : World} {calls : List LedgerCall} (h₀ : w₀.cache = {})
    (h : Run LedgerStep w₀ calls w) (a b : UInt32) (k : ClientClass) :
    ∃ pre post w₁ rows, LastCleared a b k calls pre post ∧ Run LedgerStep w₀ pre w₁ ∧
      Run LedgerStep w₁ post w ∧ w.db.imMessage = w₁.db.imMessage ++ rows ∧
      w.cache.entry a b k = UInt32.ofNat (rows.countP (MessageRow.isBetween a b)) := by
  induction h with
  | nil =>
    refine ⟨[], [], w₀, [], ⟨rfl, Or.inl rfl, by simp⟩, .nil, .nil, (List.append_nil _).symm, ?_⟩
    rw [h₀]
    rfl
  | @snoc calls l w₂ w hrun hl ih =>
    by_cases hclears : l.Clears a b k
    · refine ⟨calls ++ [l], [], w, [], ⟨(List.append_nil _).symm, Or.inr ⟨calls, l, rfl, hclears⟩,
        by simp⟩, hrun.snoc hl, .nil, (List.append_nil _).symm, ?_⟩
      exact hl.entry_cleared hclears fun hab k => run_item?_zero h₀ hrun hab k
    · obtain ⟨pre, post, w₁, rows, ⟨rfl, hlast, hsince⟩, hpre, hpost, hrows, hentry⟩ := ih
      obtain ⟨rows', hrows', hentry'⟩ := hl.entry_eq hclears
      refine ⟨pre, post ++ [l], w₁, rows ++ rows', ⟨List.append_assoc _ _ _, hlast, ?_⟩, hpre,
        hpost.snoc hl, by rw [hrows', hrows, List.append_assoc], ?_⟩
      · intro l' hl'
        rcases List.mem_append.mp hl' with hold | hnew
        · exact hsince l' hold
        · rw [List.mem_singleton.mp hnew]
          exact hclears
      · rw [hentry', hentry, ofNat_countP_append]

/-- **The ledger.**  After any run from empty counters, `counter_instance` has, modulo 2^32, the rows
    that the run has added to the table; the entry of each class has those that it has added since
    the entry was last cleared; and a further clearing changes no entry but its own. -/
theorem ledger {w₀ w : World} {calls : List LedgerCall} (h₀ : w₀.cache = {})
    (h : Run LedgerStep w₀ calls w) :
    (∃ rows, w.db.imMessage = w₀.db.imMessage ++ rows ∧
      ∀ a b, w.cache.counter a b = UInt32.ofNat (rows.countP (MessageRow.isBetween a b))) ∧
    (∀ a b k, ∃ pre post w₁ rows, LastCleared a b k calls pre post ∧ Run LedgerStep w₀ pre w₁ ∧
      Run LedgerStep w₁ post w ∧ w.db.imMessage = w₁.db.imMessage ++ rows ∧
      w.cache.entry a b k = UInt32.ofNat (rows.countP (MessageRow.isBetween a b))) ∧
    ∀ x y t w', LedgerStep w (.clearUserUnreadItemCount x y t) w' →
      w'.cache.counterInstance = w.cache.counterInstance ∧
      w'.cache.groupCounterInstance = w.cache.groupCounterInstance ∧
      ∀ a b k, ¬(x = a ∧ y = b ∧ clientClass t = k) →
        w'.cache.item? a b k = w.cache.item? a b k := by
  refine ⟨run_counter h₀ h, run_entry h₀ h, ?_⟩
  intro x y t w' hclear
  rcases hclear.cases with ⟨_, _, _, _, _, _, heq, -⟩ | ⟨_, _, _, heq, -, hcache⟩ |
    ⟨_, _, _, _, _, heq, -⟩
  · cases heq
  · cases heq
    obtain ⟨hcounter, hgroup⟩ := ZAresCounterManagerImpl.clearUserUnreadItemCount_others x y t w.cache
    rw [hcache]
    refine ⟨hcounter, hgroup, fun a b k hother => ?_⟩
    rw [ZAresCounterManagerImpl.item?_clearUserUnreadItemCount, if_neg fun h => hother h.2]
  · cases heq

/-! ## One message -/

/-- User 1 writes to user 2. -/
def oneMessage : World :=
  ((ZAresMessageManagerImpl.sendIMMessage 1 2 1 [104, 105] 0).play emptyWorld).2.2

theorem oneMessage_run : ∃ calls, Run LedgerStep emptyWorld calls oneMessage :=
  ⟨_, .one (.sendIMMessage ((Prog.play_runs _ _).mono fun _ _ _ _ => StepOk.step))⟩

/-- There is one row, between the two, and the counter says so; the other way there is none. -/
theorem ledger_oneMessage : ∃ row, oneMessage.db.imMessage = [row] ∧
    MessageRow.isBetween 1 2 row = true ∧
    oneMessage.cache.counter 1 2 = 1 ∧ oneMessage.cache.counter 2 1 = 0 ∧
    ∀ a b, oneMessage.cache.counter a b = UInt32.ofNat ([row].countP (MessageRow.isBetween a b)) := by
  obtain ⟨calls, hrun⟩ := oneMessage_run
  obtain ⟨⟨rows, hrows, hcounter⟩, -⟩ := ledger rfl hrun
  obtain ⟨row, hrow⟩ := List.length_eq_one_iff.mp (show oneMessage.db.imMessage.length = 1 by decide)
  have hall : oneMessage.db.imMessage.all (MessageRow.isBetween 1 2) = true := by decide
  rw [hrow, List.all_cons, Bool.and_eq_true] at hall
  obtain rfl : rows = [row] := (hrows.symm.trans hrow)
  exact ⟨row, hrow, hall.1, by decide, by decide, hcounter⟩

end Zattd
