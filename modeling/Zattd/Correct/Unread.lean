/-
  Do unread counts reach the RECIPIENT?

  The counters have two keys.  A message from `s` to `r` is counted under `[s][r]`.  An
  acknowledgement by `u` of what `f` wrote clears `[u][f]`, and the unread counts of `u` are read
  from `[u][·]`: there the reader comes first.  So what `u` is told about `f` is how many messages
  `u` has written to `f` since `u` last acknowledged `f`, and not how many `f` has written to `u`.
-/
import Zattd.Correct.Ledger
import Zattd.Handler.MsgHandlers

set_option linter.unusedVariables false

namespace Zattd

open Prog

/-! ## The calls -/

/-- A message that is stored, or the acknowledgement of messages that have been read. -/
inductive ChatCall
  | sendIMMessage (fromUserId toUserId type : UInt32) (content : Bytes) (time : UInt32)
  | msgReadAck (request : MsgReadAck)

/-- A message that `SendIMMessage` reports as sent, or a request that `MsgReadAckHandler` serves. -/
inductive ChatStep (w : World) : ChatCall → World → Prop
  | sendIMMessage {f t k time : UInt32} {content : Bytes} {tr : List Event} {w' : World} :
      Runs Step w (ZAresMessageManagerImpl.sendIMMessage f t k content time) tr true w' →
      ChatStep w (.sendIMMessage f t k content time) w'
  | msgReadAck {mem : Memory} {sessionId : UInt64} {request : Pdu MsgReadAck} {tr : List Event}
      {w' : World} :
      Runs Step w (msgReadAckHandler zAresModelModule mem sessionId request) tr () w' →
      ChatStep w (.msgReadAck request.body) w'

namespace ChatCall

/-- A message from `a` to `b`. -/
def isMessage (a b : UInt32) : ChatCall → Bool
  | sendIMMessage f t _ _ _ => decide (f = a ∧ t = b)
  | msgReadAck _ => false

/-- Any message. -/
def isSend : ChatCall → Bool
  | sendIMMessage _ _ _ _ _ => true
  | msgReadAck _ => false

/-- The reader `u` acknowledges the friend `f`, with a client of class `k`. -/
def isAckOf (u f : UInt32) (k : ClientClass) : ChatCall → Bool
  | sendIMMessage _ _ _ _ _ => false
  | msgReadAck request =>
      decide (request.fromUserId = u ∧ request.toUserId = f ∧ clientClass request.clientType = k)

/-- What the call is for the counters. -/
def ledgerCall : ChatCall → LedgerCall
  | sendIMMessage f t k content time => .sendIMMessage f t k content time true
  | msgReadAck request =>
      .clearUserUnreadItemCount request.fromUserId request.toUserId request.clientType

end ChatCall

/-- The calls since `u` last acknowledged `f` with a client of class `k`. -/
def sinceAck (u f : UInt32) (k : ClientClass) (calls : List ChatCall) : List ChatCall :=
  calls.rtakeWhile fun l => !l.isAckOf u f k

/-- How many messages `s` has written to `u` that `u` has not acknowledged: what the counts are for. -/
def unreadFrom (u s : UInt32) (k : ClientClass) (calls : List ChatCall) : Nat :=
  (sinceAck u s k calls).countP (ChatCall.isMessage s u)

/-- How many messages `u` has written to `f` in the same time. -/
def writtenTo (u f : UInt32) (k : ClientClass) (calls : List ChatCall) : Nat :=
  (sinceAck u f k calls).countP (ChatCall.isMessage u f)

/-! ## The entries after a run -/

/-- An entry for a count: none for 0. -/
def countEntry (n : Nat) : Option UInt32 := if n = 0 then none else some (UInt32.ofNat n)

theorem countEntry_getD (n : Nat) : (countEntry n).getD 0 = UInt32.ofNat n := by
  unfold countEntry
  split
  · next h => rw [h]; rfl
  · rfl

namespace ChatStep

variable {w w' : World} {l : ChatCall}

/-- A request to acknowledge is served by one clearing. -/
theorem ledgerStep (h : ChatStep w l w') : LedgerStep w l.ledgerCall w' := by
  cases h with
  | sendIMMessage hrun => exact .sendIMMessage hrun
  | @msgReadAck mem sessionId request tr w' hrun =>
    simp only [msgReadAckHandler, runs_bind] at hrun
    obtain ⟨_, cleared, w₁, _, hclear, ⟨_, _, w₂, _, hdelete, hsend, _⟩, _⟩ := hrun
    obtain ⟨-, -, rfl⟩ := runs_pure.mp hdelete
    obtain ⟨rfl, -⟩ := sendSessionData_runs hsend
    exact .clearUserUnreadItemCount hclear

/-- What a call does to an entry. -/
theorem item?_eq (h : ChatStep w l w') (u f : UInt32) (k : ClientClass)
    (h0 : u = 0 ∨ f = 0 → w.cache.item? u f k = none) :
    w'.cache.item? u f k =
      if l.isAckOf u f k then none
      else if l.isMessage u f then some (w.cache.entry u f k + 1)
      else w.cache.item? u f k := by
  have hcases := h.ledgerStep.cases
  cases h with
  | @sendIMMessage a b type time content tr w' hrun =>
    rcases hcases with ⟨a', b', _, _, _, _, heq, ha, hb, -, -, hcache⟩ | ⟨_, _, _, heq, -⟩ |
      ⟨_, _, _, _, _, heq, -⟩
    · injection heq with ha' hb'
      subst ha' hb'
      rw [hcache, ZAresMessageManagerImpl.countMessage,
        ZAresCounterManagerImpl.item?_increaseUserUnreadMsgCount,
        ZAresCounterManagerImpl.item?_incrUserMsgCount, CacheManager.entry,
        ZAresCounterManagerImpl.item?_incrUserMsgCount]
      simp only [ChatCall.isAckOf, ChatCall.isMessage, Bool.false_eq_true, if_false,
        decide_eq_true_iff]
      by_cases hab : a = u ∧ b = f
      · rw [if_pos ⟨⟨ha, hb⟩, hab⟩, if_pos hab]
        rfl
      · rw [if_neg fun h => hab h.2, if_neg hab]
    · cases heq
    · cases heq
  | @msgReadAck mem sessionId request tr w' hrun =>
    rcases hcases with ⟨_, _, _, _, _, _, heq, -⟩ | ⟨x, y, t, heq, -, hcache⟩ |
      ⟨_, _, _, _, _, heq, -⟩
    · cases heq
    · injection heq with hx hy ht
      subst hx hy ht
      rw [hcache, ZAresCounterManagerImpl.item?_clearUserUnreadItemCount]
      simp only [ChatCall.isAckOf, ChatCall.isMessage, Bool.false_eq_true, if_false,
        decide_eq_true_iff]
      by_cases hack : request.body.fromUserId = u ∧ request.body.toUserId = f ∧
          clientClass request.body.clientType = k
      · rw [if_pos hack]
        by_cases hne : request.body.fromUserId ≠ 0 ∧ request.body.toUserId ≠ 0
        · rw [if_pos ⟨hne, hack⟩]
        · rw [if_neg fun h => hne h.1]
          obtain ⟨rfl, rfl, -⟩ := hack
          exact h0 (by tauto)
      · rw [if_neg hack, if_neg fun h => hack h.2]
    · cases heq

end ChatStep

theorem run_ledger {w₀ w : World} {calls : List ChatCall} (h : Run ChatStep w₀ calls w) :
    Run LedgerStep w₀ (calls.map ChatCall.ledgerCall) w := by
  induction h with
  | nil => exact .nil
  | snoc _ hl ih =>
    rw [List.map_append]
    exact ih.snoc hl.ledgerStep

/-- **What is counted.**  The entry of `[u][f]` has what `u` has written to `f` since `u` last
    acknowledged `f`. -/
theorem run_item?_eq {w₀ w : World} {calls : List ChatCall} (h₀ : w₀.cache = {})
    (h : Run ChatStep w₀ calls w) (u f : UInt32) (k : ClientClass) :
    w.cache.item? u f k = countEntry (writtenTo u f k calls) := by
  induction h with
  | nil => rw [h₀]; rfl
  | @snoc calls l w₁ w hrun hl ih =>
    have hzero : u = 0 ∨ f = 0 → w₁.cache.item? u f k = none :=
      fun hab => run_item?_zero h₀ (run_ledger hrun) hab k
    rw [hl.item?_eq u f k hzero]
    unfold writtenTo sinceAck
    by_cases hack : l.isAckOf u f k = true
    · rw [if_pos hack, List.rtakeWhile_concat_neg _ _ _ (by simp [hack])]
      rfl
    · rw [if_neg hack, List.rtakeWhile_concat_pos _ _ _ (by simp [hack]), List.countP_append,
        List.countP_singleton]
      by_cases hmsg : l.isMessage u f = true
      · rw [if_pos hmsg, if_pos hmsg, CacheManager.entry, ih, countEntry_getD]
        show _ = countEntry (writtenTo u f k calls + 1)
        rw [countEntry, if_neg (Nat.succ_ne_zero _), UInt32.ofNat_add]
        rfl
      · rw [if_neg hmsg, if_neg hmsg, ih]
        rfl

/-- Fewer than 2^32 messages are counted without overflow. -/
theorem countEntry_eq_some_iff {n : Nat} (hn : n < 2 ^ 32) {v : UInt32} :
    countEntry n = some v ↔ 0 < n ∧ v.toNat = n := by
  unfold countEntry
  by_cases h0 : n = 0
  · rw [if_pos h0]
    exact iff_of_false nofun (by omega)
  · rw [if_neg h0, Option.some.injEq]
    constructor
    · rintro rfl
      exact ⟨Nat.pos_of_ne_zero h0, by rw [UInt32.toNat_ofNat', Nat.mod_eq_of_lt hn]⟩
    · rintro ⟨-, hv⟩
      rw [← hv, UInt32.ofNat_toNat]

/-- No more messages since an acknowledgement than at all. -/
theorem countP_sinceAck_le (u f x y : UInt32) (k : ClientClass) (calls : List ChatCall) :
    (sinceAck u f k calls).countP (ChatCall.isMessage x y) ≤ calls.countP ChatCall.isSend := by
  have hsends : (sinceAck u f k calls).countP (ChatCall.isMessage x y) ≤
      (sinceAck u f k calls).countP ChatCall.isSend := by
    apply List.countP_mono_left
    intro l _ hl
    cases l with
    | sendIMMessage _ _ _ _ _ => rfl
    | msgReadAck _ => cases hl
  exact hsends.trans (List.rtakeWhile_suffix _ _).sublist.countP_le

theorem writtenTo_le (u f : UInt32) (k : ClientClass) (calls : List ChatCall) :
    writtenTo u f k calls ≤ calls.countP ChatCall.isSend :=
  countP_sinceAck_le u f u f k calls

theorem unreadFrom_le (u s : UInt32) (k : ClientClass) (calls : List ChatCall) :
    unreadFrom u s k calls ≤ calls.countP ChatCall.isSend :=
  countP_sinceAck_le u s s u k calls

/-! ## The answer -/

/-- What `UnreadMsgCountRequestHandler` lists: the first 300 entries of the user. -/
def listedCounts (c : CacheManager) (u t : UInt32) : List UserUnreadMsgCount :=
  ((ZAresCounterManagerImpl.getUnreadMsgCount u t ⟨0, ∅⟩ c).getD ⟨0, ∅⟩).unreadCount.toList.map
    fun e => { fromUserId := e.1, unreadMsgCount := e.2 }

/-- The reply with a list. -/
def countResponse (request : Pdu UnreadMsgCountRequest) (userUnreadList : List UserUnreadMsgCount) :
    Pdu UnreadMsgCountResponse where
  attachData := request.attach
  reserved := request.reserved
  body := { toUserId := request.body.userId, userUnreadList := userUnreadList }

/-- Of the counter that is passed in only the map matters, and it is empty. -/
theorem unreadCount_newCounter {counter : Counter} (hempty : counter.unreadCount = ∅)
    (c : CacheManager) (u t : UInt32) :
    ((ZAresCounterManagerImpl.getUnreadMsgCount u t counter c).getD counter).unreadCount =
      ((ZAresCounterManagerImpl.getUnreadMsgCount u t ⟨0, ∅⟩ c).getD ⟨0, ∅⟩).unreadCount := by
  unfold ZAresCounterManagerImpl.getUnreadMsgCount
  split
  · exact hempty
  · split
    · exact hempty
    · simp only [Option.getD_some, hempty]

theorem unreadMsgCountRequestHandler_runs {mem : Memory} {sessionId : UInt64}
    {request : Pdu UnreadMsgCountRequest} {w w' : World} {tr : List Event}
    (h : Runs Step w (unreadMsgCountRequestHandler zAresModelModule mem sessionId request) tr () w') :
    w' = w ∧ replies tr = [(sessionId, ⟨.unreadMsgCountResponse, countResponse request
      (listedCounts w.cache request.body.userId request.body.clientType)⟩)] := by
  obtain ⟨_, found, w₁, _, hfound, hsend, rfl⟩ := runs_bind.mp h
  obtain ⟨⟨rfl, rfl⟩, rfl⟩ := runs_counter.mp hfound
  obtain ⟨hworld, hreplies⟩ := sendSessionData_runs hsend
  refine ⟨hworld, ?_⟩
  have hcounts := unreadCount_newCounter (rfl : mem.newCounter.unreadCount = ∅) w.cache request.body.userId
    request.body.clientType
  rw [replies_append, hreplies, listedCounts, ← hcounts]
  rfl

theorem listedCounts_nodup (c : CacheManager) (u t : UInt32) :
    ((listedCounts c u t).map (·.fromUserId)).Nodup := by
  unfold listedCounts
  rw [List.map_map]
  exact OrderedMap.nodup_keys _

/-- An entry is listed if fewer than 300 come before it. -/
theorem mem_listedCounts_iff {c : CacheManager} {u t s n : UInt32} (hu : u ≠ 0) :
    { fromUserId := s, unreadMsgCount := n } ∈ listedCounts c u t ↔
      c.item? u s (clientClass t) = some n ∧
        {g | g < s ∧ c.item? u g (clientClass t) ≠ none}.ncard < 300 := by
  have hmap : ({ fromUserId := s, unreadMsgCount := n } : UserUnreadMsgCount) ∈ listedCounts c u t ↔
      (s, n) ∈ ((ZAresCounterManagerImpl.getUnreadMsgCount u t ⟨0, ∅⟩ c).getD
        ⟨0, ∅⟩).unreadCount.toList := by
    unfold listedCounts
    rw [List.mem_map]
    constructor
    · rintro ⟨⟨s', n'⟩, hmem, heq⟩
      injection heq with hs hn
      rw [← hs, ← hn]
      exact hmem
    · intro hmem
      exact ⟨(s, n), hmem, rfl⟩
  rw [hmap, ZAresCounterManagerImpl.getUnreadMsgCount, if_neg hu]
  unfold CacheManager.findUnreadCount CacheManager.item?
  cases hfind : c.unreadInstance[u]? with
  | none =>
    simp
  | some unread =>
    simp only [Option.map_some, Option.getD_some, Option.bind_some,
      UserUnreadCount.getUnreadCountByClientType_eq]
    generalize unread.ofClass (clientClass t) = m
    have hordered : m.toList.Pairwise fun e e' => compare e.1 e'.1 = .lt :=
      Std.TreeMap.ordered_keys_toList
    have htaken : ((m.toList.take 300).map (·.1)).Nodup :=
      (OrderedMap.nodup_keys m).sublist ((List.take_sublist _ _).map _)
    have hcount : m.toList.countP (fun e => decide (compare e.1 s = .lt)) =
        {g | g < s ∧ m[g]? ≠ none}.ncard := by
      have hset : {g | g < s ∧ m[g]? ≠ none} =
          (((m.toList.filter fun e => decide (compare e.1 s = .lt)).map (·.1)).toFinset :
            Set UInt32) := by
        ext g
        simp only [Set.mem_ofPred_eq, List.coe_toFinset, List.mem_map, List.mem_filter,
          decide_eq_true_iff, Prod.exists, exists_and_right, exists_eq_right,
          Std.TreeMap.mem_toList_iff_getElem?_eq_some, Std.compare_eq_lt]
        constructor
        · rintro ⟨hlt, hsome⟩
          obtain ⟨v, hv⟩ := Option.ne_none_iff_exists'.mp hsome
          exact ⟨⟨v, hv⟩, hlt⟩
        · rintro ⟨⟨v, hv⟩, hlt⟩
          exact ⟨hlt, by rw [hv]; nofun⟩
      have hnodup : ((m.toList.filter fun e => decide (compare e.1 s = .lt)).map (·.1)).Nodup :=
        (OrderedMap.nodup_keys m).sublist (List.filter_sublist.map _)
      rw [hset, Set.ncard_coe_finset, List.toFinset_card_of_nodup hnodup, List.length_map,
        List.countP_eq_length_filter]
    have hinserted : (s, n) ∈ ((m.toList.take 300).foldl (fun m e => m.insertIfNew e.1 e.2)
        (∅ : Map UInt32)).toList ↔ (s, n) ∈ m.toList.take 300 :=
      OrderedMap.mem_toList_insertAll htaken
    rw [hinserted, OrderedMap.mem_take_iff hordered, hcount,
      Std.TreeMap.mem_toList_iff_getElem?_eq_some]

/-- The answer tells the user, for each friend who has written to him, how many messages he has not
    acknowledged, and lists nobody else. -/
def UnreadReaches (sessionId : UInt64) (m : UnreadMsgCountRequest) (calls : List ChatCall)
    (tr : List Event) : Prop :=
  ∃ response : Pdu UnreadMsgCountResponse,
    replies tr = [(sessionId, ⟨.unreadMsgCountResponse, response⟩)] ∧
    response.body.toUserId = m.userId ∧
    (response.body.userUnreadList.map (·.fromUserId)).Nodup ∧
    ∀ s n, { fromUserId := s, unreadMsgCount := n } ∈ response.body.userUnreadList ↔
      0 < unreadFrom m.userId s (clientClass m.clientType) calls ∧
        n.toNat = unreadFrom m.userId s (clientClass m.clientType) calls

/-- Among those whom the user has written to since he acknowledged them, the friend is one of the
    first 300. -/
def AmongFirst (u s : UInt32) (k : ClientClass) (calls : List ChatCall) : Prop :=
  {g | g < s ∧ 0 < writtenTo u g k calls}.ncard < 300

/-- What is listed after a run: the first 300 of those the user has written to. -/
theorem run_mem_listedCounts_iff {w₀ w : World} {calls : List ChatCall} (h₀ : w₀.cache = {})
    (hrun : Run ChatStep w₀ calls w) (hfew : calls.countP ChatCall.isSend < 2 ^ 32)
    (u t s n : UInt32) : { fromUserId := s, unreadMsgCount := n } ∈ listedCounts w.cache u t ↔
      AmongFirst u s (clientClass t) calls ∧ 0 < writtenTo u s (clientClass t) calls ∧
        n.toNat = writtenTo u s (clientClass t) calls := by
  have hsmall : ∀ g, writtenTo u g (clientClass t) calls < 2 ^ 32 :=
    fun g => (writtenTo_le u g (clientClass t) calls).trans_lt hfew
  have hentry : ∀ g, w.cache.item? u g (clientClass t) =
      countEntry (writtenTo u g (clientClass t) calls) :=
    fun g => run_item?_eq h₀ hrun u g (clientClass t)
  by_cases hu : u = 0
  · -- the counters have nothing under the id 0
    subst hu
    have hnone := hentry s
    rw [run_item?_zero h₀ (run_ledger hrun) (Or.inl rfl)] at hnone
    have hzero : ¬0 < writtenTo 0 s (clientClass t) calls := by
      intro hpos
      rw [countEntry, if_neg (by omega)] at hnone
      cases hnone
    refine iff_of_false ?_ fun h => hzero h.2.1
    simp [listedCounts, ZAresCounterManagerImpl.getUnreadMsgCount]
  · have hset : {g | g < s ∧ w.cache.item? u g (clientClass t) ≠ none} =
        {g | g < s ∧ 0 < writtenTo u g (clientClass t) calls} := by
      ext g
      rw [Set.mem_ofPred_eq, Set.mem_ofPred_eq, hentry]
      unfold countEntry
      split
      · next h0 => rw [h0]; simp
      · next h0 => simp [Nat.pos_of_ne_zero h0]
    rw [mem_listedCounts_iff hu, hset, hentry, countEntry_eq_some_iff (hsmall s)]
    exact and_comm

open Classical in
/-- **Counts reach the wrong side.**  The answer is right if and only if each friend has written to
    the user as often as the user has written to him since he last acknowledged him (for those whom
    the user has written to and who are not listed for the limit of 300: not at all). -/
theorem unreadReaches_iff {w₀ w w' : World} {calls : List ChatCall} {mem : Memory}
    {sessionId : UInt64} {request : Pdu UnreadMsgCountRequest} {tr : List Event}
    (h₀ : w₀.cache = {}) (hrun : Run ChatStep w₀ calls w)
    (hfew : calls.countP ChatCall.isSend < 2 ^ 32)
    (h : Runs Step w (unreadMsgCountRequestHandler zAresModelModule mem sessionId request) tr () w') :
    UnreadReaches sessionId request.body calls tr ↔
      ∀ s, unreadFrom request.body.userId s (clientClass request.body.clientType) calls =
        if AmongFirst request.body.userId s (clientClass request.body.clientType) calls then
          writtenTo request.body.userId s (clientClass request.body.clientType) calls
        else 0 := by
  generalize hk : clientClass request.body.clientType = k
  obtain ⟨-, hreplies⟩ := unreadMsgCountRequestHandler_runs h
  have hmem : ∀ s n, { fromUserId := s, unreadMsgCount := n } ∈
      listedCounts w.cache request.body.userId request.body.clientType ↔
      AmongFirst request.body.userId s k calls ∧ 0 < writtenTo request.body.userId s k calls ∧
        n.toNat = writtenTo request.body.userId s k calls := by
    intro s n
    rw [run_mem_listedCounts_iff h₀ hrun hfew, hk]
  have hread : ∀ s, (UInt32.ofNat (unreadFrom request.body.userId s k calls)).toNat =
      unreadFrom request.body.userId s k calls := by
    intro s
    have hle := unreadFrom_le request.body.userId s k calls
    rw [UInt32.toNat_ofNat', Nat.mod_eq_of_lt (by omega)]
  unfold UnreadReaches
  rw [hk]
  constructor
  · rintro ⟨response', hreplies', -, -, hright⟩ s
    obtain rfl := reply_unique hreplies hreplies'
    have hboth := fun n => (hmem s n).symm.trans (hright s n)
    by_cases hunread : 0 < unreadFrom request.body.userId s k calls
    · -- what is unread must be listed, with its number
      obtain ⟨hfirst, -, heq⟩ := (hboth (UInt32.ofNat _)).mpr ⟨hunread, hread s⟩
      rw [if_pos hfirst, ← heq, hread]
    · by_cases hfirst : AmongFirst request.body.userId s k calls
      · rw [if_pos hfirst]
        by_contra hne
        have hwritten : 0 < writtenTo request.body.userId s k calls := by omega
        have hle := writtenTo_le request.body.userId s k calls
        have hmod : (UInt32.ofNat (writtenTo request.body.userId s k calls)).toNat =
            writtenTo request.body.userId s k calls := by
          rw [UInt32.toNat_ofNat', Nat.mod_eq_of_lt (by omega)]
        exact hunread ((hboth (UInt32.ofNat _)).mp ⟨hfirst, hwritten, hmod⟩).1
      · rw [if_neg hfirst]
        omega
  · intro hcond
    refine ⟨_, hreplies, rfl, listedCounts_nodup _ _ _, fun s n => (hmem s n).trans ?_⟩
    rw [hcond s]
    by_cases hfirst : AmongFirst request.body.userId s k calls
    · rw [if_pos hfirst]
      exact ⟨fun h => h.2, fun h => ⟨hfirst, h⟩⟩
    · rw [if_neg hfirst]
      exact iff_of_false (fun h => hfirst h.1) fun h => absurd h.1 (Nat.lt_irrefl 0)

/-! ## One message, and nobody is told -/

/-- The request of user `u`, from a client of type 17. -/
def countRequest (u : UInt32) : Pdu UnreadMsgCountRequest where
  attachData := []
  reserved := 0
  body := { userId := u, clientType := 17 }

/-- What is done for it. -/
def countTrace (u : UInt32) (w : World) : List Event :=
  ((unreadMsgCountRequestHandler zAresModelModule default 1 (countRequest u)).play w).1

theorem countRequest_runs (u : UInt32) (w : World) : ∃ w', Runs Step w
    (unreadMsgCountRequestHandler zAresModelModule default 1 (countRequest u)) (countTrace u w) () w' :=
  ⟨_, (Prog.play_runs _ w).mono fun _ _ _ _ => StepOk.step⟩

/-- The world after a text. -/
def afterTextFrom (f t : UInt32) (w : World) : World :=
  ((ZAresMessageManagerImpl.sendIMMessage f t 1 [104, 105] 0).play w).2.2

theorem afterTextFrom_step {f t : UInt32} {w : World}
    (hsent : ((ZAresMessageManagerImpl.sendIMMessage f t 1 [104, 105] 0).play w).2.1 = true) :
    ChatStep w (.sendIMMessage f t 1 [104, 105] 0) (afterTextFrom f t w) := by
  have hplay := Prog.play_runs (ZAresMessageManagerImpl.sendIMMessage f t 1 [104, 105] 0) w
  rw [hsent] at hplay
  exact .sendIMMessage (hplay.mono fun _ _ _ _ => StepOk.step)

theorem oneMessage_chat : Run ChatStep emptyWorld [.sendIMMessage 1 2 1 [104, 105] 0] oneMessage :=
  .one (afterTextFrom_step (by decide))

/-- A message and the answer to it. -/
def bothWays : List ChatCall := [.sendIMMessage 1 2 1 [104, 105] 0, .sendIMMessage 2 1 1 [104, 105] 0]

theorem bothWays_chat : Run ChatStep emptyWorld bothWays (afterTextFrom 2 1 oneMessage) :=
  oneMessage_chat.snoc (afterTextFrom_step (by decide))

/-- User 2 is told of the one message from user 1, since he has written as many. -/
theorem unreadReaches_iff_bothWays : unreadFrom 2 1 .ios bothWays = 1 ∧
    UnreadReaches 1 (countRequest 2).body bothWays (countTrace 2 (afterTextFrom 2 1 oneMessage)) := by
  obtain ⟨w', hrun⟩ := countRequest_runs 2 (afterTextFrom 2 1 oneMessage)
  refine ⟨by decide, (unreadReaches_iff rfl bothWays_chat (by decide) hrun).mpr fun s => ?_⟩
  have hsame : unreadFrom 2 s .ios bothWays = writtenTo 2 s .ios bothWays := by
    simp [unreadFrom, writtenTo, bothWays, sinceAck, List.rtakeWhile, ChatCall.isAckOf,
      ChatCall.isMessage, List.countP_cons]
  -- he has written to nobody else
  have hfirst : AmongFirst 2 s .ios bothWays := by
    have hsub : {g | g < s ∧ 0 < writtenTo 2 g .ios bothWays} ⊆ {1} := by
      rintro g ⟨-, hpos⟩
      by_contra hne
      have hne' : ¬1 = g := fun heq => hne heq.symm
      have hzero : writtenTo 2 g .ios bothWays = 0 := by
        simp [writtenTo, bothWays, sinceAck, List.rtakeWhile, ChatCall.isAckOf, ChatCall.isMessage,
          hne']
      omega
    have hle := Set.ncard_le_ncard hsub
    rw [Set.ncard_singleton] at hle
    exact lt_of_le_of_lt hle (by decide)
  exact hsame.trans (if_pos hfirst).symm

/-- After 1 has written to 2, user 2 is told of nobody. -/
theorem not_forall_unreadReaches :
    ¬∀ (w₀ w w' : World) (calls : List ChatCall) (mem : Memory) (sessionId : UInt64)
      (request : Pdu UnreadMsgCountRequest) (tr : List Event),
      w₀.cache = {} → Run ChatStep w₀ calls w → calls.countP ChatCall.isSend < 2 ^ 32 →
      {s | 0 < unreadFrom request.body.userId s (clientClass request.body.clientType)
        calls}.ncard ≤ 300 →
      Runs Step w (unreadMsgCountRequestHandler zAresModelModule mem sessionId request) tr () w' →
      UnreadReaches sessionId request.body calls tr := by
  intro h
  obtain ⟨w', hrun⟩ := countRequest_runs 2 oneMessage
  have hsenders : {s | 0 < unreadFrom 2 s .ios [.sendIMMessage 1 2 1 [104, 105] 0]} ⊆ {1} := by
    intro s hs
    by_contra hne
    have hne' : ¬1 = s := fun heq => hne heq.symm
    have hzero : unreadFrom 2 s .ios [.sendIMMessage 1 2 1 [104, 105] 0] = 0 := by
      simp [unreadFrom, sinceAck, List.rtakeWhile, ChatCall.isAckOf, ChatCall.isMessage, hne']
    rw [Set.mem_ofPred_eq, hzero] at hs
    exact Nat.lt_irrefl 0 hs
  have hle := (Set.ncard_le_ncard hsenders).trans (by rw [Set.ncard_singleton]; omega : _ ≤ 300)
  obtain ⟨response', hreplies', -, -, hright⟩ :=
    h emptyWorld oneMessage w' _ default 1 (countRequest 2) (countTrace 2 oneMessage) rfl oneMessage_chat (by decide) hle hrun
  obtain ⟨-, hreplies⟩ := unreadMsgCountRequestHandler_runs hrun
  obtain rfl := reply_unique hreplies hreplies'
  have hlisted : { fromUserId := 1, unreadMsgCount := 1 } ∈ listedCounts oneMessage.cache 2 17 :=
    (hright 1 1).mpr ⟨by decide, by decide⟩
  rw [run_mem_listedCounts_iff rfl oneMessage_chat (by decide)] at hlisted
  exact absurd hlisted.2.1 (by decide)

end Zattd
