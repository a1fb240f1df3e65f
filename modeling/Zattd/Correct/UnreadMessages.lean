/-
  Does the request for unread messages return the unread MESSAGES?

  `UnreadMsgRequestHandler` asks the counters how many there are, caps the number at 100, and has
  `GetMessages` read as many rows.  The query is the right one.  But each row is parsed into a new
  `ServerMsg` that nothing puts into the list, so the response has none: it is right only when there
  are none to return.
-/
import Zattd.Correct.Unread

set_option linter.unusedVariables false

namespace Zattd

open Prog

/-! ## What is asked for -/

/-- The row is a message from `x` to `y`. -/
def MessageRow.isFromTo (x y : UInt32) (r : MessageRow) : Bool :=
  decide (r.fromUserId = x.toNat ∧ r.toUserId = y.toNat)

/-- The list entry shows the type, the time and the content that are stored. -/
structure ServerMsg.Shows (m : ServerMsg) (row : MessageRow) : Prop where
  msgType : m.msgType = (getColumn row.type).toUInt8
  createTime : m.createTime = getColumn row.created
  msgData : m.msgData = row.content

/-- How many messages are to be returned: the count, but 100 at most. -/
def wantedCount (m : UnreadMsgRequest) (c : CacheManager) : Nat :=
  min (ZAresCounterManagerImpl.getUserFriendUnreadCount m.fromUserId m.toUserId m.clientType c).toNat
    100

/-- The response lists that many of the stored messages from the one user to the other, the newest
    first. -/
def UnreadReturned (sessionId : UInt64) (m : UnreadMsgRequest) (w : World) (tr : List Event) : Prop :=
  ∃ response : Pdu MsgListResponse,
    replies tr = [(sessionId, ⟨.msgListResponse, response⟩)] ∧
    ∃ rows, Table.SelectsLimit (MessageRow.isFromTo m.fromUserId m.toUserId)
        (fun r => toLex (-r.created, -r.id)) 0 (wantedCount m w.cache) w.db.imMessage rows ∧
      rows.length = wantedCount m w.cache ∧
      List.Forall₂ ServerMsg.Shows response.body.msgList rows

/-! ## What is returned -/

/-- Whatever the query answers, the list that `GetMessages` is given comes back as it was. -/
theorem ZAresMessageManagerImpl.getMessages_runs {f t offset : UInt32} {count : Int}
    {messages : List ServerMsg} {w w' : World} {tr : List Event} {result : Nat × List ServerMsg}
    (h : Runs Step w (getMessages f t offset count messages) tr result w') : result.2 = messages := by
  simp only [getMessages, runs_bind] at h
  obtain ⟨_, relateId, w₁, _, _, hrest, _⟩ := h
  by_cases hinvalid : relateId = kInvalidID
  · rw [if_pos hinvalid] at hrest
    obtain ⟨-, rfl, -⟩ := runs_pure.mp hrest
    rfl
  · rw [if_neg hinvalid] at hrest
    obtain ⟨_, answ, w₂, _, _, hreturn, _⟩ := runs_bind.mp hrest
    obtain ⟨-, rfl, -⟩ := runs_pure.mp hreturn
    rfl

/-- So the response lists nothing. -/
theorem unreadMsgRequestHandler_runs {mem : Memory} {sessionId : UInt64}
    {request : Pdu UnreadMsgRequest} {w w' : World} {tr : List Event}
    (h : Runs Step w (unreadMsgRequestHandler zAresModelModule mem sessionId request) tr () w') :
    ∃ response : Pdu MsgListResponse,
      replies tr = [(sessionId, ⟨.msgListResponse, response⟩)] ∧ response.body.msgList = [] := by
  simp only [unreadMsgRequestHandler, runs_bind] at h
  obtain ⟨_, count, w₁, tr₁, hcount, hrest, rfl⟩ := h
  obtain ⟨-, rfl⟩ := runs_counter.mp hcount
  by_cases hpos : (if count > unreadMaxCounter then unreadMaxCounter else count) > 0
  · rw [if_pos hpos, runs_bind] at hrest
    obtain ⟨_, found, w₂, _, hfound, hsend, rfl⟩ := hrest
    obtain ⟨-, hreplies⟩ := sendSessionData_runs hsend
    have hsilent := Silent.replies_eq (fun q => zAresModelModule_allSilent.getMessages _ _ _ _ _) hfound
    have hlist := ZAresMessageManagerImpl.getMessages_runs hfound
    rw [Pdu.setAttachData_body] at hlist
    rw [replies_append, replies_append, hsilent, hreplies]
    exact ⟨_, rfl, hlist⟩
  · rw [if_neg hpos] at hrest
    obtain ⟨-, hreplies⟩ := sendSessionData_runs hrest
    rw [replies_append, hreplies]
    refine ⟨_, rfl, ?_⟩
    rw [Pdu.setAttachData_body]
    rfl

/-- The empty list is what is asked for if and only if there is nothing to return. -/
theorem unreadReturned_iff_wantedCount {sessionId : UInt64} {m : UnreadMsgRequest} {w : World}
    {tr : List Event} {response : Pdu MsgListResponse}
    (hreplies : replies tr = [(sessionId, ⟨.msgListResponse, response⟩)])
    (hlist : response.body.msgList = []) :
    UnreadReturned sessionId m w tr ↔ wantedCount m w.cache = 0 := by
  constructor
  · rintro ⟨response', hreplies', rows, -, hlength, hshows⟩
    obtain rfl : response = response' := reply_unique hreplies hreplies'
    rw [hlist, List.forall₂_nil_left_iff] at hshows
    rw [← hlength, hshows]
    rfl
  · intro hzero
    refine ⟨response, hreplies, [], ⟨_, Table.select_selects _ _ _, ?_⟩, hzero.symm, ?_⟩
    · rw [hzero, List.take_zero]
    · rw [hlist]
      exact .nil

/-- The count of a run: what has been written since the last acknowledgement, modulo `2^32`. -/
theorem wantedCount_eq_zero_iff {w₀ w : World} {calls : List ChatCall} (h₀ : w₀.cache = {})
    (hrun : Run ChatStep w₀ calls w) (m : UnreadMsgRequest) :
    wantedCount m w.cache = 0 ↔
      writtenTo m.fromUserId m.toUserId (clientClass m.clientType) calls % 2 ^ 32 = 0 := by
  have hcount : ZAresCounterManagerImpl.getUserFriendUnreadCount m.fromUserId m.toUserId m.clientType
      w.cache = w.cache.entry m.fromUserId m.toUserId (clientClass m.clientType) := by
    by_cases hids : m.fromUserId = 0 ∨ m.toUserId = 0
    · -- nothing is counted under the id 0
      rw [ZAresCounterManagerImpl.getUserFriendUnreadCount_zero hids, CacheManager.entry,
        run_item?_zero h₀ (run_ledger hrun) hids]
      rfl
    · obtain ⟨hfrom, hto⟩ := not_or.mp hids
      exact ZAresCounterManagerImpl.getUserFriendUnreadCount_eq hfrom hto _ _
  rw [wantedCount, hcount, CacheManager.entry, run_item?_eq h₀ hrun, countEntry_getD,
    UInt32.toNat_ofNat']
  omega

/-- **No message is returned.**  In every state that messages and acknowledgements lead to, the
    response is right if and only if the one user has written nothing to the other since he last
    acknowledged him (or a multiple of `2^32` messages, and the counter is back at 0). -/
theorem unreadReturned_iff {w₀ w w' : World} {calls : List ChatCall} {mem : Memory}
    {sessionId : UInt64} {request : Pdu UnreadMsgRequest} {tr : List Event} (h₀ : w₀.cache = {})
    (hrun : Run ChatStep w₀ calls w)
    (h : Runs Step w (unreadMsgRequestHandler zAresModelModule mem sessionId request) tr () w') :
    UnreadReturned sessionId request.body w tr ↔
      writtenTo request.body.fromUserId request.body.toUserId
        (clientClass request.body.clientType) calls % 2 ^ 32 = 0 := by
  obtain ⟨response, hreplies, hlist⟩ := unreadMsgRequestHandler_runs h
  rw [unreadReturned_iff_wantedCount hreplies hlist, wantedCount_eq_zero_iff h₀ hrun]

/-! ## After one message -/

/-- `x` asks, with a client of type 17, for what is between him and `y`. -/
def messagesRequest (x y : UInt32) : Pdu UnreadMsgRequest where
  attachData := []
  reserved := 0
  body := { fromUserId := x, toUserId := y, clientType := 17 }

theorem messagesRequest_runs (x y : UInt32) (w : World) : ∃ tr w', Runs Step w
    (unreadMsgRequestHandler zAresModelModule default 1 (messagesRequest x y)) tr () w' :=
  ⟨_, _, (Prog.play_runs _ w).mono fun _ _ _ _ => StepOk.step⟩

/-- Nobody has written to user 3, and he gets no messages. -/
theorem unreadReturned_iff_oneMessage :
    ∃ tr, UnreadReturned 1 (messagesRequest 3 1).body oneMessage tr := by
  obtain ⟨tr, w', hrun⟩ := messagesRequest_runs 3 1 oneMessage
  exact ⟨tr, (unreadReturned_iff rfl oneMessage_chat hrun).mpr (by decide)⟩

/-- After 1 has written to 2, the count says one message, and the response has none. -/
theorem not_forall_unreadReturned :
    ¬∀ (w₀ w w' : World) (calls : List ChatCall) (mem : Memory) (sessionId : UInt64)
      (request : Pdu UnreadMsgRequest) (tr : List Event),
      w₀.cache = {} → w₀.db.imMessage = [] → Run ChatStep w₀ calls w →
      Runs Step w (unreadMsgRequestHandler zAresModelModule mem sessionId request) tr () w' →
      UnreadReturned sessionId request.body w tr := by
  intro h
  obtain ⟨tr, w', hrun⟩ := messagesRequest_runs 1 2 oneMessage
  have hreturned := h emptyWorld oneMessage w' _ default 1 (messagesRequest 1 2) tr rfl rfl
    oneMessage_chat hrun
  obtain ⟨response, hreplies, hlist⟩ := unreadMsgRequestHandler_runs hrun
  rw [unreadReturned_iff_wantedCount hreplies hlist, wantedCount_eq_zero_iff rfl oneMessage_chat]
    at hreturned
  exact absurd hreturned (by decide)

end Zattd
