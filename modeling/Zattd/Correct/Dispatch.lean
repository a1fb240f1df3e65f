/-
  From an admitted packet to its one reply.

  The three lookups agree on every registered type but one.  `GroupHistoryMsgRequest` passes
  `MESSAGE_HISTORY_MSG_REQUEST` to the base constructor, so a packet of the type
  `MESSAGE_GROUP_HISTORY_MSG_REQUEST` is admitted, becomes an object of that class, and the object
  is looked up under a type that nobody registered: it is logged and dropped.
-/
import Zattd.Correct.Replies

set_option linter.unusedVariables false

namespace Zattd

open Prog

/-- `handler` is what the handler table has for the messages of class `n`: it replies once to
    each. -/
def Serves (n : PduName) (handler : ExecuteHandlerFunc) : Prop :=
  ∀ (q : UInt64 → Bool) (mem : Memory) (sessionId : UInt64) (message : Pdu n.Body),
    RepliesOnce q sessionId (handler zAresModelModule mem sessionId ⟨n, message⟩)

/-- A handler that replies once to every request serves the class that it casts to. -/
theorem serves_castProtoMessage {n : PduName} {execute : Execute n.Body}
    (h : ∀ (q : UInt64 → Bool) (mem : Memory) (sessionId : UInt64) (request : Pdu n.Body),
      RepliesOnce q sessionId (execute zAresModelModule mem sessionId request)) :
    Serves n (castProtoMessage n execute) := by
  intro q mem sessionId message
  unfold castProtoMessage
  rw [dif_pos rfl]
  exact h q mem sessionId message

/-- The factory and the handler table agree on an entry: the class registered for its type is the
    one its handler serves. -/
def Agrees (e : UInt32 × ExecuteHandlerFunc) : Prop :=
  ∃ n, pduMessageFactory.lookup e.1 = some n ∧ Serves n e.2

theorem messageHandlers_agree : ∀ e ∈ messageHandlers, Agrees e := by
  have hm {q} : zAresModelModule.AllSilent q := zAresModelModule_allSilent
  unfold messageHandlers
  repeat'
    first
    | exact List.forall_mem_nil _
    | refine List.forall_mem_cons.mpr ⟨⟨_, rfl, serves_castProtoMessage fun q mem sessionId request => ?_⟩, ?_⟩
  · exact validateRequestHandler_replies hm request
  · exact friendListRequestHandler_replies hm request
  · exact removeSessionRequestHandler_replies hm request
  · exact departmentRequestHandler_replies hm request
  · exact usersInfoRequestHandler_replies hm request
  · exact allUserRequestHandler_replies hm request
  · exact msgDataHandler_replies hm request
  · exact unreadMsgCountRequestHandler_replies hm request
  · exact unreadMsgRequestHandler_replies hm request
  · exact msgReadAckHandler_replies hm request
  · exact groupListRequestHandler_replies hm request
  · exact groupUserListRequestHandler_replies hm request
  · exact groupUnreadMsgCountRequestHandler_replies hm request
  · exact groupUnreadMsgRequestHandler_replies hm request
  · exact groupHistoryMsgRequestHandler_replies hm request
  · exact groupMsgReadAckHandler_replies hm request
  · exact groupCreateTmpGroupRequestHandler_replies hm request
  · exact groupChangeMemberRequestHandler_replies hm request
  · exact groupDialogListRequestHandler_replies hm request
  · exact fileHasOfflineReqHandler_replies hm request
  · exact fileAddOfflineReqHandler_replies hm request
  · exact fileDelOfflineReqHandler_replies hm request

/-! ## The three lookups -/

theorem mem_of_lookup {β : Type} {k : UInt32} {b : β} {l : List (UInt32 × β)}
    (h : l.lookup k = some b) : (k, b) ∈ l := by
  obtain ⟨l₁, l₂, rfl, -⟩ := List.lookup_eq_some_iff.mp h
  exact List.mem_append_right _ List.mem_cons_self

/-- The objects of the factory have the types their classes are registered for, all but one. -/
theorem pduMessageFactory_types : ∀ e ∈ pduMessageFactory,
    e.1 ≠ messageGroupHistoryMsgRequest → PduClass.messageType e.2.Body = e.1 := by
  decide

/-- The one class whose type differs has a type without a handler. -/
theorem findHandler_groupHistoryMsgRequest :
    findHandler (PduClass.messageType PduName.groupHistoryMsgRequest.Body) = none := rfl

/-- What the packet parser returns is an object of the class registered for the packet's type. -/
theorem parseMessagePduFromNetPacker_class {bo : ByteOrder} {mem : Memory} {packet : Packet}
    {message : Message} (h : parseMessagePduFromNetPacker bo mem packet = some message) :
    pduMessageFactory.lookup packet.messageType = some message.1 := by
  unfold parseMessagePduFromNetPacker at h
  obtain ⟨n, hn, h⟩ := Option.bind_eq_some_iff.mp h
  dsimp only at h
  split at h
  · obtain rfl := Option.some.inj h
    exact hn
  · cases h

/-- An admitted packet has a handler. -/
theorem findHandler_of_received {packet : Packet}
    (h : onDataReceived packet = .postDataToDbHandler) :
    ∃ handler, findHandler packet.messageType = some handler := by
  unfold onDataReceived at h
  split at h
  · cases h
  split at h
  · next hcheck => exact Option.isSome_iff_exists.mp hcheck
  · cases h

/-! ## Exactly one reply -/

/-- `packet` is answered: what the worker thread runs is the handler registered for its type, on the
    object made from it, and every run sends exactly one message, to the session. -/
structure Answered (bo : ByteOrder) (mem : Memory) (sessionId : UInt64) (packet : Packet) : Prop where
  handled : ∃ message handler, parseMessagePduFromNetPacker bo mem packet = some message ∧
    findHandler packet.messageType = some handler ∧
    onMessageDataHandler bo zAresModelModule mem sessionId packet =
      handler zAresModelModule mem sessionId message
  replied : ∀ (w w' : World) (tr : List Event),
    Runs Step w (onMessageDataHandler bo zAresModelModule mem sessionId packet) tr () w' →
    ∃ message, replies tr = [(sessionId, message)]

/-- A program that replies once does so in every run. -/
theorem RepliesOnce.replies_eq {sessionId : UInt64} {p : Server Unit} {w w' : World} {tr : List Event}
    (hp : ∀ q, RepliesOnce q sessionId p) (h : Runs Step w p tr () w') :
    ∃ message, replies tr = [(sessionId, message)] := by
  have hall := h.countP_eq (hp fun _ => true)
  have hother := h.countP_eq (hp fun s => decide (s ≠ sessionId))
  rw [if_pos rfl, ← countP_replies, List.countP_true] at hall
  rw [if_neg (by simp), ← countP_replies] at hother
  obtain ⟨⟨s, message⟩, hreplies⟩ := List.length_eq_one_iff.mp hall
  rw [hreplies, List.countP_singleton] at hother
  -- the only reply is not to another session
  have hs : s = sessionId := by
    by_contra hne
    simp [hne] at hother
  exact ⟨message, by rw [hreplies, hs]⟩

/-- A group history request becomes an object that nobody handles: the thread does nothing. -/
theorem onMessageDataHandler_groupHistory {bo : ByteOrder} {mem : Memory} {sessionId : UInt64}
    {packet : Packet} (htype : packet.messageType = messageGroupHistoryMsgRequest) :
    onMessageDataHandler bo zAresModelModule mem sessionId packet = return () := by
  unfold onMessageDataHandler
  cases hparse : parseMessagePduFromNetPacker bo mem packet with
  | none => rfl
  | some message =>
    have hclass := parseMessagePduFromNetPacker_class hparse
    rw [htype] at hclass
    obtain ⟨n, m⟩ := message
    obtain rfl : n = .groupHistoryMsgRequest := (Option.some.inj hclass).symm
    have htable : findHandler (Message.messageType ⟨.groupHistoryMsgRequest, m⟩) = none :=
      findHandler_groupHistoryMsgRequest
    show dispatchMessageHandler _ _ _ _ = _
    unfold dispatchMessageHandler
    rw [htable]

theorem not_answered_groupHistory {bo : ByteOrder} {mem : Memory} {sessionId : UInt64}
    {packet : Packet} (htype : packet.messageType = messageGroupHistoryMsgRequest) :
    ¬Answered bo mem sessionId packet := by
  intro h
  have hnone : Runs Step emptyWorld
      (onMessageDataHandler bo zAresModelModule mem sessionId packet) [] () emptyWorld := by
    rw [onMessageDataHandler_groupHistory htype]
    exact .ret _ _
  obtain ⟨message, hmessage⟩ := h.replied _ _ _ hnone
  cases hmessage

/-- **One reply to every admitted packet but one.**  A packet that is admitted and whose body its
    class accepts is run by its handler and answered exactly once if and only if it is not a group
    history request. -/
theorem answered_iff {bo : ByteOrder} {mem : Memory} {sessionId : UInt64} {packet : Packet}
    (hreceived : onDataReceived packet = .postDataToDbHandler)
    (haccepted : (parseMessagePduFromNetPacker bo mem packet).isSome = true) :
    Answered bo mem sessionId packet ↔ packet.messageType ≠ messageGroupHistoryMsgRequest := by
  refine ⟨fun h htype => not_answered_groupHistory htype h, fun hne => ?_⟩
  obtain ⟨message, hparse⟩ := Option.isSome_iff_exists.mp haccepted
  obtain ⟨handler, hhandler⟩ := findHandler_of_received hreceived
  have hclass := parseMessagePduFromNetPacker_class hparse
  obtain ⟨n, hn, hserves⟩ := messageHandlers_agree _ (mem_of_lookup hhandler)
  obtain ⟨n', m⟩ := message
  obtain rfl : n' = n := Option.some.inj (hclass.symm.trans hn)
  -- the object's own type leads back to the same handler
  have htype : Message.messageType ⟨n', m⟩ = packet.messageType :=
    pduMessageFactory_types _ (mem_of_lookup hclass) hne
  have hrun : onMessageDataHandler bo zAresModelModule mem sessionId packet =
      handler zAresModelModule mem sessionId ⟨n', m⟩ := by
    unfold onMessageDataHandler dispatchMessageHandler
    simp only [hparse, htype, hhandler]
  refine ⟨⟨_, handler, hparse, hhandler, hrun⟩, fun w w' tr h => ?_⟩
  rw [hrun] at h
  exact RepliesOnce.replies_eq (fun q => hserves q mem sessionId m) h

/-- A request for the history of a group, all zeros. -/
def groupHistoryPacket : Packet where
  messageType := messageGroupHistoryMsgRequest
  reserved := 0
  body := List.replicate 20 0

/-- A request for all users. -/
def allUserPacket : Packet where
  messageType := messageAllUserRequest
  reserved := 0
  body := List.replicate 8 0

theorem answered_allUserPacket :
    Answered .big default 1 allUserPacket ↔ messageAllUserRequest ≠ messageGroupHistoryMsgRequest :=
  answered_iff (by decide) (by rfl)

theorem not_forall_answered :
    ¬∀ (bo : ByteOrder) (mem : Memory) (sessionId : UInt64) (packet : Packet),
      onDataReceived packet = .postDataToDbHandler →
      (parseMessagePduFromNetPacker bo mem packet).isSome = true →
      Answered bo mem sessionId packet := by
  intro h
  exact not_answered_groupHistory rfl (h .big default 1 groupHistoryPacket (by decide) (by rfl))

end Zattd
