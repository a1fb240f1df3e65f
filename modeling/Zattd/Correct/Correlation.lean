/-
  How a reply is MATCHED to its request.

  The proxy that asked keeps nothing of a request but what it put into it: the reserved field, the
  attach data, the ids, and, where two kinds of request have one kind of reply, the id of the
  command.  Sixteen handlers copy these into the reply by hand, on every path.

  Two of them do it wrong in the same way.  After `set_request_cmd_id` with the command id comes a
  second `set_request_cmd_id`, with the group id, where `set_group_id` was meant: the command id is
  lost, and the group id is whatever the memory of the reply held before.
-/
import Zattd.Correct.Replies

set_option linter.unusedVariables false

namespace Zattd

open Prog

/-- Every run of `p` ends in one reply, to the session, of the class `n`, that satisfies `P`. -/
def RepliesWith (sessionId : UInt64) (n : PduName) (P : Pdu n.Body → Prop) (p : Server Unit) :
    Prop :=
  ∀ w tr w', Runs Step w p tr () w' → ∃ reply, replies tr = [(sessionId, ⟨n, reply⟩)] ∧ P reply

namespace RepliesWith

variable {sessionId : UInt64} {n : PduName} {P : Pdu n.Body → Prop}

theorem send {reply : Pdu n.Body} (h : P reply) :
    RepliesWith sessionId n P (sendSessionData sessionId n reply) := by
  intro w tr w' hrun
  exact ⟨reply, (sendSessionData_runs hrun).2, h⟩

/-- What is silent leaves the reply to what comes after it. -/
theorem bind {α : Type} {p : Server α} {f : α → Server Unit} (hp : ∀ q, Silent q p)
    (hf : ∀ a, RepliesWith sessionId n P (f a)) : RepliesWith sessionId n P (p >>= f) := by
  intro w tr w' hrun
  obtain ⟨tr₁, a, w₁, tr₂, hrun₁, hrun₂, rfl⟩ := runs_bind.mp hrun
  rw [replies_append, Silent.replies_eq hp hrun₁, List.nil_append]
  exact hf a _ _ _ hrun₂

theorem ite {Q : Prop} [Decidable Q] {p p' : Server Unit} (hp : RepliesWith sessionId n P p)
    (hp' : RepliesWith sessionId n P p') : RepliesWith sessionId n P (if Q then p else p') := by
  by_cases hQ : Q
  · rw [if_pos hQ]; exact hp
  · rw [if_neg hQ]; exact hp'

theorem mono {P' : Pdu n.Body → Prop} {p : Server Unit} (h : RepliesWith sessionId n P p)
    (hP : ∀ reply, P reply → P' reply) : RepliesWith sessionId n P' p := by
  intro w tr w' hrun
  obtain ⟨reply, hreply, hholds⟩ := h w tr w' hrun
  exact ⟨reply, hreply, hP reply hholds⟩

end RepliesWith

/-- The requests whose replies carry attach data. -/
inductive Query
  | friendList
  | usersInfo
  | allUser
  | department
  | unreadMsgCount
  | unreadMsg
  | groupList
  | groupDialogList
  | groupUserList
  | groupUnreadMsgCount
  | groupUnreadMsg
  | groupHistoryMsg
  | fileHasOffline
  | groupCreateTmpGroup
  | groupChangeMember
  | removeSession
  deriving DecidableEq

namespace Query

/-- The class of the request. -/
def request : Query → PduName
  | friendList => .friendListRequest
  | usersInfo => .usersInfoRequest
  | allUser => .allUserRequest
  | department => .departmentRequest
  | unreadMsgCount => .unreadMsgCountRequest
  | unreadMsg => .unreadMsgRequest
  | groupList => .groupListRequest
  | groupDialogList => .groupDialogListRequest
  | groupUserList => .groupUserListRequest
  | groupUnreadMsgCount => .groupUnreadMsgCountRequest
  | groupUnreadMsg => .groupUnreadMsgRequest
  | groupHistoryMsg => .groupHistoryMsgRequest
  | fileHasOffline => .fileHasOfflineReq
  | groupCreateTmpGroup => .groupCreateTmpGroupRequest
  | groupChangeMember => .groupChangeMemberRequest
  | removeSession => .removeSessionRequest

/-- The class of its reply. -/
def reply : Query → PduName
  | friendList => .friendListResponse
  | usersInfo => .usersInfoResponse
  | allUser => .allUserResponse
  | department => .departmentResponse
  | unreadMsgCount => .unreadMsgCountResponse
  | unreadMsg => .msgListResponse
  | groupList => .groupListResponse
  | groupDialogList => .groupDialogListResponse
  | groupUserList => .groupUserListResponse
  | groupUnreadMsgCount => .groupUnreadMsgCountResponse
  | groupUnreadMsg | groupHistoryMsg => .groupMsgListResponse
  | fileHasOffline => .fileHasOfflineRes
  | groupCreateTmpGroup => .groupCreateTmpGroupResponse
  | groupChangeMember => .groupChangeMemberResponse
  | removeSession => .removeSessionResponse

/-- Its handler. -/
def execute : (q : Query) → Execute q.request.Body
  | friendList => friendListRequestHandler
  | usersInfo => usersInfoRequestHandler
  | allUser => allUserRequestHandler
  | department => departmentRequestHandler
  | unreadMsgCount => unreadMsgCountRequestHandler
  | unreadMsg => unreadMsgRequestHandler
  | groupList => groupListRequestHandler
  | groupDialogList => groupDialogListRequestHandler
  | groupUserList => groupUserListRequestHandler
  | groupUnreadMsgCount => groupUnreadMsgCountRequestHandler
  | groupUnreadMsg => groupUnreadMsgRequestHandler
  | groupHistoryMsg => groupHistoryMsgRequestHandler
  | fileHasOffline => fileHasOfflineReqHandler
  | groupCreateTmpGroup => groupCreateTmpGroupRequestHandler
  | groupChangeMember => groupChangeMemberRequestHandler
  | removeSession => removeSessionRequestHandler

/-- The ids that the request and the reply both have, by the names they have in each, and the command
    id where the reply has one: requester and peer, session, group. -/
def SameIds : (q : Query) → Pdu q.request.Body → Pdu q.reply.Body → Prop
  | friendList => fun (m : Pdu FriendListRequest) (r : Pdu FriendListResponse) =>
      r.body.fromUserId = m.body.userId
  | usersInfo => fun (m : Pdu UsersInfoRequest) (r : Pdu UsersInfoResponse) =>
      r.body.fromUserId = m.body.fromUserId
  | allUser => fun (m : Pdu AllUserRequest) (r : Pdu AllUserResponse) =>
      r.body.fromUserId = m.body.reqUserId
  | department => fun (m : Pdu DepartmentRequest) (r : Pdu DepartmentResponse) =>
      r.body.reqUserId = m.body.reqUserId
  | unreadMsgCount => fun (m : Pdu UnreadMsgCountRequest) (r : Pdu UnreadMsgCountResponse) =>
      r.body.toUserId = m.body.userId
  | unreadMsg => fun (m : Pdu UnreadMsgRequest) (r : Pdu MsgListResponse) =>
      r.body.fromUserId = m.body.fromUserId ∧ r.body.toUserId = m.body.toUserId ∧
        r.body.requestCmdId = (getHighInt16ByInt32 m.messageType).toUInt32
  | groupList => fun (m : Pdu GroupListRequest) (r : Pdu GroupListResponse) =>
      r.body.reqUserId = m.body.userId
  | groupDialogList => fun (m : Pdu GroupDialogListRequest) (r : Pdu GroupDialogListResponse) =>
      r.body.reqUserId = m.body.userId
  | groupUserList => fun (m : Pdu GroupUserListRequest) (r : Pdu GroupUserListResponse) =>
      r.body.reqUserId = m.body.reqUserId ∧ r.body.groupId = m.body.groupId
  | groupUnreadMsgCount =>
      fun (m : Pdu GroupUnreadMsgCountRequest) (r : Pdu GroupUnreadMsgCountResponse) =>
        r.body.reqUserId = m.body.reqUserId
  | groupUnreadMsg => fun (m : Pdu GroupUnreadMsgRequest) (r : Pdu GroupMsgListResponse) =>
      r.body.reqUserId = m.body.reqUserId ∧ r.body.groupId = m.body.groupId ∧
        r.body.requestCmdId = (getHighInt16ByInt32 m.messageType).toUInt32
  | groupHistoryMsg => fun (m : Pdu GroupHistoryMsgRequest) (r : Pdu GroupMsgListResponse) =>
      r.body.reqUserId = m.body.reqUserId ∧ r.body.groupId = m.body.groupId ∧
        r.body.requestCmdId = (getHighInt16ByInt32 m.messageType).toUInt32
  | fileHasOffline => fun (m : Pdu FileHasOfflineReq) (r : Pdu FileHasOfflineRes) =>
      r.body.reqUserId = m.body.userId
  | groupCreateTmpGroup =>
      fun (m : Pdu GroupCreateTmpGroupRequest) (r : Pdu GroupCreateTmpGroupResponse) =>
        r.body.reqUserId = m.body.reqUserId
  | groupChangeMember =>
      fun (m : Pdu GroupChangeMemberRequest) (r : Pdu GroupChangeMemberResponse) =>
        r.body.reqUserId = m.body.reqUserId ∧ r.body.groupId = m.body.groupId
  | removeSession => fun (m : Pdu RemoveSessionRequest) (r : Pdu RemoveSessionResponse) =>
      r.body.reqUserId = m.body.reqUserId ∧ r.body.sessionId = m.body.sessionId ∧
        r.body.sessionType = m.body.sessionType

end Query

/-- The reply is the request's: reserved field, attach data and ids. -/
structure Correlates (q : Query) (request : Pdu q.request.Body) (reply : Pdu q.reply.Body) : Prop where
  reserved : reply.reserved = request.reserved
  attach : reply.getAttachData = request.getAttachData
  ids : q.SameIds request reply

/-- Whatever is in the memory and in the database, and whatever becomes of the statements, the request
    gets one reply, to its session, and that is its own. -/
def RepliesCorrelated (q : Query) (request : Pdu q.request.Body) : Prop :=
  ∀ mem sessionId, RepliesWith sessionId q.reply (Correlates q request)
    (q.execute zAresModelModule mem sessionId request)

/-! ## The handlers -/

section Handlers

variable {mem : Memory} {sessionId : UInt64} {model : ModelModule}

theorem friendListRequestHandler_correlates (hm : ∀ q, model.AllSilent q)
    (request : Pdu FriendListRequest) : RepliesWith sessionId _ (Correlates .friendList request)
      (friendListRequestHandler model mem sessionId request) := by
  unfold friendListRequestHandler
  refine .ite ?_ (.send ⟨rfl, rfl, rfl⟩)
  exact .bind (fun q => (hm q).getRecentContactByUserId _ _ _) fun _ => .send ⟨rfl, rfl, rfl⟩

theorem usersInfoRequestHandler_correlates (hm : ∀ q, model.AllSilent q)
    (request : Pdu UsersInfoRequest) : RepliesWith sessionId _ (Correlates .usersInfo request)
      (usersInfoRequestHandler model mem sessionId request) := by
  unfold usersInfoRequestHandler
  refine .ite (.send ⟨rfl, rfl, rfl⟩) ?_
  exact .bind (fun q => (hm q).getUserInfos _ _) fun _ => .send ⟨rfl, rfl, rfl⟩

theorem allUserRequestHandler_correlates (hm : ∀ q, model.AllSilent q)
    (request : Pdu AllUserRequest) : RepliesWith sessionId _ (Correlates .allUser request)
      (allUserRequestHandler model mem sessionId request) := by
  unfold allUserRequestHandler
  refine .ite ?_ (.send ⟨rfl, rfl, rfl⟩)
  exact .bind (fun q => (hm q).getAllUserInfo _) fun _ => .send ⟨rfl, rfl, rfl⟩

theorem departmentRequestHandler_correlates (hm : ∀ q, model.AllSilent q)
    (request : Pdu DepartmentRequest) : RepliesWith sessionId _ (Correlates .department request)
      (departmentRequestHandler model mem sessionId request) :=
  .bind (fun q => (hm q).getDepartmentInfos _) fun _ => .send ⟨rfl, rfl, rfl⟩

theorem unreadMsgCountRequestHandler_correlates (hm : ∀ q, model.AllSilent q)
    (request : Pdu UnreadMsgCountRequest) :
    RepliesWith sessionId _ (Correlates .unreadMsgCount request)
      (unreadMsgCountRequestHandler model mem sessionId request) :=
  .bind (fun q => (hm q).getUnreadMsgCount _ _ _) fun _ => .send ⟨rfl, rfl, rfl⟩

theorem unreadMsgRequestHandler_correlates (hm : ∀ q, model.AllSilent q)
    (request : Pdu UnreadMsgRequest) : RepliesWith sessionId _ (Correlates .unreadMsg request)
      (unreadMsgRequestHandler model mem sessionId request) := by
  unfold unreadMsgRequestHandler
  refine .bind (fun q => (hm q).getUserFriendUnreadCount _ _ _) fun count => ?_
  refine .ite ?_ (.send ⟨rfl, rfl, rfl, rfl, rfl⟩)
  exact .bind (fun q => (hm q).getMessages _ _ _ _ _) fun _ => .send ⟨rfl, rfl, rfl, rfl, rfl⟩

theorem groupListRequestHandler_correlates (hm : ∀ q, model.AllSilent q)
    (request : Pdu GroupListRequest) : RepliesWith sessionId _ (Correlates .groupList request)
      (groupListRequestHandler model mem sessionId request) := by
  unfold groupListRequestHandler
  refine .bind (fun q => (hm q).getGroupsByUserId _ _ _) fun (n, groups) => ?_
  refine .ite ?_ (.send ⟨rfl, rfl, rfl⟩)
  exact .bind (fun q => (hm q).getGroupMembersIn _ _) fun _ => .send ⟨rfl, rfl, rfl⟩

theorem groupDialogListRequestHandler_correlates (hm : ∀ q, model.AllSilent q)
    (request : Pdu GroupDialogListRequest) :
    RepliesWith sessionId _ (Correlates .groupDialogList request)
      (groupDialogListRequestHandler model mem sessionId request) := by
  unfold groupDialogListRequestHandler
  refine .ite ?_ (.send ⟨rfl, rfl, rfl⟩)
  refine .bind (fun q => (hm q).getRecentGroupsByUserId _ _) fun (n, groups) => ?_
  refine .ite ?_ (.send ⟨rfl, rfl, rfl⟩)
  exact .bind (fun q => (hm q).getGroupMembersIn _ _) fun _ => .send ⟨rfl, rfl, rfl⟩

theorem groupUserListRequestHandler_correlates (hm : ∀ q, model.AllSilent q)
    (request : Pdu GroupUserListRequest) :
    RepliesWith sessionId _ (Correlates .groupUserList request)
      (groupUserListRequestHandler model mem sessionId request) := by
  unfold groupUserListRequestHandler
  refine .bind (fun q => (hm q).getGroupInfo _ _) fun found => ?_
  cases found with
  | some group =>
    exact .bind (fun q => (hm q).getGroupMembers _ _) fun _ => .send ⟨rfl, rfl, rfl, rfl⟩
  | none => exact .send ⟨rfl, rfl, rfl, rfl⟩

theorem groupUnreadMsgCountRequestHandler_correlates (hm : ∀ q, model.AllSilent q)
    (request : Pdu GroupUnreadMsgCountRequest) :
    RepliesWith sessionId _ (Correlates .groupUnreadMsgCount request)
      (groupUnreadMsgCountRequestHandler model mem sessionId request) :=
  .bind (fun q => (hm q).getGroupIdsByUserId _ _ _) fun (_, groupIds) =>
    .bind (fun q => (hm q).getUserGroupUnreadCount _ _ _ _) fun _ => .send ⟨rfl, rfl, rfl⟩

theorem fileHasOfflineReqHandler_correlates (hm : ∀ q, model.AllSilent q)
    (request : Pdu FileHasOfflineReq) : RepliesWith sessionId _ (Correlates .fileHasOffline request)
      (fileHasOfflineReqHandler model mem sessionId request) :=
  .bind (fun q => (hm q).getUserFiles _ _) fun _ => .send ⟨rfl, rfl, rfl⟩

theorem groupCreateTmpGroupRequestHandler_correlates (hm : ∀ q, model.AllSilent q)
    (request : Pdu GroupCreateTmpGroupRequest) :
    RepliesWith sessionId _ (Correlates .groupCreateTmpGroup request)
      (groupCreateTmpGroupRequestHandler model mem sessionId request) :=
  .bind (fun q => (hm q).createGroup _ _ _ _ _ _ _) fun _ => .send ⟨rfl, rfl, rfl⟩

theorem groupChangeMemberRequestHandler_correlates (hm : ∀ q, model.AllSilent q)
    (request : Pdu GroupChangeMemberRequest) :
    RepliesWith sessionId _ (Correlates .groupChangeMember request)
      (groupChangeMemberRequestHandler model mem sessionId request) :=
  .bind (fun q => changeMember_silent (hm q) _) fun _ => .send ⟨rfl, rfl, rfl, rfl⟩

theorem removeSessionRequestHandler_correlates (hm : ∀ q, model.AllSilent q)
    (request : Pdu RemoveSessionRequest) :
    RepliesWith sessionId _ (Correlates .removeSession request)
      (removeSessionRequestHandler model mem sessionId request) :=
  .bind (fun q => removeSession_silent (hm q) _) fun _ => .send ⟨rfl, rfl, rfl, rfl, rfl⟩

/-- The second `set_request_cmd_id` leaves the group id of the reply as it was in memory. -/
theorem groupUnreadMsgRequestHandler_groupId (hm : ∀ q, model.AllSilent q)
    (request : Pdu GroupUnreadMsgRequest) : RepliesWith sessionId .groupMsgListResponse
      (fun (reply : Pdu GroupMsgListResponse) => reply.body.requestCmdId = request.body.groupId ∧
        reply.body.groupId = GroupMsgListResponse.groupId (mem.pdu .groupMsgListResponse).body)
      (groupUnreadMsgRequestHandler model mem sessionId request) :=
  .bind (fun q => (hm q).getUserGroupCount _ _ _ _) fun item =>
    .bind (fun q => (hm q).getGroupMessagesFromId _ _ _ _) fun _ => .send ⟨rfl, rfl⟩

theorem groupHistoryMsgRequestHandler_groupId (hm : ∀ q, model.AllSilent q)
    (request : Pdu GroupHistoryMsgRequest) : RepliesWith sessionId .groupMsgListResponse
      (fun (reply : Pdu GroupMsgListResponse) => reply.body.requestCmdId = request.body.groupId ∧
        reply.body.groupId = GroupMsgListResponse.groupId (mem.pdu .groupMsgListResponse).body)
      (groupHistoryMsgRequestHandler model mem sessionId request) :=
  .bind (fun q => (hm q).getGroupMessages _ _ _ _) fun _ => .send ⟨rfl, rfl⟩

end Handlers

/-! ## All of them -/

namespace Query

/-- The two handlers that never set the group id. -/
def LosesGroupId (q : Query) : Prop := q = .groupUnreadMsg ∨ q = .groupHistoryMsg

instance (q : Query) : Decidable q.LosesGroupId :=
  inferInstanceAs (Decidable (q = .groupUnreadMsg ∨ q = .groupHistoryMsg))

/-- Memory in which a reply made of it has the group id `g`. -/
def memoryWith (g : UInt32) : Memory :=
  { (default : Memory) with
    pdu := fun
      | .groupMsgListResponse => ⟨⟨[], 0⟩, ⟨0, 0, g, []⟩⟩
      | n => default }

end Query

/-- A handler whose reply has the group id of its memory has, for some memory, one that is not the
    request's. -/
theorem not_repliesWith_groupId {g : UInt32} {sessionId : UInt64} {p : Memory → Server Unit}
    {P : Pdu GroupMsgListResponse → Prop}
    (hmem : ∀ mem, RepliesWith sessionId .groupMsgListResponse
      (fun (reply : Pdu GroupMsgListResponse) =>
        reply.body.groupId = GroupMsgListResponse.groupId (mem.pdu .groupMsgListResponse).body) (p mem))
    (hP : ∀ reply, P reply → reply.body.groupId = g) :
    ¬∀ mem, RepliesWith sessionId .groupMsgListResponse P (p mem) := by
  intro hall
  have hrun := (Prog.play_runs (p (Query.memoryWith (g + 1))) emptyWorld).mono
    fun _ _ _ _ => StepOk.step
  obtain ⟨reply, hreply, hg⟩ := hall _ _ _ _ hrun
  obtain ⟨reply', hreply', hg'⟩ := hmem _ _ _ _ hrun
  have hsame : reply = reply' := reply_unique hreply hreply'
  have hold : GroupMsgListResponse.groupId ((Query.memoryWith (g + 1)).pdu .groupMsgListResponse).body
      = g + 1 := rfl
  have hnext : g + 1 = g := by rw [← hold, ← hg', ← hsame, hP reply hg]
  exact absurd hnext (by simp)

/-- **Correlation.**  A reply is its request's exactly if the request is none of the two whose handlers
    set the command id twice. -/
theorem repliesCorrelated_iff (q : Query) (request : Pdu q.request.Body) :
    RepliesCorrelated q request ↔ ¬q.LosesGroupId := by
  have hm : ∀ p, zAresModelModule.AllSilent p := fun _ => zAresModelModule_allSilent
  cases q with
  | friendList =>
    exact iff_of_true (fun _ _ => friendListRequestHandler_correlates hm request) (by decide)
  | usersInfo =>
    exact iff_of_true (fun _ _ => usersInfoRequestHandler_correlates hm request) (by decide)
  | allUser => exact iff_of_true (fun _ _ => allUserRequestHandler_correlates hm request) (by decide)
  | department =>
    exact iff_of_true (fun _ _ => departmentRequestHandler_correlates hm request) (by decide)
  | unreadMsgCount =>
    exact iff_of_true (fun _ _ => unreadMsgCountRequestHandler_correlates hm request) (by decide)
  | unreadMsg =>
    exact iff_of_true (fun _ _ => unreadMsgRequestHandler_correlates hm request) (by decide)
  | groupList =>
    exact iff_of_true (fun _ _ => groupListRequestHandler_correlates hm request) (by decide)
  | groupDialogList =>
    exact iff_of_true (fun _ _ => groupDialogListRequestHandler_correlates hm request) (by decide)
  | groupUserList =>
    exact iff_of_true (fun _ _ => groupUserListRequestHandler_correlates hm request) (by decide)
  | groupUnreadMsgCount =>
    exact iff_of_true (fun _ _ => groupUnreadMsgCountRequestHandler_correlates hm request) (by decide)
  | groupUnreadMsg =>
    refine iff_of_false (fun hall => ?_) (by decide)
    refine not_repliesWith_groupId (g := GroupUnreadMsgRequest.groupId request.body)
      (fun mem => ?_) (fun reply h => h.ids.2.1) fun mem => hall mem 0
    exact (groupUnreadMsgRequestHandler_groupId hm request).mono fun _ h => h.2
  | groupHistoryMsg =>
    refine iff_of_false (fun hall => ?_) (by decide)
    refine not_repliesWith_groupId (g := GroupHistoryMsgRequest.groupId request.body)
      (fun mem => ?_) (fun reply h => h.ids.2.1) fun mem => hall mem 0
    exact (groupHistoryMsgRequestHandler_groupId hm request).mono fun _ h => h.2
  | fileHasOffline =>
    exact iff_of_true (fun _ _ => fileHasOfflineReqHandler_correlates hm request) (by decide)
  | groupCreateTmpGroup =>
    exact iff_of_true (fun _ _ => groupCreateTmpGroupRequestHandler_correlates hm request) (by decide)
  | groupChangeMember =>
    exact iff_of_true (fun _ _ => groupChangeMemberRequestHandler_correlates hm request) (by decide)
  | removeSession =>
    exact iff_of_true (fun _ _ => removeSessionRequestHandler_correlates hm request) (by decide)

/-- User 1 asks for what he has not read in group 7. -/
def unreadOfGroup : Pdu GroupUnreadMsgRequest where
  attachData := []
  reserved := 0
  body := { reqUserId := 1, groupId := 7, clientType := 17 }

theorem not_repliesCorrelated : ¬RepliesCorrelated .groupUnreadMsg unreadOfGroup := by
  intro hall
  have hm : ∀ p, zAresModelModule.AllSilent p := fun _ => zAresModelModule_allSilent
  refine not_repliesWith_groupId (g := 7) (fun mem => ?_) (fun reply h => h.ids.2.1)
    fun mem => hall mem 0
  exact (groupUnreadMsgRequestHandler_groupId hm unreadOfGroup).mono fun _ h => h.2

end Zattd
