/-
  How much work a packet makes.

  A handler issues one command after the other and waits for each answer; nothing in it loops over
  what it is answered.  So the number of its commands is bounded, whatever the answers are: eleven at
  most, the number of a first message between two users, which looks for their conversation twice,
  makes it, stores the message, counts it twice and replies.
-/
import Zattd.Correct.Admission
import Zattd.Lib.Paths

set_option linter.unusedVariables false

namespace Zattd

open Prog

/-- One command. -/
theorem short_issue (c : Cmd) : Short (issue c) 1 := .then (f := .ret) rfl fun a => .ret a 0

/-! ## The managers -/

section Users

open ZAresLoginManagerImpl ZAresUserManagerImpl ZAresDepartmentManagerImpl

theorem auth_short (u p : Bytes) : Short (auth u p) 1 := by
  unfold auth
  refine .then rfl fun answ => ?_
  split <;> exact .pure _

theorem getDepartmentInfos_short (l : List DepartmentInfo) : Short (getDepartmentInfos l) 1 := by
  unfold getDepartmentInfos
  refine .then rfl fun answ => ?_
  split <;> exact .pure _

theorem getUserInfos_short (ids : List UInt32) (l : List UserInfo) : Short (getUserInfos ids l) 1 := by
  unfold getUserInfos
  refine .ite (fun _ => .pure _) fun _ => .then rfl fun answ => ?_
  split <;> exact .pure _

theorem getUserInfo_short (u : Bytes) (info : UserInfo) : Short (getUserInfo u info) 1 := by
  unfold getUserInfo
  refine .ite (fun _ => .pure _) fun _ => .then rfl fun answ => ?_
  split <;> exact .pure _

theorem getAllUserInfo_short (l : List UserInfo) : Short (getAllUserInfo l) 1 := by
  unfold getAllUserInfo
  refine .then rfl fun answ => ?_
  split <;> exact .pure _

end Users

section Groups

open ZAresGroupManagerImpl

theorem getGroupsByUserId_short (u : UInt32) (b : Bool) (l : List GroupInfo) :
    Short (getGroupsByUserId u b l) 1 := by
  unfold getGroupsByUserId
  exact .ite (fun _ => .pure _) fun _ => .then rfl fun answ => .pure _

theorem getGroupIdsByUserId_short (u : UInt32) (b : Bool) (l : List UInt32) :
    Short (getGroupIdsByUserId u b l) 1 := by
  unfold getGroupIdsByUserId
  exact .ite (fun _ => .pure _) fun _ => .then rfl fun answ => .pure _

theorem getGroupMembersIn_short (ids : List UInt32) (m : Map (List GroupRelationInfo)) :
    Short (getGroupMembersIn ids m) 1 := by
  unfold getGroupMembersIn
  exact .ite (fun _ => .pure _) fun _ => .then rfl fun answ => .pure _

theorem getGroupMembers_short (g : UInt32) (l : List GroupRelationInfo) :
    Short (getGroupMembers g l) 1 := by
  unfold getGroupMembers
  exact .ite (fun _ => .pure _) fun _ => .then rfl fun answ => .pure _

theorem getGroupInfo_short (g : UInt32) (info : GroupInfo) : Short (getGroupInfo g info) 1 := by
  unfold getGroupInfo
  refine .ite (fun _ => .pure _) fun _ => .then rfl fun answ => ?_
  split <;> exact .pure _

theorem getRecentGroupsByUserId_short (u : UInt32) (l : List GroupInfo) :
    Short (getRecentGroupsByUserId u l) 1 := by
  unfold getRecentGroupsByUserId
  exact .ite (fun _ => .pure _) fun _ => .then rfl fun answ => .pure _

/-- The clock, the query, two writes if there is something to write, and the number of members. -/
theorem joinGroup_short (us : List UInt32) (g : UInt32) (info : GroupInfo) :
    Short (joinGroup us g info) 5 := by
  unfold joinGroup
  refine .ite (fun _ => .pure _) fun _ => .ite (fun _ => .pure _) fun _ => ?_
  refine .then rfl fun now => .then rfl fun answ => ?_
  refine AtMost.bind (m := 1) (n := 2) (.ite (fun _ => .pure _) fun _ => short_issue _) fun _ => ?_
  refine AtMost.bind (m := 1) (n := 1) (.ite (fun _ => .pure _) fun _ => short_issue _) fun _ => ?_
  exact .then rfl fun _ => .pure _

theorem quitGroup_short (r : UInt32) (us : List UInt32) (g : UInt32) (info : GroupInfo) :
    Short (quitGroup r us g info) 4 := by
  unfold quitGroup
  refine .ite (fun _ => .pure _) fun _ => .ite (fun _ => .pure _) fun _ => ?_
  refine .then rfl fun now => .then rfl fun answ => ?_
  refine AtMost.bind (m := 1) (n := 1) (.ite (fun _ => .pure _) fun _ => short_issue _) fun _ => ?_
  exact .then rfl fun _ => .pure _

theorem createGroup_short (u : UInt32) (name : Bytes) (type : UInt32) (avatar adesc : Bytes)
    (members : List UInt32) (group : GroupInfo) :
    Short (createGroup u name type avatar adesc members group) 9 := by
  unfold createGroup
  refine .ite (fun _ => .pure _) fun _ => ?_
  refine .then rfl fun updated => .then rfl fun now => .then rfl fun newGroupId => ?_
  refine .ite (fun _ => .then rfl fun again => ?_) fun _ => .pure _
  exact AtMost.bind (m := 5) (n := 0) (joinGroup_short _ _ _) fun _ => .pure _

end Groups

section Contacts

open ZAresRelationshipManagerImpl ZAresMessageManagerImpl

theorem getRecentContactByUserId_short (u : UInt32) (n : Int) (l : List FriendInfo) :
    Short (getRecentContactByUserId u n l) 1 := by
  unfold getRecentContactByUserId
  refine .ite (fun _ => .pure _) fun _ => .then rfl fun answ => ?_
  split <;> exact .pure _

theorem deleteRecentContactByUserId_short (u f : UInt32) :
    Short (deleteRecentContactByUserId u f) 1 := .then rfl fun _ => .pure _

theorem getRelateId_short (a b : UInt32) : Short (getRelateId a b) 1 := by
  unfold getRelateId
  refine .ite (fun _ => .pure _) fun _ => .then rfl fun answ => ?_
  split <;> exact .pure _

theorem checkAndUpdateRelation_short (a b : UInt32) : Short (checkAndUpdateRelation a b) 2 := by
  unfold checkAndUpdateRelation
  refine .ite (fun _ => .pure _) fun _ => .then rfl fun answ => ?_
  exact .ite (fun _ => .pure _) fun _ => .then rfl fun n => .pure _

theorem addFriendship_short (a b : UInt32) : Short (addFriendship a b) 3 := by
  unfold addFriendship
  refine .ite (fun _ => .pure _) fun _ => ?_
  refine AtMost.bind (m := 1) (n := 2) (getRelateId_short a b) fun relateId => ?_
  exact .ite (fun _ => .pure _) fun _ => .then rfl fun ctime => .then rfl fun id => .pure _

theorem sendIMMessage_short (f t k : UInt32) (content : Bytes) (time : UInt32) :
    Short (sendIMMessage f t k content time) 10 := by
  unfold sendIMMessage
  refine .ite (fun _ => .pure _) fun _ => ?_
  refine AtMost.bind (m := 2) (n := 8) (checkAndUpdateRelation_short f t) fun _ => ?_
  refine AtMost.bind (m := 1) (n := 7) (getRelateId_short f t) fun found => ?_
  refine AtMost.bind (m := 3) (n := 4)
    (.ite (fun _ => addFriendship_short f t) fun _ => .pure _) fun relateId => ?_
  refine .then rfl fun ctime => .then rfl fun n => .ite (fun _ => ?_) fun _ => .pure _
  exact AtMost.bind (m := 2) (n := 0) (.then rfl fun _ => short_issue _) fun _ => .pure _

theorem getMessages_short (f t offset : UInt32) (n : Int) (l : List ServerMsg) :
    Short (getMessages f t offset n l) 2 := by
  unfold getMessages
  refine AtMost.bind (m := 1) (n := 1) (getRelateId_short f t) fun relateId => ?_
  exact .ite (fun _ => .pure _) fun _ => .then rfl fun answ => .pure _

end Contacts

section Files

open ZAresFileManagerImpl

theorem getUserFiles_short (u : UInt32) (l : List OfflineFile) : Short (getUserFiles u l) 2 := by
  unfold getUserFiles
  refine .ite (fun _ => .pure _) fun _ => .then rfl fun t => .then rfl fun answ => ?_
  split <;> exact .pure _

theorem saveFileRecord_short (f t : UInt32) (taskId path : Bytes) (size : UInt32) :
    Short (saveFileRecord f t taskId path size) 2 := by
  unfold saveFileRecord
  exact .ite (fun _ => .pure _) fun _ => .then rfl fun now => .then rfl fun n => .pure _

theorem deleteFileRecord_short (taskId : Bytes) : Short (deleteFileRecord taskId) 2 := by
  unfold deleteFileRecord
  exact .ite (fun _ => .pure _) fun _ => .then rfl fun now => .then rfl fun n => .pure _

theorem getFileRecord_short (taskId : Bytes) (file : TransmitFile) :
    Short (getFileRecord taskId file) 1 := by
  unfold getFileRecord
  refine .ite (fun _ => .pure _) fun _ => .then rfl fun answ => ?_
  split <;> exact .pure _

end Files

/-! ## The handlers -/

/-- No handler issues more commands than this. -/
def maxCommands : Nat := 11

section Handlers

variable {mem : Memory} {sessionId : UInt64}

theorem sendSessionData_short (n : PduName) (message : Pdu n.Body) :
    Short (sendSessionData sessionId n message) 1 := short_issue _

theorem validateRequestHandler_short (request : Pdu ValidateRequest) :
    Short (validateRequestHandler zAresModelModule mem sessionId request) 3 := by
  unfold validateRequestHandler
  refine .ite (fun _ => (sendSessionData_short _ _).mono (by decide)) fun _ => ?_
  refine AtMost.bind (m := 1) (n := 2) (auth_short _ _) fun isAuthed => ?_
  refine .ite (fun _ => ?_) fun _ => (sendSessionData_short _ _).mono (by decide)
  exact AtMost.bind (m := 1) (n := 1) (getUserInfo_short _ _) fun found => sendSessionData_short _ _

theorem friendListRequestHandler_short (request : Pdu FriendListRequest) :
    Short (friendListRequestHandler zAresModelModule mem sessionId request) 2 := by
  unfold friendListRequestHandler
  refine .ite (fun _ => ?_) fun _ => (sendSessionData_short _ _).mono (by decide)
  exact AtMost.bind (m := 1) (n := 1) (getRecentContactByUserId_short request.body.userId 100 _) fun _ =>
    sendSessionData_short _ _

theorem removeSession_short (m : RemoveSessionRequest) :
    Short (removeSession zAresModelModule mem m) 1 := by
  unfold removeSession
  refine .ite (fun _ => .pure _) fun _ => ?_
  refine .ite (fun _ => deleteRecentContactByUserId_short _ _) fun _ => ?_
  refine AtMost.bind (m := 1) (n := 0) (getGroupInfo_short _ _) fun group => ?_
  split <;> exact .pure _

theorem removeSessionRequestHandler_short (request : Pdu RemoveSessionRequest) :
    Short (removeSessionRequestHandler zAresModelModule mem sessionId request) 2 :=
  AtMost.bind (m := 1) (n := 1) (removeSession_short _) fun _ => sendSessionData_short _ _

theorem departmentRequestHandler_short (request : Pdu DepartmentRequest) :
    Short (departmentRequestHandler zAresModelModule mem sessionId request) 2 :=
  AtMost.bind (m := 1) (n := 1) (getDepartmentInfos_short _) fun _ => sendSessionData_short _ _

theorem usersInfoRequestHandler_short (request : Pdu UsersInfoRequest) :
    Short (usersInfoRequestHandler zAresModelModule mem sessionId request) 2 := by
  unfold usersInfoRequestHandler
  refine .ite (fun _ => (sendSessionData_short _ _).mono (by decide)) fun _ => ?_
  exact AtMost.bind (m := 1) (n := 1) (getUserInfos_short _ _) fun _ => sendSessionData_short _ _

theorem allUserRequestHandler_short (request : Pdu AllUserRequest) :
    Short (allUserRequestHandler zAresModelModule mem sessionId request) 2 := by
  unfold allUserRequestHandler
  refine .ite (fun _ => ?_) fun _ => (sendSessionData_short _ _).mono (by decide)
  exact AtMost.bind (m := 1) (n := 1) (getAllUserInfo_short _) fun _ => sendSessionData_short _ _

theorem sendMsgData_short (m : MsgData) : Short (sendMsgData zAresModelModule m) 10 := by
  unfold sendMsgData
  refine .ite (fun _ => .pure _) fun _ => ?_
  refine .ite (fun _ => sendIMMessage_short _ _ _ _ m.createTime) fun _ => ?_
  exact .ite (fun _ => .pure _) fun _ => .ite (fun _ => .pure _) fun _ => .pure _

theorem msgDataHandler_short (request : Pdu MsgData) :
    Short (msgDataHandler zAresModelModule mem sessionId request) 11 :=
  AtMost.bind (m := 10) (n := 1) (sendMsgData_short _) fun _ => sendSessionData_short _ _

theorem msgReadAckHandler_short (request : Pdu MsgReadAck) :
    Short (msgReadAckHandler zAresModelModule mem sessionId request) 2 :=
  .then rfl fun cleared => AtMost.bind (m := 0) (n := 1) (.pure _) fun _ => sendSessionData_short _ _

theorem unreadMsgCountRequestHandler_short (request : Pdu UnreadMsgCountRequest) :
    Short (unreadMsgCountRequestHandler zAresModelModule mem sessionId request) 2 :=
  .then rfl fun found => sendSessionData_short _ _

theorem unreadMsgRequestHandler_short (request : Pdu UnreadMsgRequest) :
    Short (unreadMsgRequestHandler zAresModelModule mem sessionId request) 4 := by
  unfold unreadMsgRequestHandler
  refine .then rfl fun count => ?_
  refine .ite (fun _ => ?_) fun _ => (sendSessionData_short _ _).mono (by decide)
  exact AtMost.bind (m := 2) (n := 1) (getMessages_short _ _ _ _ _) fun _ => sendSessionData_short _ _

theorem groupListRequestHandler_short (request : Pdu GroupListRequest) :
    Short (groupListRequestHandler zAresModelModule mem sessionId request) 3 := by
  unfold groupListRequestHandler
  refine AtMost.bind (m := 1) (n := 2) (getGroupsByUserId_short _ _ _) fun (n, groups) => ?_
  refine .ite (fun _ => ?_) fun _ => (sendSessionData_short _ _).mono (by decide)
  exact AtMost.bind (m := 1) (n := 1) (getGroupMembersIn_short _ _) fun _ => sendSessionData_short _ _

theorem groupDialogListRequestHandler_short (request : Pdu GroupDialogListRequest) :
    Short (groupDialogListRequestHandler zAresModelModule mem sessionId request) 3 := by
  unfold groupDialogListRequestHandler
  refine .ite (fun _ => ?_) fun _ => (sendSessionData_short _ _).mono (by decide)
  refine AtMost.bind (m := 1) (n := 2) (getRecentGroupsByUserId_short _ _) fun (n, groups) => ?_
  refine .ite (fun _ => ?_) fun _ => (sendSessionData_short _ _).mono (by decide)
  exact AtMost.bind (m := 1) (n := 1) (getGroupMembersIn_short _ _) fun _ => sendSessionData_short _ _

theorem groupUserListRequestHandler_short (request : Pdu GroupUserListRequest) :
    Short (groupUserListRequestHandler zAresModelModule mem sessionId request) 3 := by
  unfold groupUserListRequestHandler
  refine AtMost.bind (m := 1) (n := 2) (getGroupInfo_short _ _) fun found => ?_
  cases found with
  | some group =>
    exact AtMost.bind (m := 1) (n := 1) (getGroupMembers_short _ _) fun _ => sendSessionData_short _ _
  | none => exact (sendSessionData_short _ _).mono (by decide)

theorem groupUnreadMsgCountRequestHandler_short (request : Pdu GroupUnreadMsgCountRequest) :
    Short (groupUnreadMsgCountRequestHandler zAresModelModule mem sessionId request) 3 :=
  AtMost.bind (m := 1) (n := 2) (getGroupIdsByUserId_short _ _ _) fun (_, groupIds) =>
    .then rfl fun _ => sendSessionData_short _ _

theorem groupUnreadMsgRequestHandler_short (request : Pdu GroupUnreadMsgRequest) :
    Short (groupUnreadMsgRequestHandler zAresModelModule mem sessionId request) 2 :=
  .then rfl fun item => AtMost.bind (m := 0) (n := 1) (.pure _) fun _ => sendSessionData_short _ _

theorem groupMsgReadAckHandler_short (request : Pdu GroupMsgReadAck) :
    Short (groupMsgReadAckHandler zAresModelModule mem sessionId request) 2 :=
  .then rfl fun cleared => sendSessionData_short _ _

theorem groupCreateTmpGroupRequestHandler_short (request : Pdu GroupCreateTmpGroupRequest) :
    Short (groupCreateTmpGroupRequestHandler zAresModelModule mem sessionId request) 10 :=
  AtMost.bind (m := 9) (n := 1) (createGroup_short _ _ _ _ _ _ _) fun _ => sendSessionData_short _ _

theorem changeMember_short (m : GroupChangeMemberRequest) :
    Short (changeMember zAresModelModule mem m) 6 := by
  unfold changeMember
  refine .ite (fun _ => ?_) fun _ => ?_
  · refine AtMost.bind (m := 1) (n := 5) (getGroupInfo_short _ _) fun found => ?_
    cases found with
    | some group => exact AtMost.bind (m := 5) (n := 0) (joinGroup_short _ _ _) fun _ => .pure _
    | none => exact .pure _
  · refine AtMost.bind (m := 1) (n := 5) (getGroupInfo_short _ _) fun found => ?_
    cases found with
    | some group => exact (AtMost.bind (m := 4) (n := 1) (quitGroup_short _ _ _ _) fun _ => .pure _)
    | none => exact .pure _

theorem groupChangeMemberRequestHandler_short (request : Pdu GroupChangeMemberRequest) :
    Short (groupChangeMemberRequestHandler zAresModelModule mem sessionId request) 7 :=
  AtMost.bind (m := 6) (n := 1) (changeMember_short _) fun _ => sendSessionData_short _ _

theorem fileHasOfflineReqHandler_short (request : Pdu FileHasOfflineReq) :
    Short (fileHasOfflineReqHandler zAresModelModule mem sessionId request) 3 :=
  AtMost.bind (m := 2) (n := 1) (getUserFiles_short _ _) fun _ => sendSessionData_short _ _

theorem fileAddOfflineReqHandler_short (request : Pdu FileAddOfflineReq) :
    Short (fileAddOfflineReqHandler zAresModelModule mem sessionId request) 3 :=
  AtMost.bind (m := 2) (n := 1) (saveFileRecord_short _ _ _ _ _) fun _ => sendSessionData_short _ _

theorem fileDelOfflineReqHandler_short (request : Pdu FileDelOfflineReq) :
    Short (fileDelOfflineReqHandler zAresModelModule mem sessionId request) 5 := by
  unfold fileDelOfflineReqHandler
  refine .then rfl fun now => ?_
  refine AtMost.bind (m := 1) (n := 3)
    (getFileRecord_short request.body.taskId mem.newTransmitFile) fun found => ?_
  refine AtMost.bind (m := 2) (n := 1)
    (.ite (fun _ => deleteFileRecord_short _) fun _ => .pure _) fun isSucess => ?_
  exact sendSessionData_short _ _

/-- Every handler keeps the bound. -/
theorem executes_short {n : PduName} {execute : Execute n.Body} (h : executes n = some execute)
    (m : Pdu n.Body) : Short (execute zAresModelModule mem sessionId m) maxCommands := by
  unfold maxCommands
  cases n <;> cases h
  · exact (allUserRequestHandler_short m).mono (by decide)
  · exact (departmentRequestHandler_short m).mono (by decide)
  · exact (fileAddOfflineReqHandler_short m).mono (by decide)
  · exact (fileDelOfflineReqHandler_short m).mono (by decide)
  · exact (fileHasOfflineReqHandler_short m).mono (by decide)
  · exact (friendListRequestHandler_short m).mono (by decide)
  · exact (groupChangeMemberRequestHandler_short m).mono (by decide)
  · exact (groupCreateTmpGroupRequestHandler_short m).mono (by decide)
  · exact (groupDialogListRequestHandler_short m).mono (by decide)
  · exact (groupListRequestHandler_short m).mono (by decide)
  · exact (groupMsgReadAckHandler_short m).mono (by decide)
  · exact (groupUnreadMsgCountRequestHandler_short m).mono (by decide)
  · exact (groupUnreadMsgRequestHandler_short m).mono (by decide)
  · exact (groupUserListRequestHandler_short m).mono (by decide)
  · exact msgDataHandler_short m
  · exact (msgReadAckHandler_short m).mono (by decide)
  · exact (removeSessionRequestHandler_short m).mono (by decide)
  · exact (unreadMsgCountRequestHandler_short m).mono (by decide)
  · exact (unreadMsgRequestHandler_short m).mono (by decide)
  · exact (usersInfoRequestHandler_short m).mono (by decide)
  · exact (validateRequestHandler_short m).mono (by decide)

/-- So does what a thread does with a packet, whatever it is. -/
theorem onMessageDataHandler_short (bo : ByteOrder) (packet : Packet) :
    Short (onMessageDataHandler bo zAresModelModule mem sessionId packet) maxCommands := by
  rcases onMessageDataHandler_cases bo zAresModelModule mem sessionId packet with
    ⟨n, m, execute, -, -, hexecutes, hrun⟩ | ⟨-, hrun⟩
  · rw [hrun]
    exact executes_short hexecutes m
  · rw [hrun]
    exact .pure _

end Handlers

end Zattd
