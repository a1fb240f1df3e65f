/-
  How often a handler replies.

  No manager sends anything, whatever its statements answer; every path of every handler ends in one
  send, to the session it was given.  Both are counts over ALL paths of a program (`Issues`), so
  they hold in every run, under any outcome of any statement.

  The handlers are taken with any managers that are silent; that the `zares` managers are is a
  separate matter.
-/
import Zattd.Handler.MessageHandler
import Zattd.Model.ZAresModelModule

set_option linter.unusedVariables false

namespace Zattd

open Prog

section Managers

variable {q : UInt64 → Bool} {α : Type}

/-- `p` sends nothing to the sessions that satisfy `q`. -/
abbrev Silent (q : UInt64 → Bool) (p : Server α) : Prop := Issues (Cmd.isSendTo q) p 0

/-- Whatever it is asked, no manager sends anything. -/
structure ModelModule.AllSilent (q : UInt64 → Bool) (model : ModelModule) : Prop where
  auth : ∀ u p, Silent q (model.loginManager.auth u p)
  getDepartmentInfos : ∀ l, Silent q (model.departmentManager.getDepartmentInfos l)
  getUserInfos : ∀ ids l, Silent q (model.userManager.getUserInfos ids l)
  getUserInfo : ∀ u info, Silent q (model.userManager.getUserInfo u info)
  getAllUserInfo : ∀ l, Silent q (model.userManager.getAllUserInfo l)
  getGroupsByUserId : ∀ u b l, Silent q (model.groupManager.getGroupsByUserId u b l)
  getGroupIdsByUserId : ∀ u b l, Silent q (model.groupManager.getGroupIdsByUserId u b l)
  getGroupMembersIn : ∀ ids m, Silent q (model.groupManager.getGroupMembersIn ids m)
  getGroupMembers : ∀ g l, Silent q (model.groupManager.getGroupMembers g l)
  getGroupInfo : ∀ g info, Silent q (model.groupManager.getGroupInfo g info)
  getRecentGroupsByUserId : ∀ u l, Silent q (model.groupManager.getRecentGroupsByUserId u l)
  createGroup : ∀ u n t a d ms g, Silent q (model.groupManager.createGroup u n t a d ms g)
  joinGroup : ∀ us g info, Silent q (model.groupManager.joinGroup us g info)
  quitGroup : ∀ r us g info, Silent q (model.groupManager.quitGroup r us g info)
  getRecentContactByUserId : ∀ u n l,
    Silent q (model.relationshipManager.getRecentContactByUserId u n l)
  deleteRecentContactByUserId : ∀ u f,
    Silent q (model.relationshipManager.deleteRecentContactByUserId u f)
  getMessages : ∀ f t o n l, Silent q (model.messageManager.getMessages f t o n l)
  getGroupMessages : ∀ g o n l, Silent q (model.messageManager.getGroupMessages g o n l)
  getGroupMessagesFromId : ∀ u i n l, Silent q (model.messageManager.getGroupMessagesFromId u i n l)
  sendAudioMessage : ∀ f t c d, Silent q (model.messageManager.sendAudioMessage f t c d)
  sendIMGroupMessage : ∀ f t c d, Silent q (model.messageManager.sendIMGroupMessage f t c d)
  sendIMMessage : ∀ f t k c d, Silent q (model.messageManager.sendIMMessage f t k c d)
  getUserFiles : ∀ u l, Silent q (model.fileManager.getUserFiles u l)
  saveFileRecord : ∀ f t i n s, Silent q (model.fileManager.saveFileRecord f t i n s)
  deleteFileRecord : ∀ i, Silent q (model.fileManager.deleteFileRecord i)
  getFileRecord : ∀ i file, Silent q (model.fileManager.getFileRecord i file)
  getUnreadMsgCount : ∀ u t c, Silent q (model.counterManager.getUnreadMsgCount u t c)
  clearUserUnreadItemCount : ∀ u f t,
    Silent q (model.counterManager.clearUserUnreadItemCount u f t)
  getUserFriendUnreadCount : ∀ u f t,
    Silent q (model.counterManager.getUserFriendUnreadCount u f t)
  getUserGroupUnreadCount : ∀ u gs t m,
    Silent q (model.counterManager.getUserGroupUnreadCount u gs t m)
  deleteUserReadedDialogMessages : ∀ u f t,
    Silent q (model.counterManager.deleteUserReadedDialogMessages u f t)
  getUserGroupCount : ∀ u g t i, Silent q (model.counterManager.getUserGroupCount u g t i)
  clearUserGroupCounter : ∀ u g t, Silent q (model.counterManager.clearUserGroupCounter u g t)

/-! ## The `zares` managers -/

/-- A command other than a send is silent. -/
theorem issue_silent {c : Cmd} (hc : c.isSendTo q = false) : Silent q (issue c) := by
  have h : Issues (Cmd.isSendTo q) (issue c) (if c.isSendTo q then 1 else 0) := Issues.issue c
  rwa [hc, if_neg Bool.false_ne_true] at h

section Users

theorem auth_silent (u p : Bytes) : Silent q (ZAresLoginManagerImpl.auth u p) := by
  unfold ZAresLoginManagerImpl.auth
  refine .skip rfl fun answ => ?_
  split <;> exact .pure _

theorem getDepartmentInfos_silent (l : List DepartmentInfo) :
    Silent q (ZAresDepartmentManagerImpl.getDepartmentInfos l) := by
  unfold ZAresDepartmentManagerImpl.getDepartmentInfos
  refine .skip rfl fun answ => ?_
  split <;> exact .pure _

theorem getUserInfos_silent (ids : List UInt32) (l : List UserInfo) :
    Silent q (ZAresUserManagerImpl.getUserInfos ids l) := by
  unfold ZAresUserManagerImpl.getUserInfos
  refine .ite (fun _ => .pure _) fun _ => .skip rfl fun answ => ?_
  split <;> exact .pure _

theorem getUserInfo_silent (u : Bytes) (info : UserInfo) :
    Silent q (ZAresUserManagerImpl.getUserInfo u info) := by
  unfold ZAresUserManagerImpl.getUserInfo
  refine .ite (fun _ => .pure _) fun _ => .skip rfl fun answ => ?_
  split <;> exact .pure _

theorem getAllUserInfo_silent (l : List UserInfo) :
    Silent q (ZAresUserManagerImpl.getAllUserInfo l) := by
  unfold ZAresUserManagerImpl.getAllUserInfo
  refine .skip rfl fun answ => ?_
  split <;> exact .pure _

end Users

section Groups

open ZAresGroupManagerImpl

theorem getGroupsByUserId_silent (u : UInt32) (b : Bool) (l : List GroupInfo) :
    Silent q (getGroupsByUserId u b l) := by
  unfold getGroupsByUserId
  exact .ite (fun _ => .pure _) fun _ => .skip rfl fun answ => .pure _

theorem getGroupIdsByUserId_silent (u : UInt32) (b : Bool) (l : List UInt32) :
    Silent q (getGroupIdsByUserId u b l) := by
  unfold getGroupIdsByUserId
  exact .ite (fun _ => .pure _) fun _ => .skip rfl fun answ => .pure _

theorem getGroupMembersIn_silent (ids : List UInt32) (m : Map (List GroupRelationInfo)) :
    Silent q (getGroupMembersIn ids m) := by
  unfold getGroupMembersIn
  exact .ite (fun _ => .pure _) fun _ => .skip rfl fun answ => .pure _

theorem getGroupMembers_silent (g : UInt32) (l : List GroupRelationInfo) :
    Silent q (getGroupMembers g l) := by
  unfold getGroupMembers
  exact .ite (fun _ => .pure _) fun _ => .skip rfl fun answ => .pure _

theorem getGroupInfo_silent (g : UInt32) (info : GroupInfo) : Silent q (getGroupInfo g info) := by
  unfold getGroupInfo
  refine .ite (fun _ => .pure _) fun _ => .skip rfl fun answ => ?_
  split <;> exact .pure _

theorem getRecentGroupsByUserId_silent (u : UInt32) (l : List GroupInfo) :
    Silent q (getRecentGroupsByUserId u l) := by
  unfold getRecentGroupsByUserId
  exact .ite (fun _ => .pure _) fun _ => .skip rfl fun answ => .pure _

theorem joinGroup_silent (us : List UInt32) (g : UInt32) (info : GroupInfo) :
    Silent q (joinGroup us g info) := by
  unfold joinGroup
  refine .ite (fun _ => .pure _) fun _ => .ite (fun _ => .pure _) fun _ => ?_
  refine .skip rfl fun now => .skip rfl fun answ => ?_
  refine .bind_zero ?_ fun insertCount => .bind_zero ?_ fun updateCount => ?_
  · exact .ite (fun _ => .pure _) fun _ => issue_silent rfl
  · exact .ite (fun _ => .pure _) fun _ => issue_silent rfl
  exact .skip rfl fun n => .pure _

theorem quitGroup_silent (r : UInt32) (us : List UInt32) (g : UInt32) (info : GroupInfo) :
    Silent q (quitGroup r us g info) := by
  unfold quitGroup
  refine .ite (fun _ => .pure _) fun _ => .ite (fun _ => .pure _) fun _ => ?_
  refine .skip rfl fun now => .skip rfl fun answ => ?_
  refine .bind_zero ?_ fun updateCount => ?_
  · exact .ite (fun _ => .pure _) fun _ => issue_silent rfl
  exact .skip rfl fun n => .pure _

theorem createGroup_silent (u : UInt32) (n : Bytes) (t : UInt32) (a d : Bytes) (ms : List UInt32)
    (g : GroupInfo) : Silent q (createGroup u n t a d ms g) := by
  unfold createGroup
  refine .ite (fun _ => .pure _) fun _ => .skip rfl fun updated => .skip rfl fun now => ?_
  refine .skip rfl fun newGroupId => .ite (fun _ => .skip rfl fun updated' => ?_) fun _ => .pure _
  exact .bind_zero (joinGroup_silent _ _ _) fun result => .pure _

end Groups

section Contacts

open ZAresRelationshipManagerImpl ZAresMessageManagerImpl

theorem getRecentContactByUserId_silent (u : UInt32) (n : Int) (l : List FriendInfo) :
    Silent q (getRecentContactByUserId u n l) := by
  unfold getRecentContactByUserId
  refine .ite (fun _ => .pure _) fun _ => .skip rfl fun answ => ?_
  split <;> exact .pure _

theorem deleteRecentContactByUserId_silent (u f : UInt32) :
    Silent q (deleteRecentContactByUserId u f) :=
  .skip rfl fun n => .pure _

/-- The functions on contacts issue nothing but statements on contacts and reads of the clock. -/
theorem getRelateId_issues {hit : Cmd → Bool} (hcontact : ∀ s, hit (.contact s) = false)
    (a b : UInt32) : Issues hit (getRelateId a b) 0 := by
  unfold getRelateId
  refine .ite (fun _ => .pure _) fun _ => .skip (hcontact _) fun answ => ?_
  split <;> exact .pure _

theorem checkAndUpdateRelation_issues {hit : Cmd → Bool} (hcontact : ∀ s, hit (.contact s) = false)
    (a b : UInt32) : Issues hit (checkAndUpdateRelation a b) 0 := by
  unfold checkAndUpdateRelation
  refine .ite (fun _ => .pure _) fun _ => .skip (hcontact _) fun answ => ?_
  exact .ite (fun _ => .pure _) fun _ => .skip (hcontact _) fun n => .pure _

theorem addFriendship_issues {hit : Cmd → Bool} (hcontact : ∀ s, hit (.contact s) = false)
    (hclock : hit .nowMSTime = false) (a b : UInt32) : Issues hit (addFriendship a b) 0 := by
  unfold addFriendship
  refine .ite (fun _ => .pure _) fun _ => ?_
  refine .bind_zero (getRelateId_issues hcontact a b) fun relateId => .ite (fun _ => .pure _) fun _ => ?_
  exact .skip hclock fun ctime => .skip (hcontact _) fun id => .pure _

theorem sendIMMessage_silent (f t k : UInt32) (content : Bytes) (time : UInt32) :
    Silent q (sendIMMessage f t k content time) := by
  unfold sendIMMessage
  refine .ite (fun _ => .pure _) fun _ => ?_
  refine .bind_zero (checkAndUpdateRelation_issues (fun _ => rfl) f t) fun _ => ?_
  refine .bind_zero (getRelateId_issues (fun _ => rfl) f t) fun found => ?_
  refine .bind_zero ?_ fun relateId => ?_
  · exact .ite (fun _ => addFriendship_issues (fun _ => rfl) rfl f t) fun _ => .pure _
  refine .skip rfl fun ctime => .skip rfl fun n => .ite (fun _ => ?_) fun _ => .pure _
  exact .bind_zero (.skip rfl fun _ => issue_silent rfl) fun _ => .pure _

theorem getMessages_silent (f t offset : UInt32) (n : Int) (l : List ServerMsg) :
    Silent q (getMessages f t offset n l) := by
  unfold getMessages
  refine .bind_zero (getRelateId_issues (fun _ => rfl) f t) fun relateId => ?_
  exact .ite (fun _ => .pure _) fun _ => .skip rfl fun answ => .pure _

end Contacts

section Files

open ZAresFileManagerImpl

theorem getUserFiles_silent (u : UInt32) (l : List OfflineFile) : Silent q (getUserFiles u l) := by
  unfold getUserFiles
  refine .ite (fun _ => .pure _) fun _ => .skip rfl fun t => .skip rfl fun answ => ?_
  split <;> exact .pure _

theorem saveFileRecord_silent (f t : UInt32) (taskId path : Bytes) (size : UInt32) :
    Silent q (saveFileRecord f t taskId path size) := by
  unfold saveFileRecord
  exact .ite (fun _ => .pure _) fun _ => .skip rfl fun now => .skip rfl fun n => .pure _

theorem deleteFileRecord_silent (taskId : Bytes) : Silent q (deleteFileRecord taskId) := by
  unfold deleteFileRecord
  exact .ite (fun _ => .pure _) fun _ => .skip rfl fun now => .skip rfl fun n => .pure _

theorem getFileRecord_silent (taskId : Bytes) (file : TransmitFile) :
    Silent q (getFileRecord taskId file) := by
  unfold getFileRecord
  refine .ite (fun _ => .pure _) fun _ => .skip rfl fun answ => ?_
  split <;> exact .pure _

end Files

theorem zAresModelModule_allSilent : zAresModelModule.AllSilent q where
  auth := auth_silent
  getDepartmentInfos := getDepartmentInfos_silent
  getUserInfos := getUserInfos_silent
  getUserInfo := getUserInfo_silent
  getAllUserInfo := getAllUserInfo_silent
  getGroupsByUserId := getGroupsByUserId_silent
  getGroupIdsByUserId := getGroupIdsByUserId_silent
  getGroupMembersIn := getGroupMembersIn_silent
  getGroupMembers := getGroupMembers_silent
  getGroupInfo := getGroupInfo_silent
  getRecentGroupsByUserId := getRecentGroupsByUserId_silent
  createGroup := createGroup_silent
  joinGroup := joinGroup_silent
  quitGroup := quitGroup_silent
  getRecentContactByUserId := getRecentContactByUserId_silent
  deleteRecentContactByUserId := deleteRecentContactByUserId_silent
  getMessages := getMessages_silent
  getGroupMessages _ _ _ _ := .pure _
  getGroupMessagesFromId _ _ _ _ := .pure _
  sendAudioMessage _ _ _ _ := .pure _
  sendIMGroupMessage _ _ _ _ := .pure _
  sendIMMessage := sendIMMessage_silent
  getUserFiles := getUserFiles_silent
  saveFileRecord := saveFileRecord_silent
  deleteFileRecord := deleteFileRecord_silent
  getFileRecord := getFileRecord_silent
  getUnreadMsgCount _ _ _ := issue_silent rfl
  clearUserUnreadItemCount _ _ _ := issue_silent rfl
  getUserFriendUnreadCount _ _ _ := issue_silent rfl
  getUserGroupUnreadCount _ _ _ _ := issue_silent rfl
  deleteUserReadedDialogMessages _ _ _ := .pure _
  getUserGroupCount _ _ _ _ := issue_silent rfl
  clearUserGroupCounter _ _ _ := issue_silent rfl

end Managers

/-! ## The handlers -/

section Handlers

variable {q : UInt64 → Bool} {model : ModelModule} {mem : Memory} {sessionId : UInt64}

/-- On every path, one message is sent, and it goes to the session. -/
abbrev RepliesOnce (q : UInt64 → Bool) (sessionId : UInt64) (p : Server Unit) : Prop :=
  Issues (Cmd.isSendTo q) p (if q sessionId then 1 else 0)

theorem sendSessionData_replies (n : PduName) (message : Pdu n.Body) :
    RepliesOnce q sessionId (sendSessionData sessionId n message) := .issue _

theorem sendSessionData_runs {n : PduName} {message : Pdu n.Body} {w w' : World} {tr : List Event}
    (h : Runs Step w (sendSessionData sessionId n message) tr () w') :
    w' = w ∧ replies tr = [(sessionId, ⟨n, message⟩)] := by
  obtain ⟨hstep, rfl⟩ := runs_issue.mp h
  exact ⟨hstep.resolve_right id, rfl⟩

/-- An operation on the counters has one outcome. -/
theorem runs_counter {w w' : World} {op : CounterOp} {tr : List Event} {a : op.Answer} :
    Runs Step w (issue (.counter op)) tr a w' ↔
      (a = (op.run w.cache).1 ∧ w' = w.setCache (op.run w.cache).2) ∧ tr = [⟨.counter op, a⟩] := by
  refine runs_issue.trans (and_congr_left fun _ => ?_)
  exact ⟨fun h => h.resolve_right id, Or.inl⟩

/-- A silent run has no replies. -/
theorem Silent.replies_eq {α : Type} {p : Server α} {a : α} {w w' : World} {tr : List Event}
    (hp : ∀ q, Silent q p) (h : Runs Step w p tr a w') : replies tr = [] := by
  have hnone := h.countP_eq (hp fun _ => true)
  rw [← countP_replies, List.countP_true] at hnone
  exact List.length_eq_zero_iff.mp hnone

theorem validateRequestHandler_replies (hm : model.AllSilent q) (request : Pdu ValidateRequest) :
    RepliesOnce q sessionId (validateRequestHandler model mem sessionId request) := by
  unfold validateRequestHandler
  refine .ite (fun _ => sendSessionData_replies _ _) fun _ => ?_
  refine .bind_zero (hm.auth _ _) fun isAuthed => ?_
  refine .ite (fun _ => ?_) fun _ => sendSessionData_replies _ _
  exact .bind_zero (hm.getUserInfo _ _) fun found => sendSessionData_replies _ _

theorem friendListRequestHandler_replies (hm : model.AllSilent q) (request : Pdu FriendListRequest) :
    RepliesOnce q sessionId (friendListRequestHandler model mem sessionId request) := by
  unfold friendListRequestHandler
  refine .ite (fun _ => ?_) fun _ => sendSessionData_replies _ _
  exact .bind_zero (hm.getRecentContactByUserId _ _ _) fun _ => sendSessionData_replies _ _

theorem removeSession_silent (hm : model.AllSilent q) (m : RemoveSessionRequest) :
    Silent q (removeSession model mem m) := by
  unfold removeSession
  refine .ite (fun _ => .pure _) fun _ => ?_
  refine .ite (fun _ => hm.deleteRecentContactByUserId _ _) fun _ => ?_
  refine .bind_zero (hm.getGroupInfo _ _) fun group => ?_
  split <;> exact .pure _

theorem removeSessionRequestHandler_replies (hm : model.AllSilent q)
    (request : Pdu RemoveSessionRequest) :
    RepliesOnce q sessionId (removeSessionRequestHandler model mem sessionId request) :=
  .bind_zero (removeSession_silent hm _) fun result => sendSessionData_replies _ _

theorem departmentRequestHandler_replies (hm : model.AllSilent q) (request : Pdu DepartmentRequest) :
    RepliesOnce q sessionId (departmentRequestHandler model mem sessionId request) :=
  .bind_zero (hm.getDepartmentInfos _) fun _ => sendSessionData_replies _ _

theorem usersInfoRequestHandler_replies (hm : model.AllSilent q) (request : Pdu UsersInfoRequest) :
    RepliesOnce q sessionId (usersInfoRequestHandler model mem sessionId request) := by
  unfold usersInfoRequestHandler
  refine .ite (fun _ => sendSessionData_replies _ _) fun _ => ?_
  exact .bind_zero (hm.getUserInfos _ _) fun _ => sendSessionData_replies _ _

theorem allUserRequestHandler_replies (hm : model.AllSilent q) (request : Pdu AllUserRequest) :
    RepliesOnce q sessionId (allUserRequestHandler model mem sessionId request) := by
  unfold allUserRequestHandler
  refine .ite (fun _ => ?_) fun _ => sendSessionData_replies _ _
  exact .bind_zero (hm.getAllUserInfo _) fun _ => sendSessionData_replies _ _

theorem sendMsgData_silent (hm : model.AllSilent q) (m : MsgData) : Silent q (sendMsgData model m) := by
  unfold sendMsgData
  refine .ite (fun _ => .pure _) fun _ => ?_
  refine .ite (fun _ => hm.sendIMMessage _ _ _ _ _) fun _ => ?_
  refine .ite (fun _ => hm.sendAudioMessage _ _ _ _) fun _ => ?_
  exact .ite (fun _ => hm.sendIMGroupMessage _ _ _ _) fun _ => .pure _

theorem msgDataHandler_replies (hm : model.AllSilent q) (request : Pdu MsgData) :
    RepliesOnce q sessionId (msgDataHandler model mem sessionId request) :=
  .bind_zero (sendMsgData_silent hm _) fun isSucess => sendSessionData_replies _ _

theorem msgReadAckHandler_replies (hm : model.AllSilent q) (request : Pdu MsgReadAck) :
    RepliesOnce q sessionId (msgReadAckHandler model mem sessionId request) :=
  .bind_zero (hm.clearUserUnreadItemCount _ _ _) fun cleared =>
    .bind_zero (hm.deleteUserReadedDialogMessages _ _ _) fun _ => sendSessionData_replies _ _

theorem unreadMsgCountRequestHandler_replies (hm : model.AllSilent q)
    (request : Pdu UnreadMsgCountRequest) :
    RepliesOnce q sessionId (unreadMsgCountRequestHandler model mem sessionId request) :=
  .bind_zero (hm.getUnreadMsgCount _ _ _) fun found => sendSessionData_replies _ _

theorem unreadMsgRequestHandler_replies (hm : model.AllSilent q) (request : Pdu UnreadMsgRequest) :
    RepliesOnce q sessionId (unreadMsgRequestHandler model mem sessionId request) := by
  unfold unreadMsgRequestHandler
  refine .bind_zero (hm.getUserFriendUnreadCount _ _ _) fun count => ?_
  refine .ite (fun _ => ?_) fun _ => sendSessionData_replies _ _
  exact .bind_zero (hm.getMessages _ _ _ _ _) fun _ => sendSessionData_replies _ _

theorem groupListRequestHandler_replies (hm : model.AllSilent q) (request : Pdu GroupListRequest) :
    RepliesOnce q sessionId (groupListRequestHandler model mem sessionId request) := by
  unfold groupListRequestHandler
  refine .bind_zero (hm.getGroupsByUserId _ _ _) fun (n, groups) => ?_
  refine .ite (fun _ => ?_) fun _ => sendSessionData_replies _ _
  exact .bind_zero (hm.getGroupMembersIn _ _) fun _ => sendSessionData_replies _ _

theorem groupDialogListRequestHandler_replies (hm : model.AllSilent q)
    (request : Pdu GroupDialogListRequest) :
    RepliesOnce q sessionId (groupDialogListRequestHandler model mem sessionId request) := by
  unfold groupDialogListRequestHandler
  refine .ite (fun _ => ?_) fun _ => sendSessionData_replies _ _
  refine .bind_zero (hm.getRecentGroupsByUserId _ _) fun (n, groups) => ?_
  refine .ite (fun _ => ?_) fun _ => sendSessionData_replies _ _
  exact .bind_zero (hm.getGroupMembersIn _ _) fun _ => sendSessionData_replies _ _

theorem groupUserListRequestHandler_replies (hm : model.AllSilent q)
    (request : Pdu GroupUserListRequest) :
    RepliesOnce q sessionId (groupUserListRequestHandler model mem sessionId request) := by
  unfold groupUserListRequestHandler
  refine .bind_zero (hm.getGroupInfo _ _) fun found => ?_
  cases found with
  | some group => exact .bind_zero (hm.getGroupMembers _ _) fun _ => sendSessionData_replies _ _
  | none => exact sendSessionData_replies _ _

theorem groupUnreadMsgCountRequestHandler_replies (hm : model.AllSilent q)
    (request : Pdu GroupUnreadMsgCountRequest) :
    RepliesOnce q sessionId (groupUnreadMsgCountRequestHandler model mem sessionId request) :=
  .bind_zero (hm.getGroupIdsByUserId _ _ _) fun (_, groupIds) =>
    .bind_zero (hm.getUserGroupUnreadCount _ _ _ _) fun _ => sendSessionData_replies _ _

theorem groupUnreadMsgRequestHandler_replies (hm : model.AllSilent q)
    (request : Pdu GroupUnreadMsgRequest) :
    RepliesOnce q sessionId (groupUnreadMsgRequestHandler model mem sessionId request) :=
  .bind_zero (hm.getUserGroupCount _ _ _ _) fun item =>
    .bind_zero (hm.getGroupMessagesFromId _ _ _ _) fun _ => sendSessionData_replies _ _

theorem groupHistoryMsgRequestHandler_replies (hm : model.AllSilent q)
    (request : Pdu GroupHistoryMsgRequest) :
    RepliesOnce q sessionId (groupHistoryMsgRequestHandler model mem sessionId request) :=
  .bind_zero (hm.getGroupMessages _ _ _ _) fun _ => sendSessionData_replies _ _

theorem groupMsgReadAckHandler_replies (hm : model.AllSilent q) (request : Pdu GroupMsgReadAck) :
    RepliesOnce q sessionId (groupMsgReadAckHandler model mem sessionId request) :=
  .bind_zero (hm.clearUserGroupCounter _ _ _) fun cleared => sendSessionData_replies _ _

theorem groupCreateTmpGroupRequestHandler_replies (hm : model.AllSilent q)
    (request : Pdu GroupCreateTmpGroupRequest) :
    RepliesOnce q sessionId (groupCreateTmpGroupRequestHandler model mem sessionId request) :=
  .bind_zero (hm.createGroup _ _ _ _ _ _ _) fun _ => sendSessionData_replies _ _

theorem changeMember_silent (hm : model.AllSilent q) (m : GroupChangeMemberRequest) :
    Silent q (changeMember model mem m) := by
  unfold changeMember
  refine .ite (fun _ => ?_) fun _ => ?_
  · refine .bind_zero (hm.getGroupInfo _ _) fun found => ?_
    cases found with
    | some group => exact .bind_zero (hm.joinGroup _ _ _) fun _ => .pure _
    | none => exact .pure _
  · refine .bind_zero (hm.getGroupInfo _ _) fun found => ?_
    cases found with
    | some group => exact .bind_zero (hm.quitGroup _ _ _ _) fun _ => .pure _
    | none => exact .pure _

theorem groupChangeMemberRequestHandler_replies (hm : model.AllSilent q)
    (request : Pdu GroupChangeMemberRequest) :
    RepliesOnce q sessionId (groupChangeMemberRequestHandler model mem sessionId request) :=
  .bind_zero (changeMember_silent hm _) fun _ => sendSessionData_replies _ _

theorem fileHasOfflineReqHandler_replies (hm : model.AllSilent q) (request : Pdu FileHasOfflineReq) :
    RepliesOnce q sessionId (fileHasOfflineReqHandler model mem sessionId request) :=
  .bind_zero (hm.getUserFiles _ _) fun _ => sendSessionData_replies _ _

theorem fileAddOfflineReqHandler_replies (hm : model.AllSilent q) (request : Pdu FileAddOfflineReq) :
    RepliesOnce q sessionId (fileAddOfflineReqHandler model mem sessionId request) :=
  .bind_zero (hm.saveFileRecord _ _ _ _ _) fun isSucess => sendSessionData_replies _ _

theorem fileDelOfflineReqHandler_replies (hm : model.AllSilent q) (request : Pdu FileDelOfflineReq) :
    RepliesOnce q sessionId (fileDelOfflineReqHandler model mem sessionId request) := by
  unfold fileDelOfflineReqHandler
  refine .skip rfl fun now => .bind_zero (hm.getFileRecord _ _) fun found => ?_
  refine .bind_zero (.ite (fun _ => hm.deleteFileRecord _) fun _ => .pure _) fun isSucess => ?_
  exact sendSessionData_replies _ _

end Handlers

end Zattd
