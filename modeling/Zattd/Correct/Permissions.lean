/-
  What a REQUEST MAY DO: a policy, and that every handler keeps it.

  The policy (`May`, and `Reads` for the commands that change nothing) is a table of rules.  A rule says
  of a class of requests which commands they may have issued, with which of their own members as
  arguments, and — for a change of the members of a group, or of the contacts of two users — in which
  states of the tables.

  The state that a rule asks for is looked up some statements before the command is issued, and other
  threads are at work in between.  It is still there: what the rules ask for is in columns that no
  statement of the server changes (`Grows`).
-/
import Zattd.Correct.Admission
import Zattd.Correct.GroupWrites
import Zattd.Lib.Paths
import Zattd.Lib.Places

set_option linter.unusedVariables false

namespace Zattd

open Prog

/-! ## What nothing changes -/

/-- The columns of a contact that are never changed. -/
def ContactRow.fixed (r : ContactRow) : ContactRow := { r with status := 0 }

/-- Those of a group. -/
def GroupRow.fixed (g : GroupRow) : GroupRow := { g with memberCnt := 0, updated := 0 }

/-- Those of a member. -/
def RelationRow.fixed (r : RelationRow) : RelationRow := { r with status := 0, updated := 0 }

/-- The rows of `w` are those of `w'`, up to columns that change, and `w'` may have more of them after
    these.  (But nothing is said of the files: a task id that is not plain may be any statement.) -/
structure Grows (w w' : World) : Prop where
  users : w'.db.imUsers = w.db.imUsers
  departments : w'.db.imDepartment = w.db.imDepartment
  messages : w.db.imMessage <+: w'.db.imMessage
  contacts : w.db.imRecentContact.map ContactRow.fixed <+: w'.db.imRecentContact.map ContactRow.fixed
  groups : w.db.groups.imGroup.map GroupRow.fixed <+: w'.db.groups.imGroup.map GroupRow.fixed
  relations : w.db.groups.imGroupRelation.map RelationRow.fixed <+:
    w'.db.groups.imGroupRelation.map RelationRow.fixed

theorem Grows.refl (w : World) : Grows w w := by
  refine ⟨rfl, rfl, ?_, ?_, ?_, ?_⟩ <;> exact List.prefix_refl _

theorem Grows.trans {w w' w'' : World} (h : Grows w w') (h' : Grows w' w'') : Grows w w'' where
  users := h'.users.trans h.users
  departments := h'.departments.trans h.departments
  messages := h.messages.trans h'.messages
  contacts := h.contacts.trans h'.contacts
  groups := h.groups.trans h'.groups
  relations := h.relations.trans h'.relations

namespace World

/-- Rows that are put after those that are there. -/
theorem grows_setMessages {w : World} {t : List MessageRow} (h : w.db.imMessage <+: t) :
    Grows w (w.setMessages t) := { Grows.refl w with messages := h }

theorem grows_setContacts {w : World} {t : List ContactRow}
    (h : w.db.imRecentContact.map ContactRow.fixed <+: t.map ContactRow.fixed) :
    Grows w (w.setContacts t) := { Grows.refl w with contacts := h }

theorem grows_setGroups {w : World} {t : GroupTables}
    (hg : w.db.groups.imGroup.map GroupRow.fixed <+: t.imGroup.map GroupRow.fixed)
    (hr : w.db.groups.imGroupRelation.map RelationRow.fixed <+: t.imGroupRelation.map RelationRow.fixed) :
    Grows w (w.setGroups t) := { Grows.refl w with groups := hg, relations := hr }

theorem grows_setFiles (w : World) (t : List FileRow) : Grows w (w.setFiles t) :=
  { Grows.refl w with }

theorem grows_setCache (w : World) (c : CacheManager) : Grows w (w.setCache c) :=
  { Grows.refl w with }

end World

theorem ContactStmt.Ok.grows {t t' : List ContactRow} {s : ContactStmt} {a : s.Answer}
    (h : s.Ok t a t') : t.map ContactRow.fixed <+: t'.map ContactRow.fixed := by
  cases s with
  | selectRecent | selectRelateId | selectRelation =>
    rw [h.1]
  | updateRemove | updateRestore =>
    obtain ⟨n, ⟨m, htouch, -⟩, -⟩ := h
    rw [htouch.map_eq (g := ContactRow.fixed) fun r => rfl]
  | insertContacts rows =>
    obtain ⟨keys, hinserts, -⟩ := h
    exact hinserts.map_prefix _

theorem MessageStmt.Ok.grows {t t' : List MessageRow} {s : MessageStmt} {a : s.Answer}
    (h : s.Ok t a t') : t <+: t' := by
  cases s with
  | selectMessages => rw [h.1]
  | insertMessage values =>
    obtain ⟨keys, ⟨-, -, -, rfl⟩, -⟩ := h
    exact List.prefix_append _ _

theorem GroupStmt.Ok.grows {t t' : GroupTables} {s : GroupStmt} {a : s.Answer} (h : s.Ok t a t') :
    t.imGroup.map GroupRow.fixed <+: t'.imGroup.map GroupRow.fixed ∧
      t.imGroupRelation.map RelationRow.fixed <+: t'.imGroupRelation.map RelationRow.fixed := by
  cases s with
  | selectGroupsOf | selectGroupIdsOf | selectMembersIn | selectMembers | selectGroup
  | selectRecentGroups | selectStatuses =>
    rw [h.1]
    exact ⟨List.prefix_refl _, List.prefix_refl _⟩
  | insertGroup values =>
    obtain ⟨key, hinserts, hrelations, -⟩ := h
    rw [hrelations]
    exact ⟨hinserts.map_prefix _, List.prefix_refl _⟩
  | insertRelations rows =>
    obtain ⟨hgroups, keys, hinserts, -⟩ := h
    rw [hgroups]
    exact ⟨List.prefix_refl _, hinserts.map_prefix _⟩
  | updateActivate | updateDeactivate =>
    obtain ⟨hgroups, hrelations, -⟩ := h
    rw [hgroups, hrelations, Table.map_updateAll (g := RelationRow.fixed)]
    · exact ⟨List.prefix_refl _, List.prefix_refl _⟩
    · intro r
      rfl
  | updateMemberCntAdd | updateMemberCntSub =>
    obtain ⟨hrelations, k, ⟨m, htouch, -⟩, -⟩ := h
    rw [hrelations, htouch.map_eq (g := GroupRow.fixed) fun r => rfl]
    exact ⟨List.prefix_refl _, List.prefix_refl _⟩

/-- **Nothing is lost.**  No command, with any outcome, takes a row away or changes these columns. -/
theorem Step.grows {w w' : World} {c : Cmd} {a : c.Answer} (h : Step w c a w') : Grows w w' := by
  rcases h with hok | hfail
  · cases c with
    | nowMSTime | sendSessionData =>
      obtain rfl : w' = w := hok
      exact Grows.refl _
    | user | department =>
      obtain ⟨-, rfl⟩ := hok
      exact Grows.refl _
    | contact s =>
      obtain ⟨t, ht, rfl⟩ := hok
      exact World.grows_setContacts ht.grows
    | message s =>
      obtain ⟨t, ht, rfl⟩ := hok
      exact World.grows_setMessages ht.grows
    | group s =>
      obtain ⟨t, ht, rfl⟩ := hok
      exact World.grows_setGroups ht.grows.1 ht.grows.2
    | file s =>
      obtain ⟨t, -, rfl⟩ := hok
      exact World.grows_setFiles _ _
    | counter op =>
      obtain ⟨-, rfl⟩ := hok
      exact World.grows_setCache _ _
  · cases c with
    | nowMSTime | counter | sendSessionData => exact absurd hfail id
    | user | department | contact | message | group | file =>
      obtain ⟨-, rfl⟩ := hfail
      exact Grows.refl _

/-! ## The policy -/

/-- The query for the id of two users. -/
def relateIdOf (a b : UInt32) : Cmd :=
  .contact (.selectRelateId (percentD (if a > b then b else a)) (percentD (if a > b then a else b)))

/-- What a request may read. -/
inductive Reads : Message → Cmd → Prop
  /-- Every request may read the clock. -/
  | clock {message : Message} : Reads message .nowMSTime
  /-- Who logs in is looked up by his name; nobody else reads a password. -/
  | password {m : Pdu ValidateRequest} :
      Reads ⟨.validateRequest, m⟩ (.user (.selectPwd (cStr m.body.userName)))
  | himself {m : Pdu ValidateRequest} :
      Reads ⟨.validateRequest, m⟩ (.user (.selectByName (cStr m.body.userName)))
  | usersInfo {m : Pdu UsersInfoRequest} :
      Reads ⟨.usersInfoRequest, m⟩ (.user (.selectByIds (m.body.userIdList.map uintToString)))
  | allUsers {m : Pdu AllUserRequest} : Reads ⟨.allUserRequest, m⟩ (.user .selectAll)
  | departments {m : Pdu DepartmentRequest} {s : DepartmentStmt} :
      Reads ⟨.departmentRequest, m⟩ (.department s)
  /-- A user's own contacts. -/
  | contacts {m : Pdu FriendListRequest} :
      Reads ⟨.friendListRequest, m⟩ (.contact (.selectRecent (percentD m.body.userId)))
  /-- The contacts of the two users of a text. -/
  | relation {m : Pdu MsgData} : Reads ⟨.msgData, m⟩ (.contact (.selectRelation
      (addParam m.body.fromUserId) (addParam m.body.toUserId) (addParam m.body.fromUserId)
      (addParam m.body.toUserId)))
  | relateId {m : Pdu MsgData} : Reads ⟨.msgData, m⟩ (relateIdOf m.body.fromUserId m.body.toUserId)
  /-- The messages of the two that are asked for. -/
  | messagesId {m : Pdu UnreadMsgRequest} :
      Reads ⟨.unreadMsgRequest, m⟩ (relateIdOf m.body.fromUserId m.body.toUserId)
  | messages {m : Pdu UnreadMsgRequest} {relateId offset count : Int} :
      Reads ⟨.unreadMsgRequest, m⟩ (.message (.selectMessages relateId (percentD m.body.fromUserId)
        (percentD m.body.toUserId) offset count))
  | count {m : Pdu UnreadMsgRequest} : Reads ⟨.unreadMsgRequest, m⟩ (.counter
      (.getUserFriendUnreadCount m.body.fromUserId m.body.toUserId m.body.clientType))
  | counts {m : Pdu UnreadMsgCountRequest} {counter : Counter} :
      Reads ⟨.unreadMsgCountRequest, m⟩ (.counter (.getUnreadMsgCount m.body.userId m.body.clientType counter))
  /-- The groups of a user, and who is in them. -/
  | groups {m : Pdu GroupListRequest} {isFixedGroup : Bool} {limit : Nat} :
      Reads ⟨.groupListRequest, m⟩ (.group (.selectGroupsOf (percentD m.body.userId) isFixedGroup limit))
  | groupsMembers {m : Pdu GroupListRequest} {ids : List Int} :
      Reads ⟨.groupListRequest, m⟩ (.group (.selectMembersIn ids))
  | recentGroups {m : Pdu GroupDialogListRequest} :
      Reads ⟨.groupDialogListRequest, m⟩ (.group (.selectRecentGroups (percentD m.body.userId)))
  | recentMembers {m : Pdu GroupDialogListRequest} {ids : List Int} :
      Reads ⟨.groupDialogListRequest, m⟩ (.group (.selectMembersIn ids))
  /-- Any group, by its id. -/
  | group {m : Pdu GroupUserListRequest} :
      Reads ⟨.groupUserListRequest, m⟩ (.group (.selectGroup (percentD m.body.groupId)))
  | members {m : Pdu GroupUserListRequest} :
      Reads ⟨.groupUserListRequest, m⟩ (.group (.selectMembers (percentD m.body.groupId)))
  | groupToRemove {m : Pdu RemoveSessionRequest} :
      Reads ⟨.removeSessionRequest, m⟩ (.group (.selectGroup (percentD m.body.sessionId)))
  | groupToChange {m : Pdu GroupChangeMemberRequest} :
      Reads ⟨.groupChangeMemberRequest, m⟩ (.group (.selectGroup (percentD m.body.groupId)))
  /-- Which of the listed users are members. -/
  | statusesToChange {m : Pdu GroupChangeMemberRequest} : Reads ⟨.groupChangeMemberRequest, m⟩
      (.group (.selectStatuses (percentD m.body.groupId) (m.body.userList.map uintToString)))
  | statusesOfNew {m : Pdu GroupCreateTmpGroupRequest} {groupId : UInt32} :
      Reads ⟨.groupCreateTmpGroupRequest, m⟩
        (.group (.selectStatuses (percentD groupId) (m.body.userList.map uintToString)))
  /-- A user's own counts of his groups. -/
  | groupIds {m : Pdu GroupUnreadMsgCountRequest} {isFixedGroup : Bool} {limit : Nat} :
      Reads ⟨.groupUnreadMsgCountRequest, m⟩
        (.group (.selectGroupIdsOf (percentD m.body.reqUserId) isFixedGroup limit))
  | groupCounts {m : Pdu GroupUnreadMsgCountRequest} {ids : List UInt32} {unreads : Map UInt32} :
      Reads ⟨.groupUnreadMsgCountRequest, m⟩
        (.counter (.getUserGroupUnreadCount m.body.reqUserId ids m.body.clientType unreads))
  | groupCount {m : Pdu GroupUnreadMsgRequest} {item : GroupCounterItem} :
      Reads ⟨.groupUnreadMsgRequest, m⟩
        (.counter (.getUserGroupCount m.body.reqUserId m.body.groupId m.body.clientType item))
  /-- The files for a user, and the file of a task. -/
  | files {m : Pdu FileHasOfflineReq} {t : Int} :
      Reads ⟨.fileHasOfflineReq, m⟩ (.file (.selectUserFiles (percentD m.body.userId) t))
  | file {m : Pdu FileDelOfflineReq} :
      Reads ⟨.fileDelOfflineReq, m⟩ (.file (.selectFile (cStr m.body.taskId)))

/-- The class that answers a request. -/
def PduName.answer : PduName → PduName
  | validateRequest => validateResponse
  | friendListRequest => friendListResponse
  | removeSessionRequest => removeSessionResponse
  | departmentRequest => departmentResponse
  | usersInfoRequest => usersInfoResponse
  | allUserRequest => allUserResponse
  | unreadMsgCountRequest => unreadMsgCountResponse
  | unreadMsgRequest => msgListResponse
  | groupListRequest => groupListResponse
  | groupUserListRequest => groupUserListResponse
  | groupUnreadMsgCountRequest => groupUnreadMsgCountResponse
  | groupUnreadMsgRequest => groupMsgListResponse
  | groupCreateTmpGroupRequest => groupCreateTmpGroupResponse
  | groupChangeMemberRequest => groupChangeMemberResponse
  | groupDialogListRequest => groupDialogListResponse
  | fileHasOfflineReq => fileHasOfflineRes
  | _ => dbWriteResponse

/-- A text to one user. -/
structure MsgData.IsText (m : MsgData) : Prop where
  valid : m.isInvalid = false
  type : m.msgType = messageTypeIm

/-- The contact is one of `a` and `b`, from the side of either. -/
def ContactRow.isBetween (a b : UInt32) (r : ContactRow) : Prop :=
  (r.userId = addParam a ∧ r.friendUserId = addParam b) ∨
    (r.userId = addParam b ∧ r.friendUserId = addParam a)

namespace World

/-- There is a group of this id. -/
def HasGroup (w : World) (groupId : UInt32) : Prop :=
  ∃ g ∈ w.db.groups.imGroup, g.groupId = percentD groupId ∧ 1 ≤ g.status

/-- And it is one of this user's. -/
def IsCreator (w : World) (userId groupId : UInt32) : Prop :=
  ∃ g ∈ w.db.groups.imGroup, g.groupId = percentD groupId ∧ getColumn g.createUserId = userId

/-- A group that this user has made has this id — or none, if it has the id that stands for a failure. -/
def HasMade (w : World) (userId groupId : UInt32) : Prop :=
  groupId = 0xFFFFFFFF ∨ ∃ g ∈ w.db.groups.imGroup, (UInt64.ofInt g.groupId).toUInt32 = groupId ∧
    g.createUserId = addParam userId

end World

/-- The statement makes listed users members of the group, and writes nothing else but their number. -/
def GroupStmt.Fills (groupId : UInt32) (userIds : List UInt32) : GroupStmt → Prop
  | .insertRelations rows => ∀ r ∈ rows, r.groupId = percentD groupId ∧ ∃ u ∈ userIds, r.userId = percentD u
  | .updateActivate g ids => g = percentD groupId ∧ ∀ id ∈ ids, ∃ u ∈ userIds, id = uintToString u
  | .updateMemberCntAdd n g => g = percentD groupId
  | _ => False

/-- It takes listed users out of the group. -/
def GroupStmt.Empties (groupId : UInt32) (userIds : List UInt32) : GroupStmt → Prop
  | .updateDeactivate now g ids => g = percentD groupId ∧ ∀ id ∈ ids, ∃ u ∈ userIds, id = uintToString u
  | .updateMemberCntSub n now g => g = percentD groupId
  | _ => False

/-- **The policy.**  `May σ message w c`: command `c` may be issued in `w` for the request `message` of
    the session `σ`. -/
inductive May (sessionId : UInt64) : Message → World → Cmd → Prop
  /-- A request may read what is for it. -/
  | read {message : Message} {w : World} {c : Cmd} : Reads message c → May sessionId message w c
  /-- It may be answered, to its session, by a message of the class that answers it. -/
  | reply {n : PduName} {m : Pdu n.Body} {w : World} {r : Message} :
      r.1 = n.answer → r.2.reserved = m.reserved → May sessionId ⟨n, m⟩ w (.sendSessionData sessionId r)
  /-- A contact is hidden for its user alone. -/
  | hideContact {m : Pdu RemoveSessionRequest} {w : World} :
      m.body.sessionType = 1 → May sessionId ⟨.removeSessionRequest, m⟩ w
        (.contact (.updateRemove (percentD m.body.reqUserId) (percentD m.body.sessionId)))
  /-- A text brings back the contacts of its two users. -/
  | showContacts {m : Pdu MsgData} {w : World} {relateIds : List Int} :
      m.body.IsText → (∀ id ∈ relateIds, ∃ r ∈ w.db.imRecentContact,
        r.isBetween m.body.fromUserId m.body.toUserId ∧ id = uintToString (getColumn r.relateId)) →
      May sessionId ⟨.msgData, m⟩ w (.contact (.updateRestore relateIds))
  /-- Or makes them. -/
  | makeContacts {m : Pdu MsgData} {w : World} {rows : List ContactValues} :
      m.body.IsText → (∀ v ∈ rows, ∀ id, (v.row id).isBetween m.body.fromUserId m.body.toUserId) →
      May sessionId ⟨.msgData, m⟩ w (.contact (.insertContacts rows))
  /-- It is stored as what it is. -/
  | storeMessage {m : Pdu MsgData} {w : World} {relateId ctime : UInt32} :
      m.body.IsText → May sessionId ⟨.msgData, m⟩ w
        (.message (.insertMessage (ZAresMessageManagerImpl.messageValues relateId m.body.fromUserId
          m.body.toUserId m.body.msgType.toUInt32 m.body.msgData ctime)))
  /-- It is counted. -/
  | countMessage {m : Pdu MsgData} {w : World} : m.body.IsText → May sessionId ⟨.msgData, m⟩ w
      (.counter (.incrUserMsgCount m.body.fromUserId m.body.toUserId))
  | countUnread {m : Pdu MsgData} {w : World} : m.body.IsText → May sessionId ⟨.msgData, m⟩ w
      (.counter (.increaseUserUnreadMsgCount m.body.fromUserId m.body.toUserId))
  /-- A reader clears his own counts. -/
  | clearUnread {m : Pdu MsgReadAck} {w : World} : May sessionId ⟨.msgReadAck, m⟩ w
      (.counter (.clearUserUnreadItemCount m.body.fromUserId m.body.toUserId m.body.clientType))
  | clearGroup {m : Pdu GroupMsgReadAck} {w : World} : May sessionId ⟨.groupMsgReadAck, m⟩ w
      (.counter (.clearUserGroupCounter m.body.reqUserId m.body.groupId m.body.clientType))
  /-- A group belongs to the user that makes it. -/
  | makeGroup {m : Pdu GroupCreateTmpGroupRequest} {w : World} {now : UInt32} :
      m.body.reqUserId ≠ 0 → m.body.groupName ≠ [] → May sessionId ⟨.groupCreateTmpGroupRequest, m⟩ w
        (.group (.insertGroup
          { groupName := cStr m.body.groupName
            avatar := cStr m.body.groupAvatar
            adesc := cStr []
            createUserId := addParam m.body.reqUserId
            groupType := addParam 2
            memberCnt := 0
            created := addParam now
            updated := addParam now }))
  /-- And has the members that he lists. -/
  | fillNew {m : Pdu GroupCreateTmpGroupRequest} {w : World} {groupId : UInt32} {s : GroupStmt} :
      w.HasMade m.body.reqUserId groupId → s.Fills groupId m.body.userList →
      May sessionId ⟨.groupCreateTmpGroupRequest, m⟩ w (.group s)
  /-- Anyone may add members to a group. -/
  | addMembers {m : Pdu GroupChangeMemberRequest} {w : World} {s : GroupStmt} :
      m.body.changeType = 0 → w.HasGroup m.body.groupId → s.Fills m.body.groupId m.body.userList →
      May sessionId ⟨.groupChangeMemberRequest, m⟩ w (.group s)
  /-- Who made it may remove them. -/
  | removeMembers {m : Pdu GroupChangeMemberRequest} {w : World} {s : GroupStmt} :
      m.body.changeType ≠ 0 → w.IsCreator m.body.reqUserId m.body.groupId →
      s.Empties m.body.groupId m.body.userList →
      May sessionId ⟨.groupChangeMemberRequest, m⟩ w (.group s)
  /-- The statement that would save a file is none. -/
  | saveFile {m : Pdu FileAddOfflineReq} {w : World} :
      May sessionId ⟨.fileAddOfflineReq, m⟩ w (.file (.insertFile none))
  /-- A file is deleted by its task. -/
  | deleteFile {m : Pdu FileDelOfflineReq} {w : World} {now : Int} :
      May sessionId ⟨.fileDelOfflineReq, m⟩ w (.file (.updateDeleted now (cStr m.body.taskId)))

/-! ### Strings that are no statements -/

/-- The strings in the command's text are literals for themselves. -/
def Cmd.isPlain : Cmd → Bool
  | .user (.selectPwd name) | .user (.selectByName name) => Zattd.isPlain name
  | .file (.selectFile taskId) | .file (.updateDeleted _ taskId) => Zattd.isPlain taskId
  | _ => true

/-- The name of a login, and the task of a file that is to be deleted, are literals for themselves.  A
    string that is not can make any query of the statement it is put into, on any table. -/
def Message.IsPlain : Message → Prop
  | ⟨.validateRequest, m⟩ => isPlain (cStr m.body.userName) = true
  | ⟨.fileDelOfflineReq, m⟩ => isPlain (cStr m.body.taskId) = true
  | _ => True

/-- No other string of a request gets into a text. -/
theorem May.isPlain {sessionId : UInt64} {message : Message} {w : World} {c : Cmd}
    (h : May sessionId message w c) (hplain : message.IsPlain) : c.isPlain = true := by
  cases h with
  | read hread =>
    cases hread with
    | password | himself | file => exact hplain
    | _ => rfl
  | deleteFile => exact hplain
  | _ => rfl

/-- A program that keeps the policy, whatever it is answered and whatever others do. -/
abbrev Permitted {α : Type} (sessionId : UInt64) (message : Message) (p : Server α) : Prop :=
  Obeys Step Grows (May sessionId message) p

/-! ## Reading -/

section Reading

variable {sessionId : UInt64} {message : Message}

open ZAresLoginManagerImpl ZAresUserManagerImpl ZAresDepartmentManagerImpl ZAresGroupManagerImpl
  ZAresRelationshipManagerImpl ZAresMessageManagerImpl ZAresFileManagerImpl

/-- A command that reads, and what follows it. -/
theorem Permitted.reads {α : Type} {c : Cmd} {f : c.Answer → Server α} (hc : Reads message c)
    (hf : ∀ a, Permitted sessionId message (f a)) : Permitted sessionId message (issue c >>= f) :=
  Obeys.then (fun w => .read hc) hf

theorem auth_permitted {u : Bytes} (h : Reads message (.user (.selectPwd (cStr u)))) (p : Bytes) :
    Permitted sessionId message (auth u p) := by
  unfold auth
  refine Permitted.reads h fun answ => ?_
  split <;> exact Obeys.pure _

theorem getDepartmentInfos_permitted (h : Reads message (.department .selectAll)) (l : List DepartmentInfo) :
    Permitted sessionId message (getDepartmentInfos l) := by
  unfold getDepartmentInfos
  refine Permitted.reads h fun answ => ?_
  split <;> exact Obeys.pure _

theorem getUserInfos_permitted {ids : List UInt32}
    (h : Reads message (.user (.selectByIds (ids.map uintToString)))) (l : List UserInfo) :
    Permitted sessionId message (getUserInfos ids l) := by
  unfold getUserInfos
  refine Obeys.ite (fun _ => Obeys.pure _) fun _ => Permitted.reads h fun answ => ?_
  split <;> exact Obeys.pure _

theorem getUserInfo_permitted {u : Bytes} (h : Reads message (.user (.selectByName (cStr u))))
    (info : UserInfo) :
    Permitted sessionId message (getUserInfo u info) := by
  unfold getUserInfo
  refine Obeys.ite (fun _ => Obeys.pure _) fun _ => Permitted.reads h fun answ => ?_
  split <;> exact Obeys.pure _

theorem getAllUserInfo_permitted (h : Reads message (.user .selectAll)) (l : List UserInfo) :
    Permitted sessionId message (getAllUserInfo l) := by
  unfold getAllUserInfo
  refine Permitted.reads h fun answ => ?_
  split <;> exact Obeys.pure _

theorem getGroupsByUserId_permitted {u : UInt32} {b : Bool}
    (h : ∀ limit, Reads message (.group (.selectGroupsOf (percentD u) b limit))) (l : List GroupInfo) :
    Permitted sessionId message (getGroupsByUserId u b l) := by
  unfold getGroupsByUserId
  exact Obeys.ite (fun _ => Obeys.pure _) fun _ => Permitted.reads (h _) fun answ => Obeys.pure _

theorem getGroupIdsByUserId_permitted {u : UInt32} {b : Bool}
    (h : ∀ limit, Reads message (.group (.selectGroupIdsOf (percentD u) b limit))) (l : List UInt32) :
    Permitted sessionId message (getGroupIdsByUserId u b l) := by
  unfold getGroupIdsByUserId
  exact Obeys.ite (fun _ => Obeys.pure _) fun _ => Permitted.reads (h _) fun answ => Obeys.pure _

theorem getGroupMembersIn_permitted {ids : List UInt32}
    (h : Reads message (.group (.selectMembersIn (ids.map uintToString))))
    (m : Map (List GroupRelationInfo)) :
    Permitted sessionId message (getGroupMembersIn ids m) := by
  unfold getGroupMembersIn
  exact Obeys.ite (fun _ => Obeys.pure _) fun _ => Permitted.reads h fun answ => Obeys.pure _

theorem getGroupMembers_permitted {g : UInt32} (h : Reads message (.group (.selectMembers (percentD g))))
    (l : List GroupRelationInfo) :
    Permitted sessionId message (getGroupMembers g l) := by
  unfold getGroupMembers
  exact Obeys.ite (fun _ => Obeys.pure _) fun _ => Permitted.reads h fun answ => Obeys.pure _

theorem getGroupInfo_permitted {g : UInt32} (h : Reads message (.group (.selectGroup (percentD g))))
    (info : GroupInfo) :
    Permitted sessionId message (getGroupInfo g info) := by
  unfold getGroupInfo
  refine Obeys.ite (fun _ => Obeys.pure _) fun _ => Permitted.reads h fun answ => ?_
  split <;> exact Obeys.pure _

theorem getRecentGroupsByUserId_permitted {u : UInt32}
    (h : Reads message (.group (.selectRecentGroups (percentD u)))) (l : List GroupInfo) :
    Permitted sessionId message (getRecentGroupsByUserId u l) := by
  unfold getRecentGroupsByUserId
  exact Obeys.ite (fun _ => Obeys.pure _) fun _ => Permitted.reads h fun answ => Obeys.pure _

theorem getRecentContactByUserId_permitted {u : UInt32}
    (h : Reads message (.contact (.selectRecent (percentD u)))) (n : Int) (l : List FriendInfo) :
    Permitted sessionId message (getRecentContactByUserId u n l) := by
  unfold getRecentContactByUserId
  refine Obeys.ite (fun _ => Obeys.pure _) fun _ => Permitted.reads h fun answ => ?_
  split <;> exact Obeys.pure _

theorem getRelateId_permitted {a b : UInt32} (h : Reads message (relateIdOf a b)) :
    Permitted sessionId message (getRelateId a b) := by
  unfold getRelateId
  refine Obeys.ite (fun _ => Obeys.pure _) fun _ => Permitted.reads h fun answ => ?_
  split <;> exact Obeys.pure _

theorem getMessages_permitted {f t : UInt32} (hid : Reads message (relateIdOf f t))
    (h : ∀ relateId offset count, Reads message
      (.message (.selectMessages relateId (percentD f) (percentD t) offset count)))
    (offset : UInt32) (n : Int) (l : List ServerMsg) :
    Permitted sessionId message (getMessages f t offset n l) := by
  unfold getMessages
  refine Obeys.bind (getRelateId_permitted hid) fun relateId => ?_
  exact Obeys.ite (fun _ => Obeys.pure _) fun _ => Permitted.reads (h _ _ _) fun answ => Obeys.pure _

theorem getUserFiles_permitted {u : UInt32}
    (h : ∀ t, Reads message (.file (.selectUserFiles (percentD u) t))) (l : List OfflineFile) :
    Permitted sessionId message (getUserFiles u l) := by
  unfold getUserFiles
  refine Obeys.ite (fun _ => Obeys.pure _) fun _ => Permitted.reads .clock fun t =>
    Permitted.reads (h _) fun answ => ?_
  split <;> exact Obeys.pure _

theorem getFileRecord_permitted {taskId : Bytes} (h : Reads message (.file (.selectFile (cStr taskId))))
    (file : TransmitFile) :
    Permitted sessionId message (getFileRecord taskId file) := by
  unfold getFileRecord
  refine Obeys.ite (fun _ => Obeys.pure _) fun _ => Permitted.reads h fun answ => ?_
  split <;> exact Obeys.pure _

end Reading

/-! ## Writing -/

section Contacts

open ZAresRelationshipManagerImpl ZAresMessageManagerImpl

variable {sessionId : UInt64} {m : Pdu MsgData}

theorem ContactRow.isBetween_comm {a b : UInt32} {r : ContactRow} (h : r.isBetween a b) :
    r.isBetween b a := Or.symm h

theorem isBetween_of_mem_friendshipRows {a b ctime : UInt32} {v : ContactValues}
    (h : v ∈ friendshipRows a b ctime) (id : Int) : (v.row id).isBetween a b := by
  unfold friendshipRows at h
  split at h
  · rcases List.mem_cons.mp h with rfl | h
    · exact Or.inl ⟨rfl, rfl⟩
    · obtain rfl := List.mem_singleton.mp h
      exact Or.inr ⟨rfl, rfl⟩
  · obtain rfl := List.mem_singleton.mp h
    exact Or.inl ⟨rfl, rfl⟩

/-- What the query for the two users finds is between them. -/
theorem isBetween_of_selectRelation {a b : UInt32} {w w' : World} {answ : Option (List ContactRow)}
    (h : Step w (.contact (.selectRelation (addParam a) (addParam b) (addParam a) (addParam b))) answ w')
    {r : ContactRow} (hr : r ∈ answ.getD []) : r ∈ w.db.imRecentContact ∧ r.isBetween a b := by
  rcases h with ⟨t, ⟨-, rows, hrows, rfl⟩, -⟩ | ⟨hfail, -⟩
  · obtain ⟨hmem, hp⟩ := hrows.mem hr
    rw [Bool.or_self, ContactRow.isOf_iff] at hp
    exact ⟨hmem, Or.inl hp⟩
  · obtain rfl : answ = none := hfail
    cases hr

theorem checkAndUpdateRelation_permitted (h : m.body.IsText) :
    Permitted sessionId ⟨.msgData, m⟩
      (checkAndUpdateRelation m.body.fromUserId m.body.toUserId) := by
  unfold checkAndUpdateRelation
  refine Obeys.ite (fun _ => Obeys.pure _) fun _ w => ?_
  refine Respects.then fun w₁ _ => ⟨.read .relation, fun answ w₂ hanswer => ?_⟩
  refine Respects.ite (fun _ => trivial) fun _ => ?_
  -- the rows found are still there when they are brought back
  refine Respects.then fun w₃ hgrows => ⟨.showContacts h fun id hid => ?_, fun n w₄ _ => trivial⟩
  obtain ⟨r, hr, rfl⟩ := List.mem_map.mp hid
  obtain ⟨hmem, hbetween⟩ := isBetween_of_selectRelation hanswer (List.mem_of_mem_filter hr)
  obtain ⟨r₃, hr₃, hsame⟩ := Table.exists_of_prefix
    ((hanswer.grows.trans hgrows).contacts) hmem
  obtain ⟨hid, huser, hfriend⟩ : r₃.relateId = r.relateId ∧ r₃.userId = r.userId ∧
      r₃.friendUserId = r.friendUserId :=
    ⟨congrArg (·.relateId) hsame, congrArg (·.userId) hsame, congrArg (·.friendUserId) hsame⟩
  refine ⟨r₃, hr₃, ?_, by rw [hid]⟩
  unfold ContactRow.isBetween at hbetween ⊢
  rw [huser, hfriend]
  exact hbetween

theorem addFriendship_permitted (h : m.body.IsText) :
    Permitted sessionId ⟨.msgData, m⟩ (addFriendship m.body.fromUserId m.body.toUserId) := by
  unfold addFriendship
  refine Obeys.ite (fun _ => Obeys.pure _) fun _ => ?_
  refine Obeys.bind (getRelateId_permitted .relateId) fun relateId => ?_
  refine Obeys.ite (fun _ => Obeys.pure _) fun _ => Permitted.reads .clock fun ctime => ?_
  refine Obeys.then (fun w => .makeContacts h fun v hv id => ?_) fun id => Obeys.pure _
  have hbetween := isBetween_of_mem_friendshipRows hv id
  by_cases hgt : m.body.fromUserId > m.body.toUserId
  · rw [if_pos hgt, if_pos hgt] at hbetween
    exact ContactRow.isBetween_comm hbetween
  · rw [if_neg hgt, if_neg hgt] at hbetween
    exact hbetween

theorem sendIMMessage_permitted (h : m.body.IsText) (time : UInt32) :
    Permitted sessionId ⟨.msgData, m⟩ (sendIMMessage m.body.fromUserId m.body.toUserId
      m.body.msgType.toUInt32 m.body.msgData time) := by
  unfold sendIMMessage
  refine Obeys.ite (fun _ => Obeys.pure _) fun _ => ?_
  refine Obeys.bind (checkAndUpdateRelation_permitted h) fun _ => ?_
  refine Obeys.bind (getRelateId_permitted .relateId) fun found => ?_
  refine Obeys.bind (Obeys.ite (fun _ => addFriendship_permitted h) fun _ => Obeys.pure _)
    fun relateId => ?_
  refine Permitted.reads .clock fun ctime => ?_
  refine Obeys.then (fun w => .storeMessage h) fun n => Obeys.ite (fun _ => ?_) fun _ => Obeys.pure _
  refine Obeys.bind ?_ fun _ => Obeys.pure _
  exact Obeys.then (fun w => .countMessage h) fun _ => obeys_issue fun w => .countUnread h

theorem sendMsgData_permitted (m : Pdu MsgData) :
    Permitted sessionId ⟨.msgData, m⟩ (sendMsgData zAresModelModule m.body) := by
  unfold sendMsgData
  refine Obeys.ite (fun _ => Obeys.pure _) fun hvalid => ?_
  refine Obeys.ite (fun htype => ?_) fun _ => ?_
  · exact sendIMMessage_permitted ⟨Bool.eq_false_iff.mpr hvalid, htype⟩ m.body.createTime
  · refine Obeys.ite (fun _ => Obeys.pure _) fun _ => ?_
    exact Obeys.ite (fun _ => Obeys.pure _) fun _ => Obeys.pure _

theorem removeSession_permitted (mem : Memory) (m : Pdu RemoveSessionRequest) :
    Permitted sessionId ⟨.removeSessionRequest, m⟩ (removeSession zAresModelModule mem m.body) := by
  unfold removeSession
  refine Obeys.ite (fun _ => Obeys.pure _) fun _ => Obeys.ite (fun htype => ?_) fun _ => ?_
  · exact Obeys.then (fun w => .hideContact htype) fun n => Obeys.pure _
  · refine Obeys.bind (getGroupInfo_permitted .groupToRemove _) fun group => ?_
    split <;> exact Obeys.pure _

end Contacts

section Groups

open ZAresGroupManagerImpl

variable {sessionId : UInt64} {w w' : World} {userId groupId : UInt32}

namespace World

theorem HasGroup.grows (h : w.HasGroup groupId) (hgrows : Grows w w') : w'.HasGroup groupId := by
  obtain ⟨g, hg, hid, hstatus⟩ := h
  obtain ⟨g', hg', hsame⟩ := Table.exists_of_prefix hgrows.groups hg
  have hid' : g'.groupId = g.groupId := congrArg (·.groupId) hsame
  have hstatus' : g'.status = g.status := congrArg (·.status) hsame
  exact ⟨g', hg', hid'.trans hid, hstatus'.ge.trans' hstatus⟩

theorem IsCreator.grows (h : w.IsCreator userId groupId) (hgrows : Grows w w') :
    w'.IsCreator userId groupId := by
  obtain ⟨g, hg, hid, hcreator⟩ := h
  obtain ⟨g', hg', hsame⟩ := Table.exists_of_prefix hgrows.groups hg
  have hid' : g'.groupId = g.groupId := congrArg (·.groupId) hsame
  have hcreator' : g'.createUserId = g.createUserId := congrArg (·.createUserId) hsame
  exact ⟨g', hg', hid'.trans hid, by rw [hcreator', hcreator]⟩

theorem HasMade.grows (h : w.HasMade userId groupId) (hgrows : Grows w w') :
    w'.HasMade userId groupId := by
  rcases h with hfailed | ⟨g, hg, hid, hcreator⟩
  · exact Or.inl hfailed
  · obtain ⟨g', hg', hsame⟩ := Table.exists_of_prefix hgrows.groups hg
    have hid' : g'.groupId = g.groupId := congrArg (·.groupId) hsame
    have hcreator' : g'.createUserId = g.createUserId := congrArg (·.createUserId) hsame
    exact Or.inr ⟨g', hg', by rw [hid', hid], by rw [hcreator', hcreator]⟩

end World

/-- Reading, and statements on the groups that satisfy `p`. -/
def Cmd.isReadOr (message : Message) (p : GroupStmt → Prop) (c : Cmd) : Prop :=
  Reads message c ∨ ∃ s, c = .group s ∧ p s

/-- A program of these may run where they are permitted. -/
theorem Permitted.of_group {α : Type} {message : Message} {p : GroupStmt → Prop} {prog : Server α}
    {J : World → Prop} (h : Obeys Step Grows (fun _ => Cmd.isReadOr message p) prog)
    (hJ : ∀ w w', J w → Grows w w' → J w') (hmay : ∀ w s, J w → p s → May sessionId message w (.group s))
    (hw : J w) : Respects Step Grows (May sessionId message) (fun _ _ => True) prog w := by
  refine Obeys.within h hJ (fun _ _ _ _ hstep => hstep.grows) (fun w c hw hc => ?_) hw
  rcases hc with hread | ⟨s, rfl, hs⟩
  · exact .read hread
  · exact hmay w s hw hs

/-- A user that has been found is one of those listed. -/
theorem listed_of_mem_usersWithStatus {q : UInt32 → Bool} {g : Int} {us : List UInt32}
    {answ : Option (List RelationRow)}
    (h : Step w (.group (.selectStatuses g (us.map uintToString))) answ w') {id : Int}
    (hid : id ∈ usersWithStatus q (userStatuss answ)) : ∃ u ∈ us, id = uintToString u := by
  rcases h with ⟨t, ⟨-, rows, hrows, rfl⟩, -⟩ | ⟨hfail, -⟩
  · obtain ⟨r, hr, hid, -⟩ := (mem_usersWithStatus hrows q id).mp hid
    have hin := (hrows.2.1 r hr).2
    rw [RelationRow.isIn_iff] at hin
    obtain ⟨u, hu, huser⟩ := List.mem_map.mp hin.2
    exact ⟨u, hu, by rw [← hid, huser]⟩
  · obtain rfl : answ = none := hfail
    cases hid

theorem fills_newRelations (statuss : Map UInt32) (us : List UInt32) (g : UInt32) (info : GroupInfo)
    (now : UInt32) : (GroupStmt.insertRelations (newRelations statuss us g info now)).Fills g us := by
  intro r hr
  obtain ⟨u, hu, rfl⟩ := List.mem_map.mp hr
  exact ⟨rfl, u, List.mem_of_mem_filter hu, rfl⟩

/-- Who joins is listed. -/
theorem joinGroup_fills {us : List UInt32} {g : UInt32} (info : GroupInfo) {message : Message}
    (h : Reads message (.group (.selectStatuses (percentD g) (us.map uintToString)))) :
    Obeys Step Grows (fun _ => Cmd.isReadOr message (GroupStmt.Fills g us)) (joinGroup us g info) := by
  unfold joinGroup
  refine Obeys.ite (fun _ => Obeys.pure _) fun _ => Obeys.ite (fun _ => Obeys.pure _) fun _ => ?_
  refine Obeys.then (fun _ => Or.inl .clock) fun now w => ?_
  refine Respects.then fun w₁ _ => ⟨Or.inl h, fun answ w₂ hanswer => ?_⟩
  refine Respects.obeys (Q := fun _ _ => True) ?_ fun insertCount => ?_
  · refine Respects.ite (fun _ => trivial) fun _ => obeys_issue (fun _ => ?_) w₂
    exact Or.inr ⟨_, rfl, fills_newRelations _ us g info _⟩
  refine Obeys.bind ?_ fun updateCount => ?_
  · refine Obeys.ite (fun _ => Obeys.pure _) fun _ => obeys_issue fun _ => ?_
    exact Or.inr ⟨_, rfl, rfl, fun id hid => listed_of_mem_usersWithStatus hanswer hid⟩
  exact Obeys.then (fun _ => Or.inr ⟨_, rfl, rfl⟩) fun _ => Obeys.pure _

/-- Who leaves is listed too, and it is the creator who asks. -/
theorem quitGroup_empties (r : UInt32) {us : List UInt32} {g : UInt32} (info : GroupInfo)
    {message : Message} (h : Reads message (.group (.selectStatuses (percentD g) (us.map uintToString)))) :
    Obeys Step Grows (fun _ => Cmd.isReadOr message fun s => s.Empties g us ∧ r = info.groupCreatorId)
      (quitGroup r us g info) := by
  unfold quitGroup
  refine Obeys.ite (fun _ => Obeys.pure _) fun _ => Obeys.ite (fun _ => Obeys.pure _) fun hcheck => ?_
  have hcreator : r = info.groupCreatorId := by
    by_contra hne
    exact hcheck (Or.inl hne)
  refine Obeys.then (fun _ => Or.inl .clock) fun now w => ?_
  refine Respects.then fun w₁ _ => ⟨Or.inl h, fun answ w₂ hanswer => ?_⟩
  refine Respects.obeys (Q := fun _ _ => True) ?_ fun updateCount => ?_
  · refine Respects.ite (fun _ => trivial) fun _ => obeys_issue (fun _ => ?_) w₂
    exact Or.inr ⟨_, rfl, ⟨rfl, fun id hid => listed_of_mem_usersWithStatus hanswer hid⟩, hcreator⟩
  exact Obeys.then (fun _ => Or.inr ⟨_, rfl, rfl, hcreator⟩) fun _ => Obeys.pure _

/-- What is read of a group is so, and stays so. -/
theorem getGroupInfo_respects {message : Message} {g : UInt32}
    (h : Reads message (.group (.selectGroup (percentD g)))) (info : GroupInfo) :
    Respects Step Grows (May sessionId message) (fun found w' => ∀ group, found = some group →
      w'.HasGroup g ∧ w'.IsCreator group.groupCreatorId g) (getGroupInfo g info) w := by
  unfold getGroupInfo
  refine Respects.ite (fun _ => fun group hnone => by cases hnone) fun _ => ?_
  refine Respects.then fun w₁ _ => ⟨.read h, fun answ w₂ hanswer => ?_⟩
  split
  · rename_i row rows
    intro group hgroup
    obtain rfl := Option.some.inj hgroup
    rcases hanswer with ⟨t, ⟨rfl, found, hfound, hrows⟩, rfl⟩ | ⟨hfail, -⟩
    · obtain rfl := Option.some.inj hrows
      obtain ⟨hmem, hp⟩ := (hfound.mem_iff row).mp (List.mem_cons_self ..)
      obtain ⟨hid, hstatus⟩ := of_decide_eq_true hp
      exact ⟨⟨row, hmem, hid, hstatus⟩, row, hmem, hid, rfl⟩
    · cases hfail
  · intro group hgroup
    cases hgroup
  · intro group hgroup
    cases hgroup

theorem changeMember_permitted (mem : Memory) (m : Pdu GroupChangeMemberRequest) :
    Permitted sessionId ⟨.groupChangeMemberRequest, m⟩ (changeMember zAresModelModule mem m.body) := by
  unfold changeMember
  refine Obeys.ite (fun htype w => ?_) fun htype w => ?_
  · refine Respects.bind ((getGroupInfo_respects .groupToChange _).mono fun found w₁ hfound => ?_)
    cases found with
    | none => trivial
    | some group =>
      obtain ⟨hgroup, -⟩ := hfound group rfl
      refine Respects.obeys (Q := fun _ _ => True) ?_ fun _ => Obeys.pure _
      exact Permitted.of_group (joinGroup_fills group .statusesToChange) (fun _ _ h hg => h.grows hg)
        (fun w s h hs => .addMembers htype h hs) hgroup
  · refine Respects.bind ((getGroupInfo_respects .groupToChange _).mono fun found w₁ hfound => ?_)
    cases found with
    | none => trivial
    | some group =>
      obtain ⟨-, hcreator⟩ := hfound group rfl
      refine Respects.obeys (Q := fun _ _ => True) ?_ fun _ => Obeys.pure _
      exact Permitted.of_group (quitGroup_empties _ group .statusesToChange)
        (J := fun w => w.IsCreator group.groupCreatorId m.body.groupId) (fun _ _ h hg => h.grows hg)
        (fun w s h hs => .removeMembers htype (hs.2 ▸ h) hs.1) hcreator

/-- A group that has been made is there, and is its maker's. -/
theorem hasMade_of_insertGroup {values : GroupValues} {newGroupId : UInt64}
    (h : Step w (.group (.insertGroup values)) newGroupId w')
    (hcreator : values.createUserId = addParam userId) (hpos : newGroupId > 0) :
    w'.HasMade userId newGroupId.toUInt32 := by
  rcases h with ⟨t, ⟨key, ⟨-, -, -, hinsert⟩, -, rfl⟩, rfl⟩ | ⟨hfail, -⟩
  · refine Or.inr ⟨values.row key, ?_, rfl, hcreator⟩
    show values.row key ∈ t.imGroup
    rw [hinsert]
    simp
  · rcases hfail with rfl | rfl
    · exact absurd hpos (by decide)
    · exact Or.inl (by decide)

theorem createGroup_permitted (m : Pdu GroupCreateTmpGroupRequest) (info : GroupInfo) :
    Permitted sessionId ⟨.groupCreateTmpGroupRequest, m⟩ (createGroup m.body.reqUserId
      m.body.groupName 2 m.body.groupAvatar [] m.body.userList info) := by
  unfold createGroup
  refine Obeys.ite (fun _ => Obeys.pure _) fun hvalid => ?_
  obtain ⟨huser, hname, -⟩ : m.body.reqUserId ≠ 0 ∧ m.body.groupName ≠ [] ∧ ¬(2 : UInt32) = 0 := by
    push Not at hvalid
    exact hvalid
  refine Permitted.reads .clock fun updated => Permitted.reads .clock fun now w => ?_
  refine Respects.then fun w₁ _ => ⟨.makeGroup huser hname, fun newGroupId w₂ hinsert => ?_⟩
  refine Respects.ite (fun hpos => ?_) fun _ => trivial
  have hmade : w₂.HasMade m.body.reqUserId newGroupId.toUInt32 := hasMade_of_insertGroup hinsert rfl hpos
  refine Respects.then fun w₃ hgrows => ⟨.read .clock, fun again w₄ hstep => ?_⟩
  refine Respects.obeys (Q := fun _ _ => True) ?_ fun _ => Obeys.pure _
  exact Permitted.of_group (joinGroup_fills _ .statusesOfNew) (fun _ _ h hg => h.grows hg)
    (fun w s h hs => .fillNew h hs) ((hmade.grows hgrows).grows hstep.grows)

end Groups

section Files

open ZAresFileManagerImpl

variable {sessionId : UInt64}

theorem saveFileRecord_permitted (m : Pdu FileAddOfflineReq) :
    Permitted sessionId ⟨.fileAddOfflineReq, m⟩ (saveFileRecord m.body.fromId m.body.toId m.body.taskId
      m.body.fileName m.body.fileSize) := by
  unfold saveFileRecord
  refine Obeys.ite (fun _ => Obeys.pure _) fun _ => Permitted.reads .clock fun now => ?_
  exact Obeys.then (fun w => .saveFile) fun n => Obeys.pure _

theorem deleteFileRecord_permitted (m : Pdu FileDelOfflineReq) :
    Permitted sessionId ⟨.fileDelOfflineReq, m⟩ (deleteFileRecord m.body.taskId) := by
  unfold deleteFileRecord
  refine Obeys.ite (fun _ => Obeys.pure _) fun _ => Permitted.reads .clock fun now => ?_
  exact Obeys.then (fun w => .deleteFile) fun n => Obeys.pure _

end Files

/-! ## The handlers -/

section Handlers

variable {mem : Memory} {sessionId : UInt64}

/-- An answer. -/
theorem sendSessionData_permitted {n : PduName} {m : Pdu n.Body} {r : Pdu n.answer.Body}
    (h : r.reserved = m.reserved) :
    Permitted sessionId ⟨n, m⟩ (sendSessionData sessionId n.answer r) :=
  obeys_issue fun w => .reply rfl h

theorem validateRequestHandler_permitted (request : Pdu ValidateRequest) :
    Permitted sessionId ⟨.validateRequest, request⟩
      (validateRequestHandler zAresModelModule mem sessionId request) := by
  unfold validateRequestHandler
  refine Obeys.ite (fun _ => sendSessionData_permitted rfl) fun _ => ?_
  refine Obeys.bind (auth_permitted .password _) fun isAuthed => ?_
  refine Obeys.ite (fun _ => ?_) fun _ => sendSessionData_permitted rfl
  exact Obeys.bind (getUserInfo_permitted .himself _) fun found => sendSessionData_permitted rfl

theorem friendListRequestHandler_permitted (request : Pdu FriendListRequest) :
    Permitted sessionId ⟨.friendListRequest, request⟩
      (friendListRequestHandler zAresModelModule mem sessionId request) := by
  unfold friendListRequestHandler
  refine Obeys.ite (fun _ => ?_) fun _ => sendSessionData_permitted rfl
  exact Obeys.bind (getRecentContactByUserId_permitted .contacts 100 _) fun _ =>
    sendSessionData_permitted rfl

theorem removeSessionRequestHandler_permitted (request : Pdu RemoveSessionRequest) :
    Permitted sessionId ⟨.removeSessionRequest, request⟩
      (removeSessionRequestHandler zAresModelModule mem sessionId request) :=
  Obeys.bind (removeSession_permitted mem request) fun _ => sendSessionData_permitted rfl

theorem departmentRequestHandler_permitted (request : Pdu DepartmentRequest) :
    Permitted sessionId ⟨.departmentRequest, request⟩
      (departmentRequestHandler zAresModelModule mem sessionId request) :=
  Obeys.bind (getDepartmentInfos_permitted .departments _) fun _ => sendSessionData_permitted rfl

theorem usersInfoRequestHandler_permitted (request : Pdu UsersInfoRequest) :
    Permitted sessionId ⟨.usersInfoRequest, request⟩
      (usersInfoRequestHandler zAresModelModule mem sessionId request) := by
  unfold usersInfoRequestHandler
  refine Obeys.ite (fun _ => sendSessionData_permitted rfl) fun _ => ?_
  exact Obeys.bind (getUserInfos_permitted .usersInfo _) fun _ => sendSessionData_permitted rfl

theorem allUserRequestHandler_permitted (request : Pdu AllUserRequest) :
    Permitted sessionId ⟨.allUserRequest, request⟩
      (allUserRequestHandler zAresModelModule mem sessionId request) := by
  unfold allUserRequestHandler
  refine Obeys.ite (fun _ => ?_) fun _ => sendSessionData_permitted rfl
  exact Obeys.bind (getAllUserInfo_permitted .allUsers _) fun _ => sendSessionData_permitted rfl

theorem msgDataHandler_permitted (request : Pdu MsgData) :
    Permitted sessionId ⟨.msgData, request⟩ (msgDataHandler zAresModelModule mem sessionId request) :=
  Obeys.bind (sendMsgData_permitted request) fun _ => sendSessionData_permitted rfl

theorem msgReadAckHandler_permitted (request : Pdu MsgReadAck) :
    Permitted sessionId ⟨.msgReadAck, request⟩
      (msgReadAckHandler zAresModelModule mem sessionId request) := by
  unfold msgReadAckHandler
  refine Obeys.then (fun w => .clearUnread) fun cleared => ?_
  refine Obeys.bind (Obeys.pure _) fun _ => sendSessionData_permitted ?_
  by_cases hcleared : cleared = true
  · rw [if_pos hcleared]
    rfl
  · rw [if_neg hcleared]
    rfl

theorem unreadMsgCountRequestHandler_permitted (request : Pdu UnreadMsgCountRequest) :
    Permitted sessionId ⟨.unreadMsgCountRequest, request⟩
      (unreadMsgCountRequestHandler zAresModelModule mem sessionId request) :=
  Permitted.reads .counts fun found => sendSessionData_permitted rfl

theorem unreadMsgRequestHandler_permitted (request : Pdu UnreadMsgRequest) :
    Permitted sessionId ⟨.unreadMsgRequest, request⟩
      (unreadMsgRequestHandler zAresModelModule mem sessionId request) := by
  unfold unreadMsgRequestHandler
  refine Permitted.reads .count fun count => ?_
  refine Obeys.ite (fun _ => ?_) fun _ => sendSessionData_permitted rfl
  exact Obeys.bind (getMessages_permitted .messagesId (fun _ _ _ => .messages) _ _ _) fun _ => sendSessionData_permitted rfl

theorem groupListRequestHandler_permitted (request : Pdu GroupListRequest) :
    Permitted sessionId ⟨.groupListRequest, request⟩
      (groupListRequestHandler zAresModelModule mem sessionId request) := by
  unfold groupListRequestHandler
  refine Obeys.bind (getGroupsByUserId_permitted (fun _ => .groups) _) fun (n, groups) => ?_
  refine Obeys.ite (fun _ => ?_) fun _ => sendSessionData_permitted rfl
  exact Obeys.bind (getGroupMembersIn_permitted .groupsMembers _) fun _ => sendSessionData_permitted rfl

theorem groupDialogListRequestHandler_permitted (request : Pdu GroupDialogListRequest) :
    Permitted sessionId ⟨.groupDialogListRequest, request⟩
      (groupDialogListRequestHandler zAresModelModule mem sessionId request) := by
  unfold groupDialogListRequestHandler
  refine Obeys.ite (fun _ => ?_) fun _ => sendSessionData_permitted rfl
  refine Obeys.bind (getRecentGroupsByUserId_permitted .recentGroups _) fun (n, groups) => ?_
  refine Obeys.ite (fun _ => ?_) fun _ => sendSessionData_permitted rfl
  exact Obeys.bind (getGroupMembersIn_permitted .recentMembers _) fun _ => sendSessionData_permitted rfl

theorem groupUserListRequestHandler_permitted (request : Pdu GroupUserListRequest) :
    Permitted sessionId ⟨.groupUserListRequest, request⟩
      (groupUserListRequestHandler zAresModelModule mem sessionId request) := by
  unfold groupUserListRequestHandler
  refine Obeys.bind (getGroupInfo_permitted .group _) fun found => ?_
  cases found with
  | some group =>
    exact Obeys.bind (getGroupMembers_permitted .members _) fun _ => sendSessionData_permitted rfl
  | none => exact sendSessionData_permitted rfl

theorem groupUnreadMsgCountRequestHandler_permitted (request : Pdu GroupUnreadMsgCountRequest) :
    Permitted sessionId ⟨.groupUnreadMsgCountRequest, request⟩
      (groupUnreadMsgCountRequestHandler zAresModelModule mem sessionId request) :=
  Obeys.bind (getGroupIdsByUserId_permitted (fun _ => .groupIds) _) fun (_, groupIds) =>
    Permitted.reads .groupCounts fun _ => sendSessionData_permitted rfl

theorem groupUnreadMsgRequestHandler_permitted (request : Pdu GroupUnreadMsgRequest) :
    Permitted sessionId ⟨.groupUnreadMsgRequest, request⟩
      (groupUnreadMsgRequestHandler zAresModelModule mem sessionId request) :=
  Permitted.reads .groupCount fun item => Obeys.bind (Obeys.pure _) fun _ => sendSessionData_permitted rfl

theorem groupMsgReadAckHandler_permitted (request : Pdu GroupMsgReadAck) :
    Permitted sessionId ⟨.groupMsgReadAck, request⟩
      (groupMsgReadAckHandler zAresModelModule mem sessionId request) :=
  Obeys.then (fun w => .clearGroup) fun cleared => sendSessionData_permitted rfl

theorem groupCreateTmpGroupRequestHandler_permitted (request : Pdu GroupCreateTmpGroupRequest) :
    Permitted sessionId ⟨.groupCreateTmpGroupRequest, request⟩
      (groupCreateTmpGroupRequestHandler zAresModelModule mem sessionId request) :=
  Obeys.bind (createGroup_permitted request _) fun _ => sendSessionData_permitted rfl

theorem groupChangeMemberRequestHandler_permitted (request : Pdu GroupChangeMemberRequest) :
    Permitted sessionId ⟨.groupChangeMemberRequest, request⟩
      (groupChangeMemberRequestHandler zAresModelModule mem sessionId request) :=
  Obeys.bind (changeMember_permitted mem request) fun _ => sendSessionData_permitted rfl

theorem fileHasOfflineReqHandler_permitted (request : Pdu FileHasOfflineReq) :
    Permitted sessionId ⟨.fileHasOfflineReq, request⟩
      (fileHasOfflineReqHandler zAresModelModule mem sessionId request) :=
  Obeys.bind (getUserFiles_permitted (fun _ => .files) _) fun _ => sendSessionData_permitted rfl

theorem fileAddOfflineReqHandler_permitted (request : Pdu FileAddOfflineReq) :
    Permitted sessionId ⟨.fileAddOfflineReq, request⟩
      (fileAddOfflineReqHandler zAresModelModule mem sessionId request) :=
  Obeys.bind (saveFileRecord_permitted request) fun _ => sendSessionData_permitted rfl

theorem fileDelOfflineReqHandler_permitted (request : Pdu FileDelOfflineReq) :
    Permitted sessionId ⟨.fileDelOfflineReq, request⟩
      (fileDelOfflineReqHandler zAresModelModule mem sessionId request) := by
  unfold fileDelOfflineReqHandler
  refine Permitted.reads .clock fun now => ?_
  refine Obeys.bind (getFileRecord_permitted .file mem.newTransmitFile) fun found => ?_
  refine Obeys.bind ?_ fun isSucess => sendSessionData_permitted rfl
  exact Obeys.ite (fun _ => deleteFileRecord_permitted request) fun _ => Obeys.pure _

/-- Every handler keeps the policy. -/
theorem executes_permitted {n : PduName} {execute : Execute n.Body} (h : executes n = some execute)
    (m : Pdu n.Body) :
    Permitted sessionId ⟨n, m⟩ (execute zAresModelModule mem sessionId m) := by
  cases n <;> cases h
  · exact allUserRequestHandler_permitted m
  · exact departmentRequestHandler_permitted m
  · exact fileAddOfflineReqHandler_permitted m
  · exact fileDelOfflineReqHandler_permitted m
  · exact fileHasOfflineReqHandler_permitted m
  · exact friendListRequestHandler_permitted m
  · exact groupChangeMemberRequestHandler_permitted m
  · exact groupCreateTmpGroupRequestHandler_permitted m
  · exact groupDialogListRequestHandler_permitted m
  · exact groupListRequestHandler_permitted m
  · exact groupMsgReadAckHandler_permitted m
  · exact groupUnreadMsgCountRequestHandler_permitted m
  · exact groupUnreadMsgRequestHandler_permitted m
  · exact groupUserListRequestHandler_permitted m
  · exact msgDataHandler_permitted m
  · exact msgReadAckHandler_permitted m
  · exact removeSessionRequestHandler_permitted m
  · exact unreadMsgCountRequestHandler_permitted m
  · exact unreadMsgRequestHandler_permitted m
  · exact usersInfoRequestHandler_permitted m
  · exact validateRequestHandler_permitted m

end Handlers

end Zattd
