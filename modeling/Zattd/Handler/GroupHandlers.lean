/-
  The handlers of the requests about groups (`zaresd/message_handler/group_*_handler.cc`).
-/
import Zattd.Handler.Context

set_option linter.unusedVariables false

namespace Zattd

/-- The loop that appends to each group the members found for it; the two list handlers have it
    word for word. -/
def addGroupMembers (groupRelationsMap : Map (List GroupRelationInfo)) (groups : List GroupInfo) :
    List GroupInfo :=
  groups.map fun group =>
    match groupRelationsMap[group.groupId]? with
    | some relations =>
      { group with groupMemeberList := group.groupMemeberList ++ relations.map (·.userId) }
    | none => group

/-- `GroupListRequestHandler::Execute`. -/
def groupListRequestHandler : Execute GroupListRequest := fun model mem sessionId request => do
  let response : Pdu GroupListResponse := .new (mem.pdu .groupListResponse)
  let response := response.setReserved request.reserved
  let response := response.set fun r => { r with reqUserId := request.body.userId }
  let response := response.setAttachData request.attach
  let (n, groups) ← model.groupManager.getGroupsByUserId request.body.userId true
    response.body.groupList
  if n > 0 then
    let (_, groupRelationsMap) ← model.groupManager.getGroupMembersIn (groups.map (·.groupId)) ∅
    sendSessionData sessionId .groupListResponse
      (response.set fun r => { r with groupList := addGroupMembers groupRelationsMap groups })
  else
    sendSessionData sessionId .groupListResponse (response.set fun r => { r with groupList := groups })

/-- `GroupDialogListRequestHandler::Execute`. -/
def groupDialogListRequestHandler : Execute GroupDialogListRequest :=
  fun model mem sessionId request => do
    let response : Pdu GroupDialogListResponse := .new (mem.pdu .groupDialogListResponse)
    let response := response.setReserved request.reserved
    let response := response.set fun r => { r with reqUserId := request.body.userId }
    let response := response.setAttachData request.attach
    if request.body.userId > 0 then
      let (n, groups) ← model.groupManager.getRecentGroupsByUserId request.body.userId
        response.body.groupList
      if n > 0 then
        let (_, groupRelationsMap) ← model.groupManager.getGroupMembersIn (groups.map (·.groupId)) ∅
        sendSessionData sessionId .groupDialogListResponse
          (response.set fun r => { r with groupList := addGroupMembers groupRelationsMap groups })
      else
        sendSessionData sessionId .groupDialogListResponse
          (response.set fun r => { r with groupList := groups })
    else
      sendSessionData sessionId .groupDialogListResponse response

/-- `GroupUserListRequestHandler::Execute`. -/
def groupUserListRequestHandler : Execute GroupUserListRequest :=
  fun model mem sessionId request => do
    let response : Pdu GroupUserListResponse := .new (mem.pdu .groupUserListResponse)
    let response := response.setReserved request.reserved
    let response := response.set fun r => { r with
      reqUserId := request.body.reqUserId
      groupId := request.body.groupId }
    let response := response.setAttachData request.attach
    let found ← model.groupManager.getGroupInfo request.body.groupId mem.newGroupInfo
    match found with
    | some group =>
      let response := response.set fun r => { r with
        result := 0
        groupName := group.groupName
        groupAvatar := group.groupAvatar
        groupType := group.groupType
        groupCreatorId := group.groupCreatorId }
      let (_, relations) ← model.groupManager.getGroupMembers request.body.groupId []
      sendSessionData sessionId .groupUserListResponse (response.set fun r => { r with
        userList := r.userList ++ relations.map (·.userId) })
    | none =>
      sendSessionData sessionId .groupUserListResponse (response.set fun r => { r with result := 1 })

/-- `GroupUnreadMsgCountRequestHandler::Execute`. -/
def groupUnreadMsgCountRequestHandler : Execute GroupUnreadMsgCountRequest :=
  fun model mem sessionId request => do
    let response : Pdu GroupUnreadMsgCountResponse := .new (mem.pdu .groupUnreadMsgCountResponse)
    let response := response.setReserved request.reserved
    let response := response.set fun r => { r with reqUserId := request.body.reqUserId }
    let response := response.setAttachData request.attach
    let (_, groupIds) ← model.groupManager.getGroupIdsByUserId request.body.reqUserId false []
    let (_, unreads) ← model.counterManager.getUserGroupUnreadCount request.body.reqUserId groupIds
      request.body.clientType ∅
    sendSessionData sessionId .groupUnreadMsgCountResponse (response.set fun r => { r with
      groupUnreadList := r.groupUnreadList ++ unreads.toList.map fun e =>
        { groupId := e.1, unreadMsgCount := e.2 } })

/-- `GroupUnreadMsgRequestHandler::Execute`.  The second `set_request_cmd_id` is in place of
    `set_group_id`, which is never called. -/
def groupUnreadMsgRequestHandler : Execute GroupUnreadMsgRequest :=
  fun model mem sessionId request => do
    let response : Pdu GroupMsgListResponse := .new (mem.pdu .groupMsgListResponse)
    let response := response.setReserved request.reserved
    let response := response.set fun r => { r with reqUserId := request.body.reqUserId }
    let response := response.set fun r => { r with
      requestCmdId := (getHighInt16ByInt32 request.messageType).toUInt32 }
    let response := response.set fun r => { r with requestCmdId := request.body.groupId }
    let response := response.setAttachData request.attach
    let item ← model.counterManager.getUserGroupCount request.body.reqUserId request.body.groupId
      request.body.clientType mem.groupCounterItem
    let (_, messages) ← model.messageManager.getGroupMessagesFromId request.body.groupId
      item.lastMessageId (percentD item.userUnreadCount) response.body.msgList
    sendSessionData sessionId .groupMsgListResponse (response.set fun r => { r with msgList := messages })

/-- `GroupHistoryMsgRequestHandler::Execute`, with the same slip. -/
def groupHistoryMsgRequestHandler : Execute GroupHistoryMsgRequest :=
  fun model mem sessionId request => do
    let response : Pdu GroupMsgListResponse := .new (mem.pdu .groupMsgListResponse)
    let response := response.setReserved request.reserved
    let response := response.set fun r => { r with reqUserId := request.body.reqUserId }
    let response := response.set fun r => { r with
      requestCmdId := (getHighInt16ByInt32 request.messageType).toUInt32 }
    let response := response.set fun r => { r with requestCmdId := request.body.groupId }
    let response := response.setAttachData request.attach
    let (_, messages) ← model.messageManager.getGroupMessages request.body.groupId
      request.body.msgOffset (percentD request.body.msgCount) response.body.msgList
    sendSessionData sessionId .groupMsgListResponse (response.set fun r => { r with msgList := messages })

/-- `GroupMsgReadAckHandler::Execute`. -/
def groupMsgReadAckHandler : Execute GroupMsgReadAck := fun model mem sessionId request => do
  let cleared ← model.counterManager.clearUserGroupCounter request.body.reqUserId
    request.body.groupId request.body.clientType
  let response : Pdu DBWriteResponse := .new (mem.pdu .dbWriteResponse)
  let response := response.setReserved request.reserved
  sendSessionData sessionId .dbWriteResponse (response.set fun r => { r with
    requestId := 0
    result := if cleared then 0 else 1
    requestPduType := getHighInt16ByInt32 request.messageType
    fromId := request.body.reqUserId
    toId := request.body.groupId })

/-- `GroupCreateTmpGroupRequestHandler::Execute`. -/
def groupCreateTmpGroupRequestHandler : Execute GroupCreateTmpGroupRequest :=
  fun model mem sessionId request => do
    let response : Pdu GroupCreateTmpGroupResponse := .new (mem.pdu .groupCreateTmpGroupResponse)
    let response := response.setReserved request.reserved
    let response := response.set fun r => { r with reqUserId := request.body.reqUserId }
    let response := response.setAttachData request.attach
    let (created, group) ← model.groupManager.createGroup request.body.reqUserId
      request.body.groupName 2 request.body.groupAvatar [] request.body.userList mem.newGroupInfo
    sendSessionData sessionId .groupCreateTmpGroupResponse (response.set fun r => { r with
      result := if created then 0 else 1
      groupId := if created then group.groupId else 0 })

/-- The change that `GroupChangeMemberRequestHandler` makes: nothing if the group is not there;
    whether it was accepted is not looked at. -/
def changeMember (model : ModelModule) (mem : Memory) (m : GroupChangeMemberRequest) :
    Server Unit := do
  if m.changeType = 0 then
    let found ← model.groupManager.getGroupInfo m.groupId mem.newGroupInfo
    match found with
    | some group => let _ ← model.groupManager.joinGroup m.userList m.groupId group
    | none => pure ()
  else
    let found ← model.groupManager.getGroupInfo m.groupId mem.newGroupInfo
    match found with
    | some group => let _ ← model.groupManager.quitGroup m.reqUserId m.userList m.groupId group
    | none => pure ()

/-- `GroupChangeMemberRequestHandler::Execute`.  `result` is a constant. -/
def groupChangeMemberRequestHandler : Execute GroupChangeMemberRequest :=
  fun model mem sessionId request => do
    let response : Pdu GroupChangeMemberResponse := .new (mem.pdu .groupChangeMemberResponse)
    let response := response.setReserved request.reserved
    let response := response.set fun r => { r with reqUserId := request.body.reqUserId }
    let response := response.set fun r => { r with userList := request.body.userList }
    let response := response.setAttachData request.attach
    changeMember model mem request.body
    sendSessionData sessionId .groupChangeMemberResponse (response.set fun r => { r with
      result := 0
      groupId := request.body.groupId
      changeType := if request.body.changeType = 0 then 0 else 1 })

end Zattd
