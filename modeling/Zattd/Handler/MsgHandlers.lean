/-
  The handlers of the requests about messages between two users (`msg_data_handler.cc`,
  `msg_read_ack_handler.cc`, `unread_msg_count_request_handler.cc`,
  `unread_msg_request_handler.cc`).
-/
import Zattd.Handler.Context

set_option linter.unusedVariables false

namespace Zattd

/-- `MESSAGE_TYPE_IM`. -/
def messageTypeIm : UInt8 := 1
/-- `MESSAGE_TYPE_IM_AUDIO`. -/
def messageTypeImAudio : UInt8 := 2
/-- `MESSAGE_TYPE_IM_GROUP`. -/
def messageTypeImGroup : UInt8 := 17
/-- `MESSAGE_TYPE_IM_GROUP_AUDIO`. -/
def messageTypeImGroupAudio : UInt8 := 18

/-- `UNREAD_MAX_COUNTER`. -/
def unreadMaxCounter : UInt32 := 100

/-- The check that `MsgDataHandler` makes of a request before it looks at the type. -/
def MsgData.isInvalid (m : MsgData) : Bool :=
  m.fromUserId = 0 ||
  m.toUserId = 0 ||
  m.msgType = 0 ||
  m.msgData = [] ||
  ((m.msgType = messageTypeIm || m.msgType = messageTypeImGroup) && m.msgData.length > 1536) ||
  ((m.msgType = messageTypeImAudio || m.msgType = messageTypeImGroupAudio) &&
    m.msgData.length > 102400)

/-- The dispatch of `MsgDataHandler` on the type of a valid request: `is_sucess`. -/
def sendMsgData (model : ModelModule) (m : MsgData) : Server Bool :=
  if m.isInvalid then
    return false
  else if m.msgType = messageTypeIm then
    model.messageManager.sendIMMessage m.fromUserId m.toUserId m.msgType.toUInt32 m.msgData m.createTime
  else if m.msgType = messageTypeImAudio then
    model.messageManager.sendAudioMessage m.fromUserId m.toUserId m.msgData m.createTime
  else if m.msgType = messageTypeImGroup ∨ m.msgType = messageTypeImGroupAudio then
    model.messageManager.sendIMGroupMessage m.fromUserId m.toUserId m.msgData m.createTime
  else
    return false

/-- `MsgDataHandler::Execute`. -/
def msgDataHandler : Execute MsgData := fun model mem sessionId request => do
  let response : Pdu DBWriteResponse := .new (mem.pdu .dbWriteResponse)
  let response := response.setReserved request.reserved
  let response := response.set fun r => { r with
    requestId := request.body.requestId
    result := 0
    requestPduType := getHighInt16ByInt32 request.messageType
    fromId := request.body.fromUserId
    toId := request.body.toUserId }
  let isSucess ← sendMsgData model request.body
  sendSessionData sessionId .dbWriteResponse
    (response.set fun r => { r with result := if isSucess then 0 else 1 })

/-- `MsgReadAckHandler::Execute`: the comment in the source says that `from_user_id` is the reader
    and `to_user_id` the friend. -/
def msgReadAckHandler : Execute MsgReadAck := fun model mem sessionId request => do
  let response : Pdu DBWriteResponse := .new (mem.pdu .dbWriteResponse)
  let response := response.setReserved request.reserved
  let response := response.set fun r => { r with
    requestId := request.body.requestId
    result := 0
    requestPduType := getHighInt16ByInt32 request.messageType
    fromId := request.body.fromUserId
    toId := request.body.toUserId }
  let cleared ← model.counterManager.clearUserUnreadItemCount request.body.fromUserId
    request.body.toUserId request.body.clientType
  let response := if cleared then response else response.set fun r => { r with result := 1 }
  let _ ← model.counterManager.deleteUserReadedDialogMessages request.body.fromUserId
    request.body.toUserId request.body.clientType
  sendSessionData sessionId .dbWriteResponse response

/-- `UnreadMsgCountRequestHandler::Execute`. -/
def unreadMsgCountRequestHandler : Execute UnreadMsgCountRequest :=
  fun model mem sessionId request => do
    let response : Pdu UnreadMsgCountResponse := .new (mem.pdu .unreadMsgCountResponse)
    let response := response.setReserved request.reserved
    let response := response.set fun r => { r with toUserId := request.body.userId }
    let response := response.setAttachData request.attach
    let found ← model.counterManager.getUnreadMsgCount request.body.userId request.body.clientType
      mem.newCounter
    let counter := found.getD mem.newCounter
    sendSessionData sessionId .unreadMsgCountResponse (response.set fun r => { r with
      userUnreadList := r.userUnreadList ++ counter.unreadCount.toList.map fun e =>
        { fromUserId := e.1, unreadMsgCount := e.2 } })

/-- `UnreadMsgRequestHandler::Execute`. -/
def unreadMsgRequestHandler : Execute UnreadMsgRequest := fun model mem sessionId request => do
  let response : Pdu MsgListResponse := .new (mem.pdu .msgListResponse)
  let response := response.setReserved request.reserved
  let response := response.set fun r => { r with
    requestCmdId := (getHighInt16ByInt32 request.messageType).toUInt32
    fromUserId := request.body.fromUserId
    toUserId := request.body.toUserId }
  let response := response.setAttachData request.attach
  let count ← model.counterManager.getUserFriendUnreadCount request.body.fromUserId
    request.body.toUserId request.body.clientType
  let count := if count > unreadMaxCounter then unreadMaxCounter else count
  if count > 0 then
    let (_, messages) ← model.messageManager.getMessages request.body.fromUserId
      request.body.toUserId 0 count.toNat response.body.msgList
    sendSessionData sessionId .msgListResponse (response.set fun r => { r with msgList := messages })
  else
    sendSessionData sessionId .msgListResponse response

end Zattd
