/-
  From a packet to a handler (`client_comm_handler.cc`, `zares_handler_thread.cc`,
  `register_message_factory.cc`, `message_handler.cc`).

  The type of a packet is looked up THREE times: in the handler table, on the packet's header, to
  admit it; in the factory, to make an object of the class registered for it; and in the handler
  table again, but this time on the type that the OBJECT says it has.  The tables are written down
  in different files, and the object's type in the constructor of its class.
-/
import Zattd.Handler.FileHandlers
import Zattd.Handler.GroupHandlers
import Zattd.Handler.MsgHandlers
import Zattd.Handler.UserHandlers

set_option linter.unusedVariables false

namespace Zattd

/-- A packet: the type in its header, the reserved field, the body. -/
structure Packet where
  messageType : UInt32
  reserved : UInt16
  body : Bytes

/-! ## The factory -/

/-- The calls of `ADD_MESSAGEPDU_FACTORY` in `RegisterPDUMessageFactory`. -/
def pduMessageFactory : List (UInt32 × PduName) :=
  [(messageValidateRequest, .validateRequest),
   (messageFriendListRequest, .friendListRequest),
   (messageRemoveSessionRequest, .removeSessionRequest),
   (messageDepartmentRequest, .departmentRequest),
   (messageUsersInfoRequest, .usersInfoRequest),
   (messageAllUserRequest, .allUserRequest),
   (messageMsgData, .msgData),
   (messageUnreadMsgCountRequest, .unreadMsgCountRequest),
   (messageUnreadMsgRequest, .unreadMsgRequest),
   (messageMsgReadAck, .msgReadAck),
   (messageGroupListRequest, .groupListRequest),
   (messageGroupUserListRequest, .groupUserListRequest),
   (messageGroupUnreadMsgCountRequest, .groupUnreadMsgCountRequest),
   (messageGroupUnreadMsgRequest, .groupUnreadMsgRequest),
   (messageGroupHistoryMsgRequest, .groupHistoryMsgRequest),
   (messageGroupMsgReadAck, .groupMsgReadAck),
   (messageGroupCreateTmpGroupRequest, .groupCreateTmpGroupRequest),
   (messageGroupChangeMemberRequest, .groupChangeMemberRequest),
   (messageGroupDialogListRequest, .groupDialogListRequest),
   (messageFileHasOfflineReq, .fileHasOfflineReq),
   (messageFileAddOfflineReq, .fileAddOfflineReq),
   (messageFileDelOfflineReq, .fileDelOfflineReq)]

/-- `ParseMessagePDUFromNetPacker`: a fresh object of the class registered for the packet's type,
    if it accepts the body.  It gets the packet's reserved field. -/
def parseMessagePduFromNetPacker (bo : ByteOrder) (mem : Memory) (packet : Packet) :
    Option Message := do
  let n ← pduMessageFactory.lookup packet.messageType
  let (result, message) := Pdu.parseFromArray bo packet.body (.new (mem.pdu n))
  if result then some ⟨n, message.setReserved packet.reserved⟩ else none

/-! ## The handlers -/

/-- `message_type()` of an object. -/
def Message.messageType (message : Message) : UInt32 := message.2.messageType

/-- `CAST_PROTO_MESSAGE`, at the start of every `Execute`: go on with the object as one of the named
    class.  (An object of another class never gets there.) -/
def castProtoMessage (n : PduName) (execute : Execute n.Body) :
    ModelModule → Memory → UInt64 → Message → Server Unit :=
  fun model mem sessionId message =>
    if h : message.1 = n then execute model mem sessionId (h ▸ message.2) else return ()

/-- An entry of the handler table. -/
abbrev ExecuteHandlerFunc : Type := ModelModule → Memory → UInt64 → Message → Server Unit

/-- `g_message_handlers`, as `InitMessageHandlerTable` fills it. -/
def messageHandlers : List (UInt32 × ExecuteHandlerFunc) :=
  [(messageValidateRequest, castProtoMessage .validateRequest validateRequestHandler),
   (messageFriendListRequest, castProtoMessage .friendListRequest friendListRequestHandler),
   (messageRemoveSessionRequest, castProtoMessage .removeSessionRequest removeSessionRequestHandler),
   (messageDepartmentRequest, castProtoMessage .departmentRequest departmentRequestHandler),
   (messageUsersInfoRequest, castProtoMessage .usersInfoRequest usersInfoRequestHandler),
   (messageAllUserRequest, castProtoMessage .allUserRequest allUserRequestHandler),
   (messageMsgData, castProtoMessage .msgData msgDataHandler),
   (messageUnreadMsgCountRequest,
    castProtoMessage .unreadMsgCountRequest unreadMsgCountRequestHandler),
   (messageUnreadMsgRequest, castProtoMessage .unreadMsgRequest unreadMsgRequestHandler),
   (messageMsgReadAck, castProtoMessage .msgReadAck msgReadAckHandler),
   (messageGroupListRequest, castProtoMessage .groupListRequest groupListRequestHandler),
   (messageGroupUserListRequest, castProtoMessage .groupUserListRequest groupUserListRequestHandler),
   (messageGroupUnreadMsgCountRequest,
    castProtoMessage .groupUnreadMsgCountRequest groupUnreadMsgCountRequestHandler),
   (messageGroupUnreadMsgRequest,
    castProtoMessage .groupUnreadMsgRequest groupUnreadMsgRequestHandler),
   (messageGroupHistoryMsgRequest,
    castProtoMessage .groupHistoryMsgRequest groupHistoryMsgRequestHandler),
   (messageGroupMsgReadAck, castProtoMessage .groupMsgReadAck groupMsgReadAckHandler),
   (messageGroupCreateTmpGroupRequest,
    castProtoMessage .groupCreateTmpGroupRequest groupCreateTmpGroupRequestHandler),
   (messageGroupChangeMemberRequest,
    castProtoMessage .groupChangeMemberRequest groupChangeMemberRequestHandler),
   (messageGroupDialogListRequest,
    castProtoMessage .groupDialogListRequest groupDialogListRequestHandler),
   (messageFileHasOfflineReq, castProtoMessage .fileHasOfflineReq fileHasOfflineReqHandler),
   (messageFileAddOfflineReq, castProtoMessage .fileAddOfflineReq fileAddOfflineReqHandler),
   (messageFileDelOfflineReq, castProtoMessage .fileDelOfflineReq fileDelOfflineReqHandler)]

/-- `g_message_handlers.Get().find(message_type)`. -/
def findHandler (messageType : UInt32) : Option ExecuteHandlerFunc :=
  messageHandlers.lookup messageType

/-- `CheckMessageHandler`. -/
def checkMessageHandler (messageType : UInt32) : Bool := (findHandler messageType).isSome

/-- What becomes of a packet that has arrived. -/
inductive Received
  /-- A heartbeat is sent back as it is. -/
  | sendSyncData
  /-- The packet goes to a worker thread. -/
  | postDataToDbHandler
  /-- Only logged. -/
  | notImplemented
  deriving DecidableEq

/-- `ClientCommHandler::OnDataReceived`. -/
def onDataReceived (packet : Packet) : Received :=
  if packet.messageType = messageHeartbeat then .sendSyncData
  else if checkMessageHandler packet.messageType then .postDataToDbHandler
  else .notImplemented

/-- `DispatchMessageHandler`: by the type of the object. -/
def dispatchMessageHandler : ExecuteHandlerFunc := fun model mem sessionId message =>
  match findHandler message.messageType with
  | some executeHandler => executeHandler model mem sessionId message
  | none => return () -- only logged

/-- `OnMessageDataHandler`, what a worker thread does with a packet. -/
def onMessageDataHandler (bo : ByteOrder) (model : ModelModule) (mem : Memory) (sessionId : UInt64)
    (packet : Packet) : Server Unit :=
  match parseMessagePduFromNetPacker bo mem packet with
  | some message => dispatchMessageHandler model mem sessionId message
  | none => return ()

end Zattd
