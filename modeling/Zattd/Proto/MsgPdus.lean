/-
  The messages about messages between two users: sending, reading, counting, acknowledging.

  The shape of each class is that of the user messages: slots, layouts, and the proof that size,
  reader and writer are in step.
-/
import Zattd.Proto.BaseData
import Zattd.Proto.BaseTeamTalkPdu
import Zattd.Proto.MessageTypes

set_option linter.unusedVariables false

namespace Zattd

/-! ### `HistoryMsgRequest` (`history_msg_request`) -/

structure HistoryMsgRequest where
  fromUserId : UInt32
  toUserId : UInt32
  msgOffset : UInt32
  msgCount : UInt32
  deriving Inhabited

namespace HistoryMsgRequest

def fromUserId_ : Slot HistoryMsgRequest :=
  .uint32 (·.fromUserId) fun v c => { c with fromUserId := v }
def toUserId_ : Slot HistoryMsgRequest := .uint32 (·.toUserId) fun v c => { c with toUserId := v }
def msgOffset_ : Slot HistoryMsgRequest :=
  .uint32 (·.msgOffset) fun v c => { c with msgOffset := v }
def msgCount_ : Slot HistoryMsgRequest := .uint32 (·.msgCount) fun v c => { c with msgCount := v }

def layout : Layout HistoryMsgRequest where
  byteSize := [fromUserId_, toUserId_, msgOffset_, msgCount_]
  parse := [fromUserId_, toUserId_, msgOffset_, msgCount_]
  serialize := [fromUserId_, toUserId_, msgOffset_, msgCount_]

instance : PduClass HistoryMsgRequest := layout.pduClass messageHistoryMsgRequest .db

theorem implements : layout.Implements := layout.pduClass_implements _ _

theorem lawful : layout.Lawful := {}

end HistoryMsgRequest

/-! ### `MsgData` (`msg_data`) -/

structure MsgData where
  requestId : UInt32
  fromUserId : UInt32
  toUserId : UInt32
  createTime : UInt32
  msgType : UInt8
  msgData : Bytes
  deriving Inhabited

namespace MsgData

def requestId_ : Slot MsgData := .uint32 (·.requestId) fun v c => { c with requestId := v }
def fromUserId_ : Slot MsgData := .uint32 (·.fromUserId) fun v c => { c with fromUserId := v }
def toUserId_ : Slot MsgData := .uint32 (·.toUserId) fun v c => { c with toUserId := v }
def createTime_ : Slot MsgData := .uint32 (·.createTime) fun v c => { c with createTime := v }
def msgType_ : Slot MsgData := .uint8 (·.msgType) fun v c => { c with msgType := v }
def msgData_ : Slot MsgData := .string (·.msgData) fun v c => { c with msgData := v }

def layout : Layout MsgData where
  byteSize := [requestId_, fromUserId_, toUserId_, createTime_, msgType_, msgData_]
  parse := [requestId_, fromUserId_, toUserId_, createTime_, msgType_, msgData_]
  serialize := [requestId_, fromUserId_, toUserId_, createTime_, msgType_, msgData_]

instance : PduClass MsgData := layout.pduClass messageMsgData .db

theorem implements : layout.Implements := layout.pduClass_implements _ _

theorem lawful : layout.Lawful := {}

end MsgData

/-! ### `MsgListResponse` (`msg_list_response`) -/

structure MsgListResponse where
  requestCmdId : UInt32
  fromUserId : UInt32
  toUserId : UInt32
  msgList : List ServerMsg
  deriving Inhabited

namespace MsgListResponse

/-- The functions of this file for a `ServerMsg`. -/
def serverMsg : Layout ServerMsg where
  byteSize :=
    [ServerMsg.fromUserId_, ServerMsg.fromName_, ServerMsg.fromNickName_,
     ServerMsg.fromAvatarUrl_, ServerMsg.createTime_, ServerMsg.msgType_, ServerMsg.msgData_]
  parse :=
    [ServerMsg.fromUserId_, ServerMsg.fromName_, ServerMsg.fromNickName_,
     ServerMsg.fromAvatarUrl_, ServerMsg.createTime_, ServerMsg.msgType_, ServerMsg.msgData_]
  serialize :=
    [ServerMsg.fromUserId_, ServerMsg.fromName_, ServerMsg.fromNickName_,
     ServerMsg.fromAvatarUrl_, ServerMsg.createTime_, ServerMsg.msgType_, ServerMsg.msgData_]

theorem serverMsg_lawful : serverMsg.Lawful := {}

def requestCmdId_ : Slot MsgListResponse :=
  .uint32 (·.requestCmdId) fun v c => { c with requestCmdId := v }
def fromUserId_ : Slot MsgListResponse :=
  .uint32 (·.fromUserId) fun v c => { c with fromUserId := v }
def toUserId_ : Slot MsgListResponse := .uint32 (·.toUserId) fun v c => { c with toUserId := v }
def msgList_ : Slot MsgListResponse :=
  .records serverMsg serverMsg_lawful .new (·.msgList)
    fun v c => { c with msgList := v }

def layout : Layout MsgListResponse where
  byteSize := [requestCmdId_, fromUserId_, toUserId_, msgList_]
  parse := [requestCmdId_, fromUserId_, toUserId_, msgList_]
  serialize := [requestCmdId_, fromUserId_, toUserId_, msgList_]

instance : PduClass MsgListResponse := layout.pduClass messageMsgListResponse .db

theorem implements : layout.Implements := layout.pduClass_implements _ _

theorem lawful : layout.Lawful := {}

end MsgListResponse

/-! ### `MsgReadAck` (`msg_read_ack`) -/

structure MsgReadAck where
  requestId : UInt32
  fromUserId : UInt32
  toUserId : UInt32
  clientType : UInt32
  deriving Inhabited

namespace MsgReadAck

def requestId_ : Slot MsgReadAck := .uint32 (·.requestId) fun v c => { c with requestId := v }
def fromUserId_ : Slot MsgReadAck := .uint32 (·.fromUserId) fun v c => { c with fromUserId := v }
def toUserId_ : Slot MsgReadAck := .uint32 (·.toUserId) fun v c => { c with toUserId := v }
def clientType_ : Slot MsgReadAck := .uint32 (·.clientType) fun v c => { c with clientType := v }

def layout : Layout MsgReadAck where
  byteSize := [requestId_, fromUserId_, toUserId_, clientType_]
  parse := [requestId_, fromUserId_, toUserId_, clientType_]
  serialize := [requestId_, fromUserId_, toUserId_, clientType_]

instance : PduClass MsgReadAck := layout.pduClass messageMsgReadAck .null

theorem implements : layout.Implements := layout.pduClass_implements _ _

theorem lawful : layout.Lawful := {}

end MsgReadAck

/-! ### `UnreadMsgCountRequest` (`unread_msg_count_request`) -/

structure UnreadMsgCountRequest where
  userId : UInt32
  clientType : UInt32
  deriving Inhabited

namespace UnreadMsgCountRequest

def userId_ : Slot UnreadMsgCountRequest := .uint32 (·.userId) fun v c => { c with userId := v }
def clientType_ : Slot UnreadMsgCountRequest :=
  .uint32 (·.clientType) fun v c => { c with clientType := v }

def layout : Layout UnreadMsgCountRequest where
  byteSize := [userId_, clientType_]
  parse := [userId_, clientType_]
  serialize := [userId_, clientType_]

instance : PduClass UnreadMsgCountRequest := layout.pduClass messageUnreadMsgCountRequest .db

theorem implements : layout.Implements := layout.pduClass_implements _ _

theorem lawful : layout.Lawful := {}

end UnreadMsgCountRequest

/-! ### `UnreadMsgCountResponse` (`unread_msg_count_response`) -/

structure UnreadMsgCountResponse where
  toUserId : UInt32
  userUnreadList : List UserUnreadMsgCount
  deriving Inhabited

namespace UnreadMsgCountResponse

/-- The functions of this file for a `UserUnreadMsgCount`. -/
def userUnreadMsgCount : Layout UserUnreadMsgCount where
  byteSize := [UserUnreadMsgCount.fromUserId_, UserUnreadMsgCount.unreadMsgCount_]
  parse := [UserUnreadMsgCount.fromUserId_, UserUnreadMsgCount.unreadMsgCount_]
  serialize := [UserUnreadMsgCount.fromUserId_, UserUnreadMsgCount.unreadMsgCount_]

theorem userUnreadMsgCount_lawful : userUnreadMsgCount.Lawful := {}

def toUserId_ : Slot UnreadMsgCountResponse :=
  .uint32 (·.toUserId) fun v c => { c with toUserId := v }
def userUnreadList_ : Slot UnreadMsgCountResponse :=
  .records userUnreadMsgCount userUnreadMsgCount_lawful .new (·.userUnreadList)
    fun v c => { c with userUnreadList := v }

def layout : Layout UnreadMsgCountResponse where
  byteSize := [toUserId_, userUnreadList_]
  parse := [toUserId_, userUnreadList_]
  serialize := [toUserId_, userUnreadList_]

instance : PduClass UnreadMsgCountResponse := layout.pduClass messageUnreadMsgCountResponse .db

theorem implements : layout.Implements := layout.pduClass_implements _ _

theorem lawful : layout.Lawful := {}

end UnreadMsgCountResponse

/-! ### `UnreadMsgRequest` (`unread_msg_request`) -/

structure UnreadMsgRequest where
  fromUserId : UInt32
  toUserId : UInt32
  clientType : UInt32
  deriving Inhabited

namespace UnreadMsgRequest

def fromUserId_ : Slot UnreadMsgRequest :=
  .uint32 (·.fromUserId) fun v c => { c with fromUserId := v }
def toUserId_ : Slot UnreadMsgRequest := .uint32 (·.toUserId) fun v c => { c with toUserId := v }
def clientType_ : Slot UnreadMsgRequest :=
  .uint32 (·.clientType) fun v c => { c with clientType := v }

def layout : Layout UnreadMsgRequest where
  byteSize := [fromUserId_, toUserId_, clientType_]
  parse := [fromUserId_, toUserId_, clientType_]
  serialize := [fromUserId_, toUserId_, clientType_]

instance : PduClass UnreadMsgRequest := layout.pduClass messageUnreadMsgRequest .db

theorem implements : layout.Implements := layout.pduClass_implements _ _

theorem lawful : layout.Lawful := {}

end UnreadMsgRequest

end Zattd
