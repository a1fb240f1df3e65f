/-
  The message types (`proto/const_message_pdu_types.h`).

  A message type packs a service id and a command number into 32 bits; every type of this server
  has the service id `SID_OTHER`.  `base2` (not in the repository) takes the two halves apart
  again; the call sites log them as module id and command id, the first half being the service.
-/
import Mathlib

set_option linter.unusedVariables false

namespace Zattd

/-- `SID_OTHER`. -/
def sidOther : UInt16 := 0x0007

/-- `MAKE_INT32`: the half called `low` is the one shifted up. -/
def makeInt32 (low high : UInt16) : UInt32 := low.toUInt32 <<< 16 ||| high.toUInt32

/-- `GetHighInt16ByInt32`: the command number. -/
def getHighInt16ByInt32 (messageType : UInt32) : UInt16 := messageType.toUInt16

def messageHeartbeat : UInt32 := makeInt32 sidOther 1
def messageStopReceivePacket : UInt32 := makeInt32 sidOther 100
def messageValidateRequest : UInt32 := makeInt32 sidOther 110
def messageValidateResponse : UInt32 := makeInt32 sidOther 111
def messageFriendListRequest : UInt32 := makeInt32 sidOther 122
def messageFriendListResponse : UInt32 := makeInt32 sidOther 123
def messageRemoveSessionRequest : UInt32 := makeInt32 sidOther 124
def messageRemoveSessionResponse : UInt32 := makeInt32 sidOther 125
def messageDepartmentRequest : UInt32 := makeInt32 sidOther 126
def messageDepartmentResponse : UInt32 := makeInt32 sidOther 127
def messageUsersInfoRequest : UInt32 := makeInt32 sidOther 130
def messageUsersInfoResponse : UInt32 := makeInt32 sidOther 131
def messageAllUserRequest : UInt32 := makeInt32 sidOther 132
def messageAllUserResponse : UInt32 := makeInt32 sidOther 133
def messageMsgData : UInt32 := makeInt32 sidOther 140
def messageUnreadMsgCountRequest : UInt32 := makeInt32 sidOther 141
def messageUnreadMsgCountResponse : UInt32 := makeInt32 sidOther 142
def messageUnreadMsgRequest : UInt32 := makeInt32 sidOther 143
def messageHistoryMsgRequest : UInt32 := makeInt32 sidOther 144
def messageMsgListResponse : UInt32 := makeInt32 sidOther 145
def messageMsgReadAck : UInt32 := makeInt32 sidOther 146
def messageDbQueryRequest : UInt32 := makeInt32 sidOther 170
def messageDbQueryResponse : UInt32 := makeInt32 sidOther 171
def messageDbWriteResponse : UInt32 := makeInt32 sidOther 180
def messageUserActionLog : UInt32 := makeInt32 sidOther 190
def messageGroupListRequest : UInt32 := makeInt32 sidOther 300
def messageGroupListResponse : UInt32 := makeInt32 sidOther 301
def messageGroupUserListRequest : UInt32 := makeInt32 sidOther 302
def messageGroupUserListResponse : UInt32 := makeInt32 sidOther 303
def messageGroupUnreadMsgCountRequest : UInt32 := makeInt32 sidOther 304
def messageGroupUnreadMsgCountResponse : UInt32 := makeInt32 sidOther 305
def messageGroupUnreadMsgRequest : UInt32 := makeInt32 sidOther 306
def messageGroupHistoryMsgRequest : UInt32 := makeInt32 sidOther 307
def messageGroupMsgListResponse : UInt32 := makeInt32 sidOther 308
def messageGroupMsgReadAck : UInt32 := makeInt32 sidOther 309
def messageGroupCreateTmpGroupRequest : UInt32 := makeInt32 sidOther 310
def messageGroupCreateTmpGroupResponse : UInt32 := makeInt32 sidOther 311
def messageGroupChangeMemberRequest : UInt32 := makeInt32 sidOther 312
def messageGroupChangeMemberResponse : UInt32 := makeInt32 sidOther 313
def messageGroupDialogListRequest : UInt32 := makeInt32 sidOther 314
def messageGroupDialogListResponse : UInt32 := makeInt32 sidOther 315
def messageGroupCreateNormalGroupNotify : UInt32 := makeInt32 sidOther 316
def messageGroupChangeMemberNotify : UInt32 := makeInt32 sidOther 317
def messageFileHasOfflineReq : UInt32 := makeInt32 sidOther 561
def messageFileHasOfflineRes : UInt32 := makeInt32 sidOther 562
def messageFileAddOfflineReq : UInt32 := makeInt32 sidOther 563
def messageFileDelOfflineReq : UInt32 := makeInt32 sidOther 564

end Zattd
