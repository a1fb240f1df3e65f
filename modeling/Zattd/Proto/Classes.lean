/-
  All message classes of `proto/` together, and the ROUND TRIP of the lawful ones.

  `PduName` enumerates the classes, so that "for every class" is a quantifier, and a message of SOME
  class (what the packet parser returns) is a pair.  All but `ValidateResponse` have a layout, all
  but `GroupChangeMemberRequest` of these a lawful one; for the rest one argument serves them all.
-/
import Zattd.Proto.GroupPdus
import Zattd.Proto.MsgPdus
import Zattd.Proto.StorePdus
import Zattd.Proto.UserPdus
import Zattd.Proto.ValidateResponse

set_option linter.unusedVariables false

namespace Zattd

/-- The name of a message class. -/
inductive PduName
  | allUserRequest
  | allUserResponse
  | dbQueryRequest
  | dbQueryResponse
  | dbWriteResponse
  | departmentRequest
  | departmentResponse
  | fileAddOfflineReq
  | fileDelOfflineReq
  | fileHasOfflineReq
  | fileHasOfflineRes
  | friendListRequest
  | friendListResponse
  | groupChangeMemberNotify
  | groupChangeMemberRequest
  | groupChangeMemberResponse
  | groupCreateNormalGroupNotify
  | groupCreateTmpGroupRequest
  | groupCreateTmpGroupResponse
  | groupDialogListRequest
  | groupDialogListResponse
  | groupHistoryMsgRequest
  | groupListRequest
  | groupListResponse
  | groupMsgListResponse
  | groupMsgReadAck
  | groupUnreadMsgCountRequest
  | groupUnreadMsgCountResponse
  | groupUnreadMsgRequest
  | groupUserListRequest
  | groupUserListResponse
  | historyMsgRequest
  | msgData
  | msgListResponse
  | msgReadAck
  | removeSessionRequest
  | removeSessionResponse
  | stopReceivePacket
  | unreadMsgCountRequest
  | unreadMsgCountResponse
  | unreadMsgRequest
  | userActionLog
  | usersInfoRequest
  | usersInfoResponse
  | validateRequest
  | validateResponse
  deriving DecidableEq

namespace PduName

/-- The class of that name. -/
def Body : PduName → Type
  | allUserRequest => AllUserRequest
  | allUserResponse => AllUserResponse
  | dbQueryRequest => DBQueryRequest
  | dbQueryResponse => DBQueryResponse
  | dbWriteResponse => DBWriteResponse
  | departmentRequest => DepartmentRequest
  | departmentResponse => DepartmentResponse
  | fileAddOfflineReq => FileAddOfflineReq
  | fileDelOfflineReq => FileDelOfflineReq
  | fileHasOfflineReq => FileHasOfflineReq
  | fileHasOfflineRes => FileHasOfflineRes
  | friendListRequest => FriendListRequest
  | friendListResponse => FriendListResponse
  | groupChangeMemberNotify => GroupChangeMemberNotify
  | groupChangeMemberRequest => GroupChangeMemberRequest
  | groupChangeMemberResponse => GroupChangeMemberResponse
  | groupCreateNormalGroupNotify => GroupCreateNormalGroupNotify
  | groupCreateTmpGroupRequest => GroupCreateTmpGroupRequest
  | groupCreateTmpGroupResponse => GroupCreateTmpGroupResponse
  | groupDialogListRequest => GroupDialogListRequest
  | groupDialogListResponse => GroupDialogListResponse
  | groupHistoryMsgRequest => GroupHistoryMsgRequest
  | groupListRequest => GroupListRequest
  | groupListResponse => GroupListResponse
  | groupMsgListResponse => GroupMsgListResponse
  | groupMsgReadAck => GroupMsgReadAck
  | groupUnreadMsgCountRequest => GroupUnreadMsgCountRequest
  | groupUnreadMsgCountResponse => GroupUnreadMsgCountResponse
  | groupUnreadMsgRequest => GroupUnreadMsgRequest
  | groupUserListRequest => GroupUserListRequest
  | groupUserListResponse => GroupUserListResponse
  | historyMsgRequest => HistoryMsgRequest
  | msgData => MsgData
  | msgListResponse => MsgListResponse
  | msgReadAck => MsgReadAck
  | removeSessionRequest => RemoveSessionRequest
  | removeSessionResponse => RemoveSessionResponse
  | stopReceivePacket => StopReceivePacket
  | unreadMsgCountRequest => UnreadMsgCountRequest
  | unreadMsgCountResponse => UnreadMsgCountResponse
  | unreadMsgRequest => UnreadMsgRequest
  | userActionLog => UserActionLog
  | usersInfoRequest => UsersInfoRequest
  | usersInfoResponse => UsersInfoResponse
  | validateRequest => ValidateRequest
  | validateResponse => ValidateResponse

instance (n : PduName) : PduClass n.Body :=
  match n with
  | allUserRequest => inferInstanceAs (PduClass AllUserRequest)
  | allUserResponse => inferInstanceAs (PduClass AllUserResponse)
  | dbQueryRequest => inferInstanceAs (PduClass DBQueryRequest)
  | dbQueryResponse => inferInstanceAs (PduClass DBQueryResponse)
  | dbWriteResponse => inferInstanceAs (PduClass DBWriteResponse)
  | departmentRequest => inferInstanceAs (PduClass DepartmentRequest)
  | departmentResponse => inferInstanceAs (PduClass DepartmentResponse)
  | fileAddOfflineReq => inferInstanceAs (PduClass FileAddOfflineReq)
  | fileDelOfflineReq => inferInstanceAs (PduClass FileDelOfflineReq)
  | fileHasOfflineReq => inferInstanceAs (PduClass FileHasOfflineReq)
  | fileHasOfflineRes => inferInstanceAs (PduClass FileHasOfflineRes)
  | friendListRequest => inferInstanceAs (PduClass FriendListRequest)
  | friendListResponse => inferInstanceAs (PduClass FriendListResponse)
  | groupChangeMemberNotify => inferInstanceAs (PduClass GroupChangeMemberNotify)
  | groupChangeMemberRequest => inferInstanceAs (PduClass GroupChangeMemberRequest)
  | groupChangeMemberResponse => inferInstanceAs (PduClass GroupChangeMemberResponse)
  | groupCreateNormalGroupNotify => inferInstanceAs (PduClass GroupCreateNormalGroupNotify)
  | groupCreateTmpGroupRequest => inferInstanceAs (PduClass GroupCreateTmpGroupRequest)
  | groupCreateTmpGroupResponse => inferInstanceAs (PduClass GroupCreateTmpGroupResponse)
  | groupDialogListRequest => inferInstanceAs (PduClass GroupDialogListRequest)
  | groupDialogListResponse => inferInstanceAs (PduClass GroupDialogListResponse)
  | groupHistoryMsgRequest => inferInstanceAs (PduClass GroupHistoryMsgRequest)
  | groupListRequest => inferInstanceAs (PduClass GroupListRequest)
  | groupListResponse => inferInstanceAs (PduClass GroupListResponse)
  | groupMsgListResponse => inferInstanceAs (PduClass GroupMsgListResponse)
  | groupMsgReadAck => inferInstanceAs (PduClass GroupMsgReadAck)
  | groupUnreadMsgCountRequest => inferInstanceAs (PduClass GroupUnreadMsgCountRequest)
  | groupUnreadMsgCountResponse => inferInstanceAs (PduClass GroupUnreadMsgCountResponse)
  | groupUnreadMsgRequest => inferInstanceAs (PduClass GroupUnreadMsgRequest)
  | groupUserListRequest => inferInstanceAs (PduClass GroupUserListRequest)
  | groupUserListResponse => inferInstanceAs (PduClass GroupUserListResponse)
  | historyMsgRequest => inferInstanceAs (PduClass HistoryMsgRequest)
  | msgData => inferInstanceAs (PduClass MsgData)
  | msgListResponse => inferInstanceAs (PduClass MsgListResponse)
  | msgReadAck => inferInstanceAs (PduClass MsgReadAck)
  | removeSessionRequest => inferInstanceAs (PduClass RemoveSessionRequest)
  | removeSessionResponse => inferInstanceAs (PduClass RemoveSessionResponse)
  | stopReceivePacket => inferInstanceAs (PduClass StopReceivePacket)
  | unreadMsgCountRequest => inferInstanceAs (PduClass UnreadMsgCountRequest)
  | unreadMsgCountResponse => inferInstanceAs (PduClass UnreadMsgCountResponse)
  | unreadMsgRequest => inferInstanceAs (PduClass UnreadMsgRequest)
  | userActionLog => inferInstanceAs (PduClass UserActionLog)
  | usersInfoRequest => inferInstanceAs (PduClass UsersInfoRequest)
  | usersInfoResponse => inferInstanceAs (PduClass UsersInfoResponse)
  | validateRequest => inferInstanceAs (PduClass ValidateRequest)
  | validateResponse => inferInstanceAs (PduClass ValidateResponse)

instance (n : PduName) : Inhabited n.Body := by
  cases n <;> (dsimp only [Body]; infer_instance)

/-- The layout of a class that has one. -/
def layout : (n : PduName) → n ≠ validateResponse → Layout n.Body
  | allUserRequest, _ => AllUserRequest.layout
  | allUserResponse, _ => AllUserResponse.layout
  | dbQueryRequest, _ => DBQueryRequest.layout
  | dbQueryResponse, _ => DBQueryResponse.layout
  | dbWriteResponse, _ => DBWriteResponse.layout
  | departmentRequest, _ => DepartmentRequest.layout
  | departmentResponse, _ => DepartmentResponse.layout
  | fileAddOfflineReq, _ => FileAddOfflineReq.layout
  | fileDelOfflineReq, _ => FileDelOfflineReq.layout
  | fileHasOfflineReq, _ => FileHasOfflineReq.layout
  | fileHasOfflineRes, _ => FileHasOfflineRes.layout
  | friendListRequest, _ => FriendListRequest.layout
  | friendListResponse, _ => FriendListResponse.layout
  | groupChangeMemberNotify, _ => GroupChangeMemberNotify.layout
  | groupChangeMemberRequest, _ => GroupChangeMemberRequest.layout
  | groupChangeMemberResponse, _ => GroupChangeMemberResponse.layout
  | groupCreateNormalGroupNotify, _ => GroupCreateNormalGroupNotify.layout
  | groupCreateTmpGroupRequest, _ => GroupCreateTmpGroupRequest.layout
  | groupCreateTmpGroupResponse, _ => GroupCreateTmpGroupResponse.layout
  | groupDialogListRequest, _ => GroupDialogListRequest.layout
  | groupDialogListResponse, _ => GroupDialogListResponse.layout
  | groupHistoryMsgRequest, _ => GroupHistoryMsgRequest.layout
  | groupListRequest, _ => GroupListRequest.layout
  | groupListResponse, _ => GroupListResponse.layout
  | groupMsgListResponse, _ => GroupMsgListResponse.layout
  | groupMsgReadAck, _ => GroupMsgReadAck.layout
  | groupUnreadMsgCountRequest, _ => GroupUnreadMsgCountRequest.layout
  | groupUnreadMsgCountResponse, _ => GroupUnreadMsgCountResponse.layout
  | groupUnreadMsgRequest, _ => GroupUnreadMsgRequest.layout
  | groupUserListRequest, _ => GroupUserListRequest.layout
  | groupUserListResponse, _ => GroupUserListResponse.layout
  | historyMsgRequest, _ => HistoryMsgRequest.layout
  | msgData, _ => MsgData.layout
  | msgListResponse, _ => MsgListResponse.layout
  | msgReadAck, _ => MsgReadAck.layout
  | removeSessionRequest, _ => RemoveSessionRequest.layout
  | removeSessionResponse, _ => RemoveSessionResponse.layout
  | stopReceivePacket, _ => StopReceivePacket.layout
  | unreadMsgCountRequest, _ => UnreadMsgCountRequest.layout
  | unreadMsgCountResponse, _ => UnreadMsgCountResponse.layout
  | unreadMsgRequest, _ => UnreadMsgRequest.layout
  | userActionLog, _ => UserActionLog.layout
  | usersInfoRequest, _ => UsersInfoRequest.layout
  | usersInfoResponse, _ => UsersInfoResponse.layout
  | validateRequest, _ => ValidateRequest.layout
  | validateResponse, h => absurd rfl h

/-- The functions of each class are those of its layout. -/
theorem layout_implements : (n : PduName) → (h : n ≠ validateResponse) → (n.layout h).Implements
  | allUserRequest, _ => AllUserRequest.implements
  | allUserResponse, _ => AllUserResponse.implements
  | dbQueryRequest, _ => DBQueryRequest.implements
  | dbQueryResponse, _ => DBQueryResponse.implements
  | dbWriteResponse, _ => DBWriteResponse.implements
  | departmentRequest, _ => DepartmentRequest.implements
  | departmentResponse, _ => DepartmentResponse.implements
  | fileAddOfflineReq, _ => FileAddOfflineReq.implements
  | fileDelOfflineReq, _ => FileDelOfflineReq.implements
  | fileHasOfflineReq, _ => FileHasOfflineReq.implements
  | fileHasOfflineRes, _ => FileHasOfflineRes.implements
  | friendListRequest, _ => FriendListRequest.implements
  | friendListResponse, _ => FriendListResponse.implements
  | groupChangeMemberNotify, _ => GroupChangeMemberNotify.implements
  | groupChangeMemberRequest, _ => GroupChangeMemberRequest.implements
  | groupChangeMemberResponse, _ => GroupChangeMemberResponse.implements
  | groupCreateNormalGroupNotify, _ => GroupCreateNormalGroupNotify.implements
  | groupCreateTmpGroupRequest, _ => GroupCreateTmpGroupRequest.implements
  | groupCreateTmpGroupResponse, _ => GroupCreateTmpGroupResponse.implements
  | groupDialogListRequest, _ => GroupDialogListRequest.implements
  | groupDialogListResponse, _ => GroupDialogListResponse.implements
  | groupHistoryMsgRequest, _ => GroupHistoryMsgRequest.implements
  | groupListRequest, _ => GroupListRequest.implements
  | groupListResponse, _ => GroupListResponse.implements
  | groupMsgListResponse, _ => GroupMsgListResponse.implements
  | groupMsgReadAck, _ => GroupMsgReadAck.implements
  | groupUnreadMsgCountRequest, _ => GroupUnreadMsgCountRequest.implements
  | groupUnreadMsgCountResponse, _ => GroupUnreadMsgCountResponse.implements
  | groupUnreadMsgRequest, _ => GroupUnreadMsgRequest.implements
  | groupUserListRequest, _ => GroupUserListRequest.implements
  | groupUserListResponse, _ => GroupUserListResponse.implements
  | historyMsgRequest, _ => HistoryMsgRequest.implements
  | msgData, _ => MsgData.implements
  | msgListResponse, _ => MsgListResponse.implements
  | msgReadAck, _ => MsgReadAck.implements
  | removeSessionRequest, _ => RemoveSessionRequest.implements
  | removeSessionResponse, _ => RemoveSessionResponse.implements
  | stopReceivePacket, _ => StopReceivePacket.implements
  | unreadMsgCountRequest, _ => UnreadMsgCountRequest.implements
  | unreadMsgCountResponse, _ => UnreadMsgCountResponse.implements
  | unreadMsgRequest, _ => UnreadMsgRequest.implements
  | userActionLog, _ => UserActionLog.implements
  | usersInfoRequest, _ => UsersInfoRequest.implements
  | usersInfoResponse, _ => UsersInfoResponse.implements
  | validateRequest, _ => ValidateRequest.implements
  | validateResponse, h => absurd rfl h

/-- And the layout of each class but one reads what it writes. -/
theorem layout_lawful : (n : PduName) → (h : n ≠ validateResponse) → n ≠ groupChangeMemberRequest →
    (n.layout h).Lawful
  | allUserRequest, _, _ => AllUserRequest.lawful
  | allUserResponse, _, _ => AllUserResponse.lawful
  | dbQueryRequest, _, _ => DBQueryRequest.lawful
  | dbQueryResponse, _, _ => DBQueryResponse.lawful
  | dbWriteResponse, _, _ => DBWriteResponse.lawful
  | departmentRequest, _, _ => DepartmentRequest.lawful
  | departmentResponse, _, _ => DepartmentResponse.lawful
  | fileAddOfflineReq, _, _ => FileAddOfflineReq.lawful
  | fileDelOfflineReq, _, _ => FileDelOfflineReq.lawful
  | fileHasOfflineReq, _, _ => FileHasOfflineReq.lawful
  | fileHasOfflineRes, _, _ => FileHasOfflineRes.lawful
  | friendListRequest, _, _ => FriendListRequest.lawful
  | friendListResponse, _, _ => FriendListResponse.lawful
  | groupChangeMemberNotify, _, _ => GroupChangeMemberNotify.lawful
  | groupChangeMemberRequest, _, h => absurd rfl h
  | groupChangeMemberResponse, _, _ => GroupChangeMemberResponse.lawful
  | groupCreateNormalGroupNotify, _, _ => GroupCreateNormalGroupNotify.lawful
  | groupCreateTmpGroupRequest, _, _ => GroupCreateTmpGroupRequest.lawful
  | groupCreateTmpGroupResponse, _, _ => GroupCreateTmpGroupResponse.lawful
  | groupDialogListRequest, _, _ => GroupDialogListRequest.lawful
  | groupDialogListResponse, _, _ => GroupDialogListResponse.lawful
  | groupHistoryMsgRequest, _, _ => GroupHistoryMsgRequest.lawful
  | groupListRequest, _, _ => GroupListRequest.lawful
  | groupListResponse, _, _ => GroupListResponse.lawful
  | groupMsgListResponse, _, _ => GroupMsgListResponse.lawful
  | groupMsgReadAck, _, _ => GroupMsgReadAck.lawful
  | groupUnreadMsgCountRequest, _, _ => GroupUnreadMsgCountRequest.lawful
  | groupUnreadMsgCountResponse, _, _ => GroupUnreadMsgCountResponse.lawful
  | groupUnreadMsgRequest, _, _ => GroupUnreadMsgRequest.lawful
  | groupUserListRequest, _, _ => GroupUserListRequest.lawful
  | groupUserListResponse, _, _ => GroupUserListResponse.lawful
  | historyMsgRequest, _, _ => HistoryMsgRequest.lawful
  | msgData, _, _ => MsgData.lawful
  | msgListResponse, _, _ => MsgListResponse.lawful
  | msgReadAck, _, _ => MsgReadAck.lawful
  | removeSessionRequest, _, _ => RemoveSessionRequest.lawful
  | removeSessionResponse, _, _ => RemoveSessionResponse.lawful
  | stopReceivePacket, _, _ => StopReceivePacket.lawful
  | unreadMsgCountRequest, _, _ => UnreadMsgCountRequest.lawful
  | unreadMsgCountResponse, _, _ => UnreadMsgCountResponse.lawful
  | unreadMsgRequest, _, _ => UnreadMsgRequest.lawful
  | userActionLog, _, _ => UserActionLog.lawful
  | usersInfoRequest, _, _ => UsersInfoRequest.lawful
  | usersInfoResponse, _, _ => UsersInfoResponse.lawful
  | validateRequest, _, _ => ValidateRequest.lawful
  | validateResponse, h, _ => absurd rfl h

/-- **Round trip.**  A message whose encoding fits 32 bits, written into a buffer of `ByteSize()`
    bytes, is accepted by a fresh object of its class, and every field the class puts on the wire
    is there again, and the attach data. -/
theorem round_trip (bo : ByteOrder) (n : PduName) (hn : n ≠ validateResponse)
    (hn' : n ≠ groupChangeMemberRequest) (m mem : Pdu n.Body)
    (hlen : ((n.layout hn).encode bo m).length < 2 ^ 32) :
    ∃ data m', m.serializeToArray bo m.byteSize.toNat = (true, data) ∧
      Pdu.parseFromArray bo data (Pdu.new mem) = (true, m') ∧ (n.layout hn).SameOnWire m' m := by
  have himpl := n.layout_implements hn
  have hlaw := n.layout_lawful hn hn'
  have hsize := Layout.byteSize_toNat himpl hlaw.size_eq bo m hlen
  refine ⟨(n.layout hn).encode bo m, (n.layout hn).restore m (Pdu.new mem), ?_, ?_, ?_⟩
  · exact Layout.serializeToArray_fits himpl bo m (Nat.le_of_eq hsize.symm)
  · exact Layout.parseFromArray_encode himpl hlaw.parse_eq bo m (Pdu.new mem) hlen
  · exact Layout.sameOnWire_restore himpl hlaw m mem

/-- A text message from 1 to 2 on its way. -/
def textMessage : Pdu msgData.Body where
  attachData := [9]
  reserved := 0
  body :=
    { requestId := 5, fromUserId := 1, toUserId := 2, createTime := 0, msgType := 1, msgData := [104, 105] }

/-- Another one, which is in the memory that it is parsed into. -/
def audioMessage : Pdu msgData.Body where
  attachData := [7, 7]
  reserved := 3
  body :=
    { requestId := 6, fromUserId := 3, toUserId := 4, createTime := 9, msgType := 2, msgData := [1, 2, 3] }

/-- What is read is the text, whatever the memory was used for. -/
theorem round_trip_textMessage :
    ∃ data m', textMessage.serializeToArray .big textMessage.byteSize.toNat = (true, data) ∧
      Pdu.parseFromArray .big data (Pdu.new audioMessage) = (true, m') ∧
      (msgData.layout (by decide)).SameOnWire m' textMessage :=
  round_trip .big msgData (by decide) (by decide) textMessage audioMessage (by decide)

end PduName

end Zattd
