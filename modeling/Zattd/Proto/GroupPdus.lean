/-
  The messages about groups.

  Three classes stand out here.  `GroupChangeMemberRequest`'s reader does not visit the members
  its writer does, so it has no `lawful`; `GroupHistoryMsgRequest` passes up the message type
  of another class; and the two lists of groups encode `GroupInfo` differently, one with
  `group_updated` and one without.
-/
import Zattd.Proto.BaseData
import Zattd.Proto.BaseTeamTalkPdu
import Zattd.Proto.MessageTypes

set_option linter.unusedVariables false

namespace Zattd

/-! ### `GroupChangeMemberNotify` (`group_change_member_notify`) -/

structure GroupChangeMemberNotify where
  groupId : UInt32
  userList : List UInt32
  deriving Inhabited

namespace GroupChangeMemberNotify

def groupId_ : Slot GroupChangeMemberNotify :=
  .uint32 (·.groupId) fun v c => { c with groupId := v }
def userList_ : Slot GroupChangeMemberNotify :=
  .uint32s (·.userList) fun v c => { c with userList := v }

def layout : Layout GroupChangeMemberNotify where
  byteSize := [groupId_, userList_]
  parse := [groupId_, userList_]
  serialize := [groupId_, userList_]

instance : PduClass GroupChangeMemberNotify := layout.pduClass messageGroupChangeMemberNotify .null

theorem implements : layout.Implements := layout.pduClass_implements _ _

theorem lawful : layout.Lawful := {}

end GroupChangeMemberNotify

/-! ### `GroupChangeMemberRequest` (`group_change_member_request`) -/

structure GroupChangeMemberRequest where
  changeType : UInt32
  reqUserId : UInt32
  groupId : UInt32
  userList : List UInt32
  deriving Inhabited

namespace GroupChangeMemberRequest

def changeType_ : Slot GroupChangeMemberRequest :=
  .uint32 (·.changeType) fun v c => { c with changeType := v }
def reqUserId_ : Slot GroupChangeMemberRequest :=
  .uint32 (·.reqUserId) fun v c => { c with reqUserId := v }
def groupId_ : Slot GroupChangeMemberRequest :=
  .uint32 (·.groupId) fun v c => { c with groupId := v }
def userList_ : Slot GroupChangeMemberRequest :=
  .uint32s (·.userList) fun v c => { c with userList := v }

def layout : Layout GroupChangeMemberRequest where
  byteSize := [changeType_, reqUserId_, groupId_, userList_]
  parse := [reqUserId_, reqUserId_, groupId_, userList_]
  serialize := [changeType_, reqUserId_, groupId_, userList_]

instance : PduClass GroupChangeMemberRequest := layout.pduClass messageGroupChangeMemberRequest .db

theorem implements : layout.Implements := layout.pduClass_implements _ _

end GroupChangeMemberRequest

/-! ### `GroupChangeMemberResponse` (`group_change_member_response`) -/

structure GroupChangeMemberResponse where
  reqUserId : UInt32
  result : UInt32
  groupId : UInt32
  changeType : UInt32
  userList : List UInt32
  deriving Inhabited

namespace GroupChangeMemberResponse

def reqUserId_ : Slot GroupChangeMemberResponse :=
  .uint32 (·.reqUserId) fun v c => { c with reqUserId := v }
def result_ : Slot GroupChangeMemberResponse := .uint32 (·.result) fun v c => { c with result := v }
def groupId_ : Slot GroupChangeMemberResponse :=
  .uint32 (·.groupId) fun v c => { c with groupId := v }
def changeType_ : Slot GroupChangeMemberResponse :=
  .uint32 (·.changeType) fun v c => { c with changeType := v }
def userList_ : Slot GroupChangeMemberResponse :=
  .uint32s (·.userList) fun v c => { c with userList := v }

def layout : Layout GroupChangeMemberResponse where
  byteSize := [reqUserId_, result_, groupId_, changeType_, userList_]
  parse := [reqUserId_, result_, groupId_, changeType_, userList_]
  serialize := [reqUserId_, result_, groupId_, changeType_, userList_]

instance : PduClass GroupChangeMemberResponse :=
  layout.pduClass messageGroupChangeMemberResponse .db

theorem implements : layout.Implements := layout.pduClass_implements _ _

theorem lawful : layout.Lawful := {}

end GroupChangeMemberResponse

/-! ### `GroupCreateNormalGroupNotify` (`group_create_normal_group_notify`) -/

structure GroupCreateNormalGroupNotify where
  groupId : UInt32
  groupName : Bytes
  avatarName : Bytes
  userList : List UInt32
  deriving Inhabited

namespace GroupCreateNormalGroupNotify

def groupId_ : Slot GroupCreateNormalGroupNotify :=
  .uint32 (·.groupId) fun v c => { c with groupId := v }
def groupName_ : Slot GroupCreateNormalGroupNotify :=
  .string (·.groupName) fun v c => { c with groupName := v }
def avatarName_ : Slot GroupCreateNormalGroupNotify :=
  .string (·.avatarName) fun v c => { c with avatarName := v }
def userList_ : Slot GroupCreateNormalGroupNotify :=
  .uint32s (·.userList) fun v c => { c with userList := v }

def layout : Layout GroupCreateNormalGroupNotify where
  byteSize := [groupId_, groupName_, avatarName_, userList_]
  parse := [groupId_, groupName_, avatarName_, userList_]
  serialize := [groupId_, groupName_, avatarName_, userList_]

instance : PduClass GroupCreateNormalGroupNotify :=
  layout.pduClass messageGroupCreateNormalGroupNotify .null

theorem implements : layout.Implements := layout.pduClass_implements _ _

theorem lawful : layout.Lawful := {}

end GroupCreateNormalGroupNotify

/-! ### `GroupCreateTmpGroupRequest` (`group_create_tmp_group_request`) -/

structure GroupCreateTmpGroupRequest where
  reqUserId : UInt32
  groupName : Bytes
  groupAvatar : Bytes
  userList : List UInt32
  deriving Inhabited

namespace GroupCreateTmpGroupRequest

def reqUserId_ : Slot GroupCreateTmpGroupRequest :=
  .uint32 (·.reqUserId) fun v c => { c with reqUserId := v }
def groupName_ : Slot GroupCreateTmpGroupRequest :=
  .string (·.groupName) fun v c => { c with groupName := v }
def groupAvatar_ : Slot GroupCreateTmpGroupRequest :=
  .string (·.groupAvatar) fun v c => { c with groupAvatar := v }
def userList_ : Slot GroupCreateTmpGroupRequest :=
  .uint32s (·.userList) fun v c => { c with userList := v }

def layout : Layout GroupCreateTmpGroupRequest where
  byteSize := [reqUserId_, groupName_, groupAvatar_, userList_]
  parse := [reqUserId_, groupName_, groupAvatar_, userList_]
  serialize := [reqUserId_, groupName_, groupAvatar_, userList_]

instance : PduClass GroupCreateTmpGroupRequest :=
  layout.pduClass messageGroupCreateTmpGroupRequest .db

theorem implements : layout.Implements := layout.pduClass_implements _ _

theorem lawful : layout.Lawful := {}

end GroupCreateTmpGroupRequest

/-! ### `GroupCreateTmpGroupResponse` (`group_create_tmp_group_response`) -/

structure GroupCreateTmpGroupResponse where
  reqUserId : UInt32
  result : UInt32
  groupId : UInt32
  groupName : Bytes
  userList : List UInt32
  deriving Inhabited

namespace GroupCreateTmpGroupResponse

def reqUserId_ : Slot GroupCreateTmpGroupResponse :=
  .uint32 (·.reqUserId) fun v c => { c with reqUserId := v }
def result_ : Slot GroupCreateTmpGroupResponse :=
  .uint32 (·.result) fun v c => { c with result := v }
def groupId_ : Slot GroupCreateTmpGroupResponse :=
  .uint32 (·.groupId) fun v c => { c with groupId := v }
def groupName_ : Slot GroupCreateTmpGroupResponse :=
  .string (·.groupName) fun v c => { c with groupName := v }
def userList_ : Slot GroupCreateTmpGroupResponse :=
  .uint32s (·.userList) fun v c => { c with userList := v }

def layout : Layout GroupCreateTmpGroupResponse where
  byteSize := [reqUserId_, result_, groupId_, groupName_, userList_]
  parse := [reqUserId_, result_, groupId_, groupName_, userList_]
  serialize := [reqUserId_, result_, groupId_, groupName_, userList_]

instance : PduClass GroupCreateTmpGroupResponse :=
  layout.pduClass messageGroupCreateTmpGroupResponse .db

theorem implements : layout.Implements := layout.pduClass_implements _ _

theorem lawful : layout.Lawful := {}

end GroupCreateTmpGroupResponse

/-! ### `GroupDialogListRequest` (`group_dialog_list_request`) -/

structure GroupDialogListRequest where
  userId : UInt32
  deriving Inhabited

namespace GroupDialogListRequest

def userId_ : Slot GroupDialogListRequest := .uint32 (·.userId) fun v c => { c with userId := v }

def layout : Layout GroupDialogListRequest where
  byteSize := [userId_]
  parse := [userId_]
  serialize := [userId_]

instance : PduClass GroupDialogListRequest := layout.pduClass messageGroupDialogListRequest .db

theorem implements : layout.Implements := layout.pduClass_implements _ _

theorem lawful : layout.Lawful := {}

end GroupDialogListRequest

/-! ### `GroupDialogListResponse` (`group_dialog_list_response`) -/

structure GroupDialogListResponse where
  reqUserId : UInt32
  groupList : List GroupInfo
  deriving Inhabited

namespace GroupDialogListResponse

/-- The functions of this file for a `GroupInfo`. -/
def groupInfo : Layout GroupInfo where
  byteSize :=
    [GroupInfo.groupId_, GroupInfo.groupName_, GroupInfo.groupAvatar_, GroupInfo.groupType_,
     GroupInfo.groupCreatorId_, GroupInfo.groupUpdated_, GroupInfo.groupMemeberList_]
  parse :=
    [GroupInfo.groupId_, GroupInfo.groupName_, GroupInfo.groupAvatar_, GroupInfo.groupType_,
     GroupInfo.groupCreatorId_, GroupInfo.groupUpdated_, GroupInfo.groupMemeberList_]
  serialize :=
    [GroupInfo.groupId_, GroupInfo.groupName_, GroupInfo.groupAvatar_, GroupInfo.groupType_,
     GroupInfo.groupCreatorId_, GroupInfo.groupUpdated_, GroupInfo.groupMemeberList_]

theorem groupInfo_lawful : groupInfo.Lawful := {}

def reqUserId_ : Slot GroupDialogListResponse :=
  .uint32 (·.reqUserId) fun v c => { c with reqUserId := v }
def groupList_ : Slot GroupDialogListResponse :=
  .records groupInfo groupInfo_lawful .new (·.groupList)
    fun v c => { c with groupList := v }

def layout : Layout GroupDialogListResponse where
  byteSize := [reqUserId_, groupList_]
  parse := [reqUserId_, groupList_]
  serialize := [reqUserId_, groupList_]

instance : PduClass GroupDialogListResponse := layout.pduClass messageGroupDialogListResponse .db

theorem implements : layout.Implements := layout.pduClass_implements _ _

theorem lawful : layout.Lawful := {}

end GroupDialogListResponse

/-! ### `GroupHistoryMsgRequest` (`group_history_msg_request`) -/

structure GroupHistoryMsgRequest where
  reqUserId : UInt32
  groupId : UInt32
  msgOffset : UInt32
  msgCount : UInt32
  deriving Inhabited

namespace GroupHistoryMsgRequest

def reqUserId_ : Slot GroupHistoryMsgRequest :=
  .uint32 (·.reqUserId) fun v c => { c with reqUserId := v }
def groupId_ : Slot GroupHistoryMsgRequest := .uint32 (·.groupId) fun v c => { c with groupId := v }
def msgOffset_ : Slot GroupHistoryMsgRequest :=
  .uint32 (·.msgOffset) fun v c => { c with msgOffset := v }
def msgCount_ : Slot GroupHistoryMsgRequest :=
  .uint32 (·.msgCount) fun v c => { c with msgCount := v }

def layout : Layout GroupHistoryMsgRequest where
  byteSize := [reqUserId_, groupId_, msgOffset_, msgCount_]
  parse := [reqUserId_, groupId_, msgOffset_, msgCount_]
  serialize := [reqUserId_, groupId_, msgOffset_, msgCount_]

instance : PduClass GroupHistoryMsgRequest := layout.pduClass messageHistoryMsgRequest .db

theorem implements : layout.Implements := layout.pduClass_implements _ _

theorem lawful : layout.Lawful := {}

end GroupHistoryMsgRequest

/-! ### `GroupListRequest` (`group_list_request`) -/

structure GroupListRequest where
  userId : UInt32
  deriving Inhabited

namespace GroupListRequest

def userId_ : Slot GroupListRequest := .uint32 (·.userId) fun v c => { c with userId := v }

def layout : Layout GroupListRequest where
  byteSize := [userId_]
  parse := [userId_]
  serialize := [userId_]

instance : PduClass GroupListRequest := layout.pduClass messageGroupListRequest .db

theorem implements : layout.Implements := layout.pduClass_implements _ _

theorem lawful : layout.Lawful := {}

end GroupListRequest

/-! ### `GroupListResponse` (`group_list_response`) -/

structure GroupListResponse where
  reqUserId : UInt32
  groupList : List GroupInfo
  deriving Inhabited

namespace GroupListResponse

/-- The functions of this file for a `GroupInfo`. -/
def groupInfo : Layout GroupInfo where
  byteSize :=
    [GroupInfo.groupId_, GroupInfo.groupName_, GroupInfo.groupAvatar_, GroupInfo.groupType_,
     GroupInfo.groupCreatorId_, GroupInfo.groupMemeberList_]
  parse :=
    [GroupInfo.groupId_, GroupInfo.groupName_, GroupInfo.groupAvatar_, GroupInfo.groupType_,
     GroupInfo.groupCreatorId_, GroupInfo.groupMemeberList_]
  serialize :=
    [GroupInfo.groupId_, GroupInfo.groupName_, GroupInfo.groupAvatar_, GroupInfo.groupType_,
     GroupInfo.groupCreatorId_, GroupInfo.groupMemeberList_]

theorem groupInfo_lawful : groupInfo.Lawful := {}

def reqUserId_ : Slot GroupListResponse :=
  .uint32 (·.reqUserId) fun v c => { c with reqUserId := v }
def groupList_ : Slot GroupListResponse :=
  .records groupInfo groupInfo_lawful .new (·.groupList)
    fun v c => { c with groupList := v }

def layout : Layout GroupListResponse where
  byteSize := [reqUserId_, groupList_]
  parse := [reqUserId_, groupList_]
  serialize := [reqUserId_, groupList_]

instance : PduClass GroupListResponse := layout.pduClass messageGroupListResponse .db

theorem implements : layout.Implements := layout.pduClass_implements _ _

theorem lawful : layout.Lawful := {}

end GroupListResponse

/-! ### `GroupMsgListResponse` (`group_msg_list_response`) -/

structure GroupMsgListResponse where
  reqUserId : UInt32
  requestCmdId : UInt32
  groupId : UInt32
  msgList : List GroupMsg
  deriving Inhabited

namespace GroupMsgListResponse

/-- The functions of this file for a `GroupMsg`. -/
def groupMsg : Layout GroupMsg where
  byteSize := [GroupMsg.fromUserId_, GroupMsg.createTime_, GroupMsg.msgContent_]
  parse := [GroupMsg.fromUserId_, GroupMsg.createTime_, GroupMsg.msgContent_]
  serialize := [GroupMsg.fromUserId_, GroupMsg.createTime_, GroupMsg.msgContent_]

theorem groupMsg_lawful : groupMsg.Lawful := {}

def reqUserId_ : Slot GroupMsgListResponse :=
  .uint32 (·.reqUserId) fun v c => { c with reqUserId := v }
def requestCmdId_ : Slot GroupMsgListResponse :=
  .uint32 (·.requestCmdId) fun v c => { c with requestCmdId := v }
def groupId_ : Slot GroupMsgListResponse := .uint32 (·.groupId) fun v c => { c with groupId := v }
def msgList_ : Slot GroupMsgListResponse :=
  .records groupMsg groupMsg_lawful .new (·.msgList)
    fun v c => { c with msgList := v }

def layout : Layout GroupMsgListResponse where
  byteSize := [reqUserId_, requestCmdId_, groupId_, msgList_]
  parse := [reqUserId_, requestCmdId_, groupId_, msgList_]
  serialize := [reqUserId_, requestCmdId_, groupId_, msgList_]

instance : PduClass GroupMsgListResponse := layout.pduClass messageGroupMsgListResponse .db

theorem implements : layout.Implements := layout.pduClass_implements _ _

theorem lawful : layout.Lawful := {}

end GroupMsgListResponse

/-! ### `GroupMsgReadAck` (`group_msg_read_ack`) -/

structure GroupMsgReadAck where
  reqUserId : UInt32
  groupId : UInt32
  clientType : UInt32
  deriving Inhabited

namespace GroupMsgReadAck

def reqUserId_ : Slot GroupMsgReadAck := .uint32 (·.reqUserId) fun v c => { c with reqUserId := v }
def groupId_ : Slot GroupMsgReadAck := .uint32 (·.groupId) fun v c => { c with groupId := v }
def clientType_ : Slot GroupMsgReadAck :=
  .uint32 (·.clientType) fun v c => { c with clientType := v }

def layout : Layout GroupMsgReadAck where
  byteSize := [reqUserId_, groupId_, clientType_]
  parse := [reqUserId_, groupId_, clientType_]
  serialize := [reqUserId_, groupId_, clientType_]

instance : PduClass GroupMsgReadAck := layout.pduClass messageGroupMsgReadAck .null

theorem implements : layout.Implements := layout.pduClass_implements _ _

theorem lawful : layout.Lawful := {}

end GroupMsgReadAck

/-! ### `GroupUnreadMsgCountRequest` (`group_unread_msg_count_request`) -/

structure GroupUnreadMsgCountRequest where
  reqUserId : UInt32
  clientType : UInt32
  deriving Inhabited

namespace GroupUnreadMsgCountRequest

def reqUserId_ : Slot GroupUnreadMsgCountRequest :=
  .uint32 (·.reqUserId) fun v c => { c with reqUserId := v }
def clientType_ : Slot GroupUnreadMsgCountRequest :=
  .uint32 (·.clientType) fun v c => { c with clientType := v }

def layout : Layout GroupUnreadMsgCountRequest where
  byteSize := [reqUserId_, clientType_]
  parse := [reqUserId_, clientType_]
  serialize := [reqUserId_, clientType_]

instance : PduClass GroupUnreadMsgCountRequest :=
  layout.pduClass messageGroupUnreadMsgCountRequest .db

theorem implements : layout.Implements := layout.pduClass_implements _ _

theorem lawful : layout.Lawful := {}

end GroupUnreadMsgCountRequest

/-! ### `GroupUnreadMsgCountResponse` (`group_unread_msg_count_response`) -/

structure GroupUnreadMsgCountResponse where
  reqUserId : UInt32
  groupUnreadList : List GroupUnreadMsgCount
  deriving Inhabited

namespace GroupUnreadMsgCountResponse

/-- The functions of this file for a `GroupUnreadMsgCount`. -/
def groupUnreadMsgCount : Layout GroupUnreadMsgCount where
  byteSize := [GroupUnreadMsgCount.groupId_, GroupUnreadMsgCount.unreadMsgCount_]
  parse := [GroupUnreadMsgCount.groupId_, GroupUnreadMsgCount.unreadMsgCount_]
  serialize := [GroupUnreadMsgCount.groupId_, GroupUnreadMsgCount.unreadMsgCount_]

theorem groupUnreadMsgCount_lawful : groupUnreadMsgCount.Lawful := {}

def reqUserId_ : Slot GroupUnreadMsgCountResponse :=
  .uint32 (·.reqUserId) fun v c => { c with reqUserId := v }
def groupUnreadList_ : Slot GroupUnreadMsgCountResponse :=
  .records groupUnreadMsgCount groupUnreadMsgCount_lawful .new (·.groupUnreadList)
    fun v c => { c with groupUnreadList := v }

def layout : Layout GroupUnreadMsgCountResponse where
  byteSize := [reqUserId_, groupUnreadList_]
  parse := [reqUserId_, groupUnreadList_]
  serialize := [reqUserId_, groupUnreadList_]

instance : PduClass GroupUnreadMsgCountResponse :=
  layout.pduClass messageGroupUnreadMsgCountResponse .db

theorem implements : layout.Implements := layout.pduClass_implements _ _

theorem lawful : layout.Lawful := {}

end GroupUnreadMsgCountResponse

/-! ### `GroupUnreadMsgRequest` (`group_unread_msg_request`) -/

structure GroupUnreadMsgRequest where
  reqUserId : UInt32
  groupId : UInt32
  clientType : UInt32
  deriving Inhabited

namespace GroupUnreadMsgRequest

def reqUserId_ : Slot GroupUnreadMsgRequest :=
  .uint32 (·.reqUserId) fun v c => { c with reqUserId := v }
def groupId_ : Slot GroupUnreadMsgRequest := .uint32 (·.groupId) fun v c => { c with groupId := v }
def clientType_ : Slot GroupUnreadMsgRequest :=
  .uint32 (·.clientType) fun v c => { c with clientType := v }

def layout : Layout GroupUnreadMsgRequest where
  byteSize := [reqUserId_, groupId_, clientType_]
  parse := [reqUserId_, groupId_, clientType_]
  serialize := [reqUserId_, groupId_, clientType_]

instance : PduClass GroupUnreadMsgRequest := layout.pduClass messageGroupUnreadMsgRequest .db

theorem implements : layout.Implements := layout.pduClass_implements _ _

theorem lawful : layout.Lawful := {}

end GroupUnreadMsgRequest

/-! ### `GroupUserListRequest` (`group_user_list_request`) -/

structure GroupUserListRequest where
  reqUserId : UInt32
  groupId : UInt32
  deriving Inhabited

namespace GroupUserListRequest

def reqUserId_ : Slot GroupUserListRequest :=
  .uint32 (·.reqUserId) fun v c => { c with reqUserId := v }
def groupId_ : Slot GroupUserListRequest := .uint32 (·.groupId) fun v c => { c with groupId := v }

def layout : Layout GroupUserListRequest where
  byteSize := [reqUserId_, groupId_]
  parse := [reqUserId_, groupId_]
  serialize := [reqUserId_, groupId_]

instance : PduClass GroupUserListRequest := layout.pduClass messageGroupUserListRequest .db

theorem implements : layout.Implements := layout.pduClass_implements _ _

theorem lawful : layout.Lawful := {}

end GroupUserListRequest

/-! ### `GroupUserListResponse` (`group_user_list_response`) -/

structure GroupUserListResponse where
  reqUserId : UInt32
  groupId : UInt32
  result : UInt32
  groupName : Bytes
  groupAvatar : Bytes
  groupType : UInt32
  groupCreatorId : UInt32
  userList : List UInt32
  deriving Inhabited

namespace GroupUserListResponse

def reqUserId_ : Slot GroupUserListResponse :=
  .uint32 (·.reqUserId) fun v c => { c with reqUserId := v }
def groupId_ : Slot GroupUserListResponse := .uint32 (·.groupId) fun v c => { c with groupId := v }
def result_ : Slot GroupUserListResponse := .uint32 (·.result) fun v c => { c with result := v }
def groupName_ : Slot GroupUserListResponse :=
  .string (·.groupName) fun v c => { c with groupName := v }
def groupAvatar_ : Slot GroupUserListResponse :=
  .string (·.groupAvatar) fun v c => { c with groupAvatar := v }
def groupType_ : Slot GroupUserListResponse :=
  .uint32 (·.groupType) fun v c => { c with groupType := v }
def groupCreatorId_ : Slot GroupUserListResponse :=
  .uint32 (·.groupCreatorId) fun v c => { c with groupCreatorId := v }
def userList_ : Slot GroupUserListResponse :=
  .uint32s (·.userList) fun v c => { c with userList := v }

def layout : Layout GroupUserListResponse where
  byteSize :=
    [reqUserId_, groupId_, result_, groupName_, groupAvatar_, groupCreatorId_, groupType_,
     userList_]
  parse :=
    [reqUserId_, groupId_, result_, groupName_, groupAvatar_, groupType_, groupCreatorId_,
     userList_]
  serialize :=
    [reqUserId_, groupId_, result_, groupName_, groupAvatar_, groupType_, groupCreatorId_,
     userList_]

instance : PduClass GroupUserListResponse := layout.pduClass messageGroupUserListResponse .db

theorem implements : layout.Implements := layout.pduClass_implements _ _

theorem lawful : layout.Lawful where
  size_eq c := by
    -- the size function counts the creator before the type, the other two the type first
    simp only [layout, sizeAll_cons]
    omega

end GroupUserListResponse

end Zattd
