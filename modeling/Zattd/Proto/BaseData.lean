/-
  The records that messages carry lists of (`proto/base_data.h`).

  Each comes with its data members as wire SLOTS — the name of the member with the underscore the
  classes give their own members — and with `new`, what `new T()` makes: every integer zero.
  A record has no format of its own.  Each message class has its own functions for it, in its own
  file, and they do not all handle the same members.
-/
import Zattd.Lib.Layout

set_option linter.unusedVariables false

namespace Zattd

/-- A user, as the table `imusers` has it. -/
structure UserInfo where
  userId : UInt32
  name : Bytes
  nickName : Bytes
  avatarUrl : Bytes
  title : Bytes
  position : Bytes
  roleStatus : UInt32
  sex : UInt32
  departId : UInt32
  jobNum : UInt32
  telphone : Bytes
  email : Bytes
  userUpdated : UInt32
  deriving DecidableEq

namespace UserInfo

/-- `new UserInfo()`. -/
def new : UserInfo := ⟨0, [], [], [], [], [], 0, 0, 0, 0, [], [], 0⟩

def userId_ : Slot UserInfo := .uint32 (·.userId) fun v c => { c with userId := v }
def name_ : Slot UserInfo := .string (·.name) fun v c => { c with name := v }
def nickName_ : Slot UserInfo := .string (·.nickName) fun v c => { c with nickName := v }
def avatarUrl_ : Slot UserInfo := .string (·.avatarUrl) fun v c => { c with avatarUrl := v }
def title_ : Slot UserInfo := .string (·.title) fun v c => { c with title := v }
def position_ : Slot UserInfo := .string (·.position) fun v c => { c with position := v }
def roleStatus_ : Slot UserInfo := .uint32 (·.roleStatus) fun v c => { c with roleStatus := v }
def sex_ : Slot UserInfo := .uint32 (·.sex) fun v c => { c with sex := v }
def departId_ : Slot UserInfo := .uint32 (·.departId) fun v c => { c with departId := v }
def jobNum_ : Slot UserInfo := .uint32 (·.jobNum) fun v c => { c with jobNum := v }
def telphone_ : Slot UserInfo := .string (·.telphone) fun v c => { c with telphone := v }
def email_ : Slot UserInfo := .string (·.email) fun v c => { c with email := v }
def userUpdated_ : Slot UserInfo := .uint32 (·.userUpdated) fun v c => { c with userUpdated := v }

end UserInfo

/-- A recent contact: the other user, and when the contact was last updated. -/
structure FriendInfo where
  friendUserId : UInt32
  updated : UInt32
  deriving DecidableEq

namespace FriendInfo

/-- `new FriendInfo()`. -/
def new : FriendInfo := ⟨0, 0⟩

def friendUserId_ : Slot FriendInfo :=
  .uint32 (·.friendUserId) fun v c => { c with friendUserId := v }
def updated_ : Slot FriendInfo := .uint32 (·.updated) fun v c => { c with updated := v }

end FriendInfo

/-- A department; `status` is 0 for a valid one, 1 for a deleted one. -/
structure DepartmentInfo where
  departId : UInt32
  title : Bytes
  description : Bytes
  parentDepartId : UInt32
  leader : UInt32
  status : UInt32
  deriving DecidableEq

namespace DepartmentInfo

/-- `new DepartmentInfo()`. -/
def new : DepartmentInfo := ⟨0, [], [], 0, 0, 0⟩

def departId_ : Slot DepartmentInfo := .uint32 (·.departId) fun v c => { c with departId := v }
def title_ : Slot DepartmentInfo := .string (·.title) fun v c => { c with title := v }
def description_ : Slot DepartmentInfo :=
  .string (·.description) fun v c => { c with description := v }
def parentDepartId_ : Slot DepartmentInfo :=
  .uint32 (·.parentDepartId) fun v c => { c with parentDepartId := v }
def leader_ : Slot DepartmentInfo := .uint32 (·.leader) fun v c => { c with leader := v }
def status_ : Slot DepartmentInfo := .uint32 (·.status) fun v c => { c with status := v }

end DepartmentInfo

/-- How many unread messages there are from a user. -/
structure UserUnreadMsgCount where
  fromUserId : UInt32
  unreadMsgCount : UInt32
  deriving DecidableEq

namespace UserUnreadMsgCount

/-- `new UserUnreadMsgCount()`. -/
def new : UserUnreadMsgCount := ⟨0, 0⟩

def fromUserId_ : Slot UserUnreadMsgCount :=
  .uint32 (·.fromUserId) fun v c => { c with fromUserId := v }
def unreadMsgCount_ : Slot UserUnreadMsgCount :=
  .uint32 (·.unreadMsgCount) fun v c => { c with unreadMsgCount := v }

end UserUnreadMsgCount

/-- A message between two users, with its sender. -/
structure ServerMsg where
  fromUserId : UInt32
  fromName : Bytes
  fromNickName : Bytes
  fromAvatarUrl : Bytes
  createTime : UInt32
  msgType : UInt8
  msgData : Bytes
  deriving DecidableEq

namespace ServerMsg

/-- `new ServerMsg()`. -/
def new : ServerMsg := ⟨0, [], [], [], 0, 0, []⟩

def fromUserId_ : Slot ServerMsg := .uint32 (·.fromUserId) fun v c => { c with fromUserId := v }
def fromName_ : Slot ServerMsg := .string (·.fromName) fun v c => { c with fromName := v }
def fromNickName_ : Slot ServerMsg :=
  .string (·.fromNickName) fun v c => { c with fromNickName := v }
def fromAvatarUrl_ : Slot ServerMsg :=
  .string (·.fromAvatarUrl) fun v c => { c with fromAvatarUrl := v }
def createTime_ : Slot ServerMsg := .uint32 (·.createTime) fun v c => { c with createTime := v }
def msgType_ : Slot ServerMsg := .uint8 (·.msgType) fun v c => { c with msgType := v }
def msgData_ : Slot ServerMsg := .string (·.msgData) fun v c => { c with msgData := v }

end ServerMsg

/-- A group with its members; `groupType` is 1 for a normal group, 2 for a temporary one. -/
structure GroupInfo where
  groupId : UInt32
  groupName : Bytes
  groupAvatar : Bytes
  groupCreatorId : UInt32
  groupType : UInt32
  groupUpdated : UInt32
  groupMemeberList : List UInt32
  deriving DecidableEq, Inhabited

namespace GroupInfo

/-- `new GroupInfo()`. -/
def new : GroupInfo := ⟨0, [], [], 0, 0, 0, []⟩

def groupId_ : Slot GroupInfo := .uint32 (·.groupId) fun v c => { c with groupId := v }
def groupName_ : Slot GroupInfo := .string (·.groupName) fun v c => { c with groupName := v }
def groupAvatar_ : Slot GroupInfo := .string (·.groupAvatar) fun v c => { c with groupAvatar := v }
def groupCreatorId_ : Slot GroupInfo :=
  .uint32 (·.groupCreatorId) fun v c => { c with groupCreatorId := v }
def groupType_ : Slot GroupInfo := .uint32 (·.groupType) fun v c => { c with groupType := v }
def groupUpdated_ : Slot GroupInfo :=
  .uint32 (·.groupUpdated) fun v c => { c with groupUpdated := v }
def groupMemeberList_ : Slot GroupInfo :=
  .uint32s (·.groupMemeberList) fun v c => { c with groupMemeberList := v }

end GroupInfo

/-- How many unread messages there are in a group. -/
structure GroupUnreadMsgCount where
  groupId : UInt32
  unreadMsgCount : UInt32
  deriving DecidableEq

namespace GroupUnreadMsgCount

/-- `new GroupUnreadMsgCount()`. -/
def new : GroupUnreadMsgCount := ⟨0, 0⟩

def groupId_ : Slot GroupUnreadMsgCount := .uint32 (·.groupId) fun v c => { c with groupId := v }
def unreadMsgCount_ : Slot GroupUnreadMsgCount :=
  .uint32 (·.unreadMsgCount) fun v c => { c with unreadMsgCount := v }

end GroupUnreadMsgCount

/-- A message of a group. -/
structure GroupMsg where
  fromUserId : UInt32
  createTime : UInt32
  msgContent : Bytes
  deriving DecidableEq

namespace GroupMsg

/-- `new GroupMsg()`. -/
def new : GroupMsg := ⟨0, 0, []⟩

def fromUserId_ : Slot GroupMsg := .uint32 (·.fromUserId) fun v c => { c with fromUserId := v }
def createTime_ : Slot GroupMsg := .uint32 (·.createTime) fun v c => { c with createTime := v }
def msgContent_ : Slot GroupMsg := .string (·.msgContent) fun v c => { c with msgContent := v }

end GroupMsg

/-- A file waiting for its receiver. -/
structure OfflineFile where
  fromId : UInt32
  taskId : Bytes
  fileName : Bytes
  fileSize : UInt32
  deriving DecidableEq

namespace OfflineFile

/-- `new OfflineFile()`. -/
def new : OfflineFile := ⟨0, [], [], 0⟩

def fromId_ : Slot OfflineFile := .uint32 (·.fromId) fun v c => { c with fromId := v }
def taskId_ : Slot OfflineFile := .string (·.taskId) fun v c => { c with taskId := v }
def fileName_ : Slot OfflineFile := .string (·.fileName) fun v c => { c with fileName := v }
def fileSize_ : Slot OfflineFile := .uint32 (·.fileSize) fun v c => { c with fileSize := v }

end OfflineFile

end Zattd
