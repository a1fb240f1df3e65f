/-
  The messages about users: login, user records, departments, recent contacts.

  Every class has the same shape: its members, each as a wire slot; the LAYOUT, that is the members
  its `ByteSize`, `ParseFromByteStream` and `SerializeToByteStream` handle, each in the order of
  that function; and the proof that the three are in step.  A class that carries a list of records
  also has the layout of the record, from the functions at the top of its own file.

  `ValidateResponse` does not have this shape and is in a module of its own.
-/
import Zattd.Proto.BaseData
import Zattd.Proto.BaseTeamTalkPdu
import Zattd.Proto.MessageTypes

set_option linter.unusedVariables false

namespace Zattd

/-! ### `AllUserRequest` (`all_user_request`) -/

structure AllUserRequest where
  reqUserId : UInt32
  deriving Inhabited

namespace AllUserRequest

def reqUserId_ : Slot AllUserRequest := .uint32 (·.reqUserId) fun v c => { c with reqUserId := v }

def layout : Layout AllUserRequest where
  byteSize := [reqUserId_]
  parse := [reqUserId_]
  serialize := [reqUserId_]

instance : PduClass AllUserRequest := layout.pduClass messageAllUserRequest .db

theorem implements : layout.Implements := layout.pduClass_implements _ _

theorem lawful : layout.Lawful := {}

end AllUserRequest

/-! ### `AllUserResponse` (`all_user_response`) -/

structure AllUserResponse where
  fromUserId : UInt32
  userInfoList : List UserInfo
  deriving Inhabited

namespace AllUserResponse

/-- The functions of this file for a `UserInfo`. -/
def userInfo : Layout UserInfo where
  byteSize :=
    [UserInfo.userId_, UserInfo.name_, UserInfo.nickName_, UserInfo.avatarUrl_, UserInfo.title_,
     UserInfo.position_, UserInfo.roleStatus_, UserInfo.sex_, UserInfo.departId_,
     UserInfo.jobNum_, UserInfo.telphone_, UserInfo.email_]
  parse :=
    [UserInfo.userId_, UserInfo.name_, UserInfo.nickName_, UserInfo.avatarUrl_, UserInfo.title_,
     UserInfo.position_, UserInfo.roleStatus_, UserInfo.sex_, UserInfo.departId_,
     UserInfo.jobNum_, UserInfo.telphone_, UserInfo.email_]
  serialize :=
    [UserInfo.userId_, UserInfo.name_, UserInfo.nickName_, UserInfo.avatarUrl_, UserInfo.title_,
     UserInfo.position_, UserInfo.roleStatus_, UserInfo.sex_, UserInfo.departId_,
     UserInfo.jobNum_, UserInfo.telphone_, UserInfo.email_]

theorem userInfo_lawful : userInfo.Lawful := {}

def fromUserId_ : Slot AllUserResponse :=
  .uint32 (·.fromUserId) fun v c => { c with fromUserId := v }
def userInfoList_ : Slot AllUserResponse :=
  .records userInfo userInfo_lawful .new (·.userInfoList)
    fun v c => { c with userInfoList := v }

def layout : Layout AllUserResponse where
  byteSize := [fromUserId_, userInfoList_]
  parse := [fromUserId_, userInfoList_]
  serialize := [fromUserId_, userInfoList_]

instance : PduClass AllUserResponse := layout.pduClass messageAllUserResponse .db

theorem implements : layout.Implements := layout.pduClass_implements _ _

theorem lawful : layout.Lawful := {}

end AllUserResponse

/-! ### `DepartmentRequest` (`department_request`) -/

structure DepartmentRequest where
  reqUserId : UInt32
  deriving Inhabited

namespace DepartmentRequest

def reqUserId_ : Slot DepartmentRequest :=
  .uint32 (·.reqUserId) fun v c => { c with reqUserId := v }

def layout : Layout DepartmentRequest where
  byteSize := [reqUserId_]
  parse := [reqUserId_]
  serialize := [reqUserId_]

instance : PduClass DepartmentRequest := layout.pduClass messageDepartmentRequest .db

theorem implements : layout.Implements := layout.pduClass_implements _ _

theorem lawful : layout.Lawful := {}

end DepartmentRequest

/-! ### `DepartmentResponse` (`department_response`) -/

structure DepartmentResponse where
  reqUserId : UInt32
  departList : List DepartmentInfo
  deriving Inhabited

namespace DepartmentResponse

/-- The functions of this file for a `DepartmentInfo`. -/
def departmentInfo : Layout DepartmentInfo where
  byteSize :=
    [DepartmentInfo.departId_, DepartmentInfo.title_, DepartmentInfo.description_,
     DepartmentInfo.parentDepartId_, DepartmentInfo.leader_, DepartmentInfo.status_]
  parse :=
    [DepartmentInfo.departId_, DepartmentInfo.title_, DepartmentInfo.description_,
     DepartmentInfo.parentDepartId_, DepartmentInfo.leader_, DepartmentInfo.status_]
  serialize :=
    [DepartmentInfo.departId_, DepartmentInfo.title_, DepartmentInfo.description_,
     DepartmentInfo.parentDepartId_, DepartmentInfo.leader_, DepartmentInfo.status_]

theorem departmentInfo_lawful : departmentInfo.Lawful := {}

def reqUserId_ : Slot DepartmentResponse :=
  .uint32 (·.reqUserId) fun v c => { c with reqUserId := v }
def departList_ : Slot DepartmentResponse :=
  .records departmentInfo departmentInfo_lawful .new (·.departList)
    fun v c => { c with departList := v }

def layout : Layout DepartmentResponse where
  byteSize := [reqUserId_, departList_]
  parse := [reqUserId_, departList_]
  serialize := [reqUserId_, departList_]

instance : PduClass DepartmentResponse := layout.pduClass messageDepartmentResponse .db

theorem implements : layout.Implements := layout.pduClass_implements _ _

theorem lawful : layout.Lawful := {}

end DepartmentResponse

/-! ### `FriendListRequest` (`friend_list_request`) -/

structure FriendListRequest where
  userId : UInt32
  deriving Inhabited

namespace FriendListRequest

def userId_ : Slot FriendListRequest := .uint32 (·.userId) fun v c => { c with userId := v }

def layout : Layout FriendListRequest where
  byteSize := [userId_]
  parse := [userId_]
  serialize := [userId_]

instance : PduClass FriendListRequest := layout.pduClass messageFriendListRequest .db

theorem implements : layout.Implements := layout.pduClass_implements _ _

theorem lawful : layout.Lawful := {}

end FriendListRequest

/-! ### `FriendListResponse` (`friend_list_response`) -/

structure FriendListResponse where
  fromUserId : UInt32
  friendLists : List FriendInfo
  deriving Inhabited

namespace FriendListResponse

/-- The functions of this file for a `FriendInfo`. -/
def friendInfo : Layout FriendInfo where
  byteSize := [FriendInfo.friendUserId_, FriendInfo.updated_]
  parse := [FriendInfo.friendUserId_, FriendInfo.updated_]
  serialize := [FriendInfo.friendUserId_, FriendInfo.updated_]

theorem friendInfo_lawful : friendInfo.Lawful := {}

def fromUserId_ : Slot FriendListResponse :=
  .uint32 (·.fromUserId) fun v c => { c with fromUserId := v }
def friendLists_ : Slot FriendListResponse :=
  .records friendInfo friendInfo_lawful .new (·.friendLists)
    fun v c => { c with friendLists := v }

def layout : Layout FriendListResponse where
  byteSize := [fromUserId_, friendLists_]
  parse := [fromUserId_, friendLists_]
  serialize := [fromUserId_, friendLists_]

instance : PduClass FriendListResponse := layout.pduClass messageFriendListResponse .db

theorem implements : layout.Implements := layout.pduClass_implements _ _

theorem lawful : layout.Lawful := {}

end FriendListResponse

/-! ### `RemoveSessionRequest` (`remove_session_request`) -/

structure RemoveSessionRequest where
  reqUserId : UInt32
  sessionId : UInt32
  sessionType : UInt32
  deriving Inhabited

namespace RemoveSessionRequest

def reqUserId_ : Slot RemoveSessionRequest :=
  .uint32 (·.reqUserId) fun v c => { c with reqUserId := v }
def sessionId_ : Slot RemoveSessionRequest :=
  .uint32 (·.sessionId) fun v c => { c with sessionId := v }
def sessionType_ : Slot RemoveSessionRequest :=
  .uint32 (·.sessionType) fun v c => { c with sessionType := v }

def layout : Layout RemoveSessionRequest where
  byteSize := [reqUserId_, sessionId_, sessionType_]
  parse := [reqUserId_, sessionId_, sessionType_]
  serialize := [reqUserId_, sessionId_, sessionType_]

instance : PduClass RemoveSessionRequest := layout.pduClass messageRemoveSessionRequest .db

theorem implements : layout.Implements := layout.pduClass_implements _ _

theorem lawful : layout.Lawful := {}

end RemoveSessionRequest

/-! ### `RemoveSessionResponse` (`remove_session_response`) -/

structure RemoveSessionResponse where
  reqUserId : UInt32
  result : UInt32
  sessionId : UInt32
  sessionType : UInt32
  deriving Inhabited

namespace RemoveSessionResponse

def reqUserId_ : Slot RemoveSessionResponse :=
  .uint32 (·.reqUserId) fun v c => { c with reqUserId := v }
def result_ : Slot RemoveSessionResponse := .uint32 (·.result) fun v c => { c with result := v }
def sessionId_ : Slot RemoveSessionResponse :=
  .uint32 (·.sessionId) fun v c => { c with sessionId := v }
def sessionType_ : Slot RemoveSessionResponse :=
  .uint32 (·.sessionType) fun v c => { c with sessionType := v }

def layout : Layout RemoveSessionResponse where
  byteSize := [reqUserId_, result_, sessionId_, sessionType_]
  parse := [reqUserId_, result_, sessionId_, sessionType_]
  serialize := [reqUserId_, result_, sessionId_, sessionType_]

instance : PduClass RemoveSessionResponse := layout.pduClass messageRemoveSessionResponse .db

theorem implements : layout.Implements := layout.pduClass_implements _ _

theorem lawful : layout.Lawful := {}

end RemoveSessionResponse

/-! ### `UsersInfoRequest` (`users_info_request`) -/

structure UsersInfoRequest where
  fromUserId : UInt32
  userIdList : List UInt32
  deriving Inhabited

namespace UsersInfoRequest

def fromUserId_ : Slot UsersInfoRequest :=
  .uint32 (·.fromUserId) fun v c => { c with fromUserId := v }
def userIdList_ : Slot UsersInfoRequest :=
  .uint32s (·.userIdList) fun v c => { c with userIdList := v }

def layout : Layout UsersInfoRequest where
  byteSize := [fromUserId_, userIdList_]
  parse := [fromUserId_, userIdList_]
  serialize := [fromUserId_, userIdList_]

instance : PduClass UsersInfoRequest := layout.pduClass messageUsersInfoRequest .db

theorem implements : layout.Implements := layout.pduClass_implements _ _

theorem lawful : layout.Lawful := {}

end UsersInfoRequest

/-! ### `UsersInfoResponse` (`users_info_response`) -/

structure UsersInfoResponse where
  fromUserId : UInt32
  userInfoList : List UserInfo
  deriving Inhabited

namespace UsersInfoResponse

/-- The functions of this file for a `UserInfo`. -/
def userInfo : Layout UserInfo where
  byteSize :=
    [UserInfo.userId_, UserInfo.name_, UserInfo.nickName_, UserInfo.avatarUrl_, UserInfo.title_,
     UserInfo.position_, UserInfo.roleStatus_, UserInfo.sex_, UserInfo.departId_,
     UserInfo.jobNum_, UserInfo.telphone_, UserInfo.email_]
  parse :=
    [UserInfo.userId_, UserInfo.name_, UserInfo.nickName_, UserInfo.avatarUrl_, UserInfo.title_,
     UserInfo.position_, UserInfo.roleStatus_, UserInfo.sex_, UserInfo.departId_,
     UserInfo.jobNum_, UserInfo.telphone_, UserInfo.email_]
  serialize :=
    [UserInfo.userId_, UserInfo.name_, UserInfo.nickName_, UserInfo.avatarUrl_, UserInfo.title_,
     UserInfo.position_, UserInfo.roleStatus_, UserInfo.sex_, UserInfo.departId_,
     UserInfo.jobNum_, UserInfo.telphone_, UserInfo.email_]

theorem userInfo_lawful : userInfo.Lawful := {}

def fromUserId_ : Slot UsersInfoResponse :=
  .uint32 (·.fromUserId) fun v c => { c with fromUserId := v }
def userInfoList_ : Slot UsersInfoResponse :=
  .records userInfo userInfo_lawful .new (·.userInfoList)
    fun v c => { c with userInfoList := v }

def layout : Layout UsersInfoResponse where
  byteSize := [fromUserId_, userInfoList_]
  parse := [fromUserId_, userInfoList_]
  serialize := [fromUserId_, userInfoList_]

instance : PduClass UsersInfoResponse := layout.pduClass messageUsersInfoResponse .db

theorem implements : layout.Implements := layout.pduClass_implements _ _

theorem lawful : layout.Lawful := {}

end UsersInfoResponse

/-! ### `ValidateRequest` (`validate_request`) -/

structure ValidateRequest where
  userName : Bytes
  password : Bytes
  deriving Inhabited

namespace ValidateRequest

def userName_ : Slot ValidateRequest := .string (·.userName) fun v c => { c with userName := v }
def password_ : Slot ValidateRequest := .string (·.password) fun v c => { c with password := v }

def layout : Layout ValidateRequest where
  byteSize := [userName_, password_]
  parse := [userName_, password_]
  serialize := [userName_, password_]

instance : PduClass ValidateRequest := layout.pduClass messageValidateRequest .db

theorem implements : layout.Implements := layout.pduClass_implements _ _

theorem lawful : layout.Lawful := {}

end ValidateRequest

end Zattd
