/-
  The interfaces of the managers (`zaresd/model/*_manager.h`, `model_module.h`).

  Handlers know the managers only through these.  A pointer that a function fills is an argument,
  what is already there, and part of the result, what is there afterwards; a function that returns
  its pointer or NULL gives an option, and leaves what was there alone when it gives none.
-/
import Zattd.Server

set_option linter.unusedVariables false

namespace Zattd

/-- `LoginManager`. -/
structure LoginManager where
  auth (uname passwd : Bytes) : Server Bool

/-- `DepartmentManager`. -/
structure DepartmentManager where
  getDepartmentInfos (departmentInfos : List DepartmentInfo) : Server (Bool × List DepartmentInfo)

/-- `UserManager`; `GetUserInfo` is overloaded, and nothing calls it with an id or a list of names. -/
structure UserManager where
  getUserInfos (userIds : List UInt32) (userInfos : List UserInfo) : Server (Bool × List UserInfo)
  getUserInfo (userName : Bytes) (userInfo : UserInfo) : Server (Option UserInfo)
  getAllUserInfo (userInfos : List UserInfo) : Server (Bool × List UserInfo)

/-- `GroupRelationInfo`. -/
structure GroupRelationInfo where
  groupId : UInt32
  userId : UInt32

/-- `GroupManager`; `GetGroupMembers` is overloaded, for a list of groups and for one. -/
structure GroupManager where
  getGroupsByUserId (userId : UInt32) (isFixedGroup : Bool) (groups : List GroupInfo) :
    Server (Nat × List GroupInfo)
  getGroupIdsByUserId (userId : UInt32) (isFixedGroup : Bool) (groupIds : List UInt32) :
    Server (Nat × List UInt32)
  getGroupMembersIn (groupIds : List UInt32) (groupRelationsMap : Map (List GroupRelationInfo)) :
    Server (Nat × Map (List GroupRelationInfo))
  getGroupMembers (groupId : UInt32) (groupRelations : List GroupRelationInfo) :
    Server (Nat × List GroupRelationInfo)
  getGroupInfo (groupId : UInt32) (group : GroupInfo) : Server (Option GroupInfo)
  getRecentGroupsByUserId (userId : UInt32) (groups : List GroupInfo) :
    Server (Nat × List GroupInfo)
  createGroup (createUserId : UInt32) (groupName : Bytes) (groupType : UInt32)
    (avatar adesc : Bytes) (memberUserIds : List UInt32) (group : GroupInfo) :
    Server (Bool × GroupInfo)
  joinGroup (userIds : List UInt32) (groupId : UInt32) (group : GroupInfo) : Server Bool
  quitGroup (requestUserId : UInt32) (quitUserIds : List UInt32) (groupId : UInt32)
    (group : GroupInfo) : Server Bool

/-- `RelationshipManager`. -/
structure RelationshipManager where
  getRecentContactByUserId (userId : UInt32) (limit : Int) (friends : List FriendInfo) :
    Server (Bool × List FriendInfo)
  deleteRecentContactByUserId (userId friendUserId : UInt32) : Server Bool
  getRelateId (userAId userBId : UInt32) : Server UInt32

/-- `MessageManager`. -/
structure MessageManager where
  getMessages (fromUserId toUserId offset : UInt32) (count : Int) (messages : List ServerMsg) :
    Server (Nat × List ServerMsg)
  getDialogMessages (fromUserId toUserId offset : UInt32) (count : Int)
    (messages : List ServerMsg) : Server (Nat × List ServerMsg)
  getGroupMessages (groupId offset : UInt32) (count : Int) (messages : List GroupMsg) :
    Server (Nat × List GroupMsg)
  getGroupMessagesFromId (userId lastMsgId : UInt32) (count : Int) (groupMsgs : List GroupMsg) :
    Server (Nat × List GroupMsg)
  sendAudioMessage (fromUserId toUserId : UInt32) (content : Bytes) (time : UInt32) : Server Bool
  sendIMGroupMessage (userId toGroupId : UInt32) (content : Bytes) (time : UInt32) : Server Bool
  sendIMMessage (fromUserId toUserId type : UInt32) (content : Bytes) (time : UInt32) : Server Bool

/-- `TransmitFile`. -/
structure TransmitFile where
  id : UInt32
  fromUserId : UInt32
  toUserId : UInt32
  taskId : Bytes
  filePath : Bytes
  fileSize : UInt32
  status : UInt32
  created : UInt32
  updated : UInt32
  deriving Inhabited

/-- `FileManager`. -/
structure FileManager where
  getUserFiles (toUserId : UInt32) (files : List OfflineFile) : Server (Nat × List OfflineFile)
  saveFileRecord (userId toUserId : UInt32) (taskId filePath : Bytes) (fileSize : UInt32) :
    Server Bool
  deleteFileRecord (taskId : Bytes) : Server Bool
  getFileRecord (taskId : Bytes) (file : TransmitFile) : Server (Option TransmitFile)

/-- `CounterManager`. -/
structure CounterManager where
  getUnreadMsgCount (userId clientType : UInt32) (unreadMsgCount : Counter) :
    Server (Option Counter)
  clearUserUnreadItemCount (userId friendUserId clientType : UInt32) : Server Bool
  getUserFriendUnreadCount (userId friendUserId clientType : UInt32) : Server UInt32
  getUserGroupUnreadCount (userId : UInt32) (groupIds : List UInt32) (clientType : UInt32)
    (unreads : Map UInt32) : Server (Nat × Map UInt32)
  deleteUserReadedDialogMessages (userId friendUserId clientType : UInt32) : Server Bool
  getUserGroupCount (userId groupId clientType : UInt32) (item : GroupCounterItem) :
    Server GroupCounterItem
  clearUserGroupCounter (userId groupId clientType : UInt32) : Server Bool

/-- `ModelModule`, through `ModelMainManager`. -/
structure ModelModule where
  loginManager : LoginManager
  departmentManager : DepartmentManager
  userManager : UserManager
  groupManager : GroupManager
  relationshipManager : RelationshipManager
  messageManager : MessageManager
  fileManager : FileManager
  counterManager : CounterManager

end Zattd
