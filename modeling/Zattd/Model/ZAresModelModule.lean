/-
  The model module that the server uses (`zares_model_module.cc`): every interface implemented by
  the functions of the `zares` managers.
-/
import Zattd.Model.FileManager
import Zattd.Model.GroupManager
import Zattd.Model.MessageManager
import Zattd.Model.UserManagers

set_option linter.unusedVariables false

namespace Zattd

/-- `ZAresModelModule`. -/
def zAresModelModule : ModelModule where
  loginManager :=
    { auth := ZAresLoginManagerImpl.auth }
  departmentManager :=
    { getDepartmentInfos := ZAresDepartmentManagerImpl.getDepartmentInfos }
  userManager :=
    { getUserInfos := ZAresUserManagerImpl.getUserInfos
      getUserInfo := ZAresUserManagerImpl.getUserInfo
      getAllUserInfo := ZAresUserManagerImpl.getAllUserInfo }
  groupManager :=
    { getGroupsByUserId := ZAresGroupManagerImpl.getGroupsByUserId
      getGroupIdsByUserId := ZAresGroupManagerImpl.getGroupIdsByUserId
      getGroupMembersIn := ZAresGroupManagerImpl.getGroupMembersIn
      getGroupMembers := ZAresGroupManagerImpl.getGroupMembers
      getGroupInfo := ZAresGroupManagerImpl.getGroupInfo
      getRecentGroupsByUserId := ZAresGroupManagerImpl.getRecentGroupsByUserId
      createGroup := ZAresGroupManagerImpl.createGroup
      joinGroup := ZAresGroupManagerImpl.joinGroup
      quitGroup := ZAresGroupManagerImpl.quitGroup }
  relationshipManager :=
    { getRecentContactByUserId := ZAresRelationshipManagerImpl.getRecentContactByUserId
      deleteRecentContactByUserId := ZAresRelationshipManagerImpl.deleteRecentContactByUserId
      getRelateId := ZAresRelationshipManagerImpl.getRelateId }
  messageManager :=
    { getMessages := ZAresMessageManagerImpl.getMessages
      getDialogMessages := ZAresMessageManagerImpl.getDialogMessages
      getGroupMessages := ZAresMessageManagerImpl.getGroupMessages
      getGroupMessagesFromId := ZAresMessageManagerImpl.getGroupMessagesFromId
      sendAudioMessage := ZAresMessageManagerImpl.sendAudioMessage
      sendIMGroupMessage := ZAresMessageManagerImpl.sendIMGroupMessage
      sendIMMessage := ZAresMessageManagerImpl.sendIMMessage }
  fileManager :=
    { getUserFiles := ZAresFileManagerImpl.getUserFiles
      saveFileRecord := ZAresFileManagerImpl.saveFileRecord
      deleteFileRecord := ZAresFileManagerImpl.deleteFileRecord
      getFileRecord := ZAresFileManagerImpl.getFileRecord }
  -- each call is one operation on the counters, its arguments passed on by position
  counterManager :=
    { getUnreadMsgCount := fun u t counter => issue (.counter (.getUnreadMsgCount u t counter))
      clearUserUnreadItemCount := fun u f t => issue (.counter (.clearUserUnreadItemCount u f t))
      getUserFriendUnreadCount := fun u f t => issue (.counter (.getUserFriendUnreadCount u f t))
      getUserGroupUnreadCount := fun u gs t unreads =>
        issue (.counter (.getUserGroupUnreadCount u gs t unreads))
      deleteUserReadedDialogMessages := fun _ _ _ => return true
      getUserGroupCount := fun u g t item => issue (.counter (.getUserGroupCount u g t item))
      clearUserGroupCounter := fun u g t => issue (.counter (.clearUserGroupCounter u g t)) }

end Zattd
