/-
  The handlers of the requests about users (`validate_request_handler.cc`,
  `friend_list_request_handler.cc`, `remove_session_request_handler.cc`,
  `department_request_handler.cc`, `users_info_request_handler.cc`, `all_user_request_handler.cc`).
-/
import Zattd.Handler.Context

set_option linter.unusedVariables false

namespace Zattd

/-- `SYS_SERVER_USER_ID`. -/
def sysServerUserId : UInt32 := 10000

/-- `ValidateRequestHandler::Execute`. -/
def validateRequestHandler : Execute ValidateRequest := fun model mem sessionId request => do
  let response : Pdu ValidateResponse := .new (mem.pdu .validateResponse)
  let response := (response.setReserved request.reserved).setReserved request.reserved
  let response := response.set fun r => { r with userName := request.body.userName }
  let response := response.setAttachData request.attach
  let response := response.set fun r => { r with result := 1 }
  if request.body.userName = [] ∨ request.body.password = [] then
    sendSessionData sessionId .validateResponse response
  else
    let isAuthed ← model.loginManager.auth request.body.userName request.body.password
    if isAuthed then
      let response := response.set fun r => { r with result := 0 }
      -- `mutable_user()` makes the record before the lookup, whether that finds one or not
      let response := response.set fun r => { r with user := some r.mutableUser }
      let found ← model.userManager.getUserInfo request.body.userName response.body.mutableUser
      let response := response.set fun r => { r with user := some (found.getD r.mutableUser) }
      sendSessionData sessionId .validateResponse response
    else
      sendSessionData sessionId .validateResponse response

/-- `FriendListRequestHandler::Execute`. -/
def friendListRequestHandler : Execute FriendListRequest := fun model mem sessionId request => do
  let response : Pdu FriendListResponse := .new (mem.pdu .friendListResponse)
  let response := response.setReserved request.reserved
  let response := response.set fun r => { r with fromUserId := request.body.userId }
  let response := response.setAttachData request.attach
  if request.body.userId > 0 then
    let (_, friends) ← model.relationshipManager.getRecentContactByUserId request.body.userId 100
      response.body.friendLists
    sendSessionData sessionId .friendListResponse (response.set fun r => { r with friendLists := friends })
  else
    sendSessionData sessionId .friendListResponse response

/-- The dispatch of `RemoveSessionRequestHandler` on the session type: the `result` it replies with.
    Invalid data is answered like success. -/
def removeSession (model : ModelModule) (mem : Memory) (m : RemoveSessionRequest) : Server Bool :=
  if m.reqUserId = 0 ∨ m.sessionId = 0 ∨ m.sessionType = 0 ∨ m.sessionId = sysServerUserId then
    return true
  else if m.sessionType = 1 then
    model.relationshipManager.deleteRecentContactByUserId m.reqUserId m.sessionId
  else do
    let group ← model.groupManager.getGroupInfo m.sessionId mem.newGroupInfo
    match group with
    | some group => return decide (m.sessionId = group.groupId)
    | none => return false

/-- `RemoveSessionRequestHandler::Execute`. -/
def removeSessionRequestHandler : Execute RemoveSessionRequest :=
  fun model mem sessionId request => do
    let response : Pdu RemoveSessionResponse := .new (mem.pdu .removeSessionResponse)
    let response := response.setReserved request.reserved
    let response := response.set fun r => { r with
      reqUserId := request.body.reqUserId
      result := 0
      sessionId := request.body.sessionId
      sessionType := request.body.sessionType }
    let response := response.setAttachData request.attach
    let result ← removeSession model mem request.body
    sendSessionData sessionId .removeSessionResponse
      (response.set fun r => { r with result := if result then 0 else 1 })

/-- `DepartmentRequestHandler::Execute`. -/
def departmentRequestHandler : Execute DepartmentRequest := fun model mem sessionId request => do
  let response : Pdu DepartmentResponse := .new (mem.pdu .departmentResponse)
  let response := response.setReserved request.reserved
  let response := response.set fun r => { r with reqUserId := request.body.reqUserId }
  let response := response.setAttachData request.attach
  let (_, departs) ← model.departmentManager.getDepartmentInfos response.body.departList
  sendSessionData sessionId .departmentResponse (response.set fun r => { r with departList := departs })

/-- `UsersInfoRequestHandler::Execute`. -/
def usersInfoRequestHandler : Execute UsersInfoRequest := fun model mem sessionId request => do
  let response : Pdu UsersInfoResponse := .new (mem.pdu .usersInfoResponse)
  let response := response.setReserved request.reserved
  let response := response.set fun r => { r with fromUserId := request.body.fromUserId }
  let response := response.setAttachData request.attach
  if request.body.fromUserId = 0 ∨ request.body.userIdList = [] then
    sendSessionData sessionId .usersInfoResponse response
  else
    let (_, infos) ← model.userManager.getUserInfos request.body.userIdList
      response.body.userInfoList
    sendSessionData sessionId .usersInfoResponse (response.set fun r => { r with userInfoList := infos })

/-- `AllUserRequestHandler::Execute`. -/
def allUserRequestHandler : Execute AllUserRequest := fun model mem sessionId request => do
  let response : Pdu AllUserResponse := .new (mem.pdu .allUserResponse)
  let response := response.setReserved request.reserved
  let response := response.set fun r => { r with fromUserId := request.body.reqUserId }
  let response := response.setAttachData request.attach
  if request.body.reqUserId > 0 then
    let (_, infos) ← model.userManager.getAllUserInfo response.body.userInfoList
    sendSessionData sessionId .allUserResponse (response.set fun r => { r with userInfoList := infos })
  else
    sendSessionData sessionId .allUserResponse response

end Zattd
