/-
  Login, users and departments (`zares_login_manager_impl.cc`, `zares_user_manager_impl.cc`,
  `zares_department_manager_impl.cc`).
-/
import Zattd.Model.ModelModule

set_option linter.unusedVariables false

namespace Zattd

namespace ZAresLoginManagerImpl

/-- `Auth`: `is_authed` starts out true, and only a row with another password makes it false. -/
def auth (userName password : Bytes) : Server Bool := do
  let answ ← issue (.user (.selectPwd (cStr userName)))
  match answ with
  | some (pwd :: _) => return decide (pwd = password)
  | some [] => return true -- not found, which is only logged
  | none => return true

end ZAresLoginManagerImpl

namespace ZAresUserManagerImpl

/-- `ParseFromDatabase`. -/
def parseFromDatabase (userInfo : UserInfo) (row : UserRow) : UserInfo :=
  { userInfo with
    name := row.uname
    userId := getColumn row.id
    roleStatus := getColumn row.status
    title := row.title
    departId := getColumn row.departId
    sex := getColumn row.sex
    jobNum := getColumn row.jobNumber
    telphone := row.telphone
    email := row.mail
    position := row.position
    avatarUrl := row.avatar
    nickName := row.nickName }

/-- `GetUserInfo`, of a list of ids. -/
def getUserInfos (userIds : List UInt32) (userInfos : List UserInfo) :
    Server (Bool × List UserInfo) := do
  if userIds = [] then return (false, userInfos)
  let answ ← issue (.user (.selectByIds (userIds.map uintToString)))
  match answ with
  | some rows => return (true, userInfos ++ rows.map (parseFromDatabase .new))
  | none => return (false, userInfos)

/-- `GetUserInfo`, of a name. -/
def getUserInfo (userName : Bytes) (userInfo : UserInfo) : Server (Option UserInfo) := do
  if userName = [] then return none
  let answ ← issue (.user (.selectByName (cStr userName)))
  match answ with
  | some (row :: _) => return some (parseFromDatabase userInfo row)
  | some [] => return none
  | none => return none

/-- `GetAllUserInfo`. -/
def getAllUserInfo (userInfos : List UserInfo) : Server (Bool × List UserInfo) := do
  let answ ← issue (.user .selectAll)
  match answ with
  | some rows => return (true, userInfos ++ rows.map (parseFromDatabase .new))
  | none => return (false, userInfos)

end ZAresUserManagerImpl

namespace ZAresDepartmentManagerImpl

/-- `ParseFromDatabase`. -/
def parseFromDatabase (departmentInfo : DepartmentInfo) (row : DepartmentRow) : DepartmentInfo :=
  { departmentInfo with
    departId := getColumn row.id
    title := row.title
    leader := getColumn row.leader
    parentDepartId := getColumn row.pid
    status := getColumn row.status
    description := row.desc }

/-- `GetDepartmentInfos`. -/
def getDepartmentInfos (departmentInfos : List DepartmentInfo) :
    Server (Bool × List DepartmentInfo) := do
  let answ ← issue (.department .selectAll)
  match answ with
  | some rows => return (true, departmentInfos ++ rows.map (parseFromDatabase .new))
  | none => return (false, departmentInfos)

end ZAresDepartmentManagerImpl

end Zattd
