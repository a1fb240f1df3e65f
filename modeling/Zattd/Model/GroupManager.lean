/-
  Groups (`zares_group_manager_impl.cc`).

  Joining and leaving a group take the same three steps: ask which of the listed users have rows in
  the group and what their status is, write the rows that need writing, and add the number of rows
  written to (or take it from) the group's `memberCnt`.
-/
import Zattd.Model.ModelModule

set_option linter.unusedVariables false

namespace Zattd.ZAresGroupManagerImpl

/-- `ParseFromDatabase`. -/
def parseFromDatabase (groupInfo : GroupInfo) (row : GroupRow) : GroupInfo :=
  { groupInfo with
    groupId := getColumn row.groupId
    groupName := row.groupName
    groupAvatar := row.avatar
    groupCreatorId := getColumn row.createUserId
    groupType := getColumn row.groupType
    groupUpdated := getColumn row.updated }

/-- `GetGroupsByUserId`. -/
def getGroupsByUserId (userId : UInt32) (isFixedGroup : Bool) (groups : List GroupInfo) :
    Server (Nat × List GroupInfo) := do
  if userId = 0 then return (0, groups)
  let answ ← issue (.group
    (.selectGroupsOf (percentD userId) isFixedGroup (if isFixedGroup then 200 else 5000)))
  let groups := groups ++ (answ.getD []).map (parseFromDatabase .new)
  return (groups.length, groups)

/-- `GetGroupIdsByUserId`. -/
def getGroupIdsByUserId (userId : UInt32) (isFixedGroup : Bool) (groupIds : List UInt32) :
    Server (Nat × List UInt32) := do
  if userId = 0 then return (0, groupIds)
  let answ ← issue (.group
    (.selectGroupIdsOf (percentD userId) isFixedGroup (if isFixedGroup then 200 else 5000)))
  let groupIds := groupIds ++ (answ.getD []).map fun row => getColumn row.groupId
  return (groupIds.length, groupIds)

/-- The two columns that the member queries read. -/
def relationInfo (row : RelationRow) : GroupRelationInfo :=
  { groupId := getColumn row.groupId, userId := getColumn row.userId }

/-- `GetGroupMembers`, of a list of groups. -/
def getGroupMembersIn (groupIds : List UInt32) (groupRelationsMap : Map (List GroupRelationInfo)) :
    Server (Nat × Map (List GroupRelationInfo)) := do
  if groupIds = [] then return (0, groupRelationsMap)
  let answ ← issue (.group (.selectMembersIn (groupIds.map uintToString)))
  let groupRelationsMap := ((answ.getD []).map relationInfo).foldl
    (fun m relation => m.insert relation.groupId (m.getD relation.groupId [] ++ [relation]))
    groupRelationsMap
  return (groupRelationsMap.size, groupRelationsMap)

/-- `GetGroupMembers`, of one group. -/
def getGroupMembers (groupId : UInt32) (groupRelations : List GroupRelationInfo) :
    Server (Nat × List GroupRelationInfo) := do
  if groupId = 0 then return (0, groupRelations)
  let answ ← issue (.group (.selectMembers (percentD groupId)))
  let groupRelations := groupRelations ++ (answ.getD []).map relationInfo
  return (groupRelations.length, groupRelations)

/-- `GetGroupInfo`. -/
def getGroupInfo (groupId : UInt32) (group : GroupInfo) : Server (Option GroupInfo) := do
  if groupId = 0 then return none
  let answ ← issue (.group (.selectGroup (percentD groupId)))
  match answ with
  | some (row :: _) => return some (parseFromDatabase group row)
  | some [] => return none
  | none => return none

/-- `GetRecentGroupsByUserId`. -/
def getRecentGroupsByUserId (userId : UInt32) (groups : List GroupInfo) :
    Server (Nat × List GroupInfo) := do
  if userId = 0 then return (0, groups)
  let answ ← issue (.group (.selectRecentGroups (percentD userId)))
  let groups := groups ++ (answ.getD []).map (parseFromDatabase .new)
  return (groups.length, groups)

/-- `user_statuss`: the status found for each user that has a row.  `insert` keeps the first. -/
def userStatuss (answ : Option (List RelationRow)) : Map UInt32 :=
  (answ.getD []).foldl (fun m row => m.insertIfNew (getColumn row.userId) (getColumn row.status)) ∅

/-- The rows `JoinGroup` inserts: one for EACH entry of the list whose user has none. -/
def newRelations (statuss : Map UInt32) (userIds : List UInt32) (groupId : UInt32)
    (group : GroupInfo) (now : UInt32) : List RelationValues :=
  (userIds.filter fun userId => !statuss.contains userId).map fun userId =>
    { groupId := percentD groupId
      userId := percentD userId
      title := if group.groupCreatorId = userId then 1 else 0
      groupType := percentD group.groupType
      created := percentD now
      updated := percentD now }

/-- The users whose status satisfies `p`, in the order of their ids. -/
def usersWithStatus (p : UInt32 → Bool) (statuss : Map UInt32) : List Int :=
  (statuss.toList.filter fun e => p e.2).map fun e => uintToString e.1

/-- `JoinGroup`. -/
def joinGroup (userIds : List UInt32) (groupId : UInt32) (group : GroupInfo) : Server Bool := do
  if userIds = [] ∨ groupId = 0 then return false
  if groupId ≠ group.groupId then return false
  let now := (← issue .nowMSTime).toUInt32
  let answ ← issue (.group (.selectStatuses (percentD groupId) (userIds.map uintToString)))
  let statuss := userStatuss answ
  let relations := newRelations statuss userIds groupId group now
  let insertCount : Int ← (if relations = [] then pure 0
    else issue (.group (.insertRelations relations)))
  let inactive := usersWithStatus (fun status => decide (status = 0)) statuss
  let updateCount : Int ← (if inactive = [] then pure 0
    else issue (.group (.updateActivate (percentD groupId) inactive)))
  let _ ← issue (.group (.updateMemberCntAdd (insertCount + updateCount) (percentD groupId)))
  return true

/-- `QuitGroup`. -/
def quitGroup (requestUserId : UInt32) (quitUserIds : List UInt32) (groupId : UInt32)
    (group : GroupInfo) : Server Bool := do
  if quitUserIds = [] ∨ groupId = 0 ∨ requestUserId = 0 ∨ groupId = 0 then return false
  if requestUserId ≠ group.groupCreatorId ∨ groupId ≠ group.groupId then return false
  let now := (← issue .nowMSTime).toUInt32
  let answ ← issue (.group (.selectStatuses (percentD groupId) (quitUserIds.map uintToString)))
  let active := usersWithStatus (fun status => decide (status ≠ 0)) (userStatuss answ)
  let updateCount : Int ← (if active = [] then pure 0
    else issue (.group (.updateDeactivate (percentD now) (percentD groupId) active)))
  let _ ← issue (.group (.updateMemberCntSub updateCount (percentD now) (percentD groupId)))
  return true

/-- `CreateGroup`.  The clock is read up to three times, and the key comes back as 64 bits. -/
def createGroup (createUserId : UInt32) (groupName : Bytes) (groupType : UInt32)
    (avatar adesc : Bytes) (memberUserIds : List UInt32) (group : GroupInfo) :
    Server (Bool × GroupInfo) := do
  if createUserId = 0 ∨ groupName = [] ∨ groupType = 0 then return (false, group)
  let group : GroupInfo := { group with
    groupId := 0
    groupCreatorId := createUserId
    groupName := groupName
    groupAvatar := avatar
    groupType := groupType
    groupUpdated := ((← issue .nowMSTime) / 1000).toUInt32 }
  let now := ((← issue .nowMSTime) / 1000).toUInt32
  let newGroupId ← issue (.group (.insertGroup
    { groupName := cStr groupName
      avatar := cStr avatar
      adesc := cStr adesc
      createUserId := addParam createUserId
      groupType := addParam groupType
      memberCnt := 0
      created := addParam now
      updated := addParam now }))
  if newGroupId > (0 : UInt64) then
    let group : GroupInfo := { group with
      groupId := newGroupId.toUInt32
      groupCreatorId := createUserId
      groupName := groupName
      groupAvatar := avatar
      groupType := groupType
      groupUpdated := (← issue .nowMSTime).toUInt32 }
    let result ← joinGroup memberUserIds newGroupId.toUInt32 group
    return (result, group)
  else
    return (false, group)

end Zattd.ZAresGroupManagerImpl
