/-
  Recent contacts (`zares_relationship_manager_impl.cc`).

  Two users that talk have a row each; the key of the row of the SMALLER id is the conversation id
  of the two.
-/
import Zattd.Model.ModelModule

set_option linter.unusedVariables false

namespace Zattd

/-- `kInvalidID`. -/
def kInvalidID : UInt32 := 0xFFFFFFFF

namespace ZAresRelationshipManagerImpl

/-- `ParseFromDatabase`. -/
def parseFromDatabase (friendInfo : FriendInfo) (row : ContactRow) : FriendInfo :=
  { friendInfo with
    friendUserId := getColumn row.friendUserId
    updated := getColumn row.updated }

/-- `GetRecentContactByUserId`; the limit is not the argument's but the statement's. -/
def getRecentContactByUserId (userId : UInt32) (limit : Int) (friends : List FriendInfo) :
    Server (Bool × List FriendInfo) := do
  if userId = 0 then return (false, friends)
  let answ ← issue (.contact (.selectRecent (percentD userId)))
  match answ with
  | some rows => return (true, friends ++ rows.map (parseFromDatabase .new))
  | none => return (false, friends)

/-- `DeleteRecentContactByUserId`. -/
def deleteRecentContactByUserId (userId friendUserId : UInt32) : Server Bool := do
  let n ← issue (.contact (.updateRemove (percentD userId) (percentD friendUserId)))
  return decide (n = (0 : Int))

/-- `GetRelateId`. -/
def getRelateId (userAId userBId : UInt32) : Server UInt32 := do
  if userAId = 0 ∨ userBId = 0 then return kInvalidID
  let smallUserId := if userAId > userBId then userBId else userAId
  let bigUserId := if userAId > userBId then userAId else userBId
  let answ ← issue (.contact (.selectRelateId (percentD smallUserId) (percentD bigUserId)))
  match answ with
  | some (row :: _) => return getColumn row.relateId
  | some [] => return kInvalidID
  | none => return kInvalidID

/-- The loop of `CheckAndUpdateRelation` over the rows found: the ids of the removed ones. -/
def removedRelateIds (rows : List ContactRow) : List Int :=
  (rows.filter fun row => decide (getColumn row.status ≠ 0)).map fun row =>
    uintToString (getColumn row.relateId)

/-- `CheckAndUpdateRelation`.  The parameters are added in the order a, b, a, b. -/
def checkAndUpdateRelation (useraId userbId : UInt32) : Server Bool := do
  if useraId = 0 ∨ userbId = 0 then return true
  let answ ← issue (.contact
    (.selectRelation (addParam useraId) (addParam userbId) (addParam useraId) (addParam userbId)))
  let relateIds := removedRelateIds (answ.getD [])
  if relateIds = [] then return false
  let n ← issue (.contact (.updateRestore relateIds))
  return decide (n = (0 : Int))

/-- The rows `AddFriendship` inserts, for `useraId ≤ userbId`: one from each side, or the one row of
    a user with himself. -/
def friendshipRows (useraId userbId ctime : UInt32) : List ContactValues :=
  let side (userId friendUserId : UInt32) : ContactValues :=
    { userId := addParam userId, friendUserId := addParam friendUserId, status := 0,
      created := addParam ctime, updated := addParam ctime }
  if useraId ≠ userbId then [side useraId userbId, side userbId useraId] else [side useraId userbId]

/-- `AddFriendship`. -/
def addFriendship (useraId userbId : UInt32) : Server UInt32 := do
  if useraId = 0 ∨ userbId = 0 then return kInvalidID
  let relateId ← getRelateId useraId userbId
  if relateId ≠ kInvalidID then return relateId
  let smallUserId := if useraId > userbId then userbId else useraId
  let bigUserId := if useraId > userbId then useraId else userbId
  let ctime := ((← issue .nowMSTime) / 1000).toUInt32
  let id ← issue (.contact (.insertContacts (friendshipRows smallUserId bigUserId ctime)))
  return id.toUInt32

end ZAresRelationshipManagerImpl

end Zattd
