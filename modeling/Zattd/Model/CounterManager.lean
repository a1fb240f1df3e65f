/-
  The message counters (`zaresd/model/zares/zares_counter_manager_impl.h`, `.cc`).

  They live in memory only.  `CacheManager` holds three nested maps; `ZAresCounterManagerImpl` is
  the set of operations the rest of the server may use.  Both are functions of the cache here: each
  operation gives its answer and the cache after it.

  The unread counts are kept once for each CLASS of client type — 17, 18 and every other.  What the
  two keys of `unread_instance` mean is not written down anywhere: the writer puts the sender first,
  the readers look the reader up first.
-/
import Mathlib

set_option linter.unusedVariables false

namespace Zattd

/-- `std::map<uint32, V>`. -/
abbrev Map (V : Type) : Type := Std.TreeMap UInt32 V compare

/-- `UserUnreadCount`. -/
structure UserUnreadCount where
  userUnreadCountIos : Map UInt32 := ∅
  userUnreadCountAndroid : Map UInt32 := ∅
  userUnreadCountOther : Map UInt32 := ∅

/-- `GetUnreadCountByClientType`, read through. -/
def UserUnreadCount.getUnreadCountByClientType (c : UserUnreadCount) (clientType : UInt32) :
    Map UInt32 :=
  if clientType = 17 then c.userUnreadCountIos
  else if clientType = 18 then c.userUnreadCountAndroid
  else c.userUnreadCountOther

/-- `GetUnreadCountByClientType`, written through. -/
def UserUnreadCount.setUnreadCountByClientType (c : UserUnreadCount) (clientType : UInt32)
    (m : Map UInt32) : UserUnreadCount :=
  if clientType = 17 then { c with userUnreadCountIos := m }
  else if clientType = 18 then { c with userUnreadCountAndroid := m }
  else { c with userUnreadCountOther := m }

/-- `ReadCountAndLastID`. -/
structure ReadCountAndLastID where
  readCount : UInt32
  lastId : UInt32

/-- `GroupCounterInfo`. -/
structure GroupCounterInfo where
  groupTotalCount : UInt32
  userGroupCountIos : Map ReadCountAndLastID := ∅
  userGroupCountAndroid : Map ReadCountAndLastID := ∅
  userGroupCountOther : Map ReadCountAndLastID := ∅

/-- `GetReadCountAndLastIDMap`, read through. -/
def GroupCounterInfo.getReadCountAndLastIDMap (c : GroupCounterInfo) (clientType : UInt32) :
    Map ReadCountAndLastID :=
  if clientType = 17 then c.userGroupCountIos
  else if clientType = 18 then c.userGroupCountAndroid
  else c.userGroupCountOther

/-- `GetReadCountAndLastIDMap`, written through. -/
def GroupCounterInfo.setReadCountAndLastIDMap (c : GroupCounterInfo) (clientType : UInt32)
    (m : Map ReadCountAndLastID) : GroupCounterInfo :=
  if clientType = 17 then { c with userGroupCountIos := m }
  else if clientType = 18 then { c with userGroupCountAndroid := m }
  else { c with userGroupCountOther := m }

/-- `CacheManager`; a new one is empty. -/
structure CacheManager where
  counterInstance : Map (Map UInt32) := ∅
  unreadInstance : Map UserUnreadCount := ∅
  groupCounterInstance : Map GroupCounterInfo := ∅

namespace CacheManager

/-- `m[key] += 1`. -/
def increment (m : Map UInt32) (key : UInt32) : Map UInt32 := m.insert key (m.getD key 0 + 1)

/-- `IncrUserMsgCount`. -/
def incrUserMsgCount (fromUserId toUserId : UInt32) (c : CacheManager) : CacheManager :=
  match c.counterInstance[fromUserId]? with
  | none =>
    { c with counterInstance := c.counterInstance.insert fromUserId ((∅ : Map UInt32).insert toUserId 1) }
  | some toUserIds =>
    match toUserIds[toUserId]? with
    | none =>
      { c with counterInstance := c.counterInstance.insert fromUserId (toUserIds.insert toUserId 1) }
    | some n =>
      { c with
        counterInstance := c.counterInstance.insert fromUserId (toUserIds.insert toUserId (n + 1)) }

/-- `IncreaseUserUnreadMsgCount`. -/
def increaseUserUnreadMsgCount (fromUserId toUserId : UInt32) (c : CacheManager) : CacheManager :=
  match c.unreadInstance[fromUserId]? with
  | some unread =>
    { c with
      unreadInstance := c.unreadInstance.insert fromUserId
        { userUnreadCountIos := increment unread.userUnreadCountIos toUserId
          userUnreadCountAndroid := increment unread.userUnreadCountAndroid toUserId
          userUnreadCountOther := increment unread.userUnreadCountOther toUserId } }
  | none =>
    { c with
      unreadInstance := c.unreadInstance.insert fromUserId
        { userUnreadCountIos := (∅ : Map UInt32).insert toUserId 1
          userUnreadCountAndroid := (∅ : Map UInt32).insert toUserId 1
          userUnreadCountOther := (∅ : Map UInt32).insert toUserId 1 } }

/-- `FindUnreadCount`. -/
def findUnreadCount (userId clientType : UInt32) (c : CacheManager) : Option (Map UInt32) :=
  c.unreadInstance[userId]?.map (·.getUnreadCountByClientType clientType)

/-- Write through the pointer that `FindUnreadCount` returned. -/
def writeUnreadCount (userId clientType : UInt32) (m : Map UInt32) (c : CacheManager) :
    CacheManager :=
  match c.unreadInstance[userId]? with
  | some unread =>
    { c with
      unreadInstance := c.unreadInstance.insert userId
        (unread.setUnreadCountByClientType clientType m) }
  | none => c

/-- `GetGroupTotalCount`. -/
def getGroupTotalCount (groupId : UInt32) (c : CacheManager) : UInt32 :=
  match c.groupCounterInstance[groupId]? with
  | some info => info.groupTotalCount
  | none => 0

/-- `FindCounterAndLastIDs`. -/
def findCounterAndLastIDs (userId groupId clientType : UInt32) (c : CacheManager) :
    Option ReadCountAndLastID := do
  let info ← c.groupCounterInstance[groupId]?
  (info.getReadCountAndLastIDMap clientType)[userId]?

/-- Write through the pointer that `FindCounterAndLastIDs` returned. -/
def writeCounterAndLastIDs (userId groupId clientType : UInt32) (v : ReadCountAndLastID)
    (c : CacheManager) : CacheManager :=
  match c.groupCounterInstance[groupId]? with
  | some info =>
    { c with
      groupCounterInstance := c.groupCounterInstance.insert groupId
        (info.setReadCountAndLastIDMap clientType
          ((info.getReadCountAndLastIDMap clientType).insert userId v)) }
  | none => c

end CacheManager

/-- `Counter`; nothing uses its `msg_count_`. -/
structure Counter where
  userId : UInt32
  unreadCount : Map UInt32
  deriving Inhabited

/-- `GroupCounterItem`. -/
structure GroupCounterItem where
  userId : UInt32
  groupId : UInt32
  groupTotalCount : UInt32
  userUnreadCount : UInt32
  lastMessageId : UInt32
  deriving Inhabited

/-- `GROUP_UNREAD_MAX_COUNTER`. -/
def groupUnreadMaxCounter : UInt32 := 150

namespace ZAresCounterManagerImpl

/-- `IncrUserMsgCount`. -/
def incrUserMsgCount (fromUserId toUserId : UInt32) (c : CacheManager) : CacheManager :=
  if fromUserId = 0 ∨ toUserId = 0 then c else c.incrUserMsgCount fromUserId toUserId

/-- `IncreaseUserUnreadMsgCount`. -/
def increaseUserUnreadMsgCount (fromUserId toUserId : UInt32) (c : CacheManager) : CacheManager :=
  if fromUserId = 0 ∨ toUserId = 0 then c else c.increaseUserUnreadMsgCount fromUserId toUserId

/-- `GetUnreadMsgCount`, into `counter`; NULL leaves that as it is.  At most 300 entries are
    copied, those with the smallest keys. -/
def getUnreadMsgCount (userId clientType : UInt32) (counter : Counter) (c : CacheManager) :
    Option Counter :=
  if userId = 0 then none
  else
    match c.findUnreadCount userId clientType with
    | none => none
    | some unreadCount =>
      some
        { counter with
          userId := userId
          unreadCount := (unreadCount.toList.take 300).foldl (fun m e => m.insertIfNew e.1 e.2)
            counter.unreadCount }

/-- `ClearUserUnreadItemCount`. -/
def clearUserUnreadItemCount (userId friendUserId clientType : UInt32) (c : CacheManager) :
    Bool × CacheManager :=
  if userId = 0 ∨ friendUserId = 0 then (false, c)
  else
    match c.findUnreadCount userId clientType with
    | none => (false, c)
    | some unreadCount => (true, c.writeUnreadCount userId clientType (unreadCount.erase friendUserId))

/-- `GetUserFriendUnreadCount`; the `false` it returns for a user without counts is a 0. -/
def getUserFriendUnreadCount (userId friendUserId clientType : UInt32) (c : CacheManager) : UInt32 :=
  if userId ≠ 0 ∧ friendUserId ≠ 0 then
    match c.findUnreadCount userId clientType with
    | none => 0
    | some unreadCounts => unreadCounts.getD friendUserId 0
  else 0

/-- `GetUserGroupCount`, into `item`.  The parameters are in THIS order, which is not that of the
    interface. -/
def getUserGroupCount (userId clientType groupId : UInt32) (item : GroupCounterItem)
    (c : CacheManager) : GroupCounterItem :=
  let item : GroupCounterItem :=
    { userId := userId, groupId := groupId, groupTotalCount := 0, userUnreadCount := 0,
      lastMessageId := 0 }
  if userId = 0 ∨ groupId = 0 then item
  else
    let totalCount := c.getGroupTotalCount groupId
    if totalCount = 0 then item
    else
      match c.findCounterAndLastIDs userId groupId clientType with
      | none => { item with groupTotalCount := totalCount }
      | some counterAndLastId =>
        let unreadCount := totalCount - counterAndLastId.readCount
        { item with
          groupTotalCount := totalCount
          lastMessageId := counterAndLastId.lastId
          userUnreadCount :=
            if unreadCount > groupUnreadMaxCounter then groupUnreadMaxCounter else unreadCount }

/-- `GetUserGroupUnreadCount`, into `unreads`.  The call passes the group second and the client type
    third.  The local `counter_item` is written in full, so it may as well start with zeros. -/
def getUserGroupUnreadCount (userId : UInt32) (groupIds : List UInt32) (clientType : UInt32)
    (unreads : Map UInt32) (c : CacheManager) : Nat × Map UInt32 :=
  if userId = 0 ∨ groupIds = [] then (0, unreads)
  else
    let unreads := groupIds.foldl (fun unreads groupId =>
      let counterItem := getUserGroupCount userId groupId clientType ⟨0, 0, 0, 0, 0⟩ c
      unreads.insertIfNew groupId counterItem.userUnreadCount) unreads
    (unreads.size, unreads)

/-- `ClearUserGroupCounter`. -/
def clearUserGroupCounter (userId groupId clientType : UInt32) (c : CacheManager) :
    Bool × CacheManager :=
  match c.findCounterAndLastIDs userId groupId clientType with
  | some _ => (true, c.writeCounterAndLastIDs userId groupId clientType ⟨0, 0⟩)
  | none => (true, c)

end ZAresCounterManagerImpl

/-! ## The operations as commands -/

/-- An operation on the counters. -/
inductive CounterOp
  | incrUserMsgCount (fromUserId toUserId : UInt32)
  | increaseUserUnreadMsgCount (fromUserId toUserId : UInt32)
  | getUnreadMsgCount (userId clientType : UInt32) (counter : Counter)
  | clearUserUnreadItemCount (userId friendUserId clientType : UInt32)
  | getUserFriendUnreadCount (userId friendUserId clientType : UInt32)
  | getUserGroupUnreadCount (userId : UInt32) (groupIds : List UInt32) (clientType : UInt32)
      (unreads : Map UInt32)
  | getUserGroupCount (userId clientType groupId : UInt32) (item : GroupCounterItem)
  | clearUserGroupCounter (userId groupId clientType : UInt32)

namespace CounterOp

abbrev Answer : CounterOp → Type
  | incrUserMsgCount _ _ | increaseUserUnreadMsgCount _ _ => Unit
  | getUnreadMsgCount _ _ _ => Option Counter
  | clearUserUnreadItemCount _ _ _ | clearUserGroupCounter _ _ _ => Bool
  | getUserFriendUnreadCount _ _ _ => UInt32
  | getUserGroupUnreadCount _ _ _ _ => Nat × Map UInt32
  | getUserGroupCount _ _ _ _ => GroupCounterItem

/-- The answer of an operation and the cache after it. -/
def run (c : CacheManager) : (op : CounterOp) → op.Answer × CacheManager
  | incrUserMsgCount f t => ((), ZAresCounterManagerImpl.incrUserMsgCount f t c)
  | increaseUserUnreadMsgCount f t => ((), ZAresCounterManagerImpl.increaseUserUnreadMsgCount f t c)
  | getUnreadMsgCount u t counter => (ZAresCounterManagerImpl.getUnreadMsgCount u t counter c, c)
  | clearUserUnreadItemCount u f t => ZAresCounterManagerImpl.clearUserUnreadItemCount u f t c
  | getUserFriendUnreadCount u f t => (ZAresCounterManagerImpl.getUserFriendUnreadCount u f t c, c)
  | getUserGroupUnreadCount u gs t unreads =>
      (ZAresCounterManagerImpl.getUserGroupUnreadCount u gs t unreads c, c)
  | getUserGroupCount u t g item => (ZAresCounterManagerImpl.getUserGroupCount u t g item c, c)
  | clearUserGroupCounter u g t => ZAresCounterManagerImpl.clearUserGroupCounter u g t c

end CounterOp

end Zattd
