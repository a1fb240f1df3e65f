/-
  Messages (`zares_message_manager_impl.cc`).

  Only text messages between two users are implemented.  The functions for voice and for groups are
  stubs; so are the functions that read messages back, one of which runs its query and drops the
  rows.
-/
import Zattd.Model.RelationshipManager

set_option linter.unusedVariables false

namespace Zattd.ZAresMessageManagerImpl

open ZAresRelationshipManagerImpl

/-- `ParseFromDatabase`. -/
def parseFromDatabase (serverMsg : ServerMsg) (row : MessageRow) : ServerMsg :=
  { serverMsg with
    msgType := (getColumn row.type).toUInt8
    createTime := getColumn row.created
    msgData := row.content }

/-- `GetMessages`.  Each row is parsed into a new `ServerMsg`, and that is the end of it: nothing
    puts the message into `messages`. -/
def getMessages (fromUserId toUserId offset : UInt32) (count : Int) (messages : List ServerMsg) :
    Server (Nat × List ServerMsg) := do
  let relateId ← getRelateId fromUserId toUserId
  if relateId = kInvalidID then return (0, messages)
  let answ ← issue (.message (.selectMessages (percentD relateId) (percentD fromUserId)
    (percentD toUserId) (percentD offset) count))
  let dropped := (answ.getD []).map
    (parseFromDatabase { ServerMsg.new with fromUserId := fromUserId })
  return (messages.length, messages)

/-- `GetDialogMessages`, whose body is compiled out. -/
def getDialogMessages (fromUserId toUserId offset : UInt32) (count : Int)
    (messages : List ServerMsg) : Server (Nat × List ServerMsg) :=
  return (0, messages)

/-- `GetGroupMessages`, a stub. -/
def getGroupMessages (groupId offset : UInt32) (count : Int) (messages : List GroupMsg) :
    Server (Nat × List GroupMsg) :=
  return (0, messages)

/-- `GetGroupMessagesFromId`, a stub. -/
def getGroupMessagesFromId (userId lastMsgId : UInt32) (count : Int) (groupMsgs : List GroupMsg) :
    Server (Nat × List GroupMsg) :=
  return (0, groupMsgs)

/-- `SendAudioMessage`, a stub that reports failure. -/
def sendAudioMessage (fromUserId toUserId : UInt32) (content : Bytes) (time : UInt32) :
    Server Bool :=
  return false

/-- `SendIMGroupMessage`, a stub that reports SUCCESS. -/
def sendIMGroupMessage (userId toGroupId : UInt32) (content : Bytes) (time : UInt32) :
    Server Bool :=
  return true

/-- `IncrCounterForNewMessage`. -/
def incrCounterForNewMessage (fromUserId toUserId count : UInt32) : Server Unit := do
  issue (.counter (.incrUserMsgCount fromUserId toUserId))
  issue (.counter (.increaseUserUnreadMsgCount fromUserId toUserId))

/-- The row `SendIMMessage` inserts. -/
def messageValues (relateId fromUserId toUserId type : UInt32) (content : Bytes) (ctime : UInt32) :
    MessageValues where
  relateId := addParam relateId
  fromUserId := addParam fromUserId
  toUserId := addParam toUserId
  content := content
  type := addParam type
  created := addParam ctime
  updated := addParam ctime

/-- `SendIMMessage`. -/
def sendIMMessage (fromUserId toUserId type : UInt32) (content : Bytes) (time : UInt32) :
    Server Bool := do
  if fromUserId = 0 ∨ toUserId = 0 ∨ content = [] then return false
  let _ ← checkAndUpdateRelation fromUserId toUserId
  let found ← getRelateId fromUserId toUserId
  let relateId ← (if found = kInvalidID then addFriendship fromUserId toUserId else pure found)
  let ctime := ((← issue .nowMSTime) / 1000).toUInt32
  let n ← issue (.message (.insertMessage
    (messageValues relateId fromUserId toUserId type content ctime)))
  if n > (0 : Int) then
    incrCounterForNewMessage fromUserId toUserId 1
    return true
  else
    return false

end Zattd.ZAresMessageManagerImpl
