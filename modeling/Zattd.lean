import Zattd.Handler.MessageHandler
import Zattd.Lib.Run
import Zattd.Model.ZAresModelModule
import Zattd.Correct.GroupChangeMember
import Zattd.Correct.Login
import Zattd.Correct.Acknowledge
import Zattd.Correct.Contacts
import Zattd.Correct.GroupWrites
import Zattd.Correct.Dispatch
import Zattd.Correct.Replies
import Zattd.Correct.GroupMembership
import Zattd.Correct.MemberCnt
import Zattd.Correct.OneRow
import Zattd.Correct.Ledger
import Zattd.Correct.Unread
import Zattd.Correct.UnreadMessages
import Zattd.Correct.Conversations
import Zattd.Correct.Quoting
import Zattd.Correct.GroupFailures
import Zattd.Handler.HandlerThreads
import Zattd.Correct.SessionOrder
import Zattd.Lib.Threads
import Zattd.Correct.ConcurrentMembers
import Zattd.Correct.ConcurrentSends
import Zattd.Correct.Correlation
import Zattd.Correct.GroupUnread
import Zattd.Correct.Rendering
import Zattd.Proto.Accepts
import Zattd.Correct.FileTasks
import Zattd.Handler.ServerStart
import Zattd.Correct.WorkerPool
import Zattd.Correct.StaleMemory
import Zattd.Correct.MessageInside
import Zattd.Correct.SessionRemoval
import Zattd.Correct.ChangeAcknowledged
import Zattd.Correct.FileRecords
import Zattd.Correct.MemberLists
import Zattd.Correct.Timestamps
import Zattd.Correct.UnreadReads
import Zattd.Proto.AttachData
import Zattd.Correct.Admission
import Zattd.Correct.Delivery
import Zattd.Correct.Authority
import Zattd.Correct.Dealing
import Zattd.Correct.Provenance
import Zattd.Correct.Secrecy
import Zattd.Correct.Tally
import Zattd.Correct.Custody
import Zattd.Correct.OneShots
import Zattd.Correct.Silence
import Zattd.Correct.Understood
