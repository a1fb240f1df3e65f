/-
  The start of the server (`zaresd_server.cc`) and the pool of its workers
  (`zares_handler_thread_manager.h`, `.cc`).

  `thread_pool_` and `thread_pool_size_` are two members, set and cleared apart; a worker is taken from
  the one by a number reduced modulo the other.  What lies outside — whether a thread can be started,
  whether a port can be opened — is given by `Outside`.
-/
import Zattd.Handler.HandlerThreads
import Zattd.Lib.Run

set_option linter.unusedVariables false

namespace Zattd

/-- A thread is made, `StartWithOptions` starts it, `Stop` ends it. -/
inductive ThreadState
  | created
  | started
  | stopped
  deriving DecidableEq

structure ZAresHandlerThread where
  name : String
  threadIndex : Nat
  state : ThreadState
  deriving DecidableEq

namespace ZAresHandlerThread

/-- `Run`, where it succeeds. -/
def run (t : ZAresHandlerThread) : ZAresHandlerThread := { t with state := .started }

/-- `Stop`. -/
def stop (t : ZAresHandlerThread) : ZAresHandlerThread := { t with state := .stopped }

end ZAresHandlerThread

/-- What has no defined result. -/
inductive PoolFault
  | divisionByZero
  | indexOutside
  deriving DecidableEq

structure ZAresHandlerThreadManager where
  /-- `thread_pool_`. -/
  threadPool : List ZAresHandlerThread
  /-- `thread_pool_size_`. -/
  threadPoolSize : Nat
  deriving DecidableEq

namespace ZAresHandlerThreadManager

/-- The constructor. -/
def new : ZAresHandlerThreadManager := ⟨[], 0⟩

/-- `thread_pool_[i]`. -/
def thread (m : ZAresHandlerThreadManager) (i : Nat) : Except PoolFault ZAresHandlerThread :=
  match m.threadPool[i]? with
  | some t => .ok t
  | none => .error .indexOutside

/-- `Initialize`. -/
def initializePool (m : ZAresHandlerThreadManager) (maxConnCount : Nat) : ZAresHandlerThreadManager where
  threadPool := m.threadPool ++ (List.range maxConnCount).map fun i =>
    ⟨"zares_handler_thread_" ++ toString i, i, .created⟩
  threadPoolSize := maxConnCount

/-- `Shutdown`: the threads are stopped and deleted. -/
def shutdown (m : ZAresHandlerThreadManager) : Except PoolFault ZAresHandlerThreadManager :=
  if 0 < m.threadPoolSize then do
    let _ ← (List.range m.threadPoolSize).mapM fun i => return (← m.thread i).stop
    return { threadPool := [], threadPoolSize := 0 }
  else return m

/-- The loop of `Run`, with so many threads left: it breaks at the first that does not start. -/
def runLoop (starts : Nat → Bool) : Nat → Nat → ZAresHandlerThreadManager →
    Except PoolFault (Bool × ZAresHandlerThreadManager)
  | 0, _, m => return (true, m)
  | left + 1, i, m => do
    let t ← m.thread i
    if starts t.threadIndex then
      runLoop starts left (i + 1) { m with threadPool := m.threadPool.set i t.run }
    else return (false, m)

/-- `Run`. -/
def run (starts : Nat → Bool) (m : ZAresHandlerThreadManager) :
    Except PoolFault (Bool × ZAresHandlerThreadManager) := do
  let (bRt, m) ← runLoop starts m.threadPoolSize 0 m
  if ¬bRt then return (bRt, ← m.shutdown)
  return (bRt, m)

/-- `GetNextThread`, with the number `next` drawn from `next_thread_`. -/
def getNextThread (m : ZAresHandlerThreadManager) (next : Nat) :
    Except PoolFault ZAresHandlerThread :=
  if m.threadPoolSize = 1 then m.thread 0
  else if m.threadPoolSize = 0 then .error .divisionByZero
  else m.thread (next % 2 ^ 32 % m.threadPoolSize)

/-- `PostDataToDbHandler`: the thread, and what `DoMessageDataHandler` posts to it. -/
def postDataToDbHandler (m : ZAresHandlerThreadManager) (next : Nat) (sessionId : UInt64)
    (packet : Packet) : Except PoolFault (ZAresHandlerThread × Job) := do
  let thread ← m.getNextThread next
  return (thread, ⟨next, sessionId, packet⟩)

end ZAresHandlerThreadManager

/-- The configuration, and what the world does with the requests of the server. -/
structure Outside where
  /-- `db_addr().max_conn_count`. -/
  maxConnCount : Nat
  /-- Whether the thread of this number can be started. -/
  starts : Nat → Bool
  /-- The result of `NetEngineManager::Run`. -/
  engineRuns : Bool
  /-- The result of `TCPAcceptor::Create`. -/
  creates : Bool

/-- What `ZAresdServer::Initialize` does next. -/
inductive InitializeStep
  | modelMainManager
  | initializeThreads
  | runThreads
  | netEngine
  | registerPDUMessageFactory
  | initMessageHandlerTable
  | clientCommManager
  | returned (result : Int)
  deriving DecidableEq

structure ZAresdServer where
  next : InitializeStep
  threadManager : ZAresHandlerThreadManager
  netEngineRunning : Bool
  /-- The acceptor is open: packets come in. -/
  accepting : Bool

namespace ZAresdServer

/-- At the entry of `Initialize`. -/
def start : ZAresdServer := ⟨.modelMainManager, .new, false, false⟩

/-- The statements of `Initialize`.  The results of `ZAresHandlerThreadManager::Run` and of
    `NetEngineManager::Run` are not looked at. -/
inductive Step (o : Outside) : ZAresdServer → InitializeStep → ZAresdServer → Prop
  | modelMainManager {s : ZAresdServer} : s.next = .modelMainManager →
      Step o s .modelMainManager { s with next := .initializeThreads }
  | initializeThreads {s : ZAresdServer} : s.next = .initializeThreads →
      Step o s .initializeThreads { s with
        next := .runThreads
        threadManager := s.threadManager.initializePool o.maxConnCount }
  | runThreads {s : ZAresdServer} {bRt : Bool} {m : ZAresHandlerThreadManager} :
      s.next = .runThreads → s.threadManager.run o.starts = .ok (bRt, m) →
      Step o s .runThreads { s with next := .netEngine, threadManager := m }
  | netEngine {s : ZAresdServer} : s.next = .netEngine →
      Step o s .netEngine { s with
        next := .registerPDUMessageFactory
        netEngineRunning := o.engineRuns }
  | registerPDUMessageFactory {s : ZAresdServer} : s.next = .registerPDUMessageFactory →
      Step o s .registerPDUMessageFactory { s with next := .initMessageHandlerTable }
  | initMessageHandlerTable {s : ZAresdServer} : s.next = .initMessageHandlerTable →
      Step o s .initMessageHandlerTable { s with next := .clientCommManager }
  | clientCommManager {s : ZAresdServer} : s.next = .clientCommManager →
      Step o s .clientCommManager { s with
        next := .returned (if o.creates then 0 else -1)
        accepting := o.creates }

end ZAresdServer

end Zattd
