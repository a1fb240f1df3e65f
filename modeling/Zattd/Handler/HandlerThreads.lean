/-
  The worker threads (`zares_handler_thread_manager.h`, `.cc`, `zares_handler_thread.cc`,
  `client_comm_handler.cc`).

  A packet that has a handler is posted to a worker thread, with the id of its session.  Which thread
  that is has nothing to do with the session: `GetNextThread` deals the packets of ALL sessions to the
  threads in turn.  The packets of one session come from one reactor thread, one after the other; but
  between the draw of a number and the `PostTask` of a packet the packets of other sessions may
  pass.
-/
import Zattd.Handler.MessageHandler
import Zattd.Lib.Workers

set_option linter.unusedVariables false

namespace Zattd

/-- `OnMessageDataHandler` bound to its arguments.  The number tells how many packets have gone to the
    threads before. -/
structure Job where
  number : Nat
  sessionId : UInt64
  packet : Packet

/-- The events of the server: a packet arrives and gets a number, is sent back, or is logged; or the
    worker threads go on. -/
inductive ThreadsEvent
  | received (j : Job)
  | sentSyncData (sessionId : UInt64) (packet : Packet)
  | notImplemented (sessionId : UInt64) (packet : Packet)
  | pool (e : PoolEvent Cmd Cmd.Answer Job)

/-- The state of the threads. -/
structure HandlerThreads where
  /-- `next_thread_`. -/
  nextThread : Nat
  /-- What is about to be posted, by session. -/
  posting : UInt64 → Option Job
  pool : Pool World Cmd Cmd.Answer Job

namespace HandlerThreads

/-- The threads after `Run`. -/
def start (w : World) : HandlerThreads := ⟨0, fun _ => none, .idle w⟩

/-- `GetNextThread`, with the number `next` drawn from `next_thread_`.  (A pool of one thread draws
    none.) -/
def getNextThread (threadPoolSize next : Nat) : Nat :=
  if threadPoolSize = 1 then 0 else next % 2 ^ 32 % threadPoolSize

/-- The thread that a packet is posted to. -/
def threadOf (threadPoolSize : Nat) (j : Job) : Nat := getNextThread threadPoolSize j.number

/-- What a thread does with a packet.  The objects it makes have what is in its memory. -/
def Handles (bo : ByteOrder) (model : ModelModule) (j : Job) (p : Server Unit) : Prop :=
  ∃ mem, p = onMessageDataHandler bo model mem j.sessionId j.packet

/-- One step, in a pool of `n` threads. -/
inductive Step (n : Nat) (bo : ByteOrder) (model : ModelModule) :
    HandlerThreads → ThreadsEvent → HandlerThreads → Prop
  /-- `OnDataReceived` goes as far as `GetNextThread`. -/
  | received {s : HandlerThreads} {sessionId : UInt64} {packet : Packet} :
      s.posting sessionId = none → onDataReceived packet = .postDataToDbHandler →
      Step n bo model s (.received ⟨s.nextThread, sessionId, packet⟩)
        { s with
          nextThread := s.nextThread + 1
          posting := Function.update s.posting sessionId (some ⟨s.nextThread, sessionId, packet⟩) }
  | sentSyncData {s : HandlerThreads} {sessionId : UInt64} {packet : Packet} :
      s.posting sessionId = none → onDataReceived packet = .sendSyncData →
      Step n bo model s (.sentSyncData sessionId packet) s
  | notImplemented {s : HandlerThreads} {sessionId : UInt64} {packet : Packet} :
      s.posting sessionId = none → onDataReceived packet = .notImplemented →
      Step n bo model s (.notImplemented sessionId packet) s
  /-- `DoMessageDataHandler` posts the packet to the thread. -/
  | post {s : HandlerThreads} {j : Job} {pool : Pool World Cmd Cmd.Answer Job} :
      s.posting j.sessionId = some j →
      Pool.Step (threadOf n) Zattd.Step (Handles bo model) s.pool (.post j) pool →
      Step n bo model s (.pool (.post j))
        { s with posting := Function.update s.posting j.sessionId none, pool := pool }
  /-- A thread takes a packet from its queue, or goes on with its handler. -/
  | work {s : HandlerThreads} {e : PoolEvent Cmd Cmd.Answer Job}
      {pool : Pool World Cmd Cmd.Answer Job} :
      (∀ j, e ≠ .post j) → Pool.Step (threadOf n) Zattd.Step (Handles bo model) s.pool e pool →
      Step n bo model s (.pool e) { s with pool := pool }

end HandlerThreads

end Zattd
