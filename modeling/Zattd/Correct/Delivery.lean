/-
  DELIVERY: what becomes of the packets that are admitted, whatever the threads do.

  1. `received_once` — each is in ONE place: about to be posted, with its thread, or finished.
  2. `answered_once` — each that is executed is answered once, to its own session, and no other message
     is sent: as many replies go to a session as its packets have been executed.
  3. `drains` — nothing gets stuck, and no packet keeps a thread for more than so many steps: if no
     packets come, all that have come are soon finished.

  Nothing is assumed of the statements: any of them may fail.

  What a handler does by itself a server can do (`inTurn_run`): packets that come one after the other,
  each when the one before has been served, make a run.
-/
import Zattd.Correct.SessionOrder
import Zattd.Correct.Workload
import Zattd.Lib.Pools

set_option linter.unusedVariables false

namespace Zattd

open Prog

deriving instance DecidableEq for Packet

deriving instance DecidableEq for Job

/-! ## Replies on every path -/

section Replies

variable {q : UInt64 → Bool} {mem : Memory} {sessionId : UInt64}

theorem executes_replies {n : PduName} {execute : Execute n.Body} (h : executes n = some execute)
    (m : Pdu n.Body) : RepliesOnce q sessionId (execute zAresModelModule mem sessionId m) := by
  have hm : zAresModelModule.AllSilent q := zAresModelModule_allSilent
  cases n <;> cases h
  · exact allUserRequestHandler_replies hm m
  · exact departmentRequestHandler_replies hm m
  · exact fileAddOfflineReqHandler_replies hm m
  · exact fileDelOfflineReqHandler_replies hm m
  · exact fileHasOfflineReqHandler_replies hm m
  · exact friendListRequestHandler_replies hm m
  · exact groupChangeMemberRequestHandler_replies hm m
  · exact groupCreateTmpGroupRequestHandler_replies hm m
  · exact groupDialogListRequestHandler_replies hm m
  · exact groupListRequestHandler_replies hm m
  · exact groupMsgReadAckHandler_replies hm m
  · exact groupUnreadMsgCountRequestHandler_replies hm m
  · exact groupUnreadMsgRequestHandler_replies hm m
  · exact groupUserListRequestHandler_replies hm m
  · exact msgDataHandler_replies hm m
  · exact msgReadAckHandler_replies hm m
  · exact removeSessionRequestHandler_replies hm m
  · exact unreadMsgCountRequestHandler_replies hm m
  · exact unreadMsgRequestHandler_replies hm m
  · exact usersInfoRequestHandler_replies hm m
  · exact validateRequestHandler_replies hm m

/-- Whether a thread replies is known from the packet. -/
theorem onMessageDataHandler_issues (bo : ByteOrder) (packet : Packet) :
    Issues (Cmd.isSendTo q) (onMessageDataHandler bo zAresModelModule mem sessionId packet)
      (if isExecuted bo packet = true ∧ q sessionId = true then 1 else 0) := by
  rcases onMessageDataHandler_cases bo zAresModelModule mem sessionId packet with
    ⟨n, m, execute, hexecuted, -, hexecutes, hrun⟩ | ⟨hnot, hrun⟩
  · rw [hrun, hexecuted]
    simpa using executes_replies (q := q) hexecutes m
  · rw [hrun, hnot]
    simpa using Issues.pure ()

end Replies

namespace HandlerThreads

variable {n : Nat} {bo : ByteOrder} {model : ModelModule} {w₀ : World} {s s' : HandlerThreads}
  {tr : List ThreadsEvent} {j : Job}

/-! ## Where a packet is -/

theorem threadOf_lt (hn : 0 < n) (j : Job) : threadOf n j < n := by
  unfold threadOf getNextThread
  split
  · omega
  · exact Nat.mod_lt _ hn

/-- A packet has been received exactly if it is about to be posted or has been. -/
theorem Threaded.mem_received (h : Threaded n bo model w₀ tr s) :
    j ∈ received tr ↔ j ∈ Pool.posted (poolEvents tr) ∨ s.posting j.sessionId = some j := by
  have hself : ∀ l : List Job, j ∈ l ↔ j ∈ l.filter fun x => decide (x.sessionId = j.sessionId) := by
    intro l
    simp [List.mem_filter]
  rw [hself (received tr), h.sessions j.sessionId, List.mem_append, ← hself, Option.mem_toList]

/-- What a thread has is for it, and has been received. -/
theorem Threaded.of_mem_jobs (h : Threaded n bo model w₀ tr s) {i : Nat}
    (hj : j ∈ (s.pool.workers i).jobs) : i = threadOf n j ∧ j ∈ received tr := by
  obtain rfl := Pool.route_of_mem_jobs h.pool hj
  exact ⟨rfl, h.mem_received.mpr (Or.inl ((Pool.mem_posted_iff h.pool).mpr (Or.inr hj)))⟩

/-- **Nothing is lost, and nothing is there twice.**  Every packet that has been received is in exactly
    one place: with the reactor, which is about to post it, with the one thread it is for, or among
    those that are finished.  A thread has no other packets. -/
theorem received_once (h : Run (Step n bo model) (start w₀) tr s) :
    (received tr).Nodup ∧
    (∀ j, (received tr).count j = (if s.posting j.sessionId = some j then 1 else 0) +
      (s.pool.workers (threadOf n j)).jobs.count j + (Pool.finished (poolEvents tr)).count j) ∧
    ∀ i j, j ∈ (s.pool.workers i).jobs → i = threadOf n j ∧ j ∈ received tr := by
  have hthreaded := run_threaded h
  refine ⟨hthreaded.received_nodup, fun j => ?_, fun i j hj => hthreaded.of_mem_jobs hj⟩
  have hreceived := congrArg (List.count j) (hthreaded.sessions j.sessionId)
  have hposted := congrArg (List.count j) (Pool.posted_eq hthreaded.pool (threadOf n j))
  rw [List.count_append, Pool.count_filter_same Job.sessionId, Pool.count_filter_same Job.sessionId]
    at hreceived
  rw [List.count_append, Pool.count_filter_same (threadOf n), Pool.count_filter_same (threadOf n)]
    at hposted
  have hposting : (s.posting j.sessionId).toList.count j =
      if s.posting j.sessionId = some j then 1 else 0 := by
    cases s.posting j.sessionId with
    | none => rfl
    | some j' => by_cases hj : j' = j <;> simp [hj]
  omega

/-- A packet comes, and is posted. -/
def oneComes : List ThreadsEvent := [.received firstJob, .pool (.post firstJob)]

/-- It is all there is. -/
def oneWaits : HandlerThreads :=
  ⟨1, fun _ => none, (Pool.idle emptyWorld).setWorker (getNextThread 2 0) ⟨[firstJob], none⟩⟩

theorem oneComes_run : Run (Step 2 .big zAresModelModule) (start emptyWorld) oneComes oneWaits :=
  deliver_run rfl (by decide) rfl

/-- It waits for the first of two threads. -/
theorem received_once_one :
    (received oneComes).Nodup ∧
    (∀ j, (received oneComes).count j = (if oneWaits.posting j.sessionId = some j then 1 else 0) +
      (oneWaits.pool.workers (threadOf 2 j)).jobs.count j +
      (Pool.finished (poolEvents oneComes)).count j) ∧
    ∀ i j, j ∈ (oneWaits.pool.workers i).jobs → i = threadOf 2 j ∧ j ∈ received oneComes :=
  received_once oneComes_run

/-! ## One after the other -/

/-- What the threads do between packets is what their pool does. -/
theorem work_run {events : List (PoolEvent Cmd Cmd.Answer Job)} {pool : Pool World Cmd Cmd.Answer Job}
    (h : Run (Pool.Step (threadOf n) Zattd.Step (Handles bo model)) s.pool events pool)
    (hnopost : ∀ e ∈ events, ∀ j, e ≠ .post j) :
    Run (Step n bo model) s (events.map .pool) { s with pool := pool } := by
  induction h with
  | nil => exact .nil
  | @snoc events e pool₁ pool₂ _ hstep ih =>
    rw [List.map_append]
    refine (ih fun e' he' => hnopost e' (List.mem_append_left _ he')).snoc (.work (fun j => ?_) hstep)
    exact hnopost e (List.mem_append_right _ (List.mem_singleton_self e)) j

/-- So many packets have come, and nobody is at work. -/
def atRest (k : Nat) (w : World) : HandlerThreads := ⟨k, fun _ => none, .idle w⟩

/-- A packet comes and is served, and nothing else happens. -/
def service (j : Job) (es : List Event) : List ThreadsEvent :=
  [.received j, .pool (.post j)] ++ (Pool.service j es).map .pool

/-- What a handler can do by itself it can do in a server that is idle. -/
theorem service_run {mem : Memory} {k : Nat} {sessionId : UInt64} {packet : Packet} {es : List Event}
    {w w' : World} (hadmitted : onDataReceived packet = .postDataToDbHandler)
    (h : Runs Zattd.Step w (onMessageDataHandler bo model mem sessionId packet) es () w') :
    Run (Step n bo model) (atRest k w) (service ⟨k, sessionId, packet⟩ es) (atRest (k + 1) w') := by
  let j : Job := ⟨k, sessionId, packet⟩
  let s₁ : Pool World Cmd Cmd.Answer Job := (Pool.idle w).setWorker (getNextThread n k) ⟨[j], none⟩
  have hcomes : Run (Step n bo model) (atRest k w) [.received j, .pool (.post j)]
      ⟨k + 1, fun _ => none, s₁⟩ := deliver_run (s := atRest k w) rfl hadmitted rfl
  have hserve : Run (Pool.Step (threadOf n) Zattd.Step (Handles bo model)) s₁ (Pool.service j es)
      { s₁.setWorker (threadOf n j) ⟨[], none⟩ with world := w' } :=
    Pool.serve (Pool.setWorker_same ..) ⟨mem, rfl⟩ h
  have hidle : { s₁.setWorker (getNextThread n k) ⟨[], none⟩ with world := w' } = Pool.idle w' := by
    simp only [s₁, Pool.setWorker, Function.update_idem, Pool.idle]
    exact congrArg _ (Function.update_eq_self ..)
  refine hcomes.append ?_
  have hwork := work_run (s := ⟨k + 1, fun _ => none, s₁⟩) hserve fun e he j =>
    Pool.ne_post_of_mem_service he j
  rwa [show threadOf n j = getNextThread n k from rfl, hidle] at hwork

/-- Packets that come each when the one before has been served, the first with this number; and the world
    that they leave.  Nothing fails, and each handler has the memory given with its packet. -/
def inTurn (bo : ByteOrder) : Nat → List (Memory × UInt64 × Packet) → World → List ThreadsEvent × World
  | _, [], w => ([], w)
  | k, (mem, sessionId, packet) :: rest, w =>
    let done := (onMessageDataHandler bo zAresModelModule mem sessionId packet).play w
    let later := inTurn bo (k + 1) rest done.2.2
    (service ⟨k, sessionId, packet⟩ done.1 ++ later.1, later.2)

theorem inTurn_run_from {packets : List (Memory × UInt64 × Packet)}
    (hadmitted : ∀ x ∈ packets, onDataReceived x.2.2 = .postDataToDbHandler) (k : Nat) (w : World) :
    Run (Step n bo zAresModelModule) (atRest k w) (inTurn bo k packets w).1
      (atRest (k + packets.length) (inTurn bo k packets w).2) := by
  induction packets generalizing k w with
  | nil => exact .nil
  | cons x rest ih =>
    obtain ⟨mem, sessionId, packet⟩ := x
    have hplay := Prog.play_runs (onMessageDataHandler bo zAresModelModule mem sessionId packet) w
    have hfirst : Run (Step n bo zAresModelModule) (atRest k w) _ _ :=
      service_run (hadmitted _ (List.mem_cons_self ..)) (hplay.mono fun _ _ _ _ => StepOk.step)
    have hrest := ih (fun x hx => hadmitted x (List.mem_cons_of_mem _ hx)) (k + 1)
      ((onMessageDataHandler bo zAresModelModule mem sessionId packet).play w).2.2
    have hlength : k + ((mem, sessionId, packet) :: rest).length = k + 1 + rest.length := by
      rw [List.length_cons]
      omega
    rw [hlength]
    exact hfirst.append hrest

/-- **Packets can be served in turn.**  Any packets that are admitted, in any world, by any number of
    threads. -/
theorem inTurn_run {packets : List (Memory × UInt64 × Packet)}
    (hadmitted : ∀ x ∈ packets, onDataReceived x.2.2 = .postDataToDbHandler) (w : World) :
    Run (Step n bo zAresModelModule) (start w) (inTurn bo 0 packets w).1
      (atRest packets.length (inTurn bo 0 packets w).2) := by
  have hrun : Run (Step n bo zAresModelModule) (start w) _ _ := inTurn_run_from hadmitted 0 w
  rwa [Nat.zero_add] at hrun

/-- The packet that a client sends for a message. -/
def packetOf {C : Type} [PduClass C] (m : Pdu C) : Packet :=
  ⟨PduClass.messageType C, m.reserved, (m.serializeToArray .big 1024).2⟩

/-- A text from user 1 to user 2. -/
def oneText : Pdu MsgData where
  attachData := []
  reserved := 0
  body :=
    { requestId := 7, fromUserId := 1, toUserId := 2, createTime := 0, msgType := messageTypeIm
      msgData := [104, 105] }

/-- It is sent on session 1, and then something comes on session 2 that cannot be parsed. -/
def textAndMore : List (Memory × UInt64 × Packet) :=
  [(default, 1, packetOf oneText), (default, 2, msgDataPacket)]

/-- Both are served. -/
def textServed : List ThreadsEvent := (inTurn .big 0 textAndMore emptyWorld).1

/-- Nothing is left to do. -/
def afterText : HandlerThreads := atRest 2 (inTurn .big 0 textAndMore emptyWorld).2

theorem textServed_run (n : Nat) : Run (Step n .big zAresModelModule) (start emptyWorld) textServed afterText :=
  inTurn_run (by decide) emptyWorld

def textJob : Job := ⟨0, 1, packetOf oneText⟩

def garbledJob : Job := ⟨1, 2, msgDataPacket⟩

/-! ## Replies -/

/-- What has been sent for a packet. -/
def repliesTo (j : Job) (tr : List ThreadsEvent) : List (UInt64 × Message) :=
  replies (Pool.acts j (poolEvents tr))

/-- What has been sent. -/
def sent (tr : List ThreadsEvent) : List (UInt64 × Message) := replies (Pool.allActs (poolEvents tr))

/-- The packets of a session that are executed. -/
def executedOf (bo : ByteOrder) (sessionId : UInt64) (j : Job) : Bool :=
  isExecuted bo j.packet && decide (j.sessionId = sessionId)

/-- One message that is sent to a session, and to no other, is one to it. -/
theorem replies_of_count {sessionId : UInt64} {events : List Event} {k : Nat} (hk : k ≤ 1)
    (hall : events.countP (fun e => e.1.isSendTo fun _ => true) = k)
    (hother : events.countP (fun e => e.1.isSendTo fun s => decide (s ≠ sessionId)) = 0) :
    (k = 0 ∧ replies events = []) ∨ k = 1 ∧ ∃ message, replies events = [(sessionId, message)] := by
  rw [← countP_replies, List.countP_true] at hall
  rw [← countP_replies] at hother
  rcases Nat.le_one_iff_eq_zero_or_eq_one.mp hk with rfl | rfl
  · exact Or.inl ⟨rfl, List.length_eq_zero_iff.mp hall⟩
  · obtain ⟨⟨σ, message⟩, hreplies⟩ := List.length_eq_one_iff.mp hall
    have hσ : σ = sessionId := by
      by_contra hne
      rw [hreplies] at hother
      simp [hne] at hother
    exact Or.inr ⟨rfl, message, by rw [hreplies, hσ]⟩

/-- How far the replies to a packet have got. -/
theorem repliesTo_cases (h : Run (Step n bo zAresModelModule) (start w₀) tr s) (j : Job) :
    (j ∈ Pool.finished (poolEvents tr) → isExecuted bo j.packet = true →
      repliesTo j tr ≠ []) ∧
    (repliesTo j tr = [] ∨ isExecuted bo j.packet = true ∧
      ∃ message, repliesTo j tr = [(j.sessionId, message)]) := by
  have hthreaded := run_threaded h
  rcases Pool.path_of hthreaded.pool hthreaded.posted_nodup j with ⟨hnothing, hnot⟩ |
    ⟨p, q, ⟨mem, rfl⟩, hfollows, hend⟩
  · refine ⟨fun hj => absurd hj hnot, Or.inl ?_⟩
    unfold repliesTo
    rw [hnothing]
    rfl
  obtain ⟨m, hm, hcount⟩ := hfollows.issues (onMessageDataHandler_issues (q := fun _ => true) bo j.packet)
  obtain ⟨m', -, hother⟩ := hfollows.issues
    (onMessageDataHandler_issues (q := fun s => decide (s ≠ j.sessionId)) bo j.packet)
  rw [if_neg (by simp)] at hother
  have hall : (Pool.acts j (poolEvents tr)).countP (fun e => e.1.isSendTo fun _ => true) ≤ 1 := by
    split at hcount <;> omega
  have hothers : (Pool.acts j (poolEvents tr)).countP
      (fun e => e.1.isSendTo fun s => decide (s ≠ j.sessionId)) = 0 := by omega
  rcases replies_of_count hall rfl hothers with ⟨hzero, hnone⟩ | ⟨hone, message, hmessage⟩
  · refine ⟨fun hj hexecuted => ?_, Or.inl hnone⟩
    -- a program that has ended has nothing left to send
    obtain rfl := hend hj
    obtain rfl : m = 0 := by
      cases hm
      rfl
    rw [if_pos ⟨hexecuted, rfl⟩] at hcount
    omega
  · refine ⟨fun _ _ hnone => ?_, Or.inr ⟨?_, message, hmessage⟩⟩
    · rw [show repliesTo j tr = _ from hmessage] at hnone
      cases hnone
    · by_contra hnot
      rw [if_neg (by simp [hnot])] at hcount
      omega

/-- What goes to a session is what its packets are answered. -/
theorem countP_sent (h : Run (Step n bo zAresModelModule) (start w₀) tr s) (sessionId : UInt64) :
    (sent tr).countP (fun r => decide (r.1 = sessionId)) =
      ∑ j ∈ (received tr).toFinset, (repliesTo j tr).countP fun r => decide (r.1 = sessionId) := by
  have hthreaded := run_threaded h
  have hworked : ∀ e ∈ poolEvents tr, ∀ j, e.worksOn = some j → j ∈ received tr := by
    intro e he j hj
    exact hthreaded.mem_received.mpr (Or.inl (Pool.mem_posted_of_worksOn hthreaded.pool he hj))
  have hsum := Pool.sum_countP_acts (fun e => e.1.isSendTo fun s => decide (s = sessionId))
    hthreaded.received_nodup hworked
  unfold sent repliesTo
  rw [countP_replies (fun s => decide (s = sessionId)), ← hsum,
    List.sum_toFinset _ hthreaded.received_nodup]
  refine congrArg List.sum (List.map_congr_left fun j _ => ?_)
  rw [countP_replies (fun s => decide (s = sessionId))]

/-- **Exactly one reply.**  In every run of any number of threads, whatever the statements are answered:
    a finished packet that is executed has been sent one message, to its own session; no packet has
    been sent more, one that is not executed nothing; and what has been sent to a session is at least
    one message for each of its finished packets, and at most one for each of those received. -/
theorem answered_once (h : Run (Step n bo zAresModelModule) (start w₀) tr s) :
    (∀ j ∈ Pool.finished (poolEvents tr), isExecuted bo j.packet = true →
      ∃ message, repliesTo j tr = [(j.sessionId, message)]) ∧
    (∀ j, repliesTo j tr = [] ∨ isExecuted bo j.packet = true ∧
      ∃ message, repliesTo j tr = [(j.sessionId, message)]) ∧
    ∀ sessionId,
      (Pool.finished (poolEvents tr)).countP (executedOf bo sessionId) ≤
        (sent tr).countP (fun r => decide (r.1 = sessionId)) ∧
      (sent tr).countP (fun r => decide (r.1 = sessionId)) ≤
        (received tr).countP (executedOf bo sessionId) := by
  have hthreaded := run_threaded h
  refine ⟨fun j hj hexecuted => ?_, fun j => (repliesTo_cases h j).2, fun sessionId => ?_⟩
  · obtain ⟨hsome, hcases⟩ := repliesTo_cases h j
    rcases hcases with hnone | ⟨-, hone⟩
    · exact absurd hnone (hsome hj hexecuted)
    · exact hone
  rw [countP_sent h]
  have hcount : ∀ l : List Job, l.Nodup → l.countP (executedOf bo sessionId) =
      ∑ j ∈ l.toFinset, if executedOf bo sessionId j = true then 1 else 0 := by
    intro l hl
    rw [List.sum_toFinset _ hl, List.countP_eq_length_filter, List.sum_map_ite]
    simp
  constructor
  · have hfinished := Pool.finished_nodup hthreaded.pool hthreaded.posted_nodup
    rw [hcount _ hfinished]
    have hsub : (Pool.finished (poolEvents tr)).toFinset ⊆ (received tr).toFinset := by
      intro j hj
      rw [List.mem_toFinset] at hj ⊢
      exact hthreaded.mem_received.mpr (Or.inl ((Pool.mem_posted_iff hthreaded.pool).mpr (Or.inl hj)))
    refine (Finset.sum_le_sum fun j hj => ?_).trans
      (Finset.sum_le_sum_of_subset (f := fun j =>
        (repliesTo j tr).countP fun r => decide (r.1 = sessionId)) hsub)
    by_cases hexecuted : executedOf bo sessionId j = true
    · unfold executedOf at hexecuted
      rw [Bool.and_eq_true, decide_eq_true_iff] at hexecuted
      obtain ⟨hsome, hcases⟩ := repliesTo_cases h j
      rcases hcases with hnone | ⟨-, message, hone⟩
      · exact absurd hnone (hsome (List.mem_toFinset.mp hj) hexecuted.1)
      · rw [hone]
        simp [executedOf, hexecuted]
    · rw [if_neg hexecuted]
      exact Nat.zero_le _
  · rw [hcount _ hthreaded.received_nodup]
    refine Finset.sum_le_sum fun j _ => ?_
    rcases (repliesTo_cases h j).2 with hnone | ⟨hexecuted, message, hone⟩
    · rw [hnone]
      exact Nat.zero_le _
    · rw [hone]
      by_cases hσ : j.sessionId = sessionId
      · simp [executedOf, hexecuted, hσ]
      · simp [hσ]

/-- The text is answered; what could not be parsed is not. -/
theorem answered_once_one :
    Pool.finished (poolEvents textServed) = [textJob, garbledJob] ∧
    (∃ message, repliesTo textJob textServed = [(1, message)]) ∧
    repliesTo garbledJob textServed = [] ∧
    (sent textServed).countP (fun r => decide (r.1 = 1)) = 1 := by
  obtain ⟨hfinished, hcases, hsent⟩ := answered_once (textServed_run 2)
  have hserved : Pool.finished (poolEvents textServed) = [textJob, garbledJob] := by decide
  refine ⟨hserved, hfinished textJob ?_ (by decide), ?_, ?_⟩
  · rw [hserved]
    exact List.mem_cons_self ..
  · exact (hcases garbledJob).resolve_right fun hexecuted => absurd hexecuted.1 (by decide)
  · -- at least one message for a finished packet, at most one for a received one
    obtain ⟨hatLeast, hatMost⟩ := hsent 1
    have hone : (Pool.finished (poolEvents textServed)).countP (executedOf .big 1) = 1 := by decide
    have hreceived : (received textServed).countP (executedOf .big 1) = 1 := by decide
    omega

/-! ## Coming to an end -/

/-- How many steps it takes to finish what has been received, at most: to post what is about to be
    posted, and what is left to the threads. -/
noncomputable def stepsLeft (n : Nat) (tr : List ThreadsEvent) (s : HandlerThreads) : Nat :=
  Pool.left n maxCommands s.pool +
    ((received tr).length - (Pool.posted (poolEvents tr)).length) * (maxCommands + 3)

/-- The packets that have been received and are not finished. -/
def unfinished (tr : List ThreadsEvent) : Nat :=
  (received tr).length - (Pool.finished (poolEvents tr)).length

theorem handles_short (j : Job) (p : Server Unit) (hp : Handles bo zAresModelModule j p) :
    Short p maxCommands := by
  obtain ⟨mem, rfl⟩ := hp
  exact onMessageDataHandler_short bo j.packet

theorem Threaded.posted_le (h : Threaded n bo model w₀ tr s) :
    (Pool.posted (poolEvents tr)).length ≤ (received tr).length := by
  have hsub : Pool.posted (poolEvents tr) ⊆ received tr := fun j hj => h.mem_received.mpr (Or.inl hj)
  exact (h.posted_nodup.subperm hsub).length_le

theorem stepsLeft_le (hn : 0 < n) (h : Run (Step n bo zAresModelModule) (start w₀) tr s) :
    stepsLeft n tr s ≤ unfinished tr * (maxCommands + 3) := by
  have hthreaded := run_threaded h
  have hjobs := Pool.sum_jobs (threadOf_lt hn) hthreaded.pool
  have hleft := Pool.left_le (N := n) (Pool.bounded handles_short hthreaded.pool)
  have hposted := hthreaded.posted_le
  unfold stepsLeft unfinished maxCommands at *
  omega

/-- Every step of the server itself takes one off. -/
theorem stepsLeft_step (hn : 0 < n) {e : PoolEvent Cmd Cmd.Answer Job}
    (h : Run (Step n bo zAresModelModule) (start w₀) tr s)
    (hstep : Step n bo zAresModelModule s (.pool e) s') :
    stepsLeft n (tr ++ [.pool e]) s' + 1 ≤ stepsLeft n tr s := by
  have hthreaded := run_threaded h
  have hthreaded' := run_threaded (h.snoc hstep)
  have hposted' := hthreaded'.posted_le
  have hbounded := Pool.bounded handles_short hthreaded.pool
  have hreceived : received (tr ++ [.pool e]) = received tr := by simp [received]
  have hevents : poolEvents (tr ++ [.pool e]) = poolEvents tr ++ [e] := by simp [poolEvents]
  unfold stepsLeft
  rw [hreceived, hevents] at hposted'
  rw [hreceived, hevents]
  cases hstep with
  | @post j pool hposting hpool =>
    rcases hpool.left (threadOf_lt hn) handles_short hbounded with ⟨j', -, hleft⟩ | ⟨hnot, -⟩
    · have hone : Pool.posted [(.post j : PoolEvent Cmd Cmd.Answer Job)] = [j] := rfl
      rw [Pool.posted_append, List.length_append, hone, List.length_singleton] at hposted' ⊢
      show Pool.left n maxCommands pool + _ + 1 ≤ _
      unfold maxCommands at *
      omega
    · exact absurd rfl (hnot j)
  | @work _ pool hnot hpool =>
    rcases hpool.left (threadOf_lt hn) handles_short hbounded with ⟨j', hpost, -⟩ | ⟨-, hleft⟩
    · exact absurd hpost (hnot j')
    · have hnone : Pool.posted [e] = [] := by
        cases e with
        | post j => exact absurd rfl (hnot j)
        | _ => rfl
      rw [Pool.posted_append, hnone, List.append_nil]
      show Pool.left n maxCommands pool + _ + 1 ≤ _
      omega

/-- So a run without packets has an end. -/
theorem stepsLeft_run (hn : 0 < n) {events : List (PoolEvent Cmd Cmd.Answer Job)}
    (h : Run (Step n bo zAresModelModule) (start w₀) tr s)
    (hrun : Run (Step n bo zAresModelModule) s (events.map .pool) s') :
    events.length + stepsLeft n (tr ++ events.map .pool) s' ≤ stepsLeft n tr s := by
  generalize hall : events.map ThreadsEvent.pool = all at hrun
  induction hrun generalizing events with
  | nil =>
    obtain rfl := List.map_eq_nil_iff.mp hall
    simp
  | @snoc init last s₁ s₂ hinit hlast ih =>
    rcases List.eq_nil_or_concat events with rfl | ⟨events', e, rfl⟩
    · simp at hall
    · rw [List.concat_eq_append, List.map_append] at hall
      obtain ⟨hinit', hlast'⟩ := List.append_inj' hall rfl
      obtain rfl : ThreadsEvent.pool e = last := by simpa using hlast'
      subst hinit'
      have hrest := ih rfl
      have hone := stepsLeft_step hn (h.append hinit) hlast
      rw [List.concat_eq_append, List.length_append, List.length_singleton]
      rw [List.append_assoc] at hone
      omega

/-- A packet that is not finished has a step to make. -/
theorem goes_on (hn : 0 < n) (h : Run (Step n bo model) (start w₀) tr s) (hj : j ∈ received tr)
    (hnot : j ∉ Pool.finished (poolEvents tr)) : ∃ e s', Step n bo model s (.pool e) s' := by
  have hthreaded := run_threaded h
  rcases hthreaded.mem_received.mp hj with hposted | hposting
  · have hjobs := ((Pool.mem_posted_iff hthreaded.pool).mp hposted).resolve_left hnot
    obtain ⟨e, pool, hother, hpool⟩ := Pool.goes_on (fun j => ⟨_, default, rfl⟩)
      (fun w c => ⟨_, _, (respond_ok w c).step⟩) hthreaded.pool hjobs
    exact ⟨e, _, .work hother hpool⟩
  · exact ⟨.post j, _, .post hposting (.post rfl)⟩

/-- **Everything is finished.**  In every state of a server with at least one thread: while a packet
    is not finished, some step of the server is possible; however it goes on without new packets, it
    makes at most fourteen steps for each packet that is not finished; and when it can make none,
    all are. -/
theorem drains (hn : 0 < n) (h : Run (Step n bo zAresModelModule) (start w₀) tr s) :
    (∀ j ∈ received tr, j ∉ Pool.finished (poolEvents tr) →
      ∃ e s', Step n bo zAresModelModule s (.pool e) s') ∧
    ∀ (events : List (PoolEvent Cmd Cmd.Answer Job)) (s' : HandlerThreads),
      Run (Step n bo zAresModelModule) s (events.map .pool) s' →
      events.length ≤ unfinished tr * (maxCommands + 3) ∧
      ((∀ e s'', ¬Step n bo zAresModelModule s' (.pool e) s'') →
        ∀ j ∈ received tr, j ∈ Pool.finished (poolEvents (tr ++ events.map .pool))) := by
  refine ⟨fun j hj hnot => goes_on hn h hj hnot, fun events s' hrun => ⟨?_, fun hstuck j hj => ?_⟩⟩
  · have hlength := stepsLeft_run hn h hrun
    have hleft := stepsLeft_le hn h
    omega
  · by_contra hnot
    have hreceived : j ∈ received (tr ++ events.map .pool) := by
      rw [received_append]
      exact List.mem_append_left _ hj
    obtain ⟨e, s'', hstep⟩ := goes_on hn (h.append hrun) hreceived hnot
    exact hstuck e s'' hstep

/-- It takes at most fourteen steps to finish the one that waits. -/
theorem drains_one :
    (∀ j ∈ received oneComes, j ∉ Pool.finished (poolEvents oneComes) →
      ∃ e s', Step 2 .big zAresModelModule oneWaits (.pool e) s') ∧
    ∀ (events : List (PoolEvent Cmd Cmd.Answer Job)) (s' : HandlerThreads),
      Run (Step 2 .big zAresModelModule) oneWaits (events.map .pool) s' →
      events.length ≤ unfinished oneComes * (maxCommands + 3) ∧
      ((∀ e s'', ¬Step 2 .big zAresModelModule s' (.pool e) s'') →
        ∀ j ∈ received oneComes, j ∈ Pool.finished (poolEvents (oneComes ++ events.map .pool))) :=
  drains Nat.two_pos oneComes_run

end HandlerThreads

end Zattd
