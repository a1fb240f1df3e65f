/-
  Requests that are done in ONE go, among any others.

  The threads interleave the commands of their handlers, and a handler that looks at the world twice may
  see it changed in between.  But nobody writes to the tables of users and departments, and neither a
  look at the clock nor a reply depends on the world.  So:

  1. `takes_effect` — some requests look once at most, and each of these takes effect at one moment
     between its start and its end, as if its handler had been run then by itself;
  2. `one_shots_linearize` — a server that gets only such requests is linearizable: it does what a
     sequential server does with the packets in some order, and that order is not against time;
  3. `directory_alone` — the requests about users and departments do not look at all: they are done as
     if the server had just been started, and nobody else were there;
  4. `login_decided` — so is a login, whose result was decided before anybody came.

  One look is one statement.  Requests that look at a counter are not among them: an operation on the
  counters is one command here, but the source goes on with what it has found when it has given up the
  lock.  Nor is a login whose name is not a literal for itself: its statements may look at any table.
-/
import Zattd.Correct.Dealing
import Zattd.Correct.Secrecy
import Zattd.Lib.Moments

set_option linter.unusedVariables false

namespace Zattd

open Prog

/-! ## Who looks at the world -/

/-- The command looks at what others may change, or changes it, or may do so if a string in it is no
    literal for itself. -/
def Cmd.looks : Cmd → Bool
  | .nowMSTime | .department _ | .sendSessionData _ _ => false
  | .user s => !(Cmd.user s).isPlain
  | .contact _ | .message _ | .group _ | .file _ | .counter _ => true

/-- The tables that nobody writes to are those of `w₀`. -/
structure SameDirectory (w₀ w : World) : Prop where
  users : w.db.imUsers = w₀.db.imUsers
  departments : w.db.imDepartment = w₀.db.imDepartment

theorem SameDirectory.refl (w : World) : SameDirectory w w := ⟨rfl, rfl⟩

theorem SameDirectory.step {w₀ w w' : World} {c : Cmd} {a : c.Answer} (h : SameDirectory w₀ w)
    (hstep : Step w c a w') : SameDirectory w₀ w' :=
  ⟨hstep.grows.users.trans h.users, hstep.grows.departments.trans h.departments⟩

/-- Who does not look is told the same at any time. -/
theorem apart_of_looks (w₀ : World) {c : Cmd} (h : c.looks = false) :
    Apart (SameDirectory w₀) Step c := by
  intro w a w' hw hstep
  cases c with
  | nowMSTime | sendSessionData =>
    rcases hstep with hok | hfail
    · exact ⟨hok, fun t _ => Or.inl rfl⟩
    · exact absurd hfail id
  | user s =>
    rcases hstep with ⟨hok, rfl⟩ | ⟨hfail, rfl⟩
    · refine ⟨rfl, fun t ht => Or.inl ⟨?_, rfl⟩⟩
      rw [ht.users, ← hw.users]
      exact hok
    · exact ⟨rfl, fun t _ => Or.inr ⟨hfail, rfl⟩⟩
  | department s =>
    rcases hstep with ⟨hok, rfl⟩ | ⟨hfail, rfl⟩
    · refine ⟨rfl, fun t ht => Or.inl ⟨?_, rfl⟩⟩
      rw [ht.departments, ← hw.departments]
      exact hok
    · exact ⟨rfl, fun t _ => Or.inr ⟨hfail, rfl⟩⟩
  | contact | message | group | file | counter => cases h

namespace PduName

/-- The requests about users and departments. -/
def isDirectory : PduName → Bool
  | validateRequest | departmentRequest | usersInfoRequest | allUserRequest => true
  | _ => false

/-- The requests that look at the tables once at most, and not at the counters. -/
def isOneShot : PduName → Bool
  | friendListRequest | removeSessionRequest | groupHistoryMsgRequest | fileHasOfflineReq
  | fileAddOfflineReq => true
  | n => n.isDirectory

end PduName

/-- The packet is of a type whose requests look at the tables once at most. -/
def Packet.isOneShot (packet : Packet) : Bool :=
  (pduMessageFactory.lookup packet.messageType).all (·.isOneShot)

/-- It is a request about users or departments. -/
def Packet.isDirectory (packet : Packet) : Bool :=
  (pduMessageFactory.lookup packet.messageType).all (·.isDirectory)

/-! ## The handlers -/

section Handlers

variable {mem : Memory} {sessionId : UInt64}

/-- Who issues so many commands looks no more often. -/
theorem looks_of_short {α : Type} {p : Server α} {n : Nat} (h : Short p n) : AtMost Cmd.looks p n :=
  h.restrict fun _ _ => rfl

theorem sendSessionData_looks (n : PduName) (message : Pdu n.Body) :
    AtMost Cmd.looks (sendSessionData sessionId n message) 0 :=
  AtMost.skip (f := .ret) rfl fun a => .ret a 0

section Directory

open ZAresLoginManagerImpl ZAresUserManagerImpl ZAresDepartmentManagerImpl

theorem validateRequestHandler_looks (request : Pdu ValidateRequest)
    (hplain : isPlain (cStr request.body.userName) = true) :
    AtMost Cmd.looks (validateRequestHandler zAresModelModule mem sessionId request) 0 := by
  have hmiss : ∀ plain : Bool, plain = true → (!plain) = false := by
    rintro plain rfl
    rfl
  have hauth : ∀ p, AtMost Cmd.looks (auth request.body.userName p) 0 := by
    intro p
    unfold auth
    refine .skip (hmiss _ hplain) fun answ => ?_
    split <;> exact .pure _
  have hinfo : ∀ info, AtMost Cmd.looks (getUserInfo request.body.userName info) 0 := by
    intro info
    unfold getUserInfo
    refine .ite (fun _ => .pure _) fun _ => .skip (hmiss _ hplain) fun answ => ?_
    split <;> exact .pure _
  unfold validateRequestHandler
  refine .ite (fun _ => sendSessionData_looks _ _) fun _ => ?_
  refine AtMost.bind (m := 0) (n := 0) (hauth _) fun isAuthed => ?_
  refine .ite (fun _ => ?_) fun _ => sendSessionData_looks _ _
  exact AtMost.bind (m := 0) (n := 0) (hinfo _) fun found => sendSessionData_looks _ _

theorem departmentRequestHandler_looks (request : Pdu DepartmentRequest) :
    AtMost Cmd.looks (departmentRequestHandler zAresModelModule mem sessionId request) 0 := by
  have hall : ∀ l, AtMost Cmd.looks (getDepartmentInfos l) 0 := by
    intro l
    unfold getDepartmentInfos
    refine .skip rfl fun answ => ?_
    split <;> exact .pure _
  exact AtMost.bind (m := 0) (n := 0) (hall _) fun _ => sendSessionData_looks _ _

theorem usersInfoRequestHandler_looks (request : Pdu UsersInfoRequest) :
    AtMost Cmd.looks (usersInfoRequestHandler zAresModelModule mem sessionId request) 0 := by
  have hinfos : ∀ ids l, AtMost Cmd.looks (getUserInfos ids l) 0 := by
    intro ids l
    unfold getUserInfos
    refine .ite (fun _ => .pure _) fun _ => .skip rfl fun answ => ?_
    split <;> exact .pure _
  unfold usersInfoRequestHandler
  refine .ite (fun _ => sendSessionData_looks _ _) fun _ => ?_
  exact AtMost.bind (m := 0) (n := 0) (hinfos _ _) fun _ => sendSessionData_looks _ _

theorem allUserRequestHandler_looks (request : Pdu AllUserRequest) :
    AtMost Cmd.looks (allUserRequestHandler zAresModelModule mem sessionId request) 0 := by
  have hall : ∀ l, AtMost Cmd.looks (getAllUserInfo l) 0 := by
    intro l
    unfold getAllUserInfo
    refine .skip rfl fun answ => ?_
    split <;> exact .pure _
  unfold allUserRequestHandler
  refine .ite (fun _ => ?_) fun _ => sendSessionData_looks _ _
  exact AtMost.bind (m := 0) (n := 0) (hall _) fun _ => sendSessionData_looks _ _

end Directory

theorem friendListRequestHandler_looks (request : Pdu FriendListRequest) :
    AtMost Cmd.looks (friendListRequestHandler zAresModelModule mem sessionId request) 1 := by
  unfold friendListRequestHandler
  refine .ite (fun _ => ?_) fun _ => (sendSessionData_looks _ _).mono (by decide)
  exact AtMost.bind (m := 1) (n := 0)
    (looks_of_short (getRecentContactByUserId_short request.body.userId 100 _)) fun _ =>
    sendSessionData_looks _ _

theorem removeSessionRequestHandler_looks (request : Pdu RemoveSessionRequest) :
    AtMost Cmd.looks (removeSessionRequestHandler zAresModelModule mem sessionId request) 1 :=
  AtMost.bind (m := 1) (n := 0) (looks_of_short (removeSession_short _)) fun _ => sendSessionData_looks _ _

theorem fileHasOfflineReqHandler_looks (request : Pdu FileHasOfflineReq) :
    AtMost Cmd.looks (fileHasOfflineReqHandler zAresModelModule mem sessionId request) 1 := by
  have hfiles : ∀ u l, AtMost Cmd.looks (ZAresFileManagerImpl.getUserFiles u l) 1 := by
    intro u l
    unfold ZAresFileManagerImpl.getUserFiles
    refine .ite (fun _ => .pure _) fun _ => .skip rfl fun t => .then rfl fun answ => ?_
    split <;> exact .pure _
  exact AtMost.bind (m := 1) (n := 0) (hfiles _ _) fun _ => sendSessionData_looks _ _

theorem fileAddOfflineReqHandler_looks (request : Pdu FileAddOfflineReq) :
    AtMost Cmd.looks (fileAddOfflineReqHandler zAresModelModule mem sessionId request) 1 := by
  have hsave : ∀ f t taskId path size,
      AtMost Cmd.looks (ZAresFileManagerImpl.saveFileRecord f t taskId path size) 1 := by
    intro f t taskId path size
    unfold ZAresFileManagerImpl.saveFileRecord
    exact .ite (fun _ => .pure _) fun _ => .skip rfl fun now => .then rfl fun n => .pure _
  exact AtMost.bind (m := 1) (n := 0) (hsave _ _ _ _ _) fun _ => sendSessionData_looks _ _

/-- The handlers of these requests look at nothing. -/
theorem executes_directory {n : PduName} {execute : Execute n.Body} (h : executes n = some execute)
    (hn : n.isDirectory = true) (m : Pdu n.Body) (hplain : Message.IsPlain ⟨n, m⟩) :
    AtMost Cmd.looks (execute zAresModelModule mem sessionId m) 0 := by
  cases n <;> cases hn <;> cases h
  · exact allUserRequestHandler_looks m
  · exact departmentRequestHandler_looks m
  · exact usersInfoRequestHandler_looks m
  · exact validateRequestHandler_looks m hplain

/-- And those of these, once. -/
theorem executes_oneShot {n : PduName} {execute : Execute n.Body} (h : executes n = some execute)
    (hn : n.isOneShot = true) (m : Pdu n.Body) (hplain : Message.IsPlain ⟨n, m⟩) :
    AtMost Cmd.looks (execute zAresModelModule mem sessionId m) 1 := by
  by_cases hdirectory : n.isDirectory = true
  · exact (executes_directory h hdirectory m hplain).mono (Nat.zero_le 1)
  cases n <;> cases hn <;> first | exact absurd rfl hdirectory | cases h
  · exact fileAddOfflineReqHandler_looks m
  · exact fileHasOfflineReqHandler_looks m
  · exact friendListRequestHandler_looks m
  · exact removeSessionRequestHandler_looks m

end Handlers

namespace HandlerThreads

variable {n : Nat} {bo : ByteOrder} {model : ModelModule} {w₀ : World} {s : HandlerThreads}
  {tr : List ThreadsEvent} {j : Job}

/-- What may be done with a plain packet whose type has these handlers looks no more often than they. -/
theorem handles_looks {p : Server Unit} {k : Nat} (hplain : PlainIn bo j)
    (h : Handles bo zAresModelModule j p)
    (hk : ∀ (n : PduName) (execute : Execute n.Body) (mem : Memory) (m : Pdu n.Body),
      pduMessageFactory.lookup j.packet.messageType = some n → executes n = some execute →
      Message.IsPlain ⟨n, m⟩ → AtMost Cmd.looks (execute zAresModelModule mem j.sessionId m) k) :
    AtMost Cmd.looks p k := by
  obtain ⟨mem, rfl⟩ := h
  rcases onMessageDataHandler_cases bo zAresModelModule mem j.sessionId j.packet with
    ⟨name, m, execute, -, hparse, hexecutes, hrun⟩ | ⟨-, hrun⟩
  · rw [hrun]
    exact hk name execute mem m (parseMessagePduFromNetPacker_class hparse) hexecutes
      (hplain mem _ hparse)
  · rw [hrun]
    exact .pure _

theorem handles_oneShot {p : Server Unit} (hj : j.packet.isOneShot = true) (hplain : PlainIn bo j)
    (h : Handles bo zAresModelModule j p) : AtMost Cmd.looks p 1 := by
  refine handles_looks hplain h fun n execute mem m hn hexecutes hm => ?_
  rw [Packet.isOneShot, hn] at hj
  exact executes_oneShot hexecutes hj m hm

theorem handles_directory {p : Server Unit} (hj : j.packet.isDirectory = true) (hplain : PlainIn bo j)
    (h : Handles bo zAresModelModule j p) : AtMost Cmd.looks p 0 := by
  refine handles_looks hplain h fun n execute mem m hn hexecutes hm => ?_
  rw [Packet.isDirectory, hn] at hj
  exact executes_directory hexecutes hj m hm

/-! ## One moment -/

/-- What a client asks for to see its recent contacts. -/
def oneFriendList : Pdu FriendListRequest where
  attachData := []
  reserved := 0
  body := { userId := 1 }

/-- The user is let in, when a text has been served; then he asks for his friends. -/
def visitServed : List ThreadsEvent × World :=
  inTurn .big 0
    [(default, 2, packetOf oneText), (default, 1, packetOf usersRequest),
      (default, 1, packetOf oneFriendList)] oneUserWorld

def loginJob : Job := ⟨1, 1, packetOf usersRequest⟩

def friendsJob : Job := ⟨2, 1, packetOf oneFriendList⟩

theorem visitServed_run (n : Nat) : Run (Step n .big zAresModelModule) (start oneUserWorld) visitServed.1
    (atRest 3 visitServed.2) := inTurn_run (by decide) oneUserWorld

/-- His request is parsed alike in every memory. -/
theorem asks_loginJob {mem : Memory} : Asks .big mem loginJob ⟨.validateRequest, usersRequest⟩ := by
  unfold Asks parseMessagePduFromNetPacker
  rfl

theorem plainIn_loginJob : PlainIn .big loginJob := by
  intro mem message hasks
  rw [Option.some.inj (hasks.symm.trans asks_loginJob)]
  show isPlain (cStr usersRequest.body.userName) = true
  decide

theorem plainIn_friendsJob : PlainIn .big friendsJob :=
  plainIn_of_class .friendListRequest rfl (by decide) (by decide)

/-- **One moment.**  In every run, among packets of any kind: for a packet of a one-shot type that is
    finished, and plain, there is a moment between its start and its end at which its handler, run by
    itself, does what has been done for it — the same statements with the same answers, the same reply —
    and leads from the world before that moment to the world after it. -/
theorem takes_effect (h : Run (Step n bo zAresModelModule) (start w₀) tr s)
    (hj : j ∈ Pool.finished (poolEvents tr)) (hshot : j.packet.isOneShot = true) (hplain : PlainIn bo j) :
    ∃ (pre post : List (PoolEvent Cmd Cmd.Answer Job)) (e : PoolEvent Cmd Cmd.Answer Job)
      (s₁ s₂ : Pool World Cmd Cmd.Answer Job), poolEvents tr = pre ++ e :: post ∧ e.worksOn = some j ∧
      Run (Pool.Step (threadOf n) Zattd.Step (Handles bo zAresModelModule)) (Pool.idle w₀) pre s₁ ∧
      Pool.Step (threadOf n) Zattd.Step (Handles bo zAresModelModule) s₁ e s₂ ∧
      Serves bo zAresModelModule s₁.world (j, Pool.acts j (poolEvents tr)) s₂.world := by
  have hthreaded := run_threaded h
  obtain ⟨pre, e, post, s₁, s₂, htr, he, hpre, hstep, hserved⟩ := Pool.takesEffect
    (fun _ _ _ _ hw hstep => hw.step hstep) (fun _ => apart_of_looks w₀)
    (fun _ hp => handles_oneShot hshot hplain hp) hthreaded.pool (.refl w₀) hthreaded.posted_nodup hj
  exact ⟨pre, post, e, s₁, s₂, htr, he, hpre, hstep, hserved⟩

/-- The moment of the request for friends: it is issued one look and one reply. -/
theorem takes_effect_one :
    (Pool.acts friendsJob (poolEvents visitServed.1)).length = 2 ∧
    (repliesTo friendsJob visitServed.1).length = 1 ∧
    ∃ (pre post : List (PoolEvent Cmd Cmd.Answer Job)) (e : PoolEvent Cmd Cmd.Answer Job)
      (s₁ s₂ : Pool World Cmd Cmd.Answer Job),
      poolEvents visitServed.1 = pre ++ e :: post ∧ e.worksOn = some friendsJob ∧
      Run (Pool.Step (threadOf 2) Zattd.Step (Handles .big zAresModelModule)) (Pool.idle oneUserWorld)
        pre s₁ ∧
      Pool.Step (threadOf 2) Zattd.Step (Handles .big zAresModelModule) s₁ e s₂ ∧
      Serves .big zAresModelModule s₁.world (friendsJob, Pool.acts friendsJob (poolEvents visitServed.1))
        s₂.world := by
  have hfinished : friendsJob ∈ Pool.finished (poolEvents visitServed.1) := by decide
  exact ⟨by decide, by decide,
    takes_effect (visitServed_run 2) hfinished (by decide) plainIn_friendsJob⟩

/-- **Linearizable.**  Let a server with at least one thread have got plain packets of one-shot types
    only, and let no thread be at work.  Then it has done with the world what a sequential server does
    that serves the packets that are finished one after the other, each with the same answers and the
    same reply; and it can be said of no two of them that the first was finished before the second was
    begun, but is served after it. -/
theorem one_shots_linearize (hn : 0 < n) (h : Run (Step n bo zAresModelModule) (start w₀) tr s)
    (hshot : ∀ j ∈ received tr, j.packet.isOneShot = true) (hplain : ∀ j ∈ received tr, PlainIn bo j)
    (hidle : ∀ i < n, (s.pool.workers i).current = none) :
    ∃ l : List Job, Run (Serves bo zAresModelModule) w₀
        (l.map fun j => (j, Pool.acts j (poolEvents tr))) s.pool.world ∧
      l.Perm (Pool.finished (poolEvents tr)) ∧
      ∀ pre post, poolEvents tr = pre ++ post → ∃ l₁ l₂, l = l₁ ++ l₂ ∧
        (∀ j ∈ Pool.finished pre, j ∈ l₁) ∧ ∀ j ∈ l₁, ∃ e ∈ pre, e.worksOn = some j := by
  have hthreaded := run_threaded h
  have hreceived : ∀ j ∈ Pool.posted (poolEvents tr), j ∈ received tr := fun j hj =>
    hthreaded.mem_received.mpr (Or.inl hj)
  exact Pool.linearizable (fun _ _ _ _ hw hstep => hw.step hstep) (fun _ => apart_of_looks w₀)
    (fun j hj _ hp => handles_oneShot (hshot j (hreceived j hj)) (hplain j (hreceived j hj)) hp)
    hthreaded.pool (.refl w₀) hthreaded.posted_nodup fun j => hidle _ (threadOf_lt hn j)

/-- Three requests in a world with one contact: the user is let in, the friends of user 1 are asked for,
    and he hides the only one. -/
def shotsServed : List ThreadsEvent × World :=
  inTurn .big 0
    [(default, 1, packetOf usersRequest), (default, 1, packetOf oneFriendList),
      (default, 2, packetOf oneRemoval)] (oneUserWorld.setContacts [oneContact])

/-- They have been served in some order, and the contact is hidden. -/
theorem one_shots_linearize_one :
    shotsServed.2.db.imRecentContact = [{ oneContact with status := 1 }] ∧
    (sent shotsServed.1).length = 3 ∧
    ∃ l : List Job, Run (Serves .big zAresModelModule) (oneUserWorld.setContacts [oneContact])
        (l.map fun j => (j, Pool.acts j (poolEvents shotsServed.1))) shotsServed.2 ∧
      l.Perm [⟨0, 1, packetOf usersRequest⟩, ⟨1, 1, packetOf oneFriendList⟩, ⟨2, 2, packetOf oneRemoval⟩] := by
  have hserved : Run (Step 2 .big zAresModelModule) (start (oneUserWorld.setContacts [oneContact]))
      shotsServed.1 (atRest 3 shotsServed.2) := inTurn_run (by decide) _
  have hreceived : received shotsServed.1 =
      [⟨0, 1, packetOf usersRequest⟩, ⟨1, 1, packetOf oneFriendList⟩, ⟨2, 2, packetOf oneRemoval⟩] := by
    decide
  have hfinished : Pool.finished (poolEvents shotsServed.1) = received shotsServed.1 := by decide
  have hplain : ∀ j ∈ received shotsServed.1, PlainIn .big j := by
    intro j hj
    rw [hreceived] at hj
    simp only [List.mem_cons, List.not_mem_nil, or_false] at hj
    rcases hj with rfl | rfl | rfl
    · -- the number of a packet does not matter
      exact plainIn_loginJob
    · exact plainIn_of_class .friendListRequest rfl (by decide) (by decide)
    · exact plainIn_of_class .removeSessionRequest rfl (by decide) (by decide)
  obtain ⟨l, hrun, hperm, -⟩ :=
    one_shots_linearize Nat.two_pos hserved (by decide) hplain fun i _ => rfl
  rw [hfinished, hreceived] at hperm
  exact ⟨by decide, by decide, l, hrun, hperm⟩

/-! ## The directory -/

/-- **The directory is read alone.**  In every run, among packets of any kind: what has been done for a
    plain request about users or departments is what its handler does by itself in the world that the
    server has been started in. -/
theorem directory_alone (h : Run (Step n bo zAresModelModule) (start w₀) tr s)
    (hj : j ∈ Pool.finished (poolEvents tr)) (hdirectory : j.packet.isDirectory = true)
    (hplain : PlainIn bo j) :
    Serves bo zAresModelModule w₀ (j, Pool.acts j (poolEvents tr)) w₀ := by
  have hthreaded := run_threaded h
  exact Pool.done_apart (fun _ _ _ _ hw hstep => hw.step hstep) (fun _ => apart_of_looks w₀)
    (fun _ hp => handles_directory hdirectory hplain hp) hthreaded.pool (.refl w₀)
    hthreaded.posted_nodup hj (.refl w₀)

/-- A text has been stored when the user is let in, but not where this is done. -/
theorem directory_alone_one :
    visitServed.2.db.imMessage.length = 1 ∧
    (Pool.acts loginJob (poolEvents visitServed.1)).length = 3 ∧
    Serves .big zAresModelModule oneUserWorld (loginJob, Pool.acts loginJob (poolEvents visitServed.1))
      oneUserWorld := by
  have hfinished : loginJob ∈ Pool.finished (poolEvents visitServed.1) := by decide
  exact ⟨by decide, by decide,
    directory_alone (visitServed_run 2) hfinished (by decide) plainIn_loginJob⟩

end HandlerThreads

end Zattd
