/-
  STALE MEMORY in what the server does.

  A packet is parsed into an object, and a handler makes objects of its own: a reply, a record for a
  lookup to fill.  Their integers start out as whatever the memory held.  So a request is handled
  twice, in one and the same surroundings (`Environment`: to the same commands the same answers), with
  two memories; and the two runs should do the same.

  They do, but for three classes of request.  `GroupUnreadMsgRequestHandler` never sets the group id of
  its reply, `GroupChangeMemberRequest` never reads its change type, and `GroupUserListRequestHandler`,
  if the group is not found, sends a type and a creator that nobody has set.
-/
import Zattd.Correct.Correlation
import Zattd.Correct.Dispatch
import Zattd.Correct.GroupChangeMember
import Zattd.Correct.GroupMembership
import Zattd.Correct.Unread
import Zattd.Proto.Accepts

set_option linter.unusedVariables false

namespace Zattd

open Prog

/-! ## Two runs -/

/-- What answers the commands: its state is a world and whatever else the answers depend on. -/
structure Environment where
  State : Type
  world : State → World
  respond : State → (c : Cmd) → c.Answer × State
  legal : ∀ s c, Step (world s) c (respond s c).1 (world (respond s c).2)

/-- The world that always succeeds, as an environment. -/
def Environment.play : Environment where
  State := World
  world := id
  respond := Zattd.respond
  legal := fun w c => (respond_ok w c).step

/-- The same packet, byte for byte: type, reserved field, size, and what is written to a buffer of any
    size. -/
def SameBytes (bo : ByteOrder) (m m' : Message) : Prop :=
  m.messageType = m'.messageType ∧ m.2.reserved = m'.2.reserved ∧ m.2.byteSize = m'.2.byteSize ∧
    ∀ n, m.2.serializeToArray bo n = m'.2.serializeToArray bo n

/-- The world that a run leaves, and its replies. -/
abbrev Outcome : Type := World × List (UInt64 × Message)

/-- The same changes, and the same bytes to the same sessions. -/
def SameOutcome (bo : ByteOrder) (o o' : Outcome) : Prop :=
  o.1 = o'.1 ∧ List.Forall₂ (fun r r' => r.1 = r'.1 ∧ SameBytes bo r.2 r'.2) o.2 o'.2

theorem SameOutcome.refl (bo : ByteOrder) (o : Outcome) : SameOutcome bo o o :=
  ⟨rfl, List.forall₂_same.mpr fun _ _ => ⟨rfl, rfl, rfl, rfl, fun _ => rfl⟩⟩

namespace Environment

variable {E : Environment} {s : E.State}

/-- What comes of a program. -/
def outcome (E : Environment) (p : Server Unit) (s : E.State) : Outcome :=
  (E.world (exec E.respond p s).2.2, replies (exec E.respond p s).1)

theorem runs (E : Environment) (p : Server Unit) (s : E.State) :
    Runs Step (E.world s) p (exec E.respond p s).1 () (E.outcome p s).1 :=
  exec_runs_along E.world E.legal p s

theorem outcome_replies {sessionId : UInt64} {n : PduName} {P : Pdu n.Body → Prop} {p : Server Unit}
    (h : RepliesWith sessionId n P p) :
    ∃ reply, (E.outcome p s).2 = [(sessionId, ⟨n, reply⟩)] ∧ P reply :=
  h _ _ _ (E.runs p s)

end Environment

/-- Whatever the memory, handling the packet has the same outcome. -/
def NoStaleMemory (bo : ByteOrder) (E : Environment) (s : E.State) (sessionId : UInt64)
    (packet : Packet) : Prop :=
  ∀ mem mem', SameOutcome bo
    (E.outcome (onMessageDataHandler bo zAresModelModule mem sessionId packet) s)
    (E.outcome (onMessageDataHandler bo zAresModelModule mem' sessionId packet) s)

/-- The lookup of the group finds it. -/
def Environment.GroupFound (E : Environment) (s : E.State) (groupId : UInt32) : Prop :=
  groupId ≠ 0 ∧ ∃ row rest,
    (E.respond s (.group (.selectGroup (percentD groupId)))).1 = some (row :: rest)

/-- The requests in whose handling everything is set before it is read. -/
def StaleFree (E : Environment) (s : E.State) : Message → Prop
  | ⟨.groupUnreadMsgRequest, _⟩ | ⟨.groupChangeMemberRequest, _⟩ => False
  | ⟨.groupUserListRequest, request⟩ => E.GroupFound s (GroupUserListRequest.groupId request.body)
  | _ => True

/-! ## What a parser leaves of the memory -/

section Parse

variable {bo : ByteOrder} {n : PduName} {mem mem' : Memory} {packet : Packet}

/-- Every member of every class is on the wire: once they are read, nothing is left of the memory but
    the reserved field. -/
theorem restore_new (hn : n ≠ .validateResponse) (m obj obj' : Pdu n.Body) (r : UInt16) :
    ((n.layout hn).restore m (.new obj)).setReserved r =
      ((n.layout hn).restore m (.new obj')).setReserved r := by
  cases n <;> first
    | exact absurd rfl hn
    | rfl

theorem parseFromArray_new (hn : n ≠ .validateResponse) (hn' : n ≠ .groupChangeMemberRequest)
    {data : Bytes} (hlen : data.length < 2 ^ 32) {obj m : Pdu n.Body}
    (hok : Pdu.parseFromArray bo data (.new obj) = (true, m)) (obj' : Pdu n.Body) :
    ∃ m', Pdu.parseFromArray bo data (.new obj') = (true, m') ∧
      ∀ r, m'.setReserved r = m.setReserved r := by
  have himpl := n.layout_implements hn
  have hlaw := n.layout_lawful hn hn'
  obtain ⟨rest, rfl⟩ := Layout.parseFromArray_found himpl hlaw (n.layout_exact hn) hok
  have hfits : ((n.layout hn).encode bo m).length < 2 ^ 32 := by
    rw [List.length_append] at hlen
    omega
  have hparse := fun obj =>
    Layout.parseFromArray_encode_append himpl hlaw.parse_eq bo m (.new obj) rest hfits
  have hread : m = (n.layout hn).restore m (.new obj) :=
    (Prod.mk.inj (hok.symm.trans (hparse obj))).2
  refine ⟨_, hparse obj', fun r => ?_⟩
  exact (restore_new hn m obj' obj r).trans (congrArg (Pdu.setReserved r) hread.symm)

/-- What the packet parser returns is an object of the registered class that has accepted the body. -/
theorem parseMessagePduFromNetPacker_eq_some_iff {m : Pdu n.Body} :
    parseMessagePduFromNetPacker bo mem packet = some ⟨n, m⟩ ↔
      pduMessageFactory.lookup packet.messageType = some n ∧
      ∃ m₁, Pdu.parseFromArray bo packet.body (.new (mem.pdu n)) = (true, m₁) ∧
        m = m₁.setReserved packet.reserved := by
  unfold parseMessagePduFromNetPacker
  constructor
  · intro h
    obtain ⟨n', hn', h⟩ := Option.bind_eq_some_iff.mp h
    dsimp only at h
    cases hparse : Pdu.parseFromArray bo packet.body (.new (mem.pdu n')) with
    | mk result m₁ =>
      rw [hparse] at h
      cases result with
      | false => cases h
      | true =>
        obtain ⟨rfl, hm⟩ := Sigma.mk.inj (Option.some.inj h)
        exact ⟨hn', m₁, hparse, (eq_of_heq hm).symm⟩
  · rintro ⟨hn, m₁, hparse, rfl⟩
    refine Option.bind_eq_some_iff.mpr ⟨n, hn, ?_⟩
    dsimp only
    rw [hparse]
    rfl

/-- A request of a class whose reader is in step is read alike into any memory. -/
theorem parseMessagePduFromNetPacker_mem {m : Pdu n.Body} (hn' : n ≠ .groupChangeMemberRequest)
    (hlen : packet.body.length < 2 ^ 32)
    (h : parseMessagePduFromNetPacker bo mem packet = some ⟨n, m⟩) (mem' : Memory) :
    parseMessagePduFromNetPacker bo mem' packet = some ⟨n, m⟩ := by
  obtain ⟨hclass, m₁, hparse, rfl⟩ := parseMessagePduFromNetPacker_eq_some_iff.mp h
  have hrequests : ∀ e ∈ pduMessageFactory, e.2 ≠ .validateResponse := by decide
  have hn := hrequests _ (mem_of_lookup hclass)
  obtain ⟨m₂, hparse', hsame⟩ := parseFromArray_new hn hn' hlen hparse (mem'.pdu n)
  exact parseMessagePduFromNetPacker_eq_some_iff.mpr ⟨hclass, m₂, hparse', (hsame _).symm⟩

theorem onMessageDataHandler_parsed {model : ModelModule} {sessionId : UInt64} {message : Message}
    (h : parseMessagePduFromNetPacker bo mem packet = some message) :
    onMessageDataHandler bo model mem sessionId packet =
      dispatchMessageHandler model mem sessionId message := by
  unfold onMessageDataHandler
  rw [h]

end Parse

/-! ## The handlers that set what they send -/

section Set

variable {E : Environment} {s : E.State} {mem mem' : Memory} {sessionId : UInt64}

/-- `CreateGroup` leaves the record as it was if it refuses, and the handler does not look at it then. -/
theorem groupCreateTmpGroupRequestHandler_mem (request : Pdu GroupCreateTmpGroupRequest) :
    groupCreateTmpGroupRequestHandler zAresModelModule mem sessionId request =
      groupCreateTmpGroupRequestHandler zAresModelModule mem' sessionId request := by
  unfold groupCreateTmpGroupRequestHandler
  by_cases hrefused : request.body.reqUserId = 0 ∨ request.body.groupName = [] ∨ (2 : UInt32) = 0
  · have hcreate : ∀ info, zAresModelModule.groupManager.createGroup request.body.reqUserId
        request.body.groupName 2 request.body.groupAvatar [] request.body.userList info =
          pure (false, info) := fun info => if_pos hrefused
    rw [hcreate, hcreate]
    rfl
  · have hcreate : zAresModelModule.groupManager.createGroup request.body.reqUserId
        request.body.groupName 2 request.body.groupAvatar [] request.body.userList mem.newGroupInfo =
          zAresModelModule.groupManager.createGroup request.body.reqUserId request.body.groupName 2
            request.body.groupAvatar [] request.body.userList mem'.newGroupInfo := by
      show ZAresGroupManagerImpl.createGroup _ _ _ _ _ _ _ =
        ZAresGroupManagerImpl.createGroup _ _ _ _ _ _ _
      unfold ZAresGroupManagerImpl.createGroup
      rw [if_neg hrefused, if_neg hrefused]
      rfl
    rw [hcreate]
    rfl

theorem unreadMsgCountRequestHandler_outcome (request : Pdu UnreadMsgCountRequest) :
    E.outcome (unreadMsgCountRequestHandler zAresModelModule mem sessionId request) s =
      E.outcome (unreadMsgCountRequestHandler zAresModelModule mem' sessionId request) s := by
  obtain ⟨hworld, hreplies⟩ := unreadMsgCountRequestHandler_runs (E.runs
    (unreadMsgCountRequestHandler zAresModelModule mem sessionId request) s)
  obtain ⟨hworld', hreplies'⟩ := unreadMsgCountRequestHandler_runs (E.runs
    (unreadMsgCountRequestHandler zAresModelModule mem' sessionId request) s)
  exact Prod.ext (hworld.trans hworld'.symm) (hreplies.trans hreplies'.symm)

/-- The lookup of a group fills the record it is given, or finds nothing; it sends nothing. -/
theorem getGroupInfo_exec (E : Environment) (s : E.State) (groupId : UInt32) :
    (E.GroupFound s groupId ∧ ∃ tr row s', replies tr = [] ∧ ∀ info,
      exec E.respond (zAresModelModule.groupManager.getGroupInfo groupId info) s =
        (tr, some (ZAresGroupManagerImpl.parseFromDatabase info row), s')) ∨
    (¬E.GroupFound s groupId ∧ ∃ tr s', replies tr = [] ∧ ∀ info,
      exec E.respond (zAresModelModule.groupManager.getGroupInfo groupId info) s = (tr, none, s')) := by
  by_cases hzero : groupId = 0
  · refine Or.inr ⟨fun hfound => hfound.1 hzero, [], s, rfl, fun info => ?_⟩
    have hnone : zAresModelModule.groupManager.getGroupInfo groupId info = pure none := if_pos hzero
    rw [hnone]
    rfl
  · obtain ⟨⟨answ, s'⟩, hansw⟩ : ∃ r, E.respond s (.group (.selectGroup (percentD groupId))) = r :=
      ⟨_, rfl⟩
    have hget : ∀ info, exec E.respond (zAresModelModule.groupManager.getGroupInfo groupId info) s =
        ([⟨.group (.selectGroup (percentD groupId)), answ⟩],
          answ.bind fun rows => rows.head?.map (ZAresGroupManagerImpl.parseFromDatabase info), s') := by
      intro info
      have hasks : zAresModelModule.groupManager.getGroupInfo groupId info = _ := if_neg hzero
      rw [hasks, exec_bind, exec_issue, hansw]
      rcases answ with _ | _ | ⟨row, rest⟩
      · rfl
      · rfl
      · rfl
    unfold Environment.GroupFound
    rw [hansw]
    rcases answ with _ | _ | ⟨row, rest⟩
    · exact Or.inr ⟨fun ⟨_, _, _, h⟩ => (nomatch h), _, _, rfl, hget⟩
    · exact Or.inr ⟨fun ⟨_, _, _, h⟩ => (nomatch h), _, _, rfl, hget⟩
    · exact Or.inl ⟨⟨hzero, row, rest, rfl⟩, _, row, _, rfl, hget⟩

/-- If the group is found, the reply is set in full. -/
theorem groupUserListRequestHandler_outcome {request : Pdu GroupUserListRequest}
    (hfound : E.GroupFound s request.body.groupId) :
    E.outcome (groupUserListRequestHandler zAresModelModule mem sessionId request) s =
      E.outcome (groupUserListRequestHandler zAresModelModule mem' sessionId request) s := by
  rcases getGroupInfo_exec E s request.body.groupId with ⟨-, tr, row, s', -, hget⟩ | ⟨hnot, -⟩
  · unfold groupUserListRequestHandler Environment.outcome
    simp only [exec_bind, hget]
    rfl
  · exact absurd hfound hnot

/-- **What is sent is set.**  Whatever the class, but for the three, a handler does the same with any
    memory. -/
theorem dispatchMessageHandler_outcome {n : PduName} (request : Pdu n.Body)
    (hunread : n ≠ .groupUnreadMsgRequest) (hchange : n ≠ .groupChangeMemberRequest)
    (hlist : n ≠ .groupUserListRequest) :
    E.outcome (dispatchMessageHandler zAresModelModule mem sessionId ⟨n, request⟩) s =
      E.outcome (dispatchMessageHandler zAresModelModule mem' sessionId ⟨n, request⟩) s := by
  cases n with
  | groupUnreadMsgRequest => exact absurd rfl hunread
  | groupChangeMemberRequest => exact absurd rfl hchange
  | groupUserListRequest => exact absurd rfl hlist
  | unreadMsgCountRequest => exact unreadMsgCountRequestHandler_outcome request
  | groupCreateTmpGroupRequest =>
    exact congrArg (E.outcome · s) (groupCreateTmpGroupRequestHandler_mem request)
  | _ =>
    -- every integer of the reply and of the records is assigned: the programs are the same
    rfl

end Set

/-! ## The three that do not -/

section Unset

variable {bo : ByteOrder} {E : Environment} {s : E.State} {mem : Memory} {sessionId : UInt64}

/-- The same bytes are the same encoding. -/
theorem SameBytes.encode_eq {n : PduName} (hn : n ≠ .validateResponse) {m m' : Pdu n.Body}
    (h : SameBytes bo ⟨n, m⟩ ⟨n, m'⟩) : (n.layout hn).encode bo m = (n.layout hn).encode bo m' := by
  obtain ⟨-, -, -, hbytes⟩ := h
  have himpl := n.layout_implements hn
  have hfits := hbytes (max ((n.layout hn).encode bo m).length ((n.layout hn).encode bo m').length)
  change m.serializeToArray bo _ = m'.serializeToArray bo _ at hfits
  rw [Layout.serializeToArray_fits himpl bo m (le_max_left _ _),
    Layout.serializeToArray_fits himpl bo m' (le_max_right _ _)] at hfits
  exact (Prod.mk.inj hfits).2

/-- Runs that end in one reply each, and in replies that differ, differ. -/
theorem not_sameOutcome {n : PduName} {o o' : Outcome} {reply reply' : Pdu n.Body}
    (ho : o.2 = [(sessionId, ⟨n, reply⟩)]) (ho' : o'.2 = [(sessionId, ⟨n, reply'⟩)])
    (hne : ¬SameBytes bo ⟨n, reply⟩ ⟨n, reply'⟩) : ¬SameOutcome bo o o' := by
  rintro ⟨-, hreplies⟩
  rw [ho, ho'] at hreplies
  cases hreplies with
  | cons hsame _ => exact hne hsame.2

section GroupUnread

open GroupMsgListResponse

theorem SameBytes.groupId_eq {m m' : Pdu GroupMsgListResponse}
    (h : SameBytes bo ⟨.groupMsgListResponse, m⟩ ⟨.groupMsgListResponse, m'⟩) :
    m.body.groupId = m'.body.groupId := by
  have hencode : encAll [reqUserId_, requestCmdId_, groupId_, msgList_] bo m.body ++ _ =
      encAll [reqUserId_, requestCmdId_, groupId_, msgList_] bo m'.body ++ _ :=
    h.encode_eq (by decide)
  obtain ⟨-, hencode⟩ := encAll_cons_inj (by rfl) hencode
  obtain ⟨-, hencode⟩ := encAll_cons_inj (by rfl) hencode
  obtain ⟨hgroup, -⟩ := encAll_cons_inj (by rfl) hencode
  exact Wire.enc_uint32_inj hgroup

/-- The group id of the reply comes from the memory. -/
theorem groupUnreadMsgRequest_stale {packet : Packet} {request : Pdu GroupUnreadMsgRequest}
    (hparse : ∀ mem, parseMessagePduFromNetPacker bo mem packet = some ⟨.groupUnreadMsgRequest, request⟩) :
    ¬NoStaleMemory bo E s sessionId packet := by
  intro hsame
  have hreply : ∀ g, ∃ reply : Pdu GroupMsgListResponse,
      (E.outcome (onMessageDataHandler bo zAresModelModule (Query.memoryWith g) sessionId packet) s).2 =
        [(sessionId, ⟨.groupMsgListResponse, reply⟩)] ∧ reply.body.groupId = g := by
    intro g
    have hreplies : RepliesWith sessionId .groupMsgListResponse
        (fun (reply : Pdu GroupMsgListResponse) =>
          reply.body.requestCmdId = request.body.groupId ∧
            reply.body.groupId = ((Query.memoryWith g).pdu .groupMsgListResponse).body.groupId)
        (groupUnreadMsgRequestHandler zAresModelModule (Query.memoryWith g) sessionId request) :=
      groupUnreadMsgRequestHandler_groupId (fun _ => zAresModelModule_allSilent) request
    obtain ⟨reply, hreply, -, hgroup⟩ := Environment.outcome_replies (E := E) (s := s) hreplies
    refine ⟨reply, ?_, hgroup⟩
    rw [onMessageDataHandler_parsed (hparse _)]
    exact hreply
  obtain ⟨reply, ho, hzero⟩ := hreply 0
  obtain ⟨reply', ho', hone⟩ := hreply 1
  refine not_sameOutcome ho ho' (fun h => ?_) (hsame _ _)
  have hequal := h.groupId_eq
  rw [hzero, hone] at hequal
  exact absurd hequal (by decide)

end GroupUnread

section GroupUserList

open GroupUserListResponse

/-- Memory in which the reply to a request for a group's users has the group type `v`. -/
def memoryWithGroupType (v : UInt32) : Memory :=
  { (default : Memory) with
    pdu := fun
      | .groupUserListResponse => ⟨⟨[], 0⟩, ⟨0, 0, 0, [], [], v, 0, []⟩⟩
      | n => default }

/-- The reply if the group is not found. -/
def missingResponse (request : Pdu GroupUserListRequest) (v : UInt32) : Pdu GroupUserListResponse where
  attachData := request.attach
  reserved := request.reserved
  body :=
    { reqUserId := request.body.reqUserId
      groupId := request.body.groupId
      result := 1
      groupName := []
      groupAvatar := []
      groupType := v
      groupCreatorId := 0
      userList := [] }

theorem SameBytes.groupType_eq {request : Pdu GroupUserListRequest} {v v' : UInt32}
    (h : SameBytes bo ⟨.groupUserListResponse, missingResponse request v⟩
      ⟨.groupUserListResponse, missingResponse request v'⟩) : v = v' := by
  have hencode : encAll [reqUserId_, groupId_, result_, groupName_, groupAvatar_, groupType_,
      groupCreatorId_, userList_] bo (missingResponse request v).body ++ _ =
      encAll [reqUserId_, groupId_, result_, groupName_, groupAvatar_, groupType_, groupCreatorId_,
        userList_] bo (missingResponse request v').body ++ _ := h.encode_eq (by decide)
  obtain ⟨-, hencode⟩ := encAll_cons_inj (by rfl) hencode
  obtain ⟨-, hencode⟩ := encAll_cons_inj (by rfl) hencode
  obtain ⟨-, hencode⟩ := encAll_cons_inj (by rfl) hencode
  obtain ⟨-, hencode⟩ := encAll_cons_inj (by rfl) hencode
  obtain ⟨-, hencode⟩ := encAll_cons_inj (by rfl) hencode
  obtain ⟨htype, -⟩ := encAll_cons_inj (by rfl) hencode
  exact Wire.enc_uint32_inj htype

/-- If the group is not found, the type in the reply comes from the memory. -/
theorem groupUserListRequest_stale {packet : Packet} {request : Pdu GroupUserListRequest}
    (hparse : ∀ mem, parseMessagePduFromNetPacker bo mem packet = some ⟨.groupUserListRequest, request⟩)
    (hmissing : ¬E.GroupFound s request.body.groupId) : ¬NoStaleMemory bo E s sessionId packet := by
  intro hsame
  rcases getGroupInfo_exec E s request.body.groupId with ⟨hfound, -⟩ | ⟨-, tr, s', hquiet, hget⟩
  · exact hmissing hfound
  have hreply : ∀ v,
      (E.outcome (onMessageDataHandler bo zAresModelModule (memoryWithGroupType v) sessionId packet)
        s).2 = [(sessionId, ⟨.groupUserListResponse, missingResponse request v⟩)] := by
    intro v
    rw [onMessageDataHandler_parsed (hparse _)]
    show replies (exec E.respond (groupUserListRequestHandler zAresModelModule (memoryWithGroupType v)
      sessionId request) s).1 = _
    unfold groupUserListRequestHandler
    simp only [exec_bind, hget, replies_append, hquiet, List.nil_append]
    rfl
  refine not_sameOutcome (hreply 0) (hreply 1) (fun h => ?_) (hsame _ _)
  exact absurd h.groupType_eq (by decide)

end GroupUserList

section GroupChangeMember

open GroupChangeMemberResponse

/-- The memory with another change type in the object of a request. -/
def Memory.withChangeType (v : UInt32) (mem : Memory) : Memory :=
  { mem with
    pdu := fun
      | .groupChangeMemberRequest =>
        (mem.pdu .groupChangeMemberRequest).set (GroupChangeMemberRequest.withChangeType v)
      | n => mem.pdu n }

/-- The change type is not among the members that are read. -/
theorem parse_ignores (v : UInt32) : ∀ s ∈ GroupChangeMemberRequest.layout.parse,
    s.Ignores (GroupChangeMemberRequest.withChangeType v) := by
  intro s hs
  simp only [GroupChangeMemberRequest.layout, List.mem_cons, List.not_mem_nil, or_false] at hs
  rcases hs with rfl | rfl | rfl | rfl
  all_goals exact ⟨fun _ => rfl, fun _ _ => rfl⟩

/-- The reader does not look at the change type and does not touch it. -/
theorem parseFromArray_withChangeType (data : Bytes) (obj : Pdu GroupChangeMemberRequest) (v : UInt32) :
    Pdu.parseFromArray bo data (.new (obj.set (GroupChangeMemberRequest.withChangeType v))) =
      ((Pdu.parseFromArray bo data (.new obj)).1,
        (Pdu.parseFromArray bo data (.new obj)).2.set (GroupChangeMemberRequest.withChangeType v)) := by
  have hread := readAll_ignores bo (parse_ignores v) (Pdu.new obj).body (.ofBytes data)
  have hnew : (Pdu.new (obj.set (GroupChangeMemberRequest.withChangeType v))).body =
      GroupChangeMemberRequest.withChangeType v (Pdu.new obj).body := rfl
  unfold Pdu.parseFromArray
  rw [hnew, GroupChangeMemberRequest.implements.parse_eq, GroupChangeMemberRequest.implements.parse_eq,
    hread]
  rcases readAll bo GroupChangeMemberRequest.layout.parse (Pdu.new obj).body (.ofBytes data) with
    ⟨body, is⟩
  cases is.fail with
  | false => rfl
  | true => rfl

theorem groupChangeMemberRequestHandler_changeType (request : Pdu GroupChangeMemberRequest) :
    RepliesWith sessionId .groupChangeMemberResponse (fun (reply : Pdu GroupChangeMemberResponse) =>
        reply.body.changeType = if request.body.changeType = 0 then 0 else 1)
      (groupChangeMemberRequestHandler zAresModelModule mem sessionId request) :=
  .bind (fun q => changeMember_silent zAresModelModule_allSilent _) fun _ => .send rfl

theorem SameBytes.changeType_eq {m m' : Pdu GroupChangeMemberResponse}
    (h : SameBytes bo ⟨.groupChangeMemberResponse, m⟩ ⟨.groupChangeMemberResponse, m'⟩) :
    m.body.changeType = m'.body.changeType := by
  have hencode : encAll [reqUserId_, result_, groupId_, changeType_, userList_] bo m.body ++ _ =
      encAll [reqUserId_, result_, groupId_, changeType_, userList_] bo m'.body ++ _ :=
    h.encode_eq (by decide)
  obtain ⟨-, hencode⟩ := encAll_cons_inj (by rfl) hencode
  obtain ⟨-, hencode⟩ := encAll_cons_inj (by rfl) hencode
  obtain ⟨-, hencode⟩ := encAll_cons_inj (by rfl) hencode
  obtain ⟨hchange, -⟩ := encAll_cons_inj (by rfl) hencode
  exact Wire.enc_uint32_inj hchange

/-- What is done, and said to be done, is the change of the memory. -/
theorem groupChangeMemberRequest_stale {packet : Packet} {request : Pdu GroupChangeMemberRequest}
    (hparse : parseMessagePduFromNetPacker bo mem packet = some ⟨.groupChangeMemberRequest, request⟩) :
    ¬NoStaleMemory bo E s sessionId packet := by
  intro hsame
  obtain ⟨hclass, m, hread, -⟩ := parseMessagePduFromNetPacker_eq_some_iff.mp hparse
  have hreply : ∀ v, ∃ reply : Pdu GroupChangeMemberResponse,
      (E.outcome (onMessageDataHandler bo zAresModelModule (mem.withChangeType v) sessionId packet)
        s).2 = [(sessionId, ⟨.groupChangeMemberResponse, reply⟩)] ∧
      reply.body.changeType = if v = 0 then 0 else 1 := by
    intro v
    have hread' : Pdu.parseFromArray bo packet.body
        (.new ((mem.withChangeType v).pdu .groupChangeMemberRequest)) =
        (true, Pdu.set (GroupChangeMemberRequest.withChangeType v) m) :=
      (parseFromArray_withChangeType packet.body _ v).trans (congrArg (fun r =>
        (r.1, Pdu.set (GroupChangeMemberRequest.withChangeType v) r.2)) hread)
    have hparse' := parseMessagePduFromNetPacker_eq_some_iff.mpr ⟨hclass, _, hread', rfl⟩
    rw [onMessageDataHandler_parsed hparse']
    exact Environment.outcome_replies (groupChangeMemberRequestHandler_changeType _)
  obtain ⟨reply, ho, hzero⟩ := hreply 0
  obtain ⟨reply', ho', hone⟩ := hreply 1
  refine not_sameOutcome ho ho' (fun h => ?_) (hsame _ _)
  have hequal := h.changeType_eq
  rw [hzero, hone] at hequal
  exact absurd hequal (by decide)

end GroupChangeMember

end Unset

/-- **Stale memory.**  Handling a packet that is accepted has one outcome, whatever the memory, exactly
    if everything its handler reads has been set. -/
theorem noStaleMemory_iff {bo : ByteOrder} {packet : Packet} (hlen : packet.body.length < 2 ^ 32)
    (mem : Memory) {message : Message}
    (haccepted : parseMessagePduFromNetPacker bo mem packet = some message) (E : Environment)
    (s : E.State) (sessionId : UInt64) :
    NoStaleMemory bo E s sessionId packet ↔ StaleFree E s message := by
  obtain ⟨n, request⟩ := message
  by_cases hchange : n = .groupChangeMemberRequest
  · subst hchange
    exact iff_of_false (groupChangeMemberRequest_stale haccepted) id
  have hparse := parseMessagePduFromNetPacker_mem hchange hlen haccepted
  by_cases hunread : n = .groupUnreadMsgRequest
  · subst hunread
    exact iff_of_false (groupUnreadMsgRequest_stale hparse) id
  have hsame : (∀ mem mem',
      E.outcome (dispatchMessageHandler zAresModelModule mem sessionId ⟨n, request⟩) s =
        E.outcome (dispatchMessageHandler zAresModelModule mem' sessionId ⟨n, request⟩) s) →
      NoStaleMemory bo E s sessionId packet := by
    intro houtcome mem mem'
    rw [onMessageDataHandler_parsed (hparse mem), onMessageDataHandler_parsed (hparse mem'),
      houtcome mem mem']
    exact .refl bo _
  by_cases hlist : n = .groupUserListRequest
  · subst hlist
    constructor
    · intro h
      by_contra hmissing
      exact groupUserListRequest_stale hparse hmissing h
    · intro hfound
      exact hsame fun mem mem' => groupUserListRequestHandler_outcome hfound
  · refine iff_of_true (hsame fun mem mem' => ?_) ?_
    · exact dispatchMessageHandler_outcome request hunread hchange hlist
    · cases n with
      | groupUnreadMsgRequest => exact hunread rfl
      | groupChangeMemberRequest => exact hchange rfl
      | groupUserListRequest => exact absurd rfl hlist
      | _ => trivial

/-- User 1 asks for the members of group 1. -/
def groupUserListPacket : Packet where
  messageType := messageGroupUserListRequest
  reserved := 0
  body := [0, 0, 0, 1, 0, 0, 0, 1, 0, 0, 0, 0]

/-- Where there is such a group, it is looked up, and so are its members. -/
theorem noStaleMemory_groupUserListPacket :
    (exec Environment.play.respond
        (onMessageDataHandler .big zAresModelModule default 1 groupUserListPacket) oneGroup).1.length = 3 ∧
      NoStaleMemory .big .play oneGroup 1 groupUserListPacket := by
  have hparse : parseMessagePduFromNetPacker .big default groupUserListPacket =
      some ⟨.groupUserListRequest, ⟨⟨[], 0⟩, ⟨1, 1⟩⟩⟩ := by rfl
  have hfound : Environment.play.GroupFound oneGroup 1 := ⟨by decide, _, [], rfl⟩
  exact ⟨by decide, (noStaleMemory_iff (by decide) default hparse .play oneGroup 1).mpr hfound⟩

/-- A request for the unread messages of a group, all zeros. -/
def groupUnreadMsgPacket : Packet where
  messageType := messageGroupUnreadMsgRequest
  reserved := 0
  body := List.replicate 16 0

theorem not_forall_noStaleMemory :
    ¬∀ (bo : ByteOrder) (mem : Memory) (packet : Packet), packet.body.length < 2 ^ 32 →
      (parseMessagePduFromNetPacker bo mem packet).isSome = true →
      ∀ (E : Environment) (s : E.State) (sessionId : UInt64),
        NoStaleMemory bo E s sessionId packet := by
  intro h
  have hparse : parseMessagePduFromNetPacker .big default groupUnreadMsgPacket =
      some ⟨.groupUnreadMsgRequest, ⟨⟨[], 0⟩, ⟨0, 0, 0⟩⟩⟩ := by rfl
  have hsame : NoStaleMemory .big .play emptyWorld 1 groupUnreadMsgPacket :=
    h .big default groupUnreadMsgPacket (by decide) (by rfl) .play emptyWorld 1
  have hall : ∀ mem, parseMessagePduFromNetPacker .big mem groupUnreadMsgPacket =
      some ⟨.groupUnreadMsgRequest, ⟨⟨[], 0⟩, ⟨0, 0, 0⟩⟩⟩ :=
    parseMessagePduFromNetPacker_mem (by decide) (by decide) hparse
  exact groupUnreadMsgRequest_stale hall hsame

end Zattd
