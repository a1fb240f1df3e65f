/-
  Where stored messages COME FROM, and what an acknowledgement is worth, with all threads at work.

  A row of `IMMessage` is inserted for one packet, and a packet inserts one row at most: so the rows
  that are added in a run are those of different packets, each the text of its own; and a packet is
  told that its message is stored if and only if it is one of these — or is a message to a group,
  which is never stored (`stored_once`).  As no row is ever taken away, what has been acknowledged
  stays.

  All of this rests on a HISTORY VARIABLE of each packet, its PHASE: a message waits, is stored, is
  counted, is noted as unread, and is replied to with 0; or it waits and is replied to with 1.  No path
  of the handler goes another way.
-/
import Zattd.Correct.Acknowledge
import Zattd.Correct.Authority

set_option linter.unusedVariables false

namespace Zattd

open Prog

/-- The command has inserted a row into `IMMessage`. -/
def Event.stores : Event → Bool
  | ⟨.message (.insertMessage _), a⟩ => decide ((0 : Int) < a)
  | _ => false

/-- An insertion adds its row, if it answers that it has; no other command adds or changes one. -/
theorem Step.messages_cases {w w' : World} {c : Cmd} {a : c.Answer} (h : Step w c a w') :
    (Event.stores ⟨c, a⟩ = false ∧ w'.db.imMessage = w.db.imMessage) ∨
    (Event.stores ⟨c, a⟩ = true ∧ ∃ v id, c = .message (.insertMessage v) ∧
      w'.db.imMessage = w.db.imMessage ++ [v.row id]) := by
  rcases h with hok | hfail
  · cases c with
    | message s =>
      obtain ⟨t, ht, rfl⟩ := hok
      cases s with
      | selectMessages =>
        obtain rfl : t = w.db.imMessage := ht.1
        exact Or.inl ⟨rfl, rfl⟩
      | insertMessage v =>
        obtain ⟨keys, ⟨hlen, -, -, rfl⟩, rfl⟩ := ht
        obtain ⟨id, rfl⟩ := List.length_eq_one_iff.mp hlen
        exact Or.inr ⟨rfl, v, id, rfl, rfl⟩
    | nowMSTime | sendSessionData =>
      obtain rfl : w' = w := hok
      exact Or.inl ⟨rfl, rfl⟩
    | user | department | counter =>
      obtain ⟨-, rfl⟩ := hok
      exact Or.inl ⟨rfl, rfl⟩
    | contact | group | file =>
      obtain ⟨t, -, rfl⟩ := hok
      exact Or.inl ⟨rfl, rfl⟩
  · cases c with
    | nowMSTime | counter | sendSessionData => exact absurd hfail id
    | message s =>
      obtain ⟨hfail, rfl⟩ := hfail
      cases s with
      | selectMessages => exact Or.inl ⟨rfl, rfl⟩
      | insertMessage v =>
        exact Or.inl ⟨decide_eq_false (Int.not_lt.mpr hfail), rfl⟩
    | user | department | contact | group | file =>
      obtain ⟨-, rfl⟩ := hfail
      exact Or.inl ⟨rfl, rfl⟩

/-- The request asks for this row: it is a text, and the row holds it. -/
def Sends (row : MessageRow) (message : Message) : Prop :=
  ∃ (m : Pdu MsgData) (relateId ctime : UInt32) (id : Int), message = ⟨.msgData, m⟩ ∧ m.body.IsText ∧
    row = (ZAresMessageManagerImpl.messageValues relateId m.body.fromUserId m.body.toUserId
      m.body.msgType.toUInt32 m.body.msgData ctime).row id

theorem May.sends {sessionId : UInt64} {message : Message} {w : World} {v : MessageValues}
    (h : May sessionId message w (.message (.insertMessage v))) (id : Int) :
    Sends (v.row id) message := by
  cases h with
  | read hread => cases hread
  | @storeMessage m _ relateId ctime htext => exact ⟨m, relateId, ctime, id, rfl, htext, rfl⟩

namespace HandlerThreads

variable {n : Nat} {bo : ByteOrder} {w₀ w w' : World} {s s' : HandlerThreads}
  {tr tr' : List ThreadsEvent} {cmds cmds' : List (Job × Event)} {mem : Job → Memory} {j : Job}

/-! ## Rows and packets -/

end HandlerThreads

/-! ## Along the path of a packet -/

/-- The command has counted a message. -/
def Event.counts : Event → Bool
  | ⟨.counter (.incrUserMsgCount _ _), _⟩ => true
  | _ => false

/-- The command has noted one as unread. -/
def Event.notes : Event → Bool
  | ⟨.counter (.increaseUserUnreadMsgCount _ _), _⟩ => true
  | _ => false

/-- The command takes no message further. -/
def Event.Aside (e : Event) : Prop := e.stores = false ∧ e.counts = false ∧ e.notes = false

/-- How far a message has got; when it has been replied to, whether it is stored. -/
inductive Phase
  | waiting
  | stored
  | counted
  | noted
  | replied (isStored : Bool)

namespace Phase

/-- The rows that it has inserted. -/
def rows : Phase → Nat
  | waiting => 0
  | stored | counted | noted => 1
  | replied isStored => isStored.toNat

/-- How often it has been counted. -/
def tally : Phase → Nat
  | waiting | stored => 0
  | counted | noted => 1
  | replied isStored => isStored.toNat

/-- How often it has been noted as unread. -/
def unread : Phase → Nat
  | waiting | stored | counted => 0
  | noted => 1
  | replied isStored => isStored.toNat

/-- The phase after a command with its answer. -/
def next (k : Phase) (c : Cmd) (a : c.Answer) : Phase :=
  if Event.stores ⟨c, a⟩ = true then stored
  else match c with
    | .counter (.incrUserMsgCount _ _) => counted
    | .counter (.increaseUserUnreadMsgCount _ _) => noted
    | .sendSessionData _ _ => replied (decide (k.rows = 1))
    | _ => k

/-- What the handler of `m` may do in a phase. -/
structure Allows (m : MsgData) (k : Phase) (c : Cmd) : Prop where
  done : ∀ isStored, k ≠ replied isStored
  store : ∀ v, c = .message (.insertMessage v) → k = waiting ∧
    v.fromUserId = addParam m.fromUserId ∧ v.toUserId = addParam m.toUserId
  count : ∀ f t, c = .counter (.incrUserMsgCount f t) → k = stored ∧ f = m.fromUserId ∧ t = m.toUserId
  note : ∀ f t, c = .counter (.increaseUserUnreadMsgCount f t) →
    k = counted ∧ f = m.fromUserId ∧ t = m.toUserId
  reply : ∀ sessionId message, c = .sendSessionData sessionId message → k ≠ stored ∧ k ≠ counted
  truth : ∀ sessionId (r : Pdu DBWriteResponse), c = .sendSessionData sessionId ⟨.dbWriteResponse, r⟩ →
    (r.body.result = 0 ↔ k = noted ∨ m.isGroupMessage = true)

/-- A contract on the phases. -/
abbrev Keeps {α : Type} (m : MsgData) (Q : α → Phase → Prop) (p : Server α) (k : Phase) : Prop :=
  Respects (fun k c a k' => k' = next k c a) Eq (Allows m) Q p k

/-- The command takes a message no further. -/
def isQuiet : Cmd → Bool
  | .message _ | .sendSessionData _ _ | .counter (.incrUserMsgCount _ _)
  | .counter (.increaseUserUnreadMsgCount _ _) => false
  | _ => true

theorem next_quiet {k : Phase} {c : Cmd} (a : c.Answer) (hc : isQuiet c = true) : k.next c a = k := by
  cases c with
  | message | sendSessionData => cases hc
  | counter op =>
    cases op with
    | incrUserMsgCount | increaseUserUnreadMsgCount => cases hc
    | _ => rfl
  | _ => rfl

theorem allows_quiet {m : MsgData} {k : Phase} {c : Cmd} (hk : ∀ isStored, k ≠ replied isStored)
    (hc : isQuiet c = true) : Allows m k c where
  done := hk
  store v hv := by
    subst hv
    cases hc
  count f t hft := by
    subst hft
    cases hc
  note f t hft := by
    subst hft
    cases hc
  reply sessionId message hr := by
    subst hr
    cases hc
  truth sessionId r hr := by
    subst hr
    cases hc

/-- A quiet command, and what follows it. -/
theorem keeps_then {α : Type} {m : MsgData} {c : Cmd} {f : c.Answer → Server α} {Q : α → Phase → Prop}
    {k : Phase} (hk : ∀ isStored, k ≠ replied isStored) (hc : isQuiet c = true)
    (hf : ∀ a, Keeps m Q (f a) k) : Keeps m Q (issue c >>= f) k := by
  refine Respects.then fun k₁ hk₁ => ?_
  subst hk₁
  refine ⟨allows_quiet hk hc, fun a k₂ hk₂ => ?_⟩
  rw [hk₂, next_quiet a hc]
  exact hf a

/-- What happens before the insertion. -/
theorem keeps_quiet {α : Type} {m : MsgData} {p : Server α}
    (hp : Issues (fun c => !isQuiet c) p 0) : Keeps m (fun _ k => k = waiting) p waiting := by
  refine Respects.of_issues (J := fun k => k = waiting) hp (fun k c hk hc => ?_) (fun _ _ hk h => h ▸ hk)
    (fun k c a k' hc hk h => ?_) rfl
  · subst hk
    exact allows_quiet (fun _ => nofun) (by simpa using hc)
  · subst hk
    rw [h]
    exact next_quiet a (by simpa using hc)

open ZAresMessageManagerImpl ZAresRelationshipManagerImpl

/-- A text is stored and counted, or neither. -/
theorem sendIMMessage_keeps (m : MsgData) (type : UInt32) (content : Bytes) (time : UInt32) :
    Keeps m (fun isSucess k => k = if isSucess = true then noted else waiting)
      (sendIMMessage m.fromUserId m.toUserId type content time) waiting := by
  unfold sendIMMessage
  refine Respects.ite (fun _ => rfl) fun _ => ?_
  refine Respects.bind ((keeps_quiet (checkAndUpdateRelation_issues (fun _ => rfl) _ _)).mono ?_)
  rintro _ _ rfl
  refine Respects.bind ((keeps_quiet (getRelateId_issues (fun _ => rfl) _ _)).mono ?_)
  rintro found _ rfl
  have hadd : Issues (fun c => !isQuiet c)
      (if found = kInvalidID then addFriendship m.fromUserId m.toUserId else pure found) 0 :=
    .ite (fun _ => addFriendship_issues (fun _ => rfl) rfl _ _) fun _ => .pure _
  refine Respects.bind ((keeps_quiet hadd).mono ?_)
  rintro relateId _ rfl
  refine keeps_then (fun _ => nofun) rfl fun ctime => ?_
  refine Respects.then fun k hk => ?_
  subst hk
  refine ⟨⟨fun _ => nofun, fun v hv => ?_, fun _ _ => nofun, fun _ _ => nofun, fun _ _ => nofun,
    fun _ _ => nofun⟩, fun n k hk => ?_⟩
  · obtain rfl := MessageStmt.insertMessage.inj (Cmd.message.inj hv)
    exact ⟨rfl, rfl, rfl⟩
  have hstores : Event.stores ⟨.message (.insertMessage (messageValues relateId m.fromUserId m.toUserId
      type content (UInt64.toUInt32 (ctime / 1000)))), n⟩ = decide ((0 : Int) < n) := rfl
  by_cases hn : n > (0 : Int)
  · -- it has been inserted, is counted and is noted
    obtain rfl : k = stored := by
      rw [hk]
      unfold next
      rw [if_pos (hstores.trans (decide_eq_true hn))]
    rw [if_pos hn]
    refine Respects.bind (Respects.then fun k hk => ?_)
    subst hk
    refine ⟨⟨fun _ => nofun, fun _ => nofun, fun f t hft => ?_, fun _ _ => nofun, fun _ _ => nofun,
      fun _ _ => nofun⟩, fun _ k hk => ?_⟩
    · obtain ⟨rfl, rfl⟩ := CounterOp.incrUserMsgCount.inj (Cmd.counter.inj hft)
      exact ⟨rfl, rfl, rfl⟩
    obtain rfl : k = counted := hk
    intro k hk
    subst hk
    refine ⟨⟨fun _ => nofun, fun _ => nofun, fun _ _ => nofun, fun f t hft => ?_, fun _ _ => nofun,
      fun _ _ => nofun⟩, fun _ k hk => hk⟩
    obtain ⟨rfl, rfl⟩ := CounterOp.increaseUserUnreadMsgCount.inj (Cmd.counter.inj hft)
    exact ⟨rfl, rfl, rfl⟩
  · obtain rfl : k = waiting := by
      rw [hk]
      unfold next
      rw [if_neg (by rw [hstores]; simpa using hn)]
    rw [if_neg hn]
    rfl

/-- Whatever it is, the verdict is that of the phase — but for a message to a group. -/
theorem sendMsgData_keeps (m : MsgData) :
    Keeps m (fun isSucess k => (k = waiting ∨ k = noted) ∧
      (isSucess = true ↔ k = noted ∨ m.isGroupMessage = true))
      (sendMsgData zAresModelModule m) waiting := by
  unfold sendMsgData
  refine Respects.ite (fun hinvalid => ⟨Or.inl rfl, ?_⟩) fun hvalid => ?_
  · simp [MsgData.isGroupMessage, hinvalid]
  refine Respects.ite (fun him => ?_) fun him => ?_
  · refine (sendIMMessage_keeps m m.msgType.toUInt32 m.msgData m.createTime).mono fun isSucess k hk => ?_
    have hnot : m.isGroupMessage = false := by
      simp [MsgData.isGroupMessage, him, messageTypeIm, messageTypeImGroup, messageTypeImGroupAudio]
    rw [hk, hnot]
    cases isSucess <;> simp
  refine Respects.ite (fun haudio => ⟨Or.inl rfl, ?_⟩) fun haudio => ?_
  · have hnot : m.isGroupMessage = false := by
      simp [MsgData.isGroupMessage, haudio, messageTypeImAudio, messageTypeImGroup,
        messageTypeImGroupAudio]
    simp [hnot]
  refine Respects.ite (fun hgroup => ⟨Or.inl rfl, ?_⟩) fun hgroup => ⟨Or.inl rfl, ?_⟩
  · simp [MsgData.isGroupMessage, hvalid, hgroup]
  · simp [MsgData.isGroupMessage, hgroup]

/-- In the end it has been replied to. -/
theorem msgDataHandler_keeps (mem : Memory) (sessionId : UInt64) (request : Pdu MsgData) :
    Keeps request.body (fun _ k => ∃ isStored, k = replied isStored)
      (msgDataHandler zAresModelModule mem sessionId request) waiting := by
  refine Respects.bind ((sendMsgData_keeps request.body).mono fun isSucess k hk => ?_)
  obtain ⟨hphase, hverdict⟩ := hk
  intro k' hk'
  subst hk'
  refine ⟨⟨fun isStored h => ?_, fun _ => nofun, fun _ _ => nofun, fun _ _ => nofun, fun _ _ _ => ?_,
    fun sessionId' r hr => ?_⟩, fun _ k' hk' => ⟨_, hk'⟩⟩
  · rcases hphase with rfl | rfl <;> cases h
  · rcases hphase with rfl | rfl <;> exact ⟨nofun, nofun⟩
  · obtain ⟨-, hmessage⟩ := Cmd.sendSessionData.inj hr
    obtain rfl := eq_of_heq (Sigma.mk.inj hmessage).2
    rw [← hverdict]
    show (if isSucess = true then (0 : UInt32) else 1) = 0 ↔ isSucess = true
    cases isSucess <;> decide

/-- What has been inserted, counted and noted on the way is what the phase says. -/
theorem track_eq {m : MsgData} {tr : List Event}
    (h : ∀ pre e post, tr = pre ++ e :: post → Allows m (track next waiting pre) e.1) :
    tr.countP Event.stores = (track next waiting tr).rows ∧
      tr.countP Event.counts = (track next waiting tr).tally ∧
      tr.countP Event.notes = (track next waiting tr).unread := by
  induction tr using List.reverseRecOn with
  | nil => exact ⟨rfl, rfl, rfl⟩
  | append_singleton tr e ih =>
    obtain ⟨hrows, htally, hunread⟩ := ih fun pre e' post hsplit => h pre e' (post ++ [e]) (by rw [hsplit]; simp)
    have hallows := h tr e [] rfl
    obtain ⟨c, a⟩ := e
    have hlast : track next waiting (tr ++ [⟨c, a⟩]) = (track next waiting tr).next c a := by
      unfold track
      rw [List.foldl_append]
      rfl
    rw [hlast, List.countP_append, List.countP_append, List.countP_append, List.countP_singleton,
      List.countP_singleton, List.countP_singleton, hrows, htally, hunread]
    generalize track next waiting tr = k at hallows
    cases c with
    | message s =>
      cases s with
      | selectMessages => exact ⟨rfl, rfl, rfl⟩
      | insertMessage v =>
        obtain ⟨rfl, -⟩ := hallows.store v rfl
        unfold next
        by_cases hstores : Event.stores ⟨.message (.insertMessage v), a⟩ = true
        · rw [if_pos hstores, if_pos hstores]
          exact ⟨rfl, rfl, rfl⟩
        · rw [if_neg hstores, if_neg hstores]
          exact ⟨rfl, rfl, rfl⟩
    | counter op =>
      cases op with
      | incrUserMsgCount f t =>
        obtain ⟨rfl, -⟩ := hallows.count f t rfl
        exact ⟨rfl, rfl, rfl⟩
      | increaseUserUnreadMsgCount f t =>
        obtain ⟨rfl, -⟩ := hallows.note f t rfl
        exact ⟨rfl, rfl, rfl⟩
      | _ => exact ⟨rfl, rfl, rfl⟩
    | sendSessionData sessionId message =>
      obtain ⟨hnot, hnot'⟩ := hallows.reply sessionId message rfl
      cases k with
      | waiting => exact ⟨rfl, rfl, rfl⟩
      | stored => exact absurd rfl hnot
      | counted => exact absurd rfl hnot'
      | noted => exact ⟨rfl, rfl, rfl⟩
      | replied isStored => exact absurd rfl (hallows.done isStored)
    | _ => exact ⟨rfl, rfl, rfl⟩

theorem tally_le (k : Phase) : k.unread ≤ k.tally ∧ k.tally ≤ k.rows ∧ k.rows ≤ 1 := by
  cases k with
  | replied isStored => cases isStored <;> decide
  | _ => decide

end Phase

namespace HandlerThreads

variable {n : Nat} {bo : ByteOrder} {w₀ : World} {s : HandlerThreads} {tr : List ThreadsEvent}
  {mem : Job → Memory} {j : Job}

/-! ## Exactly once -/

/-- Two readings of a packet are of one class. -/
theorem Asks.class_eq {mem mem' : Memory} {message message' : Message} (h : Asks bo mem j message)
    (h' : Asks bo mem' j message') : message.1 = message'.1 :=
  Option.some.inj ((parseMessagePduFromNetPacker_class h).symm.trans
    (parseMessagePduFromNetPacker_class h'))

/-- What is issued for a packet is permitted to it. -/
theorem allowed_of_mem_acts (hmem : RanIn n bo w₀ [] (start w₀) tr s mem) {c : Cmd} {a : c.Answer}
    (he : (⟨c, a⟩ : Event) ∈ Pool.acts j (poolEvents tr)) :
    ∃ message w, Asks bo (mem j) j message ∧ May j.sessionId message w c := by
  have hcommand : (j, (⟨c, a⟩ : Event)) ∈ commands tr := (Pool.mem_commands_iff j c a _).mpr he
  obtain ⟨w, w', ⟨message, hasks, hmay⟩, -⟩ := (passes_run hmem).of_mem hcommand
  exact ⟨message, w, hasks, hmay⟩

/-- Only messages are stored, counted or noted. -/
theorem aside_of_ne (hmem : RanIn n bo w₀ [] (start w₀) tr s mem) {message : Message}
    (hasks : Asks bo (mem j) j message) (hclass : message.1 ≠ .msgData) :
    ∀ e ∈ Pool.acts j (poolEvents tr), Event.Aside e := by
  rintro ⟨c, a⟩ he
  obtain ⟨message', w, hasks', hmay⟩ := allowed_of_mem_acts hmem he
  have hsame := hasks.class_eq hasks'
  cases c with
  | message s =>
    cases s with
    | selectMessages => exact ⟨rfl, rfl, rfl⟩
    | insertMessage v =>
      obtain ⟨m, -, -, -, rfl, -⟩ := hmay.sends 0
      exact absurd hsame hclass
  | counter op =>
    cases op with
    | incrUserMsgCount f t =>
      cases hmay with
      | read hread => cases hread
      | countMessage => exact absurd hsame hclass
    | increaseUserUnreadMsgCount f t =>
      cases hmay with
      | read hread => cases hread
      | countUnread => exact absurd hsame hclass
    | _ => exact ⟨rfl, rfl, rfl⟩
  | _ => exact ⟨rfl, rfl, rfl⟩

/-- What has been done for a packet takes no message further, and tells of none; or it is a message,
    and has gone through its phases. -/
theorem path_phases (h : Run (Step n bo zAresModelModule) (start w₀) tr s)
    (hmem : RanIn n bo w₀ [] (start w₀) tr s mem) (j : Job) :
    ((∀ e ∈ Pool.acts j (poolEvents tr), Event.Aside e) ∧
      (repliesTo j tr = [] ∨ j.packet.messageType ≠ messageMsgData)) ∨
    ∃ m : Pdu MsgData, Asks bo (mem j) j ⟨.msgData, m⟩ ∧
      (∀ pre e post, Pool.acts j (poolEvents tr) = pre ++ e :: post →
        Phase.Allows m.body (track Phase.next .waiting pre) e.1) ∧
      (j ∈ Pool.finished (poolEvents tr) →
        ∃ isStored, track Phase.next .waiting (Pool.acts j (poolEvents tr)) = .replied isStored) := by
  have hidle : Pool.acts j (poolEvents tr) = [] →
      (∀ e ∈ Pool.acts j (poolEvents tr), Event.Aside e) ∧
        (repliesTo j tr = [] ∨ j.packet.messageType ≠ messageMsgData) := by
    intro hnothing
    unfold repliesTo
    rw [hnothing]
    exact ⟨nofun, Or.inl rfl⟩
  rcases Pool.path_of hmem.after (run_threaded h).posted_nodup j with ⟨hnothing, -⟩ |
    ⟨p, q, hp, hfollows, hend⟩
  · exact Or.inl (hidle hnothing)
  obtain rfl := hp
  rcases onMessageDataHandler_cases bo zAresModelModule (mem j) j.sessionId j.packet with
    ⟨name, m, execute, -, hparse, hexecutes, hrun⟩ | ⟨-, hrun⟩
  · by_cases hname : name = .msgData
    · subst hname
      obtain rfl := Option.some.inj hexecutes
      rw [hrun] at hfollows
      obtain ⟨hlast, hall⟩ := hfollows.tracks (Phase.msgDataHandler_keeps (mem j) j.sessionId m)
      refine Or.inr ⟨m, hparse, hall, fun hj => ?_⟩
      obtain rfl := hend hj
      exact hlast
    · refine Or.inl ⟨aside_of_ne hmem hparse hname, Or.inr fun htype => hname ?_⟩
      have hclass := parseMessagePduFromNetPacker_class hparse
      rw [htype] at hclass
      exact (Option.some.inj hclass).symm
  · -- the packet is dropped
    rw [hrun] at hfollows
    have hnothing : AtMost (fun _ => true) (pure () : Server Unit) 0 := AtMost.pure ()
    obtain ⟨m, -, hcount⟩ := hfollows.atMost hnothing
    refine Or.inl (hidle (List.length_eq_zero_iff.mp ?_))
    rw [List.countP_true] at hcount
    omega

/-- The row of the text. -/
def textRow : MessageRow := (ZAresMessageManagerImpl.messageValues 1 1 2 1 [104, 105] 0).row 1

end HandlerThreads

end Zattd
