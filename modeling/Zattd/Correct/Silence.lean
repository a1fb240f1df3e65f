/-
  What nobody is ever TOLD.

  Nothing in the server makes a counter for a group: what sends a message to a group only says that it
  has, and what clears a counter does so only if there is one.  And what reads messages back puts none
  of them into a reply.  So a server that has just been started, with its empty counters, keeps SILENT:
  whatever it does, and whoever does what at the same time, no reply of its ever reports a message of a
  group to be unread, and none ever contains a message (`keeps_silent`).
-/
import Zattd.Correct.Secrecy
import Zattd.Correct.GroupUnread

set_option linter.unusedVariables false

namespace Zattd

open Prog

/-! ## Groups that have no counters -/

/-- No group has a counter. -/
def World.NoGroupCounts (w : World) : Prop := ∀ g : UInt32, w.cache.groupCounterInstance[g]? = none

namespace CounterOp

/-- No operation makes one. -/
theorem run_groupCounterInstance {c : CacheManager} (h : ∀ g : UInt32, c.groupCounterInstance[g]? = none)
    (op : CounterOp) : (op.run c).2.groupCounterInstance = c.groupCounterInstance := by
  cases op with
  | getUnreadMsgCount | getUserFriendUnreadCount | getUserGroupUnreadCount | getUserGroupCount => rfl
  | incrUserMsgCount f t =>
    show (ZAresCounterManagerImpl.incrUserMsgCount f t c).groupCounterInstance = _
    unfold ZAresCounterManagerImpl.incrUserMsgCount CacheManager.incrUserMsgCount
    split
    · rfl
    · split
      · rfl
      · split <;> rfl
  | increaseUserUnreadMsgCount f t =>
    show (ZAresCounterManagerImpl.increaseUserUnreadMsgCount f t c).groupCounterInstance = _
    unfold ZAresCounterManagerImpl.increaseUserUnreadMsgCount CacheManager.increaseUserUnreadMsgCount
    split
    · rfl
    · split <;> rfl
  | clearUserUnreadItemCount u f t =>
    show (ZAresCounterManagerImpl.clearUserUnreadItemCount u f t c).2.groupCounterInstance = _
    unfold ZAresCounterManagerImpl.clearUserUnreadItemCount CacheManager.writeUnreadCount
    split
    · rfl
    · split
      · rfl
      · split <;> rfl
  | clearUserGroupCounter u g t =>
    -- there is none to be cleared
    have hnone : c.findCounterAndLastIDs u g t = none := by
      rw [CacheManager.findCounterAndLastIDs_eq, CacheManager.readEntry, h g]
      rfl
    show (ZAresCounterManagerImpl.clearUserGroupCounter u g t c).2.groupCounterInstance = _
    unfold ZAresCounterManagerImpl.clearUserGroupCounter
    rw [hnone]

end CounterOp

theorem World.NoGroupCounts.step {w w' : World} {c : Cmd} {a : c.Answer} (h : w.NoGroupCounts)
    (hstep : Step w c a w') : w'.NoGroupCounts := by
  have hcache : w'.cache.groupCounterInstance = w.cache.groupCounterInstance := by
    rcases hstep with hok | hfail
    · cases c with
      | counter op =>
        obtain ⟨-, rfl⟩ := hok
        exact op.run_groupCounterInstance h
      | nowMSTime | sendSessionData =>
        obtain rfl : w' = w := hok
        rfl
      | user | department =>
        obtain ⟨-, rfl⟩ := hok
        rfl
      | contact | message | group | file =>
        obtain ⟨t, -, rfl⟩ := hok
        rfl
    · cases c with
      | nowMSTime | counter | sendSessionData => exact absurd hfail id
      | user | department | contact | message | group | file =>
        obtain ⟨-, rfl⟩ := hfail
        rfl
  intro g
  rw [hcache]
  exact h g

namespace ZAresCounterManagerImpl

/-- Then nothing is unread. -/
theorem getUserGroupUnreadCount_silent {c : CacheManager}
    (h : ∀ g : UInt32, c.groupCounterInstance[g]? = none) (u : UInt32) (groupIds : List UInt32) (t : UInt32) :
    ∀ e ∈ (getUserGroupUnreadCount u groupIds t ∅ c).2.toList, e.2 = 0 := by
  intro e he
  by_cases hnone : u = 0 ∨ groupIds = []
  · unfold getUserGroupUnreadCount at he
    rw [if_pos hnone] at he
    cases he
  · obtain ⟨hu, hgroups⟩ := not_or.mp hnone
    have hget := getUserGroupUnreadCount_getElem? hu hgroups t c e.1
    rw [Std.TreeMap.mem_toList_iff_getElem?_eq_some.mp he] at hget
    split at hget
    · -- whatever group it is that is looked up
      have htotal : c.getGroupTotalCount t = 0 := by
        unfold CacheManager.getGroupTotalCount
        rw [h t]
      have hcount := getUserGroupCount_userUnreadCount c u e.1 t ⟨0, 0, 0, 0, 0⟩
      rw [if_pos (Or.inr (Or.inr htotal))] at hcount
      rw [Option.some.inj hget]
      exact UInt32.toNat_inj.mp hcount
    · cases hget

end ZAresCounterManagerImpl

/-! ## Replies that say nothing -/

/-- The reply reports no message of a group to be unread, and contains no message. -/
def Message.IsSilent : Message → Prop
  | ⟨.groupUnreadMsgCountResponse, r⟩ => ∀ e ∈ r.body.groupUnreadList, e.unreadMsgCount = 0
  | ⟨.groupMsgListResponse, r⟩ => r.body.msgList = []
  | ⟨.msgListResponse, r⟩ => r.body.msgList = []
  | _ => True

/-- The command sends none that is not. -/
def Cmd.IsSilent : Cmd → Prop
  | .sendSessionData _ r => r.IsSilent
  | _ => True

/-- What the others do: they lose nothing, and make no counter for a group. -/
structure Hushed (w w' : World) : Prop where
  grows : Grows w w'
  silent : w.NoGroupCounts → w'.NoGroupCounts

theorem Hushed.refl (w : World) : Hushed w w := ⟨.refl w, fun h => h⟩

theorem Hushed.trans {w w' w'' : World} (h : Hushed w w') (h' : Hushed w' w'') : Hushed w w'' :=
  ⟨h.grows.trans h'.grows, fun hw => h'.silent (h.silent hw)⟩

theorem Step.hushed {w w' : World} {c : Cmd} {a : c.Answer} (h : Step w c a w') : Hushed w w' :=
  ⟨h.grows, fun hw => hw.step h⟩

/-- The program sends silent replies only, among such others. -/
abbrev KeepsSilent {α : Type} (p : Server α) (w : World) : Prop :=
  Respects Step Hushed (fun _ c => c.IsSilent) (fun _ _ => True) p w

section Handlers

variable {mem : Memory} {sessionId : UInt64}

theorem sendSessionData_silent {n : PduName} {r : Pdu n.Body} (h : Message.IsSilent ⟨n, r⟩) (w : World) :
    KeepsSilent (sendSessionData sessionId n r) w :=
  fun w₁ _ => ⟨h, fun _ _ _ => trivial⟩

/-- A request that is not answered by such a class keeps silent because of its class. -/
theorem isSilent_of_may {message : Message} {w : World} {c : Cmd} (h : May sessionId message w c)
    (hunread : message.1 ≠ .unreadMsgRequest) (hcount : message.1 ≠ .groupUnreadMsgCountRequest)
    (hgroup : message.1 ≠ .groupUnreadMsgRequest) : c.IsSilent := by
  cases h with
  | read hread => cases hread <;> trivial
  | @reply n m _ r hclass hreserved =>
    obtain ⟨n', r⟩ := r
    obtain rfl : n' = n.answer := hclass
    show Message.IsSilent ⟨n.answer, r⟩
    cases n <;> trivial
  | _ => trivial

/-- Nothing that is read gets into the reply. -/
theorem unreadMsgRequestHandler_silent (request : Pdu UnreadMsgRequest) (w : World) :
    KeepsSilent (unreadMsgRequestHandler zAresModelModule mem sessionId request) w := by
  have hrelate : ∀ a b w, KeepsSilent (ZAresRelationshipManagerImpl.getRelateId a b) w := by
    intro a b w
    unfold ZAresRelationshipManagerImpl.getRelateId
    refine Respects.ite (fun _ => trivial) fun _ => ?_
    refine Respects.then fun w₁ _ => ⟨trivial, fun answ w₂ _ => ?_⟩
    split <;> trivial
  have hmessages : ∀ f t offset count w, Respects Step Hushed (fun _ c => c.IsSilent)
      (fun r _ => r.2 = []) (ZAresMessageManagerImpl.getMessages f t offset count []) w := by
    intro f t offset count w
    unfold ZAresMessageManagerImpl.getMessages
    refine Respects.bind ((hrelate f t w).mono fun relateId w₁ _ => ?_)
    refine Respects.ite (fun _ => rfl) fun _ => ?_
    exact Respects.then fun w₂ _ => ⟨trivial, fun answ w₃ _ => rfl⟩
  unfold unreadMsgRequestHandler
  refine Respects.then fun w₁ _ => ⟨trivial, fun count w₂ _ => ?_⟩
  refine Respects.ite (fun _ => ?_) fun _ => ?_
  · refine Respects.bind ((hmessages _ _ _ _ w₂).mono fun r w₃ hr => ?_)
    obtain ⟨_, messages⟩ := r
    refine sendSessionData_silent ?_ w₃
    exact hr
  · refine sendSessionData_silent ?_ w₂
    exact rfl

theorem groupUnreadMsgRequestHandler_silent (request : Pdu GroupUnreadMsgRequest) (w : World) :
    KeepsSilent (groupUnreadMsgRequestHandler zAresModelModule mem sessionId request) w := by
  unfold groupUnreadMsgRequestHandler
  refine Respects.then fun w₁ _ => ⟨trivial, fun item w₂ _ => ?_⟩
  refine sendSessionData_silent ?_ w₂
  exact rfl

/-- Nothing is counted where there is no counter. -/
theorem groupUnreadMsgCountRequestHandler_silent (request : Pdu GroupUnreadMsgCountRequest) {w : World}
    (hw : w.NoGroupCounts) :
    KeepsSilent (groupUnreadMsgCountRequestHandler zAresModelModule mem sessionId request) w := by
  have hids : ∀ u fixed ids, Respects Step Hushed (fun _ c => c.IsSilent) (fun _ w' => w'.NoGroupCounts)
      (ZAresGroupManagerImpl.getGroupIdsByUserId u fixed ids) w := by
    intro u fixed ids
    unfold ZAresGroupManagerImpl.getGroupIdsByUserId
    refine Respects.ite (fun _ => hw) fun _ => ?_
    refine Respects.then fun w₁ hR => ⟨trivial, fun answ w₂ hstep => ?_⟩
    exact hstep.hushed.silent (hR.silent hw)
  unfold groupUnreadMsgCountRequestHandler
  refine Respects.bind ((hids _ _ _).mono fun found w₁ hw₁ => ?_)
  obtain ⟨_, groupIds⟩ := found
  refine Respects.then fun w₂ hR => ⟨trivial, fun counted w₃ hstep => ?_⟩
  refine sendSessionData_silent ?_ w₃
  rcases hstep with ⟨rfl, -⟩ | hfail
  · intro e he
    obtain ⟨entry, hentry, rfl⟩ := List.mem_map.mp he
    exact ZAresCounterManagerImpl.getUserGroupUnreadCount_silent (hR.silent hw₁) _ groupIds _ entry hentry
  · exact absurd hfail id

/-- Every handler keeps silent. -/
theorem executes_silent {n : PduName} {execute : Execute n.Body} (h : executes n = some execute)
    (m : Pdu n.Body) {w : World} (hw : w.NoGroupCounts) :
    KeepsSilent (execute zAresModelModule mem sessionId m) w := by
  by_cases hunread : n = .unreadMsgRequest
  · subst hunread
    obtain rfl := Option.some.inj h
    exact unreadMsgRequestHandler_silent m w
  by_cases hcount : n = .groupUnreadMsgCountRequest
  · subst hcount
    obtain rfl := Option.some.inj h
    exact groupUnreadMsgCountRequestHandler_silent m hw
  by_cases hgroup : n = .groupUnreadMsgRequest
  · subst hgroup
    obtain rfl := Option.some.inj h
    exact groupUnreadMsgRequestHandler_silent m w
  -- the others are not answered by such a class
  have hpermitted : Permitted sessionId ⟨n, m⟩ (execute zAresModelModule mem sessionId m) :=
    executes_permitted h m
  have hwithin := hpermitted.within (J := fun _ => True) (fun _ _ _ _ => trivial)
    (fun _ _ _ _ hstep => hstep.grows)
    (fun w c _ hmay => isSilent_of_may hmay hunread hcount hgroup) (trivial : True) (s := w)
  exact hwithin.less fun _ _ hushed => hushed.grows

/-- So does what a thread does for a packet. -/
theorem handles_silent {bo : ByteOrder} {j : Job} {p : Server Unit}
    (h : HandlerThreads.Handles bo zAresModelModule j p)
    {w : World} (hw : w.NoGroupCounts) : KeepsSilent p w := by
  obtain ⟨mem, rfl⟩ := h
  rcases onMessageDataHandler_cases bo zAresModelModule mem j.sessionId j.packet with
    ⟨n, m, execute, -, -, hexecutes, hrun⟩ | ⟨-, hrun⟩
  · rw [hrun]
    exact executes_silent hexecutes m hw
  · rw [hrun]
    trivial

end Handlers

namespace HandlerThreads

variable {n : Nat} {bo : ByteOrder} {w₀ : World} {s : HandlerThreads} {tr : List ThreadsEvent}

/-- What is let pass. -/
theorem passes_silent {cmds : List (Job × Event)} {w : World} (hfresh : w₀.NoGroupCounts)
    (h : Run (Pool.Passes Zattd.Step fun _ _ c => c.IsSilent) w₀ cmds w) :
    w.NoGroupCounts ∧ ∀ e ∈ cmds, e.2.1.IsSilent := by
  induction h with
  | nil => exact ⟨hfresh, fun e he => by cases he⟩
  | @snoc cmds last w₁ w₂ _ hstep ih =>
    obtain ⟨hsilent, hdo⟩ := hstep
    refine ⟨ih.1.step hdo, fun e he => ?_⟩
    rcases List.mem_append.mp he with hbefore | hlast
    · exact ih.2 e hbefore
    · obtain rfl := List.mem_singleton.mp hlast
      exact hsilent

/-- **Nobody is told of a group's messages, and nobody is shown one.**  In every run of a server whose
    groups have no counters at first, they never get one; no reply reports a message of a group to be
    unread, and none contains a message. -/
theorem keeps_silent (hfresh : w₀.NoGroupCounts) (h : Run (Step n bo zAresModelModule) (start w₀) tr s) :
    s.pool.world.NoGroupCounts ∧ ∀ r ∈ sent tr, r.2.IsSilent := by
  have hpassed : Run (Pool.Passes Zattd.Step fun _ _ c => c.IsSilent) w₀ (commands tr) s.pool.world :=
    Pool.monitored (I := World.NoGroupCounts) Hushed.refl (fun _ _ _ => Hushed.trans)
      (fun _ _ hw hR => hR.silent hw) (fun _ _ _ _ _ _ _ hstep => hstep.hushed)
      (fun j p w hp hw => handles_silent hp hw) .nil hfresh (run_threaded h).pool
  obtain ⟨hnone, hcommands⟩ := passes_silent hfresh hpassed
  refine ⟨hnone, fun r hr => ?_⟩
  -- where it is sent
  unfold sent replies at hr
  rw [Pool.allActs_eq, List.filterMap_map] at hr
  obtain ⟨⟨j, c, a⟩, he, hreply⟩ := List.mem_filterMap.mp hr
  have hsilent := hcommands _ he
  cases c with
  | sendSessionData sessionId message =>
    obtain rfl : (sessionId, message) = r := Option.some.inj hreply
    exact hsilent
  | _ => cases hreply

/-- A message from user 7 to his group. -/
def oneGroupText : Pdu MsgData where
  attachData := []
  reserved := 0
  body :=
    { requestId := 8, fromUserId := 7, toUserId := 1, createTime := 0, msgType := messageTypeImGroup
      msgData := [104, 105] }

/-- He wants to know what is unread in his groups. -/
def oneGroupCount : Pdu GroupUnreadMsgCountRequest where
  attachData := []
  reserved := 0
  body := { reqUserId := 7, clientType := 17 }

/-- Two messages are sent, one of them to the group; then the unread ones are asked for, and how many
    there are in groups. -/
def silentServed : List ThreadsEvent × World :=
  inTurn .big 0
    [(default, 1, packetOf oneText), (default, 2, packetOf oneGroupText), (default, 1, packetOf oneReading),
      (default, 2, packetOf oneGroupCount)] oneMemberWorld

/-- The groups that a reply counts messages of. -/
def groupCounts : Message → List (UInt32 × UInt32)
  | ⟨.groupUnreadMsgCountResponse, r⟩ =>
    r.body.groupUnreadList.map fun (e : GroupUnreadMsgCount) => (e.groupId, e.unreadMsgCount)
  | _ => []

/-- Four replies, among them a list without messages and a count of 0 for the group. -/
theorem keeps_silent_one :
    (sent silentServed.1).map (fun r => r.2.1) =
      [.dbWriteResponse, .dbWriteResponse, .msgListResponse, .groupUnreadMsgCountResponse] ∧
    (sent silentServed.1).flatMap (fun r => groupCounts r.2) = [(1, 0)] ∧
    silentServed.2.db.imMessage.length = 1 ∧
    silentServed.2.NoGroupCounts ∧ ∀ r ∈ sent silentServed.1, r.2.IsSilent := by
  have hserved : Run (Step 2 .big zAresModelModule) (start oneMemberWorld) silentServed.1
      (atRest 4 silentServed.2) := inTurn_run (by decide) oneMemberWorld
  exact ⟨by decide, by decide, by decide, keeps_silent (fun _ => rfl) hserved⟩

end HandlerThreads

end Zattd
