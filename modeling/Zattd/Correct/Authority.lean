/-
  WHO changes what, in a server at work.

  The threads keep the policy, so what they do to the world is what a MONITOR would have let pass: one
  command after the other, each permitted to a packet that has been received, in the very state that
  it meets (`keeps_policy`).  What a packet asks for is not always in its bytes: a member that its
  parser does not set is what the memory holds.  So a packet is read in the memory that its handler has
  been run in (`RanIn`), which there is for every run (`ran_in`), and what is said holds whichever it is.

  The rest is read off the rules, along any stretch of a run:

  1. `members_leave` — a member stays one until the creator of the group asks for his removal;
  2. `members_enter` — and becomes one only if a request lists him;
  3. `contacts_change` — a contact is hidden by its user alone, and made or brought back by a text
     between the two.

  Nothing is assumed of the tables, of the statements, or of who else is at work.
-/
import Zattd.Correct.Delivery
import Zattd.Correct.Permissions
import Zattd.Lib.Pools

set_option linter.unusedVariables false

namespace Zattd

open Prog

/-! ## What a command can do at a place -/

section Places

variable {w w' : World} {c : Cmd} {a : c.Answer}

theorem Step.groups (h : Step w c a w') : w'.db.groups = w.db.groups ∨
    ∃ (s : GroupStmt) (b : s.Answer), c = .group s ∧ s.Ok w.db.groups b w'.db.groups := by
  rcases h with hok | hfail
  · cases c with
    | group s =>
      obtain ⟨t, ht, rfl⟩ := hok
      exact Or.inr ⟨s, a, rfl, ht⟩
    | nowMSTime | sendSessionData =>
      obtain rfl : w' = w := hok
      exact Or.inl rfl
    | user | department | counter =>
      obtain ⟨-, rfl⟩ := hok
      exact Or.inl rfl
    | contact | message | file =>
      obtain ⟨t, -, rfl⟩ := hok
      exact Or.inl rfl
  · cases c with
    | nowMSTime | counter | sendSessionData => exact absurd hfail id
    | user | department | contact | message | group | file =>
      obtain ⟨-, rfl⟩ := hfail
      exact Or.inl rfl

theorem Step.contacts (h : Step w c a w') : w'.db.imRecentContact = w.db.imRecentContact ∨
    ∃ (s : ContactStmt) (b : s.Answer), c = .contact s ∧
      s.Ok w.db.imRecentContact b w'.db.imRecentContact := by
  rcases h with hok | hfail
  · cases c with
    | contact s =>
      obtain ⟨t, ht, rfl⟩ := hok
      exact Or.inr ⟨s, a, rfl, ht⟩
    | nowMSTime | sendSessionData =>
      obtain rfl : w' = w := hok
      exact Or.inl rfl
    | user | department | counter =>
      obtain ⟨-, rfl⟩ := hok
      exact Or.inl rfl
    | group | message | file =>
      obtain ⟨t, -, rfl⟩ := hok
      exact Or.inl rfl
  · cases c with
    | nowMSTime | counter | sendSessionData => exact absurd hfail id
    | user | department | contact | message | group | file =>
      obtain ⟨-, rfl⟩ := hfail
      exact Or.inl rfl

/-- A member is made one, is made none, or is new — or nothing happens to him. -/
theorem Step.relation_at (h : Step w c a w') (k : Nat) :
    w'.db.groups.imGroupRelation[k]? = w.db.groups.imGroupRelation[k]? ∨
    (∃ g ids r, c = .group (.updateActivate g ids) ∧ w.db.groups.imGroupRelation[k]? = some r ∧
      r.isIn g ids = true ∧ w'.db.groups.imGroupRelation[k]? = some { r with status := 1 }) ∨
    (∃ now g ids r, c = .group (.updateDeactivate now g ids) ∧
      w.db.groups.imGroupRelation[k]? = some r ∧ r.isIn g ids = true ∧
      w'.db.groups.imGroupRelation[k]? = some { r with status := 0, updated := now }) ∨
    (∃ rows, ∃ v ∈ rows, ∃ id, c = .group (.insertRelations rows) ∧
      w.db.groups.imGroupRelation[k]? = none ∧
      w'.db.groups.imGroupRelation[k]? = some (v.row id)) := by
  rcases h.groups with hsame | ⟨s, b, rfl, hok⟩
  · rw [hsame]
    exact Or.inl rfl
  cases s with
  | selectGroupsOf | selectGroupIdsOf | selectMembersIn | selectMembers | selectGroup
  | selectRecentGroups | selectStatuses =>
    rw [hok.1]
    exact Or.inl rfl
  | insertGroup values =>
    obtain ⟨key, -, hrelations, -⟩ := hok
    rw [hrelations]
    exact Or.inl rfl
  | updateMemberCntAdd | updateMemberCntSub =>
    obtain ⟨hrelations, -⟩ := hok
    rw [hrelations]
    exact Or.inl rfl
  | insertRelations rows =>
    obtain ⟨-, keys, hinserts, -⟩ := hok
    rcases hinserts.getElem? k with hsame | ⟨hnone, row, hrow, id, hnew⟩
    · exact Or.inl hsame
    · obtain ⟨v, hv, rfl⟩ := List.mem_map.mp hrow
      exact Or.inr (Or.inr (Or.inr ⟨rows, v, hv, id, rfl, hnone, hnew⟩))
  | updateActivate g ids =>
    obtain ⟨-, hupdate, -⟩ := hok
    rw [hupdate]
    rcases Table.getElem?_updateAll (RelationRow.isIn g ids) (fun r => { r with status := 1 })
      w.db.groups.imGroupRelation k with hsame | ⟨r, hr, hin, hnew⟩
    · exact Or.inl hsame
    · exact Or.inr (Or.inl ⟨g, ids, r, rfl, hr, hin, hnew⟩)
  | updateDeactivate now g ids =>
    obtain ⟨-, hupdate, -⟩ := hok
    rw [hupdate]
    rcases Table.getElem?_updateAll (RelationRow.isIn g ids)
      (fun r => { r with status := 0, updated := now }) w.db.groups.imGroupRelation k with
      hsame | ⟨r, hr, hin, hnew⟩
    · exact Or.inl hsame
    · exact Or.inr (Or.inr (Or.inl ⟨now, g, ids, r, rfl, hr, hin, hnew⟩))

/-- A contact is hidden, is brought back, or is new — or nothing happens to it. -/
theorem Step.contact_at (h : Step w c a w') (k : Nat) :
    w'.db.imRecentContact[k]? = w.db.imRecentContact[k]? ∨
    (∃ u f r, c = .contact (.updateRemove u f) ∧ w.db.imRecentContact[k]? = some r ∧
      r.isOf u f = true ∧ w'.db.imRecentContact[k]? = some { r with status := 1 }) ∨
    (∃ ids r, c = .contact (.updateRestore ids) ∧ w.db.imRecentContact[k]? = some r ∧
      r.relateId ∈ ids ∧ w'.db.imRecentContact[k]? = some { r with status := 0 }) ∨
    (∃ rows, ∃ v ∈ rows, ∃ id, c = .contact (.insertContacts rows) ∧
      w.db.imRecentContact[k]? = none ∧ w'.db.imRecentContact[k]? = some (v.row id)) := by
  rcases h.contacts with hsame | ⟨s, b, rfl, hok⟩
  · rw [hsame]
    exact Or.inl rfl
  cases s with
  | selectRecent | selectRelateId | selectRelation =>
    rw [hok.1]
    exact Or.inl rfl
  | updateRemove u f =>
    obtain ⟨n, hupdate, -⟩ := hok
    rcases hupdate.getElem? k with hsame | ⟨r, hr, hof, hnew⟩
    · exact Or.inl hsame
    · exact Or.inr (Or.inl ⟨u, f, r, rfl, hr, hof, hnew⟩)
  | updateRestore ids =>
    obtain ⟨n, hupdate, -⟩ := hok
    rcases hupdate.getElem? k with hsame | ⟨r, hr, hin, hnew⟩
    · exact Or.inl hsame
    · exact Or.inr (Or.inr (Or.inl ⟨ids, r, rfl, hr, of_decide_eq_true hin, hnew⟩))
  | insertContacts rows =>
    obtain ⟨keys, hinserts, -⟩ := hok
    rcases hinserts.getElem? k with hsame | ⟨hnone, row, hrow, id, hnew⟩
    · exact Or.inl hsame
    · obtain ⟨v, hv, rfl⟩ := List.mem_map.mp hrow
      exact Or.inr (Or.inr (Or.inr ⟨rows, v, hv, id, rfl, hnone, hnew⟩))

end Places

/-! ## What a request asks for -/

section Requests

variable {sessionId : UInt64} {message : Message} {w w' : World}

/-- The request asks for the removal of this member, and who asks has made the group. -/
def Removes (w : World) (row : RelationRow) (message : Message) : Prop :=
  ∃ m : Pdu GroupChangeMemberRequest, message = ⟨.groupChangeMemberRequest, m⟩ ∧
    m.body.changeType ≠ 0 ∧ w.IsCreator m.body.reqUserId m.body.groupId ∧
    row.groupId = percentD m.body.groupId ∧ ∃ u ∈ m.body.userList, row.userId = uintToString u

/-- The member is one of these users, however his id has been printed. -/
def RelationRow.isListed (userIds : List UInt32) (row : RelationRow) : Prop :=
  ∃ u ∈ userIds, row.userId = percentD u ∨ row.userId = uintToString u

/-- The request asks for this member: for a group that is there, or for one that it makes itself. -/
def Enlists (w : World) (row : RelationRow) (message : Message) : Prop :=
  (∃ m : Pdu GroupChangeMemberRequest, message = ⟨.groupChangeMemberRequest, m⟩ ∧
    m.body.changeType = 0 ∧ w.HasGroup m.body.groupId ∧ row.groupId = percentD m.body.groupId ∧
    row.isListed m.body.userList) ∨
  ∃ (m : Pdu GroupCreateTmpGroupRequest) (groupId : UInt32),
    message = ⟨.groupCreateTmpGroupRequest, m⟩ ∧ w.HasMade m.body.reqUserId groupId ∧
    row.groupId = percentD groupId ∧ row.isListed m.body.userList

/-- The user of the contact asks for it to be hidden. -/
def Hides (row : ContactRow) (message : Message) : Prop :=
  ∃ m : Pdu RemoveSessionRequest, message = ⟨.removeSessionRequest, m⟩ ∧ m.body.sessionType = 1 ∧
    row.userId = percentD m.body.reqUserId ∧ row.friendUserId = percentD m.body.sessionId

/-- A text goes between two users that have a contact of this key. -/
def BringsBack (w : World) (row : ContactRow) (message : Message) : Prop :=
  ∃ m : Pdu MsgData, message = ⟨.msgData, m⟩ ∧ m.body.IsText ∧
    ∃ r ∈ w.db.imRecentContact, r.isBetween m.body.fromUserId m.body.toUserId ∧
      row.relateId = uintToString (getColumn r.relateId)

/-- A text goes between the two users of the contact. -/
def Acquaints (row : ContactRow) (message : Message) : Prop :=
  ∃ m : Pdu MsgData, message = ⟨.msgData, m⟩ ∧ m.body.IsText ∧
    row.isBetween m.body.fromUserId m.body.toUserId

theorem Removes.grows {row row' : RelationRow} (h : Removes w row message) (hgrows : Grows w w')
    (hsame : row'.fixed = row.fixed) : Removes w' row' message := by
  obtain ⟨m, hm, htype, hcreator, hg, hu⟩ := h
  have hg' : row'.groupId = row.groupId := congrArg (·.groupId) hsame
  have hu' : row'.userId = row.userId := congrArg (·.userId) hsame
  exact ⟨m, hm, htype, hcreator.grows hgrows, hg'.trans hg, by rw [hu']; exact hu⟩

theorem Enlists.grows {row : RelationRow} (h : Enlists w row message) (hgrows : Grows w w') :
    Enlists w' row message := by
  rcases h with ⟨m, hm, htype, hgroup, hrow⟩ | ⟨m, g, hm, hmade, hrow⟩
  · exact Or.inl ⟨m, hm, htype, hgroup.grows hgrows, hrow⟩
  · exact Or.inr ⟨m, g, hm, hmade.grows hgrows, hrow⟩

theorem ContactRow.isBetween_of_fixed {a b : UInt32} {row row' : ContactRow}
    (hsame : row'.fixed = row.fixed) (h : row.isBetween a b) : row'.isBetween a b := by
  have hu : row'.userId = row.userId := congrArg (·.userId) hsame
  have hf : row'.friendUserId = row.friendUserId := congrArg (·.friendUserId) hsame
  unfold ContactRow.isBetween
  rw [hu, hf]
  exact h

theorem BringsBack.grows {row row' : ContactRow} (h : BringsBack w row message) (hgrows : Grows w w')
    (hsame : row'.fixed = row.fixed) : BringsBack w' row' message := by
  obtain ⟨m, hm, htext, r, hr, hbetween, hid⟩ := h
  obtain ⟨r', hr', hfixed⟩ := Table.exists_of_prefix hgrows.contacts hr
  have hrelate : r'.relateId = r.relateId := congrArg (·.relateId) hfixed
  have hrow : row'.relateId = row.relateId := congrArg (·.relateId) hsame
  exact ⟨m, hm, htext, r', hr', ContactRow.isBetween_of_fixed hfixed hbetween, by rw [hrow, hrelate, hid]⟩

theorem Hides.of_fixed {row row' : ContactRow} (h : Hides row message)
    (hsame : row'.fixed = row.fixed) : Hides row' message := by
  obtain ⟨m, hm, htype, hu, hf⟩ := h
  have hu' : row'.userId = row.userId := congrArg (·.userId) hsame
  have hf' : row'.friendUserId = row.friendUserId := congrArg (·.friendUserId) hsame
  exact ⟨m, hm, htype, hu'.trans hu, hf'.trans hf⟩

/-! ### The rules, read from the command -/

theorem May.removes {now g : Int} {ids : List Int} {r : RelationRow}
    (h : May sessionId message w (.group (.updateDeactivate now g ids))) (hin : r.isIn g ids = true) :
    Removes w r message := by
  rw [RelationRow.isIn_iff] at hin
  cases h with
  | read hread => cases hread
  | fillNew _ hs | addMembers _ _ hs => exact absurd hs id
  | @removeMembers m _ _ htype hcreator hs =>
    obtain ⟨u, hu, hid⟩ := hs.2 _ hin.2
    exact ⟨m, rfl, htype, hcreator, hin.1.trans hs.1, u, hu, hid⟩

theorem May.hides {u f : Int} {r : ContactRow}
    (h : May sessionId message w (.contact (.updateRemove u f))) (hof : r.isOf u f = true) :
    Hides r message := by
  rw [ContactRow.isOf_iff] at hof
  cases h with
  | read hread => cases hread
  | @hideContact m _ htype => exact ⟨m, rfl, htype, hof.1, hof.2⟩

theorem May.bringsBack {ids : List Int} {r : ContactRow}
    (h : May sessionId message w (.contact (.updateRestore ids))) (hin : r.relateId ∈ ids) :
    BringsBack w r message := by
  cases h with
  | read hread => cases hread
  | @showContacts m _ _ htext hall =>
    obtain ⟨r', hr', hbetween, hid⟩ := hall _ hin
    exact ⟨m, rfl, htext, r', hr', hbetween, hid⟩

theorem May.acquaints {rows : List ContactValues} {v : ContactValues}
    (h : May sessionId message w (.contact (.insertContacts rows))) (hv : v ∈ rows) (id : Int) :
    Acquaints (v.row id) message := by
  cases h with
  | read hread => cases hread
  | @makeContacts m _ _ htext hall => exact ⟨m, rfl, htext, hall v hv id⟩

end Requests

namespace HandlerThreads

variable {n : Nat} {bo : ByteOrder} {w₀ w w' : World} {s s' : HandlerThreads}
  {tr tr' : List ThreadsEvent} {cmds : List (Job × Event)} {mem : Job → Memory} {k : Nat}

/-! ## The memory of a handler -/

/-- What a thread does with a packet, if the objects it makes have what is in this memory. -/
def HandlesIn (bo : ByteOrder) (mem : Job → Memory) (j : Job) (p : Server Unit) : Prop :=
  p = onMessageDataHandler bo zAresModelModule (mem j) j.sessionId j.packet

/-- The handlers have been run in these memories, up to `s` and from there to `s'`. -/
structure RanIn (n : Nat) (bo : ByteOrder) (w₀ : World) (tr : List ThreadsEvent) (s : HandlerThreads)
    (tr' : List ThreadsEvent) (s' : HandlerThreads) (mem : Job → Memory) : Prop where
  before : Run (Pool.Step (threadOf n) Zattd.Step (HandlesIn bo mem)) (.idle w₀) (poolEvents tr) s.pool
  after : Run (Pool.Step (threadOf n) Zattd.Step (HandlesIn bo mem)) s.pool (poolEvents tr') s'.pool

/-- There are memories that the handlers have been run in, and this is true of them, whichever they are. -/
def InMemory (n : Nat) (bo : ByteOrder) (w₀ : World) (tr : List ThreadsEvent) (s : HandlerThreads)
    (tr' : List ThreadsEvent) (s' : HandlerThreads) (P : (Job → Memory) → Prop) : Prop :=
  (∃ mem, RanIn n bo w₀ tr s tr' s' mem) ∧ ∀ mem, RanIn n bo w₀ tr s tr' s' mem → P mem

/-- What the threads do is a run of their pool. -/
theorem pool_run {model : ModelModule} (h : Run (Step n bo model) s tr s') :
    Run (Pool.Step (threadOf n) Zattd.Step (Handles bo model)) s.pool (poolEvents tr) s'.pool := by
  induction h with
  | nil => exact .nil
  | @snoc tr e s₁ s₂ _ hstep ih =>
    rw [poolEvents_append]
    cases hstep with
    | received | sentSyncData | notImplemented =>
      show Run _ s.pool (poolEvents tr ++ []) s₁.pool
      rw [List.append_nil]
      exact ih
    | post _ hpool => exact .snoc ih hpool
    | work _ hpool => exact .snoc ih hpool

/-- **Every handler has its memory.** -/
theorem ran_in (h : Run (Step n bo zAresModelModule) (start w₀) tr s)
    (h' : Run (Step n bo zAresModelModule) s tr' s') : ∃ mem, RanIn n bo w₀ tr s tr' s' mem := by
  have hwhole := (run_threaded (h.append h')).posted_nodup
  rw [poolEvents_append] at hwhole
  let program (j : Job) (mem : Memory) : Server Unit :=
    onMessageDataHandler bo zAresModelModule mem j.sessionId j.packet
  let memory : Job → Memory := fun _ => default
  have hstart : Run (Pool.Step (threadOf n) Zattd.Step fun j p => p = program j (memory j)) (Pool.idle w₀) []
      (Pool.idle w₀) := .nil
  -- up to `s` first, and from there
  obtain ⟨mem, -, hbefore⟩ := Pool.chosen hstart (run_threaded h).pool (run_threaded h).posted_nodup
  obtain ⟨mem', hbefore', hafter⟩ := Pool.chosen hbefore (pool_run h') hwhole
  exact ⟨mem', hbefore', hafter⟩

theorem inMemory (h : Run (Step n bo zAresModelModule) (start w₀) tr s)
    (h' : Run (Step n bo zAresModelModule) s tr' s') {P : (Job → Memory) → Prop}
    (hP : ∀ mem, RanIn n bo w₀ tr s tr' s' mem → P mem) : InMemory n bo w₀ tr s tr' s' P :=
  ⟨ran_in h h', hP⟩

/-- The whole run, from its start. -/
theorem RanIn.whole (h : RanIn n bo w₀ tr s tr' s' mem) :
    RanIn n bo w₀ [] (start w₀) (tr ++ tr') s' mem := by
  refine ⟨.nil, ?_⟩
  rw [poolEvents_append]
  exact h.before.append h.after

/-- And its first part. -/
theorem RanIn.first (h : RanIn n bo w₀ tr s tr' s' mem) : RanIn n bo w₀ [] (start w₀) tr s mem :=
  ⟨.nil, h.before⟩

/-! ## The monitor -/

/-- The packet is this request, in the memory that it is parsed in. -/
def Asks (bo : ByteOrder) (mem : Memory) (j : Job) (message : Message) : Prop :=
  parseMessagePduFromNetPacker bo mem j.packet = some message

/-- Whatever the memory holds, the strings of the packet are literals for themselves. -/
def PlainIn (bo : ByteOrder) (j : Job) : Prop :=
  ∀ mem message, Asks bo mem j message → message.IsPlain

/-- Most packets have no strings that get into a statement. -/
theorem plainIn_of_class {j : Job} (name : PduName)
    (hclass : pduMessageFactory.lookup j.packet.messageType = some name) (hlogin : name ≠ .validateRequest)
    (htask : name ≠ .fileDelOfflineReq) : PlainIn bo j := by
  rintro mem ⟨name', m⟩ hasks
  obtain rfl := Option.some.inj ((parseMessagePduFromNetPacker_class hasks).symm.trans hclass)
  cases name' with
  | validateRequest => exact absurd rfl hlogin
  | fileDelOfflineReq => exact absurd rfl htask
  | _ => trivial

/-- The packet asks for it. -/
def AskedIn (bo : ByteOrder) (mem : Memory) (j : Job) (P : Message → Prop) : Prop :=
  ∃ message, Asks bo mem j message ∧ P message

/-- The command may be issued for the packet. -/
def Allowed (bo : ByteOrder) (mem : Job → Memory) (j : Job) (w : World) (c : Cmd) : Prop :=
  AskedIn bo (mem j) j fun message => May j.sessionId message w c

/-- One command passes the monitor. -/
abbrev Passes (bo : ByteOrder) (mem : Job → Memory) : World → Job × Event → World → Prop :=
  Pool.Passes Zattd.Step (Allowed bo mem)

/-- The commands that have been issued, with the packets they were issued for. -/
def commands (tr : List ThreadsEvent) : List (Job × Event) := Pool.commands (poolEvents tr)

/-- What is done with a packet keeps the policy. -/
theorem handles_allowed {j : Job} {p : Server Unit} (h : HandlesIn bo mem j p) (w : World) :
    Respects Zattd.Step Grows (Allowed bo mem j) (fun _ _ => True) p w := by
  obtain rfl := h
  rcases onMessageDataHandler_cases bo zAresModelModule (mem j) j.sessionId j.packet with
    ⟨name, m, execute, -, hparse, hexecutes, hrun⟩ | ⟨-, hrun⟩
  · rw [hrun]
    have hpermitted : Permitted j.sessionId ⟨name, m⟩ (execute zAresModelModule (mem j) j.sessionId m) :=
      executes_permitted hexecutes m
    refine Obeys.within hpermitted (J := fun _ => True) (fun _ _ _ _ => trivial)
      (fun _ _ _ _ hstep => hstep.grows) (fun w c _ hmay => ?_) trivial
    exact ⟨⟨name, m⟩, hparse, hmay⟩
  · rw [hrun]
    trivial

/-- Commands are issued for packets that have been received. -/
theorem received_of_mem_commands (h : Run (Step n bo zAresModelModule) (start w₀) tr s)
    (h' : Run (Step n bo zAresModelModule) s tr' s') :
    ∀ e ∈ commands tr', e.1 ∈ received (tr ++ tr') := by
  rintro ⟨j, c, a⟩ he
  have hthreaded := run_threaded (h.append h')
  obtain ⟨e, he, hcommand⟩ := List.mem_filterMap.mp he
  have hworks : e.worksOn = some j := by
    cases e with
    | act j' c' a' =>
      obtain ⟨rfl, -⟩ := Prod.mk.inj (Option.some.inj hcommand)
      rfl
    | post j' | start j' | finish j' => cases hcommand
  have hposted := Pool.mem_posted_of_worksOn hthreaded.pool
    (by rw [poolEvents_append]; exact List.mem_append_right _ he) hworks
  exact hthreaded.mem_received.mpr (Or.inl hposted)

/-- What is issued goes past the monitor. -/
theorem passes_run (hmem : RanIn n bo w₀ tr s tr' s' mem) :
    Run (Passes bo mem) s.pool.world (commands tr') s'.pool.world :=
  Pool.monitored (I := fun _ => True) Grows.refl (fun _ _ _ => Grows.trans)
    (fun _ _ _ _ => trivial) (fun _ _ _ _ _ _ _ hstep => hstep.grows)
    (fun j p w hp _ => handles_allowed hp w) hmem.before trivial hmem.after

/-- **The monitor.**  In every run of any number of threads, with any outcome of any statement, from
    any point on: the commands that are issued are for packets that have been received, and take the
    world a way on which each is one that its packet may issue, read in the memory that its handler has
    been run in, in the state that it meets. -/
theorem keeps_policy (h : Run (Step n bo zAresModelModule) (start w₀) tr s)
    (h' : Run (Step n bo zAresModelModule) s tr' s') :
    InMemory n bo w₀ tr s tr' s'
        (fun mem => Run (Passes bo mem) s.pool.world (commands tr') s'.pool.world) ∧
      ∀ e ∈ commands tr', e.1 ∈ received (tr ++ tr') :=
  ⟨inMemory h h' fun _ hmem => passes_run hmem, received_of_mem_commands h h'⟩

/-- The ten commands of a text, from the look for a contact to the reply. -/
theorem keeps_policy_one :
    (commands textServed).length = 10 ∧
    InMemory 2 .big emptyWorld [] (start emptyWorld) textServed afterText
        (fun mem => Run (Passes .big mem) emptyWorld (commands textServed) afterText.pool.world) ∧
      ∀ e ∈ commands textServed, e.1 ∈ received ([] ++ textServed) :=
  ⟨by decide, keeps_policy .nil (textServed_run 2)⟩

/-! ## Members -/

/-- Some packet among these asks for it. -/
def AskedBy (bo : ByteOrder) (mem : Job → Memory) (js : List Job) (P : Message → Prop) : Prop :=
  ∃ j ∈ js, AskedIn bo (mem j) j P

theorem AskedBy.imp {js js' : List Job} {P Q : Message → Prop} (h : AskedBy bo mem js P)
    (hjs : ∀ j ∈ js, j ∈ js') (hPQ : ∀ message, P message → Q message) : AskedBy bo mem js' Q := by
  obtain ⟨j, hj, message, hasks, hP⟩ := h
  exact ⟨j, hjs j hj, message, hasks, hPQ message hP⟩

/-- The packets that the commands are issued for. -/
abbrev askers (cmds : List (Job × Event)) : List Job := cmds.map (·.1)

theorem received_of_mem_askers (h : Run (Step n bo zAresModelModule) (start w₀) tr s)
    (h' : Run (Step n bo zAresModelModule) s tr' s') :
    ∀ j ∈ askers (commands tr'), j ∈ received (tr ++ tr') := by
  intro j hj
  obtain ⟨e, he, rfl⟩ := List.mem_map.mp hj
  exact received_of_mem_commands h h' e he

/-- In the memory that its handler has been run in, one of the received packets asks for it, and
    commands have been issued for this packet in `tr'`. -/
def AskedDuring (n : Nat) (bo : ByteOrder) (w₀ : World) (tr : List ThreadsEvent) (s : HandlerThreads)
    (tr' : List ThreadsEvent) (s' : HandlerThreads) (P : Message → Prop) : Prop :=
  InMemory n bo w₀ tr s tr' s' fun mem =>
    ∃ j ∈ received (tr ++ tr'), j ∈ askers (commands tr') ∧ AskedIn bo (mem j) j P

theorem asked_during (h : Run (Step n bo zAresModelModule) (start w₀) tr s)
    (h' : Run (Step n bo zAresModelModule) s tr' s') {P : Message → Prop}
    (hP : ∀ mem, RanIn n bo w₀ tr s tr' s' mem → AskedBy bo mem (askers (commands tr')) P) :
    AskedDuring n bo w₀ tr s tr' s' P := by
  refine inMemory h h' fun mem hmem => ?_
  obtain ⟨j, hj, hasked⟩ := hP mem hmem
  exact ⟨j, received_of_mem_askers h h' j hj, hj, hasked⟩

/-- What becomes of a row does not depend on the memory: where one memory leads to, each does. -/
theorem kept_inMemory {α : Type} {row? : Option α} {P : (Job → Memory) → α → Prop}
    (h : Run (Step n bo zAresModelModule) (start w₀) tr s)
    (h' : Run (Step n bo zAresModelModule) s tr' s')
    (hkept : ∀ mem, RanIn n bo w₀ tr s tr' s' mem → ∃ row', row? = some row' ∧ P mem row') :
    ∃ row', row? = some row' ∧ InMemory n bo w₀ tr s tr' s' fun mem => P mem row' := by
  obtain ⟨mem, hmem⟩ := ran_in h h'
  obtain ⟨row', hrow', -⟩ := hkept mem hmem
  refine ⟨row', hrow', inMemory h h' fun mem' hmem' => ?_⟩
  obtain ⟨row'', hrow'', hP⟩ := hkept mem' hmem'
  obtain rfl := Option.some.inj (hrow'.symm.trans hrow'')
  exact hP

theorem askedBy_last {e : Job × Event} {message : Message} {P : Message → Prop}
    (hasks : Asks bo (mem e.1) e.1 message) (hP : P message) :
    AskedBy bo mem (askers (cmds ++ [e])) P :=
  ⟨e.1, List.mem_map_of_mem (List.mem_append_right _ (List.mem_singleton_self e)), message, hasks, hP⟩

theorem AskedBy.snoc {e : Job × Event} {P Q : Message → Prop} (h : AskedBy bo mem (askers cmds) P)
    (hPQ : ∀ message, P message → Q message) : AskedBy bo mem (askers (cmds ++ [e])) Q := by
  refine h.imp (fun j hj => ?_) hPQ
  show j ∈ (cmds ++ [e]).map (·.1)
  rw [List.map_append]
  exact List.mem_append_left _ hj

/-- The history of a member: he stays where he is, and one until somebody who may asks for his
    removal. -/
theorem member_kept (h : Run (Passes bo mem) w cmds w') {row : RelationRow}
    (hrow : w.db.groups.imGroupRelation[k]? = some row) :
    ∃ row', w'.db.groups.imGroupRelation[k]? = some row' ∧ row'.fixed = row.fixed ∧
      (1 ≤ row.status → 1 ≤ row'.status ∨ AskedBy bo mem (askers cmds) (Removes w' row)) := by
  induction h with
  | nil => exact ⟨row, hrow, rfl, fun hactive => Or.inl hactive⟩
  | @snoc cmds e w₁ w₂ _ hstep ih =>
    obtain ⟨row₁, hrow₁, hfixed, hactive⟩ := ih
    obtain ⟨⟨message, hasks, hmay⟩, hdo⟩ := hstep
    have hgrows := hdo.grows
    have hbefore : 1 ≤ row.status →
        1 ≤ row₁.status ∨ AskedBy bo mem (askers (cmds ++ [e])) (Removes w₂ row) := fun h1 =>
      (hactive h1).imp_right fun hasked => hasked.snoc fun _ hremoves => hremoves.grows hgrows rfl
    rcases hdo.relation_at k with hsame | ⟨g, ids, r, hc, hr, hin, hnew⟩ |
      ⟨now, g, ids, r, hc, hr, hin, hnew⟩ | ⟨rows, v, hv, id, hc, hnone, -⟩
    · exact ⟨row₁, hsame.trans hrow₁, hfixed, hbefore⟩
    · obtain rfl := Option.some.inj (hr.symm.trans hrow₁)
      exact ⟨_, hnew, hfixed, fun _ => Or.inl (le_refl 1)⟩
    · -- he is removed
      obtain rfl := Option.some.inj (hr.symm.trans hrow₁)
      refine ⟨_, hnew, hfixed, fun h1 => Or.inr ?_⟩
      rw [hc] at hmay
      exact askedBy_last hasks ((hmay.removes hin).grows hgrows hfixed.symm)
    · rw [hnone] at hrow₁
      cases hrow₁

/-- **Only the creator removes.**  Between any two moments of a run, the rows of `IMGroupRelation`
    stay in their places, with the same group and user; and one that was active then and is not now
    is that of a user whose removal a received request has asked for in between — as a user who has made
    the group. -/
theorem members_leave (h : Run (Step n bo zAresModelModule) (start w₀) tr s)
    (h' : Run (Step n bo zAresModelModule) s tr' s') (k : Nat) (row : RelationRow)
    (hrow : s.pool.world.db.groups.imGroupRelation[k]? = some row) :
    ∃ row', s'.pool.world.db.groups.imGroupRelation[k]? = some row' ∧ row'.fixed = row.fixed ∧
      (1 ≤ row.status → ¬1 ≤ row'.status →
        AskedDuring n bo w₀ tr s tr' s' (Removes s'.pool.world row)) := by
  obtain ⟨row', hrow', ⟨mem, hmem⟩, hkept⟩ :=
    kept_inMemory h h' fun mem hmem => member_kept (passes_run hmem) hrow
  obtain ⟨hfixed, -⟩ := hkept mem hmem
  refine ⟨row', hrow', hfixed, fun h1 hnot => asked_during h h' fun mem hmem => ?_⟩
  obtain ⟨-, hactive⟩ := hkept mem hmem
  exact (hactive h1).resolve_left hnot

/-- A group of user 1. -/
def oneGroup : GroupRow where
  groupId := 1
  groupName := [103]
  avatar := []
  adesc := []
  createUserId := 1
  groupType := 2
  memberCnt := 1
  status := 1
  created := 0
  updated := 0

/-- User 7 is its one member. -/
def oneMember : RelationRow :=
  { id := 1, groupId := 1, userId := 7, title := 0, groupType := 2, status := 1, created := 0, updated := 0 }

def oneMemberWorld : World := emptyWorld.setGroups { imGroup := [oneGroup], imGroupRelation := [oneMember] }

/-- User 1 asks for a change of a user's membership. -/
def changeOf (u : UInt32) : Pdu GroupChangeMemberRequest where
  attachData := []
  reserved := 0
  body := { changeType := 1, reqUserId := 1, groupId := 1, userList := [u] }

/-- A memory in which it is taken for a request to remove him. -/
def removalMemory : Memory :=
  { (default : Memory) with
    pdu := fun
      | .groupChangeMemberRequest => ⟨default, ⟨1, 0, 0, []⟩⟩
      | _ => default }

/-- The packet for user 7 is served in this memory. -/
def removalServed : List ThreadsEvent × World :=
  inTurn .big 0 [(removalMemory, 1, packetOf (changeOf 7))] oneMemberWorld

/-- He is a member no more, and his removal has been asked for. -/
theorem members_leave_one :
    removalServed.2.db.groups.imGroupRelation = [{ oneMember with status := 0 }] ∧
      AskedDuring 2 .big oneMemberWorld [] (start oneMemberWorld) removalServed.1
        (atRest 1 removalServed.2) (Removes removalServed.2 oneMember) := by
  have hserved : Run (Step 2 .big zAresModelModule) (start oneMemberWorld) removalServed.1
      (atRest 1 removalServed.2) := inTurn_run (by decide) oneMemberWorld
  have hgone : removalServed.2.db.groups.imGroupRelation = [{ oneMember with status := 0 }] := by decide
  obtain ⟨row', hrow', -, hasked⟩ := members_leave .nil hserved 0 oneMember rfl
  refine ⟨hgone, hasked (le_refl 1) ?_⟩
  have hnow : some row' = some { oneMember with status := 0 } :=
    hrow'.symm.trans (congrArg (fun l => l[0]?) hgone)
  rw [Option.some.inj hnow]
  decide

/-- The history of a contact: it stays where it is, shown until its user asks for it to be hidden, and
    hidden until a text brings it back. -/
theorem contact_kept (h : Run (Passes bo mem) w cmds w') {row : ContactRow}
    (hrow : w.db.imRecentContact[k]? = some row) :
    ∃ row', w'.db.imRecentContact[k]? = some row' ∧ row'.fixed = row.fixed ∧
      (row'.status = row.status ∨
        (row'.status = 1 ∧ AskedBy bo mem (askers cmds) (Hides row)) ∨
        (row'.status = 0 ∧ AskedBy bo mem (askers cmds) (BringsBack w' row))) := by
  induction h with
  | nil => exact ⟨row, hrow, rfl, Or.inl rfl⟩
  | @snoc cmds e w₁ w₂ _ hstep ih =>
    obtain ⟨row₁, hrow₁, hfixed, hstatus⟩ := ih
    obtain ⟨⟨message, hasks, hmay⟩, hdo⟩ := hstep
    have hgrows := hdo.grows
    rcases hdo.contact_at k with hsame | ⟨u, f, r, hc, hr, hof, hnew⟩ | ⟨ids, r, hc, hr, hin, hnew⟩ |
      ⟨rows, v, hv, id, hc, hnone, -⟩
    · refine ⟨row₁, hsame.trans hrow₁, hfixed, ?_⟩
      rcases hstatus with heq | ⟨heq, hasked⟩ | ⟨heq, hasked⟩
      · exact Or.inl heq
      · exact Or.inr (Or.inl ⟨heq, hasked.snoc fun _ hhides => hhides⟩)
      · exact Or.inr (Or.inr ⟨heq, hasked.snoc fun _ hback => hback.grows hgrows rfl⟩)
    · obtain rfl := Option.some.inj (hr.symm.trans hrow₁)
      rw [hc] at hmay
      refine ⟨_, hnew, hfixed, Or.inr (Or.inl ⟨rfl, ?_⟩)⟩
      exact askedBy_last hasks ((hmay.hides hof).of_fixed hfixed.symm)
    · obtain rfl := Option.some.inj (hr.symm.trans hrow₁)
      rw [hc] at hmay
      refine ⟨_, hnew, hfixed, Or.inr (Or.inr ⟨rfl, ?_⟩)⟩
      exact askedBy_last hasks ((hmay.bringsBack hin).grows hgrows hfixed.symm)
    · rw [hnone] at hrow₁
      cases hrow₁

/-- A contact that is there was there, or is that of the two users of a text. -/
theorem contact_made (h : Run (Passes bo mem) w cmds w') {row' : ContactRow}
    (hrow' : w'.db.imRecentContact[k]? = some row') :
    (∃ row, w.db.imRecentContact[k]? = some row) ∨ AskedBy bo mem (askers cmds) (Acquaints row') := by
  induction h generalizing row' with
  | nil => exact Or.inl ⟨row', hrow'⟩
  | @snoc cmds e w₁ w₂ _ hstep ih =>
    obtain ⟨⟨message, hasks, hmay⟩, hdo⟩ := hstep
    have hkept : ∀ r, w₁.db.imRecentContact[k]? = some r → row'.fixed = r.fixed →
        (∃ row, w.db.imRecentContact[k]? = some row) ∨
          AskedBy bo mem (askers (cmds ++ [e])) (Acquaints row') := fun r hr hfixed =>
      (ih hr).imp_right fun hasked => hasked.snoc fun _ hacquaints => by
        obtain ⟨m, hm, htext, hbetween⟩ := hacquaints
        exact ⟨m, hm, htext, ContactRow.isBetween_of_fixed hfixed hbetween⟩
    rcases hdo.contact_at k with hsame | ⟨u, f, r, hc, hr, hof, hnew⟩ | ⟨ids, r, hc, hr, hin, hnew⟩ |
      ⟨rows, v, hv, id, hc, hnone, hnew⟩
    · exact hkept row' (hsame.symm.trans hrow') rfl
    · obtain rfl := Option.some.inj (hnew.symm.trans hrow')
      exact hkept r hr rfl
    · obtain rfl := Option.some.inj (hnew.symm.trans hrow')
      exact hkept r hr rfl
    · obtain rfl := Option.some.inj (hnew.symm.trans hrow')
      rw [hc] at hmay
      exact Or.inr (askedBy_last hasks (hmay.acquaints hv id))

/-- **A contact is its user's.**  Between any two moments of a run, the rows of `IMRecentContact` stay
    in their places with the same key and users.  One that was shown then and is not now has been
    hidden at the request of its own user; one that was hidden and is shown now has been brought back by
    a text between two users with a contact of its key; and one that was not there is that of the two
    users of a text. -/
theorem contacts_change (h : Run (Step n bo zAresModelModule) (start w₀) tr s)
    (h' : Run (Step n bo zAresModelModule) s tr' s') (k : Nat) :
    (∀ row, s.pool.world.db.imRecentContact[k]? = some row →
      ∃ row', s'.pool.world.db.imRecentContact[k]? = some row' ∧ row'.fixed = row.fixed ∧
        (row.status = 0 → row'.status ≠ 0 → AskedDuring n bo w₀ tr s tr' s' (Hides row)) ∧
        (row.status ≠ 0 → row'.status = 0 →
          AskedDuring n bo w₀ tr s tr' s' (BringsBack s'.pool.world row))) ∧
    ∀ row', s'.pool.world.db.imRecentContact[k]? = some row' →
      s.pool.world.db.imRecentContact[k]? = none →
      AskedDuring n bo w₀ tr s tr' s' (Acquaints row') := by
  refine ⟨fun row hrow => ?_, fun row' hrow' hnone => asked_during h h' fun mem hmem => ?_⟩
  · obtain ⟨row', hrow', ⟨mem, hmem⟩, hkept⟩ :=
      kept_inMemory h h' fun mem hmem => contact_kept (passes_run hmem) hrow
    obtain ⟨hfixed, -⟩ := hkept mem hmem
    refine ⟨row', hrow', hfixed, fun hshown hhidden => asked_during h h' fun mem hmem => ?_,
      fun hhidden hshown => asked_during h h' fun mem hmem => ?_⟩
    · obtain ⟨-, heq | ⟨-, hhides⟩ | ⟨hzero, -⟩⟩ := hkept mem hmem
      · exact absurd (heq.trans hshown) hhidden
      · exact hhides
      · exact absurd hzero hhidden
    · obtain ⟨-, heq | ⟨hone, -⟩ | ⟨-, hback⟩⟩ := hkept mem hmem
      · exact absurd (heq.symm.trans hshown) hhidden
      · omega
      · exact hback
  · rcases contact_made (passes_run hmem) hrow' with ⟨row, hrow⟩ | hacquaints
    · rw [hnone] at hrow
      cases hrow
    · exact hacquaints

/-- User 1 hides his contact with user 2. -/
def oneRemoval : Pdu RemoveSessionRequest where
  attachData := []
  reserved := 0
  body := { reqUserId := 1, sessionId := 2, sessionType := 1 }

/-- A text comes first. -/
def textTurn : List ThreadsEvent × World := inTurn .big 0 [(default, 1, packetOf oneText)] emptyWorld

/-- Then he does. -/
def hidingTurn : List ThreadsEvent × World := inTurn .big 1 [(default, 1, packetOf oneRemoval)] textTurn.2

/-- The contact that the text makes for him. -/
def oneContact : ContactRow :=
  { relateId := 1, userId := 1, friendUserId := 2, status := 0, created := 0, updated := 0 }

/-- The text makes his contact, which he then hides. -/
theorem contacts_change_one :
    textTurn.2.db.imRecentContact[0]? = some oneContact ∧
      AskedDuring 2 .big emptyWorld [] (start emptyWorld) textTurn.1 (atRest 1 textTurn.2)
        (Acquaints oneContact) ∧
    hidingTurn.2.db.imRecentContact[0]? = some { oneContact with status := 1 } ∧
      AskedDuring 2 .big emptyWorld textTurn.1 (atRest 1 textTurn.2) hidingTurn.1
        (atRest 2 hidingTurn.2) (Hides oneContact) := by
  have hfirst : Run (Step 2 .big zAresModelModule) (start emptyWorld) textTurn.1 (atRest 1 textTurn.2) :=
    inTurn_run (by decide) emptyWorld
  have hthen : Run (Step 2 .big zAresModelModule) (atRest 1 textTurn.2) hidingTurn.1
      (atRest 2 hidingTurn.2) := inTurn_run_from (by decide) 1 textTurn.2
  have hmade : textTurn.2.db.imRecentContact[0]? = some oneContact := by decide
  have hhidden : hidingTurn.2.db.imRecentContact[0]? = some { oneContact with status := 1 } := by decide
  obtain ⟨-, hnew⟩ := contacts_change .nil hfirst 0
  obtain ⟨hold, -⟩ := contacts_change hfirst hthen 0
  obtain ⟨row', hrow', -, hasked, -⟩ := hold oneContact hmade
  obtain rfl := Option.some.inj (hhidden.symm.trans hrow')
  exact ⟨hmade, hnew oneContact hmade rfl, hhidden, hasked rfl (by decide)⟩

end HandlerThreads

end Zattd
