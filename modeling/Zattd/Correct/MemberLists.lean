/-
  Two ways to the MEMBERS of a group.

  `GroupUserListRequest` asks for the members of one group.  `GroupListRequest` and
  `GroupDialogListRequest` ask for those of all of a user's groups at once, and file the rows of the
  answer under their groups.  Both statements end in `LIMIT 10000`; but the second limit is on the rows
  of all groups together, so a group whose members joined late loses some of them to the other groups.
  And the one statement prints a group's id with `%d`, the other one with `JoinString`.
-/
import Zattd.Correct.Rendering

set_option linter.unusedVariables false

namespace Zattd

open Prog ZAresGroupManagerImpl

/-- The active rows of the groups, by `created`, and by id where that is the same. -/
def GroupTables.activeIn (t : GroupTables) (groupIds : List Int) : List RelationRow :=
  Table.select (fun r => decide (r.groupId ∈ groupIds ∧ 1 ≤ r.status))
    (fun r => toLex (r.created, r.id)) t.imGroupRelation

/-- The statements succeed, and members with the same `created` come in the order of their ids. -/
def ById (w : World) : (c : Cmd) → c.Answer → World → Prop
  | .group (.selectMembersIn groupIds), a, w' =>
      w' = w ∧ a = some ((w.db.groups.activeIn groupIds).take 10000)
  | .group (.selectMembers groupId), a, w' =>
      w' = w ∧ a = some ((w.db.groups.activeIn [groupId]).take 10000)
  | c, a, w' => StepOk w c a w'

/-- A record of a list has the members that a request about its group is answered. -/
def MembersMatch (w : World) (group : GroupInfo) : Prop :=
  ∀ mem sessionId request tr w' reply, request.body.groupId = group.groupId →
    Runs ById w (groupUserListRequestHandler zAresModelModule mem sessionId request) tr () w' →
    (sessionId, ⟨.groupUserListResponse, reply⟩) ∈ replies tr → reply.body.result = 0 →
    group.groupMemeberList = reply.body.userList

/-- So have all records of the two lists of a user. -/
structure MembersAgree (w : World) (u : UInt32) : Prop where
  fixed : ∀ mem sessionId request tr w' reply, request.body.userId = u →
    Runs ById w (groupListRequestHandler zAresModelModule mem sessionId request) tr () w' →
    (sessionId, ⟨.groupListResponse, reply⟩) ∈ replies tr →
    ∀ group ∈ reply.body.groupList, MembersMatch w group
  recent : ∀ mem sessionId request tr w' reply, request.body.userId = u →
    Runs ById w (groupDialogListRequestHandler zAresModelModule mem sessionId request) tr () w' →
    (sessionId, ⟨.groupDialogListResponse, reply⟩) ∈ replies tr →
    ∀ group ∈ reply.body.groupList, MembersMatch w group

/-! ## The condition -/

/-- The groups of a `GroupListResponse`. -/
def FixedGroups (t : GroupTables) (u : UInt32) (rows : List GroupRow) : Prop :=
  ∃ rel, Table.SelectsLimit (GroupStmt.isMembershipOf (percentD u) true)
    (fun r => toLex (-r.created, -r.id)) 0 200 t.imGroupRelation rel ∧ GroupStmt.GroupsAmong t rel rows

/-- The groups of a `GroupDialogListResponse`. -/
def RecentGroups (t : GroupTables) (u : UInt32) (rows : List GroupRow) : Prop :=
  ∃ rel, Table.SelectsLimit (fun r => decide (r.userId = percentD u ∧ r.status = 1))
    (fun r => toLex (-r.updated, -r.id)) 0 100 t.imGroupRelation rel ∧ GroupStmt.GroupsAmong t rel rows

/-- The user is one, and the groups are those of one of the two lists. -/
def ListedGroups (t : GroupTables) (u : UInt32) (rows : List GroupRow) : Prop :=
  u ≠ 0 ∧ (FixedGroups t u rows ∨ RecentGroups t u rows)

/-- The ids as the packets carry them. -/
def packetIds (rows : List GroupRow) : List UInt32 := rows.map fun row => getColumn row.groupId

/-- A request about the group has result 0. -/
def GroupFound (t : GroupTables) (g : UInt32) : Prop :=
  g ≠ 0 ∧ ∃ row ∈ t.imGroup, row.groupId = percentD g ∧ 1 ≤ row.status

/-- The user ids of rows, as they are read. -/
def readUsers (rows : List RelationRow) : List UInt32 := rows.map fun r => getColumn r.userId

/-- For an id that both statements print alike: no active row of the group is beyond the first 10000
    active rows of all listed groups.  For an id that `%d` prints as a negative number: the rows of the
    one number, as far as they are among the first 10000, and the rows of the other name the same users
    in the same order. -/
def MembersFit (t : GroupTables) (groupIds : List UInt32) (g : UInt32) : Prop :=
  if g.toNat < 2 ^ 31 then
    ∀ r ∈ (t.activeIn (groupIds.map uintToString)).drop 10000, r.groupId ≠ uintToString g
  else
    readUsers (((t.activeIn (groupIds.map uintToString)).take 10000).filter fun r =>
      decide (r.groupId = uintToString g)) = readUsers (t.activeIn [percentD g])

/-! ## The two statements -/

section Members

variable {t : GroupTables}

theorem GroupTables.mem_activeIn {groupIds : List Int} {r : RelationRow} :
    r ∈ t.activeIn groupIds ↔ r ∈ t.imGroupRelation ∧ r.groupId ∈ groupIds ∧ 1 ≤ r.status := by
  rw [activeIn, (Table.select_selects _ _ _).mem_iff, decide_eq_true_iff]

/-- The rows of one of the groups among those of all of them, in their order. -/
theorem GroupTables.filter_activeIn {groupIds : List Int} {g : Int} (hg : g ∈ groupIds) :
    ((t.activeIn groupIds).filter fun r => decide (r.groupId = g)) = t.activeIn [g] := by
  unfold activeIn
  rw [Table.filter_select]
  apply Table.select_congr
  intro r _
  rw [← Bool.decide_and]
  apply decide_eq_decide.mpr
  rw [List.mem_singleton]
  constructor
  · rintro ⟨hgroup, -, hactive⟩
    exact ⟨hgroup, hactive⟩
  · rintro ⟨rfl, hactive⟩
    exact ⟨rfl, hg, hactive⟩

/-- An order by two columns is one by the first. -/
theorem GroupTables.activeIn_selects (t : GroupTables) (groupIds : List Int) :
    Table.Selects (fun r => decide (r.groupId ∈ groupIds ∧ 1 ≤ r.status)) (·.created)
      t.imGroupRelation (t.activeIn groupIds) := by
  obtain ⟨hperm, hsorted⟩ := Table.select_selects
    (fun r : RelationRow => decide (r.groupId ∈ groupIds ∧ 1 ≤ r.status))
    (fun r => toLex (r.created, r.id)) t.imGroupRelation
  refine ⟨hperm, hsorted.imp ?_⟩
  intro a b hle
  rcases Prod.Lex.le_iff.mp hle with hlt | ⟨heq, -⟩
  · exact le_of_lt hlt
  · exact le_of_eq heq

theorem ById.ok {w w' : World} {c : Cmd} {a : c.Answer} (h : ById w c a w') : StepOk w c a w' := by
  unfold ById at h
  split at h
  · obtain ⟨rfl, rfl⟩ := h
    exact ⟨_, ⟨rfl, _, ⟨_, GroupTables.activeIn_selects _ _, rfl⟩, rfl⟩, rfl⟩
  · obtain ⟨rfl, rfl⟩ := h
    have hselects := GroupTables.activeIn_selects w'.db.groups [‹Int›]
    simp only [List.mem_singleton] at hselects
    exact ⟨_, ⟨rfl, _, ⟨_, hselects, rfl⟩, rfl⟩, rfl⟩
  · exact h

/-- One way to succeed so. -/
def respondById (w : World) : (c : Cmd) → c.Answer × World
  | .group (.selectMembersIn groupIds) => (some ((w.db.groups.activeIn groupIds).take 10000), w)
  | .group (.selectMembers groupId) => (some ((w.db.groups.activeIn [groupId]).take 10000), w)
  | c => respond w c

theorem respondById_byId (w : World) (c : Cmd) :
    ById w c (respondById w c).1 (respondById w c).2 := by
  have hok := respond_ok w c
  cases c with
  | group s =>
    cases s with
    | selectMembersIn groupIds => exact ⟨rfl, rfl⟩
    | selectMembers groupId => exact ⟨rfl, rfl⟩
    | _ => exact hok
  | _ => exact hok

end Members

/-! ## The answers -/

section Answers

variable {t : GroupTables} {w w' : World} {tr : List Event}

/-- The members that the single query reports. -/
def reportedUsers (t : GroupTables) (g : UInt32) : List UInt32 :=
  readUsers ((t.activeIn [percentD g]).take 10000)

/-- `GetGroupInfo` finds a group that is there. -/
theorem getGroupInfo_byId {g : UInt32} {group : GroupInfo} {found : Option GroupInfo}
    (h : Runs ById w (getGroupInfo g group) tr found w') :
    w' = w ∧ replies tr = [] ∧ (found.isSome = true ↔ GroupFound w.db.groups g) := by
  by_cases hzero : g = 0
  · simp only [getGroupInfo, if_pos hzero] at h
    obtain ⟨rfl, rfl, rfl⟩ := runs_pure.mp h
    exact ⟨rfl, rfl, iff_of_false Bool.false_ne_true fun hfound => hfound.1 hzero⟩
  · simp only [getGroupInfo, if_neg hzero, runs_bind, runs_issue] at h
    obtain ⟨_, _, w₁, _, ⟨⟨_, ⟨rfl, rows, hrows, rfl⟩, rfl⟩, rfl⟩, h, rfl⟩ := h
    have hmem : ∀ row, row ∈ rows ↔
        row ∈ w.db.groups.imGroup ∧ row.groupId = percentD g ∧ 1 ≤ row.status := by
      intro row
      rw [hrows.mem_iff, decide_eq_true_iff]
    rcases rows with _ | ⟨row, rest⟩
    · obtain ⟨rfl, rfl, rfl⟩ := runs_pure.mp h
      refine ⟨rfl, rfl, iff_of_false Bool.false_ne_true ?_⟩
      rintro ⟨-, row, hrow, hfound⟩
      exact List.not_mem_nil ((hmem row).mpr ⟨hrow, hfound⟩)
    · obtain ⟨rfl, rfl, rfl⟩ := runs_pure.mp h
      obtain ⟨hrow, hfound⟩ := (hmem row).mp List.mem_cons_self
      exact ⟨rfl, rfl, iff_of_true rfl ⟨hzero, row, hrow, hfound⟩⟩

/-- A request about a group is answered once, with result 0 if the group is found, and then with its
    members. -/
theorem groupUserListRequestHandler_byId {mem : Memory} {sessionId : UInt64}
    {request : Pdu GroupUserListRequest}
    (h : Runs ById w (groupUserListRequestHandler zAresModelModule mem sessionId request) tr () w') :
    ∃ reply, replies tr = [(sessionId, ⟨.groupUserListResponse, reply⟩)] ∧
      (reply.body.result = 0 ↔ GroupFound w.db.groups request.body.groupId) ∧
      (reply.body.result = 0 →
        reply.body.userList = reportedUsers w.db.groups request.body.groupId) := by
  simp only [groupUserListRequestHandler, runs_bind] at h
  obtain ⟨tr₁, found, w₁, tr₂, hinfo, hrest, rfl⟩ := h
  obtain ⟨rfl, hquiet, hfound⟩ := getGroupInfo_byId hinfo
  cases found with
  | none =>
    obtain ⟨-, rfl⟩ := runs_issue.mp hrest
    have hresult : (1 : UInt32) ≠ 0 := by decide
    refine ⟨_, by rw [replies_append, hquiet]; rfl, ?_, fun hzero => absurd hzero hresult⟩
    exact iff_of_false hresult fun hthere => Bool.false_ne_true (hfound.mpr hthere)
  | some group =>
    have hthere : GroupFound w₁.db.groups request.body.groupId := hfound.mp rfl
    simp only [runs_bind] at hrest
    obtain ⟨tr₃, ⟨n, relations⟩, w₂, tr₄, hmembers, hsend, rfl⟩ := hrest
    have hrun : Runs ById w₁ (getGroupMembers request.body.groupId []) tr₃ (n, relations) w₂ := hmembers
    simp only [getGroupMembers, if_neg hthere.1, runs_bind, runs_issue] at hrun
    obtain ⟨_, _, w₃, _, ⟨⟨rfl, rfl⟩, rfl⟩, hrun, rfl⟩ := hrun
    obtain ⟨rfl, heq, rfl⟩ := runs_pure.mp hrun
    obtain ⟨-, rfl⟩ := runs_issue.mp hsend
    refine ⟨_, by rw [replies_append, hquiet]; rfl, iff_of_true rfl hthere, fun _ => ?_⟩
    rw [(Prod.mk.inj heq).2]
    simp only [List.nil_append, List.map_map, Option.getD_some]
    rfl

/-- A request about a group is answered in every world. -/
theorem exists_groupUserList (w : World) (g : UInt32) : ∃ sessionId request tr w',
    request.body.groupId = g ∧
      Runs ById w (groupUserListRequestHandler zAresModelModule default sessionId request) tr () w' :=
  ⟨0, ⟨⟨[], 0⟩, ⟨0, g⟩⟩, _, _, rfl, Prog.exec_runs respondById_byId _ w⟩

/-- What the batch query has for each of the groups. -/
def filedMembers (t : GroupTables) (groupIds : List UInt32) : Map (List GroupRelationInfo) :=
  (((t.activeIn (groupIds.map uintToString)).take 10000).map relationInfo).foldl
    (fun m relation => m.insert relation.groupId (m.getD relation.groupId [] ++ [relation])) ∅

/-- The members that the batch query attaches to a group. -/
def attachedUsers (t : GroupTables) (groupIds : List UInt32) (g : UInt32) : List UInt32 :=
  readUsers (((t.activeIn (groupIds.map uintToString)).take 10000).filter fun r =>
    decide (r.groupId = uintToString g))

/-- They are read from the rows of its number: among the listed numbers, no other is read as its id. -/
theorem filedMembers_getD {groupIds : List UInt32} (g : UInt32) :
    ((filedMembers t groupIds).getD g []).map (·.userId) = attachedUsers t groupIds g := by
  have hrows : ∀ r ∈ (t.activeIn (groupIds.map uintToString)).take 10000,
      decide ((relationInfo r).groupId = g) = decide (r.groupId = uintToString g) := by
    intro r hr
    obtain ⟨-, hlisted, -⟩ := GroupTables.mem_activeIn.mp (List.mem_of_mem_take hr)
    obtain ⟨g', -, hprinted⟩ := List.mem_map.mp hlisted
    apply decide_eq_decide.mpr
    show getColumn r.groupId = g ↔ r.groupId = uintToString g
    rw [← hprinted, getColumn_uintToString, uintToString_inj]
  rw [filedMembers, getD_filed, Std.TreeMap.getD_emptyc, List.nil_append, List.filter_map,
    List.map_map]
  exact congrArg readUsers (List.filter_congr hrows)

/-- The records of a list, with the members attached. -/
def listedGroups (t : GroupTables) (rows : List GroupRow) : List GroupInfo :=
  addGroupMembers (filedMembers t (packetIds rows)) (rows.map (parseFromDatabase .new))

/-- The record of each row has the members of its group. -/
theorem mem_listedGroups {rows : List GroupRow} {group : GroupInfo} :
    group ∈ listedGroups t rows ↔ ∃ row ∈ rows, group =
      { parseFromDatabase .new row with
        groupMemeberList := attachedUsers t (packetIds rows) (getColumn row.groupId) } := by
  rw [listedGroups, addGroupMembers, List.map_map, List.mem_map]
  apply exists_congr
  intro row
  apply and_congr_right
  intro _
  rw [← filedMembers_getD, Std.TreeMap.getD_eq_getD_getElem?, eq_comm]
  have hid : (parseFromDatabase .new row).groupId = getColumn row.groupId := rfl
  simp only [Function.comp_apply, hid]
  cases (filedMembers t (packetIds rows))[getColumn row.groupId]? with
  | none => exact Iff.rfl
  | some relations => exact Iff.rfl

/-- What a list handler asks about the members of its groups, and is answered. -/
def membersAsked (t : GroupTables) (rows : List GroupRow) : List Event :=
  if rows = [] then [] else
    [⟨.group (.selectMembersIn ((packetIds rows).map uintToString)),
      some ((t.activeIn ((packetIds rows).map uintToString)).take 10000)⟩]

theorem membersAsked_silent (t : GroupTables) (rows : List GroupRow) :
    replies (membersAsked t rows) = [] := by
  unfold membersAsked
  split
  · rfl
  · rfl

/-- Both list handlers go on with the groups in the same way. -/
theorem attach_runs (send : List GroupInfo → Server Unit) {rows : List GroupRow} :
    Runs ById w (if (rows.map (parseFromDatabase .new)).length > 0 then do
        let (_, groupRelationsMap) ←
          getGroupMembersIn ((rows.map (parseFromDatabase .new)).map (·.groupId)) ∅
        send (addGroupMembers groupRelationsMap (rows.map (parseFromDatabase .new)))
      else send (rows.map (parseFromDatabase .new))) tr () w' ↔
    ∃ tr', tr = membersAsked w.db.groups rows ++ tr' ∧
      Runs ById w (send (listedGroups w.db.groups rows)) tr' () w' := by
  have hids : (rows.map (parseFromDatabase .new)).map (·.groupId) = packetIds rows := by
    rw [List.map_map]
    rfl
  by_cases hempty : rows = []
  · subst hempty
    rw [membersAsked, if_pos rfl, if_neg (by simp)]
    constructor
    · intro h
      exact ⟨tr, rfl, h⟩
    · rintro ⟨tr', rfl, h⟩
      exact h
  · have hsome : (rows.map (parseFromDatabase .new)).length > 0 := by
      rw [List.length_map]
      exact List.length_pos_iff.mpr hempty
    have hlisted : packetIds rows ≠ [] := by simpa [packetIds] using hempty
    rw [membersAsked, if_neg hempty, if_pos hsome, hids]
    simp only [getGroupMembersIn, if_neg hlisted, runs_bind, runs_issue]
    constructor
    · rintro ⟨_, _, _, tr', ⟨_, _, _, _, ⟨⟨rfl, rfl⟩, rfl⟩, hfiled, rfl⟩, h, rfl⟩
      obtain ⟨rfl, rfl, rfl⟩ := runs_pure.mp hfiled
      exact ⟨tr', rfl, h⟩
    · rintro ⟨tr', rfl, h⟩
      exact ⟨_, _, w, tr', ⟨_, _, w, [], ⟨⟨rfl, rfl⟩, rfl⟩, runs_pure.mpr ⟨rfl, rfl, rfl⟩, rfl⟩, h, rfl⟩

/-- `GetGroupsByUserId` asks once for the fixed groups, and `GetRecentGroupsByUserId` for the recent
    ones; each parses the rows. -/
theorem getGroupsByUserId_byId {u : UInt32} (hu : u ≠ 0) {res : Nat × List GroupInfo} :
    Runs ById w (getGroupsByUserId u true []) tr res w' ↔
      w' = w ∧ ∃ rows, FixedGroups w.db.groups u rows ∧
        tr = [⟨.group (.selectGroupsOf (percentD u) true 200), some rows⟩] ∧
        res = ((rows.map (parseFromDatabase .new)).length, rows.map (parseFromDatabase .new)) := by
  simp only [getGroupsByUserId, if_neg hu, runs_bind, runs_issue]
  constructor
  · rintro ⟨_, _, _, _, ⟨⟨_, ⟨rfl, rel, rows, hrel, hrows, rfl⟩, rfl⟩, rfl⟩, hrun, rfl⟩
    obtain ⟨rfl, rfl, rfl⟩ := runs_pure.mp hrun
    exact ⟨rfl, rows, ⟨rel, hrel, hrows⟩, rfl, rfl⟩
  · rintro ⟨rfl, rows, ⟨rel, hrel, hrows⟩, rfl, rfl⟩
    exact ⟨_, some rows, w', [], ⟨⟨_, ⟨rfl, rel, rows, hrel, hrows, rfl⟩, rfl⟩, rfl⟩,
      runs_pure.mpr ⟨rfl, rfl, rfl⟩, rfl⟩

theorem getRecentGroupsByUserId_byId {u : UInt32} (hu : u ≠ 0) {res : Nat × List GroupInfo} :
    Runs ById w (getRecentGroupsByUserId u []) tr res w' ↔
      w' = w ∧ ∃ rows, RecentGroups w.db.groups u rows ∧
        tr = [⟨.group (.selectRecentGroups (percentD u)), some rows⟩] ∧
        res = ((rows.map (parseFromDatabase .new)).length, rows.map (parseFromDatabase .new)) := by
  simp only [getRecentGroupsByUserId, if_neg hu, runs_bind, runs_issue]
  constructor
  · rintro ⟨_, _, _, _, ⟨⟨_, ⟨rfl, rel, rows, hrel, hrows, rfl⟩, rfl⟩, rfl⟩, hrun, rfl⟩
    obtain ⟨rfl, rfl, rfl⟩ := runs_pure.mp hrun
    exact ⟨rfl, rows, ⟨rel, hrel, hrows⟩, rfl, rfl⟩
  · rintro ⟨rfl, rows, ⟨rel, hrel, hrows⟩, rfl, rfl⟩
    exact ⟨_, some rows, w', [], ⟨⟨_, ⟨rfl, rel, rows, hrel, hrows, rfl⟩, rfl⟩, rfl⟩,
      runs_pure.mpr ⟨rfl, rfl, rfl⟩, rfl⟩

/-- The response of `GroupListRequestHandler` with a list of groups. -/
def groupListReply (mem : Memory) (request : Pdu GroupListRequest) (groups : List GroupInfo) :
    Pdu GroupListResponse :=
  ((((Pdu.new (mem.pdu .groupListResponse)).setReserved request.reserved).set fun r =>
    { r with reqUserId := request.body.userId }).setAttachData request.attach).set fun r =>
    { r with groupList := groups }

/-- The response of `GroupDialogListRequestHandler` with a list of groups. -/
def groupDialogListReply (mem : Memory) (request : Pdu GroupDialogListRequest)
    (groups : List GroupInfo) : Pdu GroupDialogListResponse :=
  ((((Pdu.new (mem.pdu .groupDialogListResponse)).setReserved request.reserved).set fun r =>
    { r with reqUserId := request.body.userId }).setAttachData request.attach).set fun r =>
    { r with groupList := groups }

/-- A `GroupListResponse` has the records of the user's groups; for user 0 it has none. -/
theorem groupListRequestHandler_byId {mem : Memory} {sessionId : UInt64} {request : Pdu GroupListRequest}
    (h : Runs ById w (groupListRequestHandler zAresModelModule mem sessionId request) tr () w') :
    ∃ reply, replies tr = [(sessionId, ⟨.groupListResponse, reply⟩)] ∧
      (reply.body.groupList = [] ∨ ∃ rows, ListedGroups w.db.groups request.body.userId rows ∧
        reply.body.groupList = listedGroups w.db.groups rows) := by
  simp only [groupListRequestHandler, runs_bind] at h
  obtain ⟨tr₁, ⟨n, groups⟩, w₁, tr₂, hgroups, hrest, rfl⟩ := h
  have hrun : Runs ById w (getGroupsByUserId request.body.userId true []) tr₁ (n, groups) w₁ := hgroups
  by_cases hu : request.body.userId = 0
  · simp only [getGroupsByUserId, if_pos hu] at hrun
    obtain ⟨rfl, heq, rfl⟩ := runs_pure.mp hrun
    cases heq
    obtain ⟨-, rfl⟩ := runs_issue.mp hrest
    exact ⟨_, rfl, Or.inl rfl⟩
  · obtain ⟨rfl, rows, hrows, rfl, heq⟩ := (getGroupsByUserId_byId hu).mp hrun
    cases heq
    obtain ⟨tr', rfl, hsend⟩ := (attach_runs fun groups =>
      sendSessionData sessionId .groupListResponse (groupListReply mem request groups)).mp hrest
    obtain ⟨-, rfl⟩ := runs_issue.mp hsend
    refine ⟨groupListReply mem request (listedGroups w₁.db.groups rows), ?_,
      Or.inr ⟨rows, ⟨hu, Or.inl hrows⟩, rfl⟩⟩
    rw [replies_append, replies_append, membersAsked_silent]
    rfl

theorem groupDialogListRequestHandler_byId {mem : Memory} {sessionId : UInt64}
    {request : Pdu GroupDialogListRequest}
    (h : Runs ById w (groupDialogListRequestHandler zAresModelModule mem sessionId request) tr () w') :
    ∃ reply, replies tr = [(sessionId, ⟨.groupDialogListResponse, reply⟩)] ∧
      (reply.body.groupList = [] ∨ ∃ rows, ListedGroups w.db.groups request.body.userId rows ∧
        reply.body.groupList = listedGroups w.db.groups rows) := by
  unfold groupDialogListRequestHandler at h
  by_cases hu : request.body.userId > 0
  · simp only [if_pos hu, runs_bind] at h
    obtain ⟨tr₁, ⟨n, groups⟩, w₁, tr₂, hgroups, hrest, rfl⟩ := h
    have hne : request.body.userId ≠ 0 := UInt32.pos_iff_ne_zero.mp hu
    have hrun : Runs ById w (getRecentGroupsByUserId request.body.userId []) tr₁ (n, groups) w₁ :=
      hgroups
    obtain ⟨rfl, rows, hrows, rfl, heq⟩ := (getRecentGroupsByUserId_byId hne).mp hrun
    cases heq
    obtain ⟨tr', rfl, hsend⟩ := (attach_runs fun groups => sendSessionData sessionId
      .groupDialogListResponse (groupDialogListReply mem request groups)).mp hrest
    obtain ⟨-, rfl⟩ := runs_issue.mp hsend
    refine ⟨groupDialogListReply mem request (listedGroups w₁.db.groups rows), ?_,
      Or.inr ⟨rows, ⟨hne, Or.inr hrows⟩, rfl⟩⟩
    rw [replies_append, replies_append, membersAsked_silent]
    rfl
  · simp only [if_neg hu] at h
    obtain ⟨-, rfl⟩ := runs_issue.mp h
    exact ⟨_, rfl, Or.inl rfl⟩

/-- Whatever groups a list can have, a response has. -/
theorem FixedGroups.exists_response {u : UInt32} (hu : u ≠ 0) {rows : List GroupRow}
    (h : FixedGroups w.db.groups u rows) : ∃ request tr reply, request.body.userId = u ∧
      Runs ById w (groupListRequestHandler zAresModelModule default 0 request) tr () w ∧
      (0, ⟨.groupListResponse, reply⟩) ∈ replies tr ∧
      reply.body.groupList = listedGroups w.db.groups rows := by
  let request : Pdu GroupListRequest := ⟨⟨[], 0⟩, ⟨u⟩⟩
  let reply := groupListReply default request (listedGroups w.db.groups rows)
  have hsend : Runs ById w (sendSessionData 0 .groupListResponse reply)
      [⟨.sendSessionData 0 ⟨.groupListResponse, reply⟩, ()⟩] () w := runs_issue.mpr ⟨rfl, rfl⟩
  have hattach := (attach_runs fun groups =>
    sendSessionData 0 .groupListResponse (groupListReply default request groups)).mpr ⟨_, rfl, hsend⟩
  have hgroups := (getGroupsByUserId_byId hu).mpr ⟨rfl, rows, h, rfl, rfl⟩
  refine ⟨request, _, reply, rfl, runs_bind.mpr ⟨_, _, w, _, hgroups, hattach, rfl⟩, ?_, rfl⟩
  rw [replies_append, replies_append, membersAsked_silent]
  exact List.mem_singleton_self _

theorem RecentGroups.exists_response {u : UInt32} (hu : u ≠ 0) {rows : List GroupRow}
    (h : RecentGroups w.db.groups u rows) : ∃ request tr reply, request.body.userId = u ∧
      Runs ById w (groupDialogListRequestHandler zAresModelModule default 0 request) tr () w ∧
      (0, ⟨.groupDialogListResponse, reply⟩) ∈ replies tr ∧
      reply.body.groupList = listedGroups w.db.groups rows := by
  let request : Pdu GroupDialogListRequest := ⟨⟨[], 0⟩, ⟨u⟩⟩
  let reply := groupDialogListReply default request (listedGroups w.db.groups rows)
  have hsend : Runs ById w (sendSessionData 0 .groupDialogListResponse reply)
      [⟨.sendSessionData 0 ⟨.groupDialogListResponse, reply⟩, ()⟩] () w := runs_issue.mpr ⟨rfl, rfl⟩
  have hattach := (attach_runs fun groups => sendSessionData 0 .groupDialogListResponse
    (groupDialogListReply default request groups)).mpr ⟨_, rfl, hsend⟩
  have hgroups := (getRecentGroupsByUserId_byId hu).mpr ⟨rfl, rows, h, rfl, rfl⟩
  let asked : List Event := [⟨.group (.selectRecentGroups (percentD u)), some rows⟩]
  let sent : List Event := [⟨.sendSessionData 0 ⟨.groupDialogListResponse, reply⟩, ()⟩]
  refine ⟨request, asked ++ (membersAsked w.db.groups rows ++ sent), reply, rfl, ?_, ?_, rfl⟩
  · unfold groupDialogListRequestHandler
    rw [if_pos (UInt32.pos_iff_ne_zero.mpr hu)]
    exact runs_bind.mpr ⟨_, _, w, _, hgroups, hattach, rfl⟩
  · rw [replies_append, replies_append, membersAsked_silent]
    exact List.mem_singleton_self _

end Answers

/-! ## The two lists of one group -/

section Fit

variable {t : GroupTables} {w : World} {u : UInt32}

/-- A limit that the rows of a group keep to does nothing to them. -/
theorem reportedUsers_eq {g : UInt32}
    (hlimit : ∀ n, t.imGroupRelation.countP (RelationRow.isActive n) ≤ 10000) :
    reportedUsers t g = readUsers (t.activeIn [percentD g]) := by
  have hlen : (t.activeIn [percentD g]).length ≤ 10000 := by
    rw [(GroupTables.activeIn_selects t [percentD g]).1.length_eq, ← List.countP_eq_length_filter]
    refine le_trans (le_of_eq ?_) (hlimit (percentD g))
    apply List.countP_congr
    intro r _
    rw [decide_eq_true_iff, List.mem_singleton, RelationRow.isActive, decide_eq_true_iff]
  rw [reportedUsers, List.take_of_length_le hlen]

/-- A group has the same members in both lists if it fits, and not otherwise. -/
theorem attachedUsers_eq_iff {groupIds : List UInt32} {g : UInt32} (hg : g ∈ groupIds)
    (hlimit : ∀ n, t.imGroupRelation.countP (RelationRow.isActive n) ≤ 10000) :
    attachedUsers t groupIds g = reportedUsers t g ↔ MembersFit t groupIds g := by
  rw [reportedUsers_eq hlimit, MembersFit]
  by_cases hsmall : g.toNat < 2 ^ 31
  · have hprinted : percentD g = uintToString g := percentD_eq hsmall
    have hlisted : uintToString g ∈ groupIds.map uintToString := List.mem_map_of_mem hg
    rw [if_pos hsmall, hprinted, ← GroupTables.filter_activeIn hlisted, attachedUsers]
    generalize t.activeIn (groupIds.map uintToString) = rows
    -- the rows of the group are those within the limit and those beyond it
    have hsplit : rows.filter (fun r => decide (r.groupId = uintToString g)) =
        (rows.take 10000).filter (fun r => decide (r.groupId = uintToString g)) ++
          (rows.drop 10000).filter fun r => decide (r.groupId = uintToString g) := by
      rw [← List.filter_append, List.take_append_drop]
    rw [hsplit, readUsers, readUsers, List.map_append, List.self_eq_append_right, List.map_eq_nil_iff,
      List.filter_eq_nil_iff]
    apply forall₂_congr
    intro r _
    rw [decide_eq_true_iff]
  · rw [if_neg hsmall]
    rfl

/-- Both lists agree on every group that fits. -/
theorem MembersFit.membersMatch {rows : List GroupRow} {group : GroupInfo}
    (hlimit : ∀ n, w.db.groups.imGroupRelation.countP (RelationRow.isActive n) ≤ 10000)
    (hfit : ∀ row ∈ rows, GroupFound w.db.groups (getColumn row.groupId) →
      MembersFit w.db.groups (packetIds rows) (getColumn row.groupId))
    (hgroup : group ∈ listedGroups w.db.groups rows) : MembersMatch w group := by
  obtain ⟨row, hrow, rfl⟩ := mem_listedGroups.mp hgroup
  intro mem sessionId request tr w' reply hrequest hrun hreply hresult
  obtain ⟨reply', hreplies, hfound, husers⟩ := groupUserListRequestHandler_byId hrun
  obtain rfl : reply = reply' := reply_of_mem hreplies hreply
  have hid : request.body.groupId = getColumn row.groupId := hrequest
  rw [husers hresult, hid]
  have hthere : GroupFound w.db.groups (getColumn row.groupId) := hid ▸ hfound.mp hresult
  exact (attachedUsers_eq_iff (List.mem_map_of_mem hrow) hlimit).mpr (hfit row hrow hthere)

/-- Where the two lists agree on the groups of a list, these fit. -/
theorem MembersFit.of_match {rows : List GroupRow}
    (hlimit : ∀ n, w.db.groups.imGroupRelation.countP (RelationRow.isActive n) ≤ 10000)
    (hmatch : ∀ group ∈ listedGroups w.db.groups rows, MembersMatch w group) {row : GroupRow}
    (hrow : row ∈ rows) (hfound : GroupFound w.db.groups (getColumn row.groupId)) :
    MembersFit w.db.groups (packetIds rows) (getColumn row.groupId) := by
  obtain ⟨sessionId, request, tr, w', hrequest, hrun⟩ :=
    exists_groupUserList w (getColumn row.groupId)
  obtain ⟨reply, hreplies, hresult, husers⟩ := groupUserListRequestHandler_byId hrun
  rw [hrequest] at hresult husers
  have hmembers := hmatch _ (mem_listedGroups.mpr ⟨row, hrow, rfl⟩) _ _ _ _ _ reply hrequest hrun
    (by rw [hreplies]; exact List.mem_singleton_self _) (hresult.mpr hfound)
  rw [husers (hresult.mpr hfound)] at hmembers
  exact (attachedUsers_eq_iff (List.mem_map_of_mem hrow) hlimit).mp hmembers

/-- A response whose groups fit agrees. -/
theorem MembersFit.response {groups : List GroupInfo}
    (hlimit : ∀ n, w.db.groups.imGroupRelation.countP (RelationRow.isActive n) ≤ 10000)
    (hfit : ∀ rows, ListedGroups w.db.groups u rows → ∀ row ∈ rows,
      GroupFound w.db.groups (getColumn row.groupId) →
      MembersFit w.db.groups (packetIds rows) (getColumn row.groupId))
    (hgroups : groups = [] ∨ ∃ rows, ListedGroups w.db.groups u rows ∧
      groups = listedGroups w.db.groups rows) : ∀ group ∈ groups, MembersMatch w group := by
  intro group hgroup
  rcases hgroups with rfl | ⟨rows, hrows, rfl⟩
  · exact absurd hgroup List.not_mem_nil
  · exact MembersFit.membersMatch hlimit (hfit rows hrows) hgroup

theorem MembersAgree.fit
    (hlimit : ∀ n, w.db.groups.imGroupRelation.countP (RelationRow.isActive n) ≤ 10000)
    (h : MembersAgree w u) {rows : List GroupRow} (hrows : ListedGroups w.db.groups u rows)
    {row : GroupRow} (hrow : row ∈ rows) (hfound : GroupFound w.db.groups (getColumn row.groupId)) :
    MembersFit w.db.groups (packetIds rows) (getColumn row.groupId) := by
  obtain ⟨hu, hfixed | hrecent⟩ := hrows
  · obtain ⟨request, tr, reply, hrequest, hrun, hreply, hlist⟩ := hfixed.exists_response hu
    have hmatch := h.fixed _ _ request tr w reply hrequest hrun hreply
    rw [hlist] at hmatch
    exact MembersFit.of_match hlimit hmatch hrow hfound
  · obtain ⟨request, tr, reply, hrequest, hrun, hreply, hlist⟩ := hrecent.exists_response hu
    have hmatch := h.recent _ _ request tr w reply hrequest hrun hreply
    rw [hlist] at hmatch
    exact MembersFit.of_match hlimit hmatch hrow hfound

/-- **Two member lists.**  Where no group has more than 10000 active members, the lists of a user's groups
    and the list of one group name the same members exactly if all groups that are found fit: their
    active rows are among the first 10000 of all the groups in the list. -/
theorem membersAgree_iff (w : World) (u : UInt32)
    (hlimit : ∀ n, w.db.groups.imGroupRelation.countP (RelationRow.isActive n) ≤ 10000) :
    MembersAgree w u ↔ ∀ rows, ListedGroups w.db.groups u rows → ∀ row ∈ rows,
      GroupFound w.db.groups (getColumn row.groupId) →
      MembersFit w.db.groups (packetIds rows) (getColumn row.groupId) := by
  constructor
  · intro hagree rows hrows row hrow hfound
    exact hagree.fit hlimit hrows hrow hfound
  · intro hfit
    constructor
    · intro mem sessionId request tr w' reply hrequest hrun hreply
      obtain ⟨reply', hreplies, hlist⟩ := groupListRequestHandler_byId hrun
      obtain rfl : reply = reply' := reply_of_mem hreplies hreply
      exact MembersFit.response hlimit hfit (hrequest ▸ hlist)
    · intro mem sessionId request tr w' reply hrequest hrun hreply
      obtain ⟨reply', hreplies, hlist⟩ := groupDialogListRequestHandler_byId hrun
      obtain rfl : reply = reply' := reply_of_mem hreplies hreply
      exact MembersFit.response hlimit hfit (hrequest ▸ hlist)

end Fit

/-! ## A crowd -/

/-- Group 1 with the users from 2 on. -/
def crowd (n : Nat) : List RelationRow :=
  (List.range n).map fun i : Nat => ⟨i + 1, 1, i + 2, 0, 1, 1, 0, 0⟩

/-- User 1 in group 1, as long as the others, and in group 2, which is newer. -/
def oldMembership : RelationRow := ⟨10000, 1, 1, 0, 1, 1, 0, 0⟩

def newMembership : RelationRow := ⟨10001, 2, 1, 0, 1, 1, 1, 1⟩

/-- Two groups; the first one is full. -/
def crowdedWorld : World := emptyWorld.setGroups
  { imGroup := [⟨1, [], [], [], 1, 1, 0, 1, 0, 0⟩, ⟨2, [], [], [], 1, 1, 0, 1, 1, 1⟩]
    imGroupRelation := (crowd 9999 ++ [oldMembership]) ++ [newMembership] }

theorem mem_crowd {n : Nat} {r : RelationRow} (hr : r ∈ crowd n) :
    ∃ i : Nat, i < n ∧ r = ⟨i + 1, 1, i + 2, 0, 1, 1, 0, 0⟩ := by
  obtain ⟨i, hi, rfl⟩ := List.mem_map.mp hr
  exact ⟨i, List.mem_range.mp hi, rfl⟩

theorem length_crowd : (crowd 9999 ++ [oldMembership]).length = 10000 := by
  rw [List.length_append, crowd, List.length_map, List.length_range]
  rfl

theorem crowdedWorld_limit (n : Int) :
    crowdedWorld.db.groups.imGroupRelation.countP (RelationRow.isActive n) ≤ 10000 := by
  show ((crowd 9999 ++ [oldMembership]) ++ [newMembership]).countP _ ≤ 10000
  rw [List.countP_append]
  by_cases htwo : n = 2
  · subst htwo
    have hnone : (crowd 9999 ++ [oldMembership]).countP (RelationRow.isActive 2) = 0 := by
      rw [List.countP_eq_zero]
      intro r hr
      rcases List.mem_append.mp hr with hr | hr
      · obtain ⟨i, -, rfl⟩ := mem_crowd hr
        simp [RelationRow.isActive]
      · obtain rfl := List.mem_singleton.mp hr
        decide
    have hone : [newMembership].countP (RelationRow.isActive 2) = 1 := by decide
    omega
  · have hle : (crowd 9999 ++ [oldMembership]).countP (RelationRow.isActive n) ≤ 10000 :=
      length_crowd ▸ List.countP_le_length
    have hnone : [newMembership].countP (RelationRow.isActive n) = 0 := by
      rw [List.countP_eq_zero]
      intro r hr
      obtain rfl := List.mem_singleton.mp hr
      simp [RelationRow.isActive, newMembership, Ne.symm htwo]
    omega

/-- All rows are active, and the table is in the order of the batch query. -/
theorem crowdedWorld_activeIn : crowdedWorld.db.groups.activeIn [1, 2] =
    (crowd 9999 ++ [oldMembership]) ++ [newMembership] := by
  apply Table.select_eq_self
  · intro r hr
    rcases List.mem_append.mp hr with hr | hr
    · rcases List.mem_append.mp hr with hr | hr
      · obtain ⟨i, -, rfl⟩ := mem_crowd hr
        simp
      · obtain rfl := List.mem_singleton.mp hr
        decide
    · obtain rfl := List.mem_singleton.mp hr
      decide
  · show ((crowd 9999 ++ [oldMembership]) ++ [newMembership]).Pairwise _
    refine List.pairwise_append.mpr ⟨List.pairwise_append.mpr ⟨?_, List.pairwise_singleton _ _, ?_⟩,
      List.pairwise_singleton _ _, ?_⟩
    · apply List.pairwise_map.mpr
      apply List.pairwise_lt_range.imp
      intro i j hij
      refine Prod.Lex.le_iff.mpr (Or.inr ⟨rfl, ?_⟩)
      show (i : Int) + 1 ≤ j + 1
      omega
    · intro r hr r' hr'
      obtain ⟨i, hi, rfl⟩ := mem_crowd hr
      obtain rfl := List.mem_singleton.mp hr'
      refine Prod.Lex.le_iff.mpr (Or.inr ⟨rfl, ?_⟩)
      show (i : Int) + 1 ≤ 10000
      omega
    · intro r hr r' hr'
      obtain rfl := List.mem_singleton.mp hr'
      refine Prod.Lex.le_iff.mpr (Or.inl ?_)
      rcases List.mem_append.mp hr with hr | hr
      · obtain ⟨i, hi, rfl⟩ := mem_crowd hr
        exact Int.zero_lt_one
      · obtain rfl := List.mem_singleton.mp hr
        exact Int.zero_lt_one

/-- User 1 has both groups in his list. -/
theorem crowdedWorld_listed :
    ListedGroups crowdedWorld.db.groups 1 crowdedWorld.db.groups.imGroup := by
  refine ⟨by decide, Or.inl ⟨[newMembership, oldMembership],
    ⟨[newMembership, oldMembership], ⟨?_, ?_⟩, rfl⟩, ?_⟩⟩
  · show [newMembership, oldMembership].Perm
      (((crowd 9999 ++ [oldMembership]) ++ [newMembership]).filter
        (GroupStmt.isMembershipOf (percentD 1) true))
    have hcrowd : (crowd 9999).filter (GroupStmt.isMembershipOf (percentD 1) true) = [] := by
      rw [List.filter_eq_nil_iff]
      intro r hr
      obtain ⟨i, -, rfl⟩ := mem_crowd hr
      have hone : percentD 1 = 1 := by decide
      rw [GroupStmt.isMembershipOf, decide_eq_true_iff, hone]
      rintro ⟨huser, -⟩
      simp only at huser
      omega
    rw [List.filter_append, List.filter_append, hcrowd]
    decide
  · decide
  · exact ⟨by decide, List.pairwise_of_forall fun _ _ => le_refl ()⟩

theorem not_forall_membersAgree : ¬∀ (w : World) (u : UInt32),
    (w.db.groups.imGroup.map (·.groupId)).Nodup →
    (∀ n, w.db.groups.imGroupRelation.countP (RelationRow.isActive n) ≤ 10000) →
    MembersAgree w u := by
  intro hall
  have hagree := hall crowdedWorld 1 (by decide) crowdedWorld_limit
  have hrow : (⟨2, [], [], [], 1, 1, 0, 1, 1, 1⟩ : GroupRow) ∈ crowdedWorld.db.groups.imGroup := by
    decide
  have hfit := hagree.fit crowdedWorld_limit crowdedWorld_listed hrow
    ⟨by decide, _, hrow, by decide, by decide⟩
  -- 10000 rows are before the newest one
  have hids : (packetIds crowdedWorld.db.groups.imGroup).map uintToString = [1, 2] := by decide
  rw [MembersFit, if_pos (by decide), hids, crowdedWorld_activeIn, List.drop_left' length_crowd] at hfit
  exact hfit newMembership (List.mem_singleton_self _) (by decide)

/-- User 1 alone in group 1. -/
def oneMember : World := emptyWorld.setGroups
  { imGroup := [⟨1, [], [], [], 1, 1, 0, 1, 0, 0⟩], imGroupRelation := [⟨1, 1, 1, 0, 1, 1, 0, 0⟩] }

theorem membersAgree_oneMember : MembersAgree oneMember 1 := by
  have hlimit : ∀ n, oneMember.db.groups.imGroupRelation.countP (RelationRow.isActive n) ≤ 10000 := by
    intro n
    exact List.countP_le_length.trans (by decide)
  refine (membersAgree_iff oneMember 1 hlimit).mpr ?_
  rintro rows ⟨-, ⟨rel, -, hrows⟩ | ⟨rel, -, hrows⟩⟩ row hrow -
  all_goals
    obtain rfl := List.mem_singleton.mp ((hrows.mem_iff row).mp hrow).1
    have hlen : (oneMember.db.groups.activeIn ((packetIds rows).map uintToString)).length ≤ 10000 := by
      rw [(GroupTables.activeIn_selects _ _).1.length_eq]
      exact (List.length_filter_le _ _).trans (by decide)
    rw [MembersFit, if_pos (by decide), List.drop_eq_nil_of_le hlen]
    intro r hr
    exact absurd hr List.not_mem_nil

end Zattd
