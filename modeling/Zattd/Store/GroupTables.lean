/-
  The tables `IMGroup` and `IMGroupRelation` and the server's statements on them.

  A group has one row in `IMGroup`, with the number of its members in `memberCnt`, and its members
  are the rows of `IMGroupRelation` with its `groupId` and a `status` of at least 1.  Nothing keeps
  the two in step but the program, and nothing keeps a user from having several rows in a group.
-/
import Zattd.Store.Sql

set_option linter.unusedVariables false

namespace Zattd

/-- A row of `IMGroup`. -/
structure GroupRow where
  groupId : Int
  groupName : Bytes
  avatar : Bytes
  adesc : Bytes
  createUserId : Int
  groupType : Int
  memberCnt : Int
  status : Int
  created : Int
  updated : Int
  deriving DecidableEq

/-- The columns an INSERT into `IMGroup` gives. -/
structure GroupValues where
  groupName : Bytes
  avatar : Bytes
  adesc : Bytes
  createUserId : Int
  groupType : Int
  memberCnt : Int
  created : Int
  updated : Int

/-- The key comes from the server, and `status` from the column's default. -/
def GroupValues.row (v : GroupValues) (groupId : Int) : GroupRow where
  groupId := groupId
  groupName := v.groupName
  avatar := v.avatar
  adesc := v.adesc
  createUserId := v.createUserId
  groupType := v.groupType
  memberCnt := v.memberCnt
  status := 1
  created := v.created
  updated := v.updated

/-- A row of `IMGroupRelation`. -/
structure RelationRow where
  id : Int
  groupId : Int
  userId : Int
  title : Int
  groupType : Int
  status : Int
  created : Int
  updated : Int
  deriving DecidableEq

/-- The columns an INSERT into `IMGroupRelation` gives. -/
structure RelationValues where
  groupId : Int
  userId : Int
  title : Int
  groupType : Int
  created : Int
  updated : Int

/-- The key comes from the server, and `status` from the column's default. -/
def RelationValues.row (v : RelationValues) (id : Int) : RelationRow where
  id := id
  groupId := v.groupId
  userId := v.userId
  title := v.title
  groupType := v.groupType
  status := 1
  created := v.created
  updated := v.updated

/-- The two tables. -/
structure GroupTables where
  imGroup : List GroupRow
  imGroupRelation : List RelationRow

/-- The row is one of a listed user in the group. -/
def RelationRow.isIn (groupId : Int) (userIds : List Int) (r : RelationRow) : Bool :=
  decide (r.groupId = groupId ∧ r.userId ∈ userIds)

@[simp] theorem RelationRow.isIn_iff {groupId : Int} {userIds : List Int} {r : RelationRow} :
    r.isIn groupId userIds = true ↔ r.groupId = groupId ∧ r.userId ∈ userIds :=
  decide_eq_true_iff

/-- The statements on the two tables. -/
inductive GroupStmt
  /-- `SELECT groupId,groupName,avatar,createUserId,groupType,updated FROM IMGroup WHERE groupId IN
      (SELECT groupId FROM (SELECT groupId FROM IMGroupRelation WHERE userId=%d AND status>=1 %s
      ORDER BY created DESC, id DESC LIMIT %d) AS tp)`, where `%s` is empty or
      ` AND groupType = 1 ` -/
  | selectGroupsOf (userId : Int) (isFixedGroup : Bool) (limit : Nat)
  /-- The same for `groupId` alone. -/
  | selectGroupIdsOf (userId : Int) (isFixedGroup : Bool) (limit : Nat)
  /-- `SELECT groupId,userId FROM IMGroupRelation WHERE groupId in (%s) AND status >= 1
      ORDER BY created ASC LIMIT 10000` -/
  | selectMembersIn (groupIds : List Int)
  /-- `SELECT groupId,userId FROM IMGroupRelation WHERE groupId=%d AND status >= 1
      ORDER BY created ASC LIMIT 10000` -/
  | selectMembers (groupId : Int)
  /-- `SELECT groupId,groupName,avatar,createUserId,groupType,updated FROM IMGroup WHERE groupId=%d
      AND status>=1` -/
  | selectGroup (groupId : Int)
  /-- `SELECT groupId,groupName,avatar,createUserId,groupType,updated FROM IMGroup WHERE groupId IN
      (SELECT groupId FROM (SELECT groupId FROM IMGroupRelation WHERE userId=%d AND status=1
      ORDER BY updated DESC, id DESC LIMIT 100) AS tp)` -/
  | selectRecentGroups (userId : Int)
  /-- ``INSERT INTO IMGroup(`groupName`,`avatar`,`adesc`,`createUserId`,`groupType`,`memberCnt`,
      `created`,`updated`) VALUES(:1,:2,:3,:4,:5,0,:7,:8)`` -/
  | insertGroup (values : GroupValues)
  /-- `SELECT status,userId FROM IMGroupRelation WHERE groupId = %d AND userId IN (%s)
      GROUP BY userId ORDER BY id` -/
  | selectStatuses (groupId : Int) (userIds : List Int)
  /-- ``INSERT INTO IMGroupRelation(`groupId`, `userId`, `title`, `groupType`, `created`, `updated`)
      VALUES …`` -/
  | insertRelations (rows : List RelationValues)
  /-- `UPDATE IMGroupRelation SET status = 1 WHERE groupId = %d AND userId IN (%s)` -/
  | updateActivate (groupId : Int) (userIds : List Int)
  /-- `UPDATE IMGroup SET memberCnt = memberCnt + %d WHERE groupId = %d LIMIT 1` -/
  | updateMemberCntAdd (n groupId : Int)
  /-- `UPDATE IMGroupRelation SET status = 0, updated=%d  WHERE groupId = %d AND userId IN (%s)` -/
  | updateDeactivate (updated groupId : Int) (userIds : List Int)
  /-- `UPDATE IMGroup SET memberCnt = memberCnt - %d, updated = %d WHERE groupId = %d LIMIT 1` -/
  | updateMemberCntSub (n updated groupId : Int)

namespace GroupStmt

/-- Rows or NULL; the number of rows changed or inserted; the key of the row inserted. -/
abbrev Answer : GroupStmt → Type
  | selectGroupsOf _ _ _ | selectGroupIdsOf _ _ _ | selectGroup _ | selectRecentGroups _ =>
      Option (List GroupRow)
  | selectMembersIn _ | selectMembers _ | selectStatuses _ _ => Option (List RelationRow)
  | insertRelations _ | updateActivate _ _ | updateDeactivate _ _ _ => Int
  | updateMemberCntAdd _ _ | updateMemberCntSub _ _ _ => Int
  | insertGroup _ => UInt64

/-- The condition of the inner query for a user's groups. -/
def isMembershipOf (userId : Int) (isFixedGroup : Bool) (r : RelationRow) : Bool :=
  decide (r.userId = userId ∧ 1 ≤ r.status ∧ (isFixedGroup = true → r.groupType = 1))

/-- The outer query over the groups that the inner one found. -/
def GroupsAmong (t : GroupTables) (rel : List RelationRow) (rows : List GroupRow) : Prop :=
  Table.Selects (fun g => decide (g.groupId ∈ rel.map (·.groupId))) (fun _ => ()) t.imGroup rows

/-- `Ok t s a t'`: on the tables `t`, statement `s` succeeds with the answer `a` and leaves `t'`. -/
def Ok (t : GroupTables) : (s : GroupStmt) → s.Answer → GroupTables → Prop
  | selectGroupsOf userId isFixedGroup limit, a, t' => t' = t ∧
      ∃ rel rows, Table.SelectsLimit (isMembershipOf userId isFixedGroup)
        (fun r => toLex (-r.created, -r.id)) 0 limit t.imGroupRelation rel ∧
        GroupsAmong t rel rows ∧ a = some rows
  | selectGroupIdsOf userId isFixedGroup limit, a, t' => t' = t ∧
      ∃ rel rows, Table.SelectsLimit (isMembershipOf userId isFixedGroup)
        (fun r => toLex (-r.created, -r.id)) 0 limit t.imGroupRelation rel ∧
        GroupsAmong t rel rows ∧ a = some rows
  | selectMembersIn groupIds, a, t' => t' = t ∧
      ∃ rows, Table.SelectsLimit (fun r => decide (r.groupId ∈ groupIds ∧ 1 ≤ r.status))
        (·.created) 0 10000 t.imGroupRelation rows ∧ a = some rows
  | selectMembers groupId, a, t' => t' = t ∧
      ∃ rows, Table.SelectsLimit (fun r => decide (r.groupId = groupId ∧ 1 ≤ r.status))
        (·.created) 0 10000 t.imGroupRelation rows ∧ a = some rows
  | selectGroup groupId, a, t' => t' = t ∧
      ∃ rows, Table.Selects (fun g => decide (g.groupId = groupId ∧ 1 ≤ g.status)) (fun _ => ())
        t.imGroup rows ∧ a = some rows
  | selectRecentGroups userId, a, t' => t' = t ∧
      ∃ rel rows, Table.SelectsLimit (fun r => decide (r.userId = userId ∧ r.status = 1))
        (fun r => toLex (-r.updated, -r.id)) 0 100 t.imGroupRelation rel ∧
        GroupsAmong t rel rows ∧ a = some rows
  | insertGroup values, a, t' =>
      ∃ key, Table.Inserts (·.groupId) [values.row] t.imGroup [key] t'.imGroup ∧
        t'.imGroupRelation = t.imGroupRelation ∧ a = UInt64.ofInt key
  | selectStatuses groupId userIds, a, t' => t' = t ∧
      ∃ rows, Table.SelectsOneEach (RelationRow.isIn groupId userIds) (·.userId)
        t.imGroupRelation rows ∧ a = some rows
  | insertRelations rows, a, t' => t'.imGroup = t.imGroup ∧
      ∃ keys, Table.Inserts (·.id) (rows.map RelationValues.row) t.imGroupRelation keys
        t'.imGroupRelation ∧ a = (rows.length : Int)
  | updateActivate groupId userIds, a, t' => t'.imGroup = t.imGroup ∧
      t'.imGroupRelation = Table.updateAll (RelationRow.isIn groupId userIds)
        (fun r => { r with status := 1 }) t.imGroupRelation ∧
      a = (Table.changed (RelationRow.isIn groupId userIds) (fun r => { r with status := 1 })
        t.imGroupRelation : Int)
  | updateMemberCntAdd n groupId, a, t' => t'.imGroupRelation = t.imGroupRelation ∧
      ∃ k, Table.UpdatesLimit (fun g => decide (g.groupId = groupId))
        (fun g => { g with memberCnt := g.memberCnt + n }) 1 t.imGroup k t'.imGroup ∧ a = (k : Int)
  | updateDeactivate updated groupId userIds, a, t' => t'.imGroup = t.imGroup ∧
      t'.imGroupRelation = Table.updateAll (RelationRow.isIn groupId userIds)
        (fun r => { r with status := 0, updated := updated }) t.imGroupRelation ∧
      a = (Table.changed (RelationRow.isIn groupId userIds)
        (fun r => { r with status := 0, updated := updated }) t.imGroupRelation : Int)
  | updateMemberCntSub n updated groupId, a, t' => t'.imGroupRelation = t.imGroupRelation ∧
      ∃ k, Table.UpdatesLimit (fun g => decide (g.groupId = groupId))
        (fun g => { g with memberCnt := g.memberCnt - n, updated := updated }) 1 t.imGroup k
        t'.imGroup ∧ a = (k : Int)

/-- What a statement that fails may answer; it leaves the tables as they are. -/
def Fail : (s : GroupStmt) → s.Answer → Prop
  | selectGroupsOf _ _ _, a | selectGroupIdsOf _ _ _, a | selectGroup _, a
  | selectRecentGroups _, a => QueryFails a
  | selectMembersIn _, a | selectMembers _, a | selectStatuses _ _, a => QueryFails a
  | insertRelations _, a | updateActivate _ _, a | updateDeactivate _ _ _, a => ExecuteFails a
  | updateMemberCntAdd _ _, a | updateMemberCntSub _ _ _, a => ExecuteFails a
  | insertGroup _, a => InsertIdFails a

/-- The groups of the relations `rel`, in table order. -/
def groupsAmong (t : GroupTables) (rel : List RelationRow) : List GroupRow :=
  Table.select (fun g => decide (g.groupId ∈ rel.map (·.groupId))) (fun _ => ()) t.imGroup

/-- The memberships of a user, the latest first. -/
def membershipsOf (t : GroupTables) (userId : Int) (isFixedGroup : Bool) (limit : Nat) :
    List RelationRow :=
  (Table.select (isMembershipOf userId isFixedGroup) (fun r => toLex (-r.created, -r.id))
    t.imGroupRelation).take limit

/-- One way to succeed. -/
def respond (t : GroupTables) : (s : GroupStmt) → s.Answer × GroupTables
  | selectGroupsOf userId isFixedGroup limit =>
      (some (groupsAmong t (membershipsOf t userId isFixedGroup limit)), t)
  | selectGroupIdsOf userId isFixedGroup limit =>
      (some (groupsAmong t (membershipsOf t userId isFixedGroup limit)), t)
  | selectMembersIn groupIds =>
      (some ((Table.select (fun r => decide (r.groupId ∈ groupIds ∧ 1 ≤ r.status)) (·.created)
        t.imGroupRelation).take 10000), t)
  | selectMembers groupId =>
      (some ((Table.select (fun r => decide (r.groupId = groupId ∧ 1 ≤ r.status)) (·.created)
        t.imGroupRelation).take 10000), t)
  | selectGroup groupId =>
      (some (Table.select (fun g => decide (g.groupId = groupId ∧ 1 ≤ g.status)) (fun _ => ())
        t.imGroup), t)
  | selectRecentGroups userId =>
      (some (groupsAmong t ((Table.select (fun r => decide (r.userId = userId ∧ r.status = 1))
        (fun r => toLex (-r.updated, -r.id)) t.imGroupRelation).take 100)), t)
  | insertGroup values =>
      (UInt64.ofInt (Table.nextKey (·.groupId) t.imGroup),
        { t with imGroup := t.imGroup ++ [values.row (Table.nextKey (·.groupId) t.imGroup)] })
  | selectStatuses groupId userIds =>
      (some (Table.selectOneEach (RelationRow.isIn groupId userIds) (·.userId) t.imGroupRelation), t)
  | insertRelations rows =>
      ((rows.length : Int), { t with
        imGroupRelation := Table.insert (·.id) (rows.map RelationValues.row) t.imGroupRelation })
  | updateActivate groupId userIds =>
      ((Table.changed (RelationRow.isIn groupId userIds) (fun r => { r with status := 1 })
        t.imGroupRelation : Int), { t with
          imGroupRelation := Table.updateAll (RelationRow.isIn groupId userIds)
            (fun r => { r with status := 1 }) t.imGroupRelation })
  | updateMemberCntAdd n groupId =>
      let res := Table.updateFirst (fun g => decide (g.groupId = groupId))
        (fun g => { g with memberCnt := g.memberCnt + n }) 1 t.imGroup
      ((res.1 : Int), { t with imGroup := res.2 })
  | updateDeactivate updated groupId userIds =>
      ((Table.changed (RelationRow.isIn groupId userIds)
        (fun r => { r with status := 0, updated := updated }) t.imGroupRelation : Int), { t with
          imGroupRelation := Table.updateAll (RelationRow.isIn groupId userIds)
            (fun r => { r with status := 0, updated := updated }) t.imGroupRelation })
  | updateMemberCntSub n updated groupId =>
      let res := Table.updateFirst (fun g => decide (g.groupId = groupId))
        (fun g => { g with memberCnt := g.memberCnt - n, updated := updated }) 1 t.imGroup
      ((res.1 : Int), { t with imGroup := res.2 })

/-- The memberships of a user, the latest first, are an answer to the query for them. -/
theorem membershipsOf_selects (t : GroupTables) (userId : Int) (isFixedGroup : Bool) (limit : Nat) :
    Table.SelectsLimit (isMembershipOf userId isFixedGroup) (fun r => toLex (-r.created, -r.id)) 0
      limit t.imGroupRelation (membershipsOf t userId isFixedGroup limit) :=
  ⟨_, Table.select_selects _ _ _, rfl⟩

/-- The answer of the reference database is one that the statement may have. -/
theorem respond_ok (t : GroupTables) (s : GroupStmt) : Ok t s (respond t s).1 (respond t s).2 := by
  cases s with
  | selectGroupsOf userId isFixedGroup limit =>
    exact ⟨rfl, _, _, membershipsOf_selects _ _ _ _, Table.select_selects _ _ _, rfl⟩
  | selectGroupIdsOf userId isFixedGroup limit =>
    exact ⟨rfl, _, _, membershipsOf_selects _ _ _ _, Table.select_selects _ _ _, rfl⟩
  | selectMembersIn groupIds => exact ⟨rfl, _, ⟨_, Table.select_selects _ _ _, rfl⟩, rfl⟩
  | selectMembers groupId => exact ⟨rfl, _, ⟨_, Table.select_selects _ _ _, rfl⟩, rfl⟩
  | selectGroup groupId => exact ⟨rfl, _, Table.select_selects _ _ _, rfl⟩
  | selectRecentGroups userId =>
    exact ⟨rfl, _, _, ⟨_, Table.select_selects _ _ _, rfl⟩, Table.select_selects _ _ _, rfl⟩
  | insertGroup values =>
    refine ⟨_, ⟨rfl, List.nodup_singleton _, ?_, rfl⟩, rfl, rfl⟩
    intro k hk
    obtain rfl := List.mem_singleton.mp hk
    exact ⟨Table.nextKey_pos _ _, fun r hr => (Table.lt_nextKey _ hr).ne⟩
  | selectStatuses groupId userIds => exact ⟨rfl, _, Table.selectOneEach_selects _ _ _, rfl⟩
  | insertRelations rows =>
    exact ⟨rfl, _, Table.insert_inserts _ _ _, rfl⟩
  | updateActivate groupId userIds => exact ⟨rfl, rfl, rfl⟩
  | updateMemberCntAdd n groupId => exact ⟨rfl, _, Table.updateFirst_updates _ _ _ _, rfl⟩
  | updateDeactivate updated groupId userIds => exact ⟨rfl, rfl, rfl⟩
  | updateMemberCntSub n updated groupId => exact ⟨rfl, _, Table.updateFirst_updates _ _ _ _, rfl⟩

end GroupStmt

end Zattd
