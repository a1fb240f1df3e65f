/-
  Are the group writes ALL OR NOTHING when statements fail?

  `JoinGroup` and `QuitGroup` look at no outcome: they return `true` once their guards are passed.  A
  failed query is read as a group without the listed users, a failed INSERT or UPDATE adds its
  negative answer to `memberCnt`, and a failed UPDATE of `memberCnt` leaves the count behind.
  `CreateGroup` with an empty list of members makes the group and then returns `false`.

  Which statements of a call fail, and which row the database picks for a user who has several, is
  `Outcomes`; a call issues each kind of statement at most once.  The id of a new group is a 64-bit
  number, of which `JoinGroup` is given 32 bits, that are printed with a sign.
-/
import Zattd.Correct.MemberCnt

set_option linter.unusedVariables false

namespace Zattd

open Prog ZAresGroupManagerImpl

/-! ## Outcomes -/

/-- An AUTO_INCREMENT key that a row can get, and `mysql_insert_id` can report. -/
structure NewKey where
  val : Int
  pos : 0 < val
  lt : val < 2 ^ 64

/-- What `CreateGroup` takes for the id of the new group. -/
def NewKey.groupId (key : NewKey) : UInt32 := (UInt64.ofInt key.val).toUInt32

/-- The outcomes of the statements of one call: for the INSERT of a group its key, or none if it
    fails; for the query its rows, or none if it fails; for the others whether they succeed. -/
structure Outcomes where
  newKey : Option NewKey
  statuses : Option (List RelationRow)
  inserts : Bool
  updates : Bool
  counts : Bool

/-- A failed `Execute` answers a negative number, and changes nothing. -/
def ExecuteFailed (t : GroupTables) (a : Int) (t' : GroupTables) : Prop := a < 0 ∧ t' = t

/-- `Outcome o t s a t'`: on the tables `t`, with these outcomes, statement `s` answers `a` and leaves
    `t'`. -/
def GroupStmt.Outcome (o : Outcomes) (t : GroupTables) : (s : GroupStmt) → s.Answer → GroupTables → Prop
  | insertGroup values, a, t' =>
      match o.newKey with
      | some key => Table.Inserts (·.groupId) [values.row] t.imGroup [key.val] t'.imGroup ∧
          t'.imGroupRelation = t.imGroupRelation ∧ a = UInt64.ofInt key.val
      | none => a = (0 : UInt64) ∧ t' = t
  | selectStatuses groupId userIds, a, t' => a = o.statuses ∧ t' = t ∧ ∀ rows, o.statuses = some rows →
      Table.SelectsOneEach (RelationRow.isIn groupId userIds) (·.userId) t.imGroupRelation rows
  | insertRelations rows, a, t' =>
      if o.inserts then Ok t (insertRelations rows) a t' else ExecuteFailed t a t'
  | updateActivate groupId userIds, a, t' =>
      if o.updates then Ok t (updateActivate groupId userIds) a t' else ExecuteFailed t a t'
  | updateDeactivate updated groupId userIds, a, t' =>
      if o.updates then Ok t (updateDeactivate updated groupId userIds) a t' else ExecuteFailed t a t'
  | updateMemberCntAdd n groupId, a, t' =>
      if o.counts then Ok t (updateMemberCntAdd n groupId) a t' else ExecuteFailed t a t'
  | updateMemberCntSub n updated groupId, a, t' =>
      if o.counts then Ok t (updateMemberCntSub n updated groupId) a t' else ExecuteFailed t a t'
  | s, a, t' => Ok t s a t'

/-- A command, its statement having the outcome that is chosen for it. -/
def StepWith (o : Outcomes) (w : World) : (c : Cmd) → c.Answer → World → Prop
  | .group s, a, w' => ∃ t, s.Outcome o w.db.groups a t ∧ w' = w.setGroups t
  | c, a, w' => StepOk w c a w'

/-! ## What is wanted -/

/-- The user has a row in the group whose status is read as active. -/
def IsMember (t : List RelationRow) (groupId : Int) (u : UInt32) : Prop :=
  ∃ r ∈ t, r.groupId = groupId ∧ getColumn r.userId = u ∧ getColumn r.status ≠ 0

/-- How many rows of `t` are others in `t'`, and how many have been added. -/
def rowsChanged (t t' : List RelationRow) : Nat :=
  (t.zip t').countP (fun x => decide (x.1 ≠ x.2)) + (t'.length - t.length)

/-- The whole effect of a join. -/
structure Entered (groupId : Int) (userIds : List UInt32) (T T' : GroupTables) : Prop where
  present : groupId ∈ T'.imGroup.map (·.groupId)
  members : ∀ u ∈ userIds, IsMember T'.imGroupRelation groupId u
  counted : Recounted groupId (rowsChanged T.imGroupRelation T'.imGroupRelation) T.imGroup T'.imGroup

/-- The whole effect of a departure. -/
structure Gone (groupId : Int) (userIds : List UInt32) (T T' : GroupTables) : Prop where
  present : groupId ∈ T'.imGroup.map (·.groupId)
  members : ∀ u ∈ userIds, ¬IsMember T'.imGroupRelation groupId u
  counted : Recounted groupId (-rowsChanged T.imGroupRelation T'.imGroupRelation) T.imGroup T'.imGroup

/-- The whole effect of a call. -/
def GroupOp.InPlace (T T' : GroupTables) : GroupOp → Prop
  | createGroup createUserId groupName groupType avatar adesc memberUserIds _ =>
      ∃ row : GroupRow, row.groupId ∉ T.imGroup.map (·.groupId) ∧
        row.groupName = cStr groupName ∧ row.avatar = cStr avatar ∧ row.adesc = cStr adesc ∧
        row.createUserId = addParam createUserId ∧ row.groupType = addParam groupType ∧
        row.memberCnt = 0 ∧
        Entered row.groupId memberUserIds { T with imGroup := T.imGroup ++ [row] } T'
  | joinGroup userIds groupId _ => Entered (percentD groupId) userIds T T'
  | quitGroup _ quitUserIds groupId _ => Gone (percentD groupId) quitUserIds T T'

/-- The call returns `true` with its whole effect in place, or `false` with the tables as they were. -/
def AllOrNothing (op : GroupOp) (T : GroupTables) (ok : Bool) (T' : GroupTables) : Prop :=
  ok = true ∧ op.InPlace T T' ∨ ok = false ∧ T' = T

/-! ## When it is so -/

namespace Outcomes

/-- What the call takes for the statuses of the listed users. -/
def found (o : Outcomes) : Map UInt32 := userStatuss o.statuses

/-- The users whom a join takes for inactive. -/
def inactive (o : Outcomes) : List Int := usersWithStatus (fun status => decide (status = 0)) o.found

/-- The users whom a departure takes for active. -/
def active (o : Outcomes) : List Int := usersWithStatus (fun status => decide (status ≠ 0)) o.found

/-- Every listed user is found, so that there is no INSERT. -/
def AllFound (o : Outcomes) (userIds : List UInt32) : Prop :=
  ∀ u ∈ userIds, o.found.contains u = true

/-- A join is whole if what it writes and the count succeed; or if nothing is written, the count
    fails, and all were members before. -/
def JoinsWhole (o : Outcomes) (t : List RelationRow) (groupId : Int) (userIds : List UInt32) : Prop :=
  (o.AllFound userIds ∨ o.inserts = true) ∧ (o.inactive = [] ∨ o.updates = true) ∧ o.counts = true ∨
    (o.AllFound userIds ∨ o.inserts = false) ∧ (o.inactive = [] ∨ o.updates = false) ∧
      o.counts = false ∧ ∀ u ∈ userIds, IsMember t groupId u

/-- Joins to a new group whose id is not printed as it is go elsewhere.  They leave it whole only if
    they write nothing, also to the count of another group, and all are members of it already. -/
def LeavesWhole (o : Outcomes) (T : GroupTables) (key : NewKey) (userIds : List UInt32) : Prop :=
  (o.AllFound userIds ∨ o.inserts = false) ∧ (o.inactive = [] ∨ o.updates = false) ∧
    (o.counts = false ∨ percentD key.groupId ∉ T.imGroup.map (·.groupId) ∨
      o.AllFound userIds ∧ o.inactive = []) ∧
    ∀ u ∈ userIds, IsMember T.imGroupRelation key.val u

/-- A departure is whole if every active row of a listed user is found to be active, and the writes
    succeed, unless nobody is found to be active. -/
def QuitsWhole (o : Outcomes) (t : List RelationRow) (groupId : Int) (userIds : List UInt32) : Prop :=
  (∀ r ∈ t, r.groupId = groupId → getColumn r.userId ∈ userIds → getColumn r.status ≠ 0 →
    r.userId ∈ o.active) ∧
  (o.active = [] ∨ o.updates = true ∧ o.counts = true)

end Outcomes

/-- The condition: on the outcomes, and on the tables before the call. -/
def GroupOp.Whole (o : Outcomes) (T : GroupTables) (op : GroupOp) : Prop :=
  op.Accepts → match op with
  | createGroup _ _ _ _ _ memberUserIds _ => ∀ key, o.newKey = some key →
      memberUserIds ≠ [] ∧ key.groupId ≠ 0 ∧
        if percentD key.groupId = key.val then o.JoinsWhole T.imGroupRelation key.val memberUserIds
        else o.LeavesWhole T key memberUserIds
  | joinGroup userIds groupId _ =>
      percentD groupId ∈ T.imGroup.map (·.groupId) ∧
        o.JoinsWhole T.imGroupRelation (percentD groupId) userIds
  | quitGroup _ quitUserIds groupId _ =>
      percentD groupId ∈ T.imGroup.map (·.groupId) ∧
        o.QuitsWhole T.imGroupRelation (percentD groupId) quitUserIds

/-! ## Counting -/

/-- The rows of an update that differ from those before are the ones it changes. -/
theorem rowsChanged_updateAll (p : RelationRow → Bool) (f : RelationRow → RelationRow)
    (t new : List RelationRow) :
    rowsChanged t (Table.updateAll p f t ++ new) = Table.changed p f t + new.length := by
  have hlen : (Table.updateAll p f t ++ new).length - t.length = new.length := by
    rw [List.length_append, Table.updateAll, List.length_map]
    omega
  rw [rowsChanged, hlen]
  congr 1
  clear hlen
  induction t with
  | nil => rfl
  | cons r t ih =>
    have hhead : decide (r ≠ if p r then f r else r) = (p r && decide (f r ≠ r)) := by
      cases hp : p r with
      | false => simp
      | true => simp [eq_comm]
    have hchanged : Table.changed p f (r :: t) =
        Table.changed p f t + if (p r && decide (f r ≠ r)) = true then 1 else 0 := List.countP_cons
    show List.countP _ ((r, if p r then f r else r) :: t.zip (Table.updateAll p f t ++ new)) = _
    rw [List.countP_cons, ih, hchanged]
    simp only [hhead]

/-! ## The writes -/

/-- Of the `k` rows that a write changes it answers no more; and all of them if and only if `c`. -/
structure AnswersRows (c : Prop) (n : Int) (k : Nat) : Prop where
  le : n ≤ k
  eq_iff : n = k ↔ c

theorem answersRows_all {c : Prop} {k : Nat} (hc : c) : AnswersRows c k k := ⟨le_rfl, iff_of_true rfl hc⟩

theorem answersRows_failed {c : Prop} {n : Int} {k : Nat} (hn : n < 0) (hc : ¬c) : AnswersRows c n k :=
  ⟨by omega, iff_of_false (by omega) hc⟩

/-- The users whom an UPDATE reaches: none if it fails. -/
def Outcomes.caught (o : Outcomes) (userIds : List Int) : List Int := if o.updates then userIds else []

@[simp] theorem Outcomes.caught_nil (o : Outcomes) : o.caught [] = [] := by
  unfold caught
  split <;> rfl

theorem Outcomes.caught_eq_nil {o : Outcomes} {userIds : List Int}
    (h : userIds = [] ∨ o.updates = false) : o.caught userIds = [] := by
  rcases h with rfl | hfails
  · exact o.caught_nil
  · rw [caught, hfails]
    rfl

theorem Outcomes.mem_caught {o : Outcomes} {userIds : List Int} {x : Int} :
    x ∈ o.caught userIds ↔ o.updates = true ∧ x ∈ userIds := by
  unfold caught
  split
  · next hupdates => exact (and_iff_right hupdates).symm
  · next hfails => exact iff_of_false List.not_mem_nil fun h => hfails h.1

/-- What holds whether a flag is up or down. -/
theorem of_either {c : Prop} {b : Bool} (htrue : c ∨ b = true) (hfalse : c ∨ b = false) : c := by
  cases b with
  | false => exact htrue.resolve_right Bool.false_ne_true
  | true => exact hfalse.resolve_right Bool.false_ne_true.symm

theorem Outcomes.newRelations_eq_nil {o : Outcomes} {userIds : List UInt32} {groupId now : UInt32}
    {group : GroupInfo} : newRelations o.found userIds groupId group now = [] ↔ o.AllFound userIds := by
  simp [newRelations, AllFound]

section Writes

variable {o : Outcomes} {w w' : World} {tr : List Event} {groupId : Int}

/-- The INSERT adds its rows, or fails and adds none. -/
theorem insertRelations_with {relations : List RelationValues} {n : Int}
    (h : Runs (StepWith o) w (if relations = [] then pure 0
      else issue (.group (.insertRelations relations)) : Server Int) tr n w') :
    ∃ new t', w' = w.setGroups t' ∧ t'.imGroup = w.db.groups.imGroup ∧
      t'.imGroupRelation = w.db.groups.imGroupRelation ++ new ∧
      AnswersRows (relations = [] ∨ o.inserts = true) n new.length ∧
      (new = [] ∧ (relations = [] ∨ o.inserts = false) ∨
        o.inserts = true ∧
          Table.NewRows (·.id) RelationValues.row relations w.db.groups.imGroupRelation new) := by
  rcases runs_optional.mp h with ⟨hnil, -, rfl, rfl⟩ | ⟨hne, hissue⟩
  · exact ⟨[], w'.db.groups, rfl, rfl, by simp, answersRows_all (Or.inl hnil), Or.inl ⟨rfl, Or.inl hnil⟩⟩
  obtain ⟨⟨t', hinsert, rfl⟩, -⟩ := runs_issue.mp hissue
  have houtcome : if o.inserts then (GroupStmt.insertRelations relations).Ok w.db.groups n t'
    else ExecuteFailed w.db.groups n t' := hinsert
  cases hinserts : o.inserts with
  | false =>
    rw [hinserts, if_neg Bool.false_ne_true] at houtcome
    obtain ⟨hneg, rfl⟩ := houtcome
    refine ⟨[], _, rfl, rfl, by simp, answersRows_failed hneg ?_, Or.inl ⟨rfl, Or.inr rfl⟩⟩
    simp [hne]
  | true =>
    rw [hinserts, if_pos rfl] at houtcome
    obtain ⟨hgroups, keys, hins, rfl⟩ := houtcome
    obtain ⟨new, hnew, hrows⟩ := hins.newRows fun _ _ => rfl
    refine ⟨new, t', rfl, hgroups, hnew, ?_, Or.inr ⟨rfl, hrows⟩⟩
    have hlen : relations.length = new.length := hrows.rows.length_eq
    rw [hlen]
    exact answersRows_all (Or.inr rfl)

/-- What an UPDATE of the relations does, or does not do if it fails. -/
theorem updated_with {userIds : List Int} {f : RelationRow → RelationRow} {T T' : GroupTables} {n : Int}
    (hne : userIds ≠ [])
    (h : if o.updates then T'.imGroup = T.imGroup ∧
        T'.imGroupRelation = Table.updateAll (RelationRow.isIn groupId userIds) f T.imGroupRelation ∧
        n = Table.changed (RelationRow.isIn groupId userIds) f T.imGroupRelation
      else ExecuteFailed T n T') :
    T'.imGroup = T.imGroup ∧
      T'.imGroupRelation =
        Table.updateAll (RelationRow.isIn groupId (o.caught userIds)) f T.imGroupRelation ∧
      AnswersRows (userIds = [] ∨ o.updates = true) n
        (Table.changed (RelationRow.isIn groupId (o.caught userIds)) f T.imGroupRelation) := by
  unfold Outcomes.caught
  cases hupdates : o.updates with
  | false =>
    rw [hupdates, if_neg Bool.false_ne_true] at h
    obtain ⟨hneg, rfl⟩ := h
    refine ⟨rfl, (updateAll_isIn_nil _ _).symm, answersRows_failed hneg ?_⟩
    simp [hne]
  | true =>
    rw [hupdates, if_pos rfl] at h
    obtain ⟨hgroups, hrel, rfl⟩ := h
    exact ⟨hgroups, hrel, answersRows_all (Or.inr rfl)⟩

/-- An UPDATE that is left out. -/
theorem updated_nil {f : RelationRow → RelationRow} (t : List RelationRow) :
    t = Table.updateAll (RelationRow.isIn groupId (o.caught [])) f t ∧
      AnswersRows (([] : List Int) = [] ∨ o.updates = true) 0
        (Table.changed (RelationRow.isIn groupId (o.caught [])) f t) := by
  rw [o.caught_nil, updateAll_isIn_nil, changed_isIn_nil]
  exact ⟨rfl, answersRows_all (Or.inl rfl)⟩

theorem updateActivate_with {userIds : List Int} {n : Int}
    (h : Runs (StepWith o) w (if userIds = [] then pure 0
      else issue (.group (.updateActivate groupId userIds)) : Server Int) tr n w') :
    ∃ t', w' = w.setGroups t' ∧ t'.imGroup = w.db.groups.imGroup ∧
      t'.imGroupRelation = Table.updateAll (RelationRow.isIn groupId (o.caught userIds))
        RelationRow.activate w.db.groups.imGroupRelation ∧
      AnswersRows (userIds = [] ∨ o.updates = true) n (Table.changed
        (RelationRow.isIn groupId (o.caught userIds)) RelationRow.activate
        w.db.groups.imGroupRelation) := by
  rcases runs_optional.mp h with ⟨rfl, -, rfl, rfl⟩ | ⟨hne, hissue⟩
  · obtain ⟨hsame, hanswered⟩ := updated_nil w'.db.groups.imGroupRelation
    exact ⟨w'.db.groups, rfl, rfl, hsame, hanswered⟩
  · obtain ⟨⟨t', houtcome, rfl⟩, -⟩ := runs_issue.mp hissue
    obtain ⟨hgroups, hrel, hanswered⟩ := updated_with hne houtcome
    exact ⟨t', rfl, hgroups, hrel, hanswered⟩

theorem updateDeactivate_with {userIds : List Int} {updated n : Int}
    (h : Runs (StepWith o) w (if userIds = [] then pure 0
      else issue (.group (.updateDeactivate updated groupId userIds)) : Server Int) tr n w') :
    ∃ t', w' = w.setGroups t' ∧ t'.imGroup = w.db.groups.imGroup ∧
      t'.imGroupRelation = Table.updateAll (RelationRow.isIn groupId (o.caught userIds))
        (RelationRow.deactivate updated) w.db.groups.imGroupRelation ∧
      AnswersRows (userIds = [] ∨ o.updates = true) n (Table.changed
        (RelationRow.isIn groupId (o.caught userIds)) (RelationRow.deactivate updated)
        w.db.groups.imGroupRelation) := by
  rcases runs_optional.mp h with ⟨rfl, -, rfl, rfl⟩ | ⟨hne, hissue⟩
  · obtain ⟨hsame, hanswered⟩ := updated_nil w'.db.groups.imGroupRelation
    exact ⟨w'.db.groups, rfl, rfl, hsame, hanswered⟩
  · obtain ⟨⟨t', houtcome, rfl⟩, -⟩ := runs_issue.mp hissue
    obtain ⟨hgroups, hrel, hanswered⟩ := updated_with hne houtcome
    exact ⟨t', rfl, hgroups, hrel, hanswered⟩

end Writes

/-- The UPDATE of `memberCnt` adds `n`, or fails. -/
def CountedWith (o : Outcomes) (groupId n : Int) (t t' : List GroupRow) : Prop :=
  if o.counts then Recounted groupId n t t' else t' = t

theorem CountedWith.cases {o : Outcomes} {groupId n : Int} {t t' : List GroupRow}
    (h : CountedWith o groupId n t t') :
    o.counts = false ∧ t' = t ∨ o.counts = true ∧ Recounted groupId n t t' := by
  unfold CountedWith at h
  split at h
  · next hcounts => exact Or.inr ⟨hcounts, h⟩
  · next hcounts => exact Or.inl ⟨eq_false_of_ne_true hcounts, h⟩

/-- The rows that the query has found, if it has not failed. -/
def FoundIn (o : Outcomes) (groupId : Int) (userIds : List UInt32) (t : List RelationRow) : Prop :=
  ∀ rows, o.statuses = some rows →
    Table.SelectsOneEach (RelationRow.isIn groupId (userIds.map uintToString)) (·.userId) t rows

/-- What a call of `JoinGroup` that is let pass does to the tables. -/
structure JoinedWith (o : Outcomes) (groupId : Int) (userIds : List UInt32) (T T' : GroupTables)
    (new : List RelationRow) (n m : Int) : Prop where
  found : FoundIn o groupId userIds T.imGroupRelation
  relations : T'.imGroupRelation = Table.updateAll (RelationRow.isIn groupId (o.caught o.inactive))
    RelationRow.activate T.imGroupRelation ++ new
  inserted : AnswersRows (o.AllFound userIds ∨ o.inserts = true) n new.length
  updated : AnswersRows (o.inactive = [] ∨ o.updates = true) m (Table.changed
    (RelationRow.isIn groupId (o.caught o.inactive)) RelationRow.activate T.imGroupRelation)
  counted : CountedWith o groupId (n + m) T.imGroup T'.imGroup
  uncounted : n + m = 0 → T'.imGroup = T.imGroup
  /-- The new rows are those of the users that were not found. -/
  newcomers : new = [] ∧ (o.AllFound userIds ∨ o.inserts = false) ∨
    o.inserts = true ∧ (new = [] ↔ o.AllFound userIds) ∧
      ∀ u ∈ userIds, o.found.contains u = false →
        ∃ r ∈ new, r.groupId = groupId ∧ getColumn r.userId = u ∧ r.status = 1

/-- What a call of `QuitGroup` that is let pass does to the tables. -/
structure QuitWith (o : Outcomes) (groupId updated : Int) (userIds : List UInt32) (T T' : GroupTables)
    (m : Int) : Prop where
  found : FoundIn o groupId userIds T.imGroupRelation
  relations : T'.imGroupRelation = Table.updateAll (RelationRow.isIn groupId (o.caught o.active))
    (RelationRow.deactivate updated) T.imGroupRelation
  updated : AnswersRows (o.active = [] ∨ o.updates = true) m (Table.changed
    (RelationRow.isIn groupId (o.caught o.active)) (RelationRow.deactivate updated) T.imGroupRelation)
  counted : CountedWith o groupId (-m) T.imGroup T'.imGroup

section Runs

variable {o : Outcomes} {w w' : World} {tr : List Event} {ok : Bool}

theorem countedWith_add {groupId n k : Int} {T T' : GroupTables}
    (h : if o.counts then (GroupStmt.updateMemberCntAdd n groupId).Ok T k T' else ExecuteFailed T k T') :
    T'.imGroupRelation = T.imGroupRelation ∧ CountedWith o groupId n T.imGroup T'.imGroup ∧
      (n = 0 → T'.imGroup = T.imGroup) := by
  unfold CountedWith
  cases hcounts : o.counts with
  | false =>
    rw [hcounts, if_neg Bool.false_ne_true] at h
    obtain ⟨-, rfl⟩ := h
    exact ⟨rfl, rfl, fun _ => rfl⟩
  | true =>
    rw [hcounts, if_pos rfl] at h
    obtain ⟨hrel, _, hupdate, -⟩ := h
    refine ⟨hrel, recounted_add rfl hupdate, ?_⟩
    rintro rfl
    obtain ⟨_, htouch, -⟩ := hupdate
    have hmap := htouch.map_eq (g := id) fun g => by rw [add_zero]
    rwa [List.map_id, List.map_id] at hmap

theorem countedWith_sub {groupId updated n k : Int} {T T' : GroupTables}
    (h : if o.counts then (GroupStmt.updateMemberCntSub n updated groupId).Ok T k T'
      else ExecuteFailed T k T') :
    T'.imGroupRelation = T.imGroupRelation ∧ CountedWith o groupId (-n) T.imGroup T'.imGroup := by
  unfold CountedWith
  cases hcounts : o.counts with
  | false =>
    rw [hcounts, if_neg Bool.false_ne_true] at h
    obtain ⟨-, rfl⟩ := h
    exact ⟨rfl, rfl⟩
  | true =>
    rw [hcounts, if_pos rfl] at h
    obtain ⟨hrel, _, hupdate, -⟩ := h
    exact ⟨hrel, recounted_sub rfl hupdate⟩

/-- The rows that `JoinGroup` inserts are rows for the users that were not found. -/
theorem newRows_newRelations {userIds : List UInt32} {g now : UInt32} {group : GroupInfo}
    {t new : List RelationRow} (h : Table.NewRows (·.id) RelationValues.row
      (newRelations o.found userIds g group now) t new) :
    (∀ r ∈ new, r.status = 1) ∧ (new = [] ↔ o.AllFound userIds) ∧
      ∀ u ∈ userIds, o.found.contains u = false →
        ∃ r ∈ new, r.groupId = percentD g ∧ getColumn r.userId = u ∧ r.status = 1 := by
  have hmap : new.map (fun r => (r.groupId, r.userId, r.status)) =
      (newRelations o.found userIds g group now).map fun v => (v.groupId, v.userId, 1) :=
    h.map_eq fun _ _ => rfl
  refine ⟨?_, ?_, ?_⟩
  · intro r hr
    have hmem : (r.groupId, r.userId, r.status) ∈ new.map fun r => (r.groupId, r.userId, r.status) :=
      List.mem_map.mpr ⟨r, hr, rfl⟩
    rw [hmap] at hmem
    obtain ⟨v, -, heq⟩ := List.mem_map.mp hmem
    exact (Prod.mk.inj (Prod.mk.inj heq).2).2.symm
  · rw [← Outcomes.newRelations_eq_nil, ← List.map_eq_nil_iff, hmap, List.map_eq_nil_iff]
  · intro u hu hnot
    have hvalue : (percentD g, percentD u, (1 : Int)) ∈
        (newRelations o.found userIds g group now).map fun v => (v.groupId, v.userId, 1) := by
      rw [newRelations, List.map_map]
      exact List.mem_map.mpr ⟨u, List.mem_filter.mpr ⟨hu, by rw [hnot]; rfl⟩, rfl⟩
    rw [← hmap] at hvalue
    obtain ⟨r, hr, heq⟩ := List.mem_map.mp hvalue
    obtain ⟨hg, hrest⟩ := Prod.mk.inj heq
    obtain ⟨huser, hstatus⟩ := Prod.mk.inj hrest
    exact ⟨r, hr, hg, by rw [huser, getColumn_percentD], hstatus⟩

theorem joinGroup_with {userIds : List UInt32} {g : UInt32} {group : GroupInfo}
    (h : Runs (StepWith o) w (joinGroup userIds g group) tr ok w') :
    ok = false ∧ ¬JoinAccepts userIds g group ∧ w' = w ∨
      ok = true ∧ JoinAccepts userIds g group ∧ ∃ new n m t', w' = w.setGroups t' ∧
        JoinedWith o (percentD g) userIds w.db.groups t' new n m := by
  rcases joinGroup_commands h with hrejected | ⟨rfl, haccepts, now, answ, n, m, k, w₁, w₂, w₃, w₄, _, _,
    relations, inactive, rfl, rfl, hclock, hquery, hinsert, hupdate, hcount, -⟩
  · exact Or.inl hrejected
  obtain rfl : w₁ = w := hclock
  obtain ⟨_, ⟨rfl, rfl, hfound⟩, rfl⟩ := hquery
  obtain ⟨t', hcounted, rfl⟩ := hcount
  obtain ⟨new, t₂, rfl, hgroups₂, hrel₂, hinserted, hnew⟩ := insertRelations_with hinsert
  obtain ⟨t₃, rfl, hgroups₃, hrel₃, hupdated⟩ := updateActivate_with hupdate
  obtain ⟨hrel, hcnt, hsame⟩ := countedWith_add hcounted
  have hnil : newRelations (userStatuss o.statuses) userIds g group now.toUInt32 = [] ↔
      o.AllFound userIds := Outcomes.newRelations_eq_nil
  rw [hnil] at hinserted hnew
  -- the new rows are active, so the UPDATE does not change them
  have hactive : ∀ r ∈ new, r.status = 1 := by
    rcases hnew with ⟨rfl, -⟩ | ⟨-, hrows⟩
    · exact nofun
    · exact (newRows_newRelations hrows).1
  have hkept : ∀ r ∈ new, r.activate = r := by
    intro r hr
    rw [RelationRow.activate, ← hactive r hr]
  have himGroup : t₃.imGroup = w₁.db.groups.imGroup := hgroups₃.trans hgroups₂
  refine Or.inr ⟨rfl, haccepts, new, n, m, t', rfl, ⟨hfound, ?_, ?_, ?_, ?_, ?_, ?_⟩⟩
  · rw [hrel]
    show t₃.imGroupRelation = _
    rw [hrel₃]
    show Table.updateAll _ _ t₂.imGroupRelation = _
    rw [hrel₂, Table.updateAll_append]
    congr 1
    exact Table.updateAll_eq_self fun r hr _ => hkept r hr
  · exact hinserted
  · have hold : Table.changed (RelationRow.isIn (percentD g) (o.caught o.inactive))
        RelationRow.activate new = 0 := by
      apply List.countP_eq_zero.mpr
      intro r hr
      simp [hkept r hr]
    have hchanged : AnswersRows (o.inactive = [] ∨ o.updates = true) m (Table.changed
        (RelationRow.isIn (percentD g) (o.caught o.inactive)) RelationRow.activate
        t₂.imGroupRelation) := hupdated
    rwa [hrel₂, Table.changed_append, hold, Nat.add_zero] at hchanged
  · rwa [← himGroup]
  · exact fun hzero => (hsame hzero).trans himGroup
  · rcases hnew with hnone | ⟨hinserts, hrows⟩
    · exact Or.inl hnone
    · exact Or.inr ⟨hinserts, (newRows_newRelations hrows).2⟩

theorem quitGroup_with {userIds : List UInt32} {requestUserId g : UInt32} {group : GroupInfo}
    (h : Runs (StepWith o) w (quitGroup requestUserId userIds g group) tr ok w') :
    ok = false ∧ ¬QuitAccepts requestUserId userIds g group ∧ w' = w ∨
      ok = true ∧ QuitAccepts requestUserId userIds g group ∧ ∃ updated m t', w' = w.setGroups t' ∧
        QuitWith o (percentD g) updated userIds w.db.groups t' m := by
  rcases quitGroup_commands h with hrejected | ⟨rfl, haccepts, now, answ, m, k, w₁, w₂, w₃, _, active,
    updated, rfl, rfl, hclock, hquery, hupdate, hcount, -⟩
  · exact Or.inl hrejected
  obtain rfl : w₁ = w := hclock
  obtain ⟨_, ⟨rfl, rfl, hfound⟩, rfl⟩ := hquery
  obtain ⟨t', hcounted, rfl⟩ := hcount
  obtain ⟨t₂, rfl, hgroups₂, hrel₂, hupdated⟩ := updateDeactivate_with hupdate
  obtain ⟨hrel, hcnt⟩ := countedWith_sub hcounted
  refine Or.inr ⟨rfl, haccepts, _, m, t', rfl, ⟨hfound, hrel.trans hrel₂, hupdated, ?_⟩⟩
  have hsame : t₂.imGroup = w₁.db.groups.imGroup := hgroups₂
  rwa [← hsame]

end Runs

/-! ## Whole or not -/

section Whole

variable {o : Outcomes} {groupId updated n m : Int} {userIds : List UInt32} {T T' : GroupTables}
  {new : List RelationRow}

/-- Who is listed for an UPDATE has a row with such a status. -/
theorem FoundIn.of_mem (h : FoundIn o groupId userIds T.imGroupRelation) {p : UInt32 → Bool} {x : Int}
    (hx : x ∈ usersWithStatus p o.found) : ∃ r ∈ T.imGroupRelation, r.groupId = groupId ∧
      r.userId = x ∧ getColumn r.userId ∈ userIds ∧ p (getColumn r.status) = true := by
  unfold Outcomes.found at hx
  cases hstatuses : o.statuses with
  | none =>
    rw [hstatuses] at hx
    simp [usersWithStatus, userStatuss] at hx
  | some rows =>
    rw [hstatuses] at hx
    have hselects := h rows hstatuses
    obtain ⟨r, hr, huser, hp⟩ := (mem_usersWithStatus hselects p x).mp hx
    obtain ⟨hrt, hin⟩ := hselects.2.1 r hr
    obtain ⟨hg, hlisted⟩ := RelationRow.isIn_iff.mp hin
    refine ⟨r, hrt, hg, huser, ?_, hp⟩
    obtain ⟨u, hu, heq⟩ := List.mem_map.mp hlisted
    rw [← heq, getColumn_uintToString]
    exact hu

/-- Who is found has a row with the status found, and is listed by it. -/
theorem FoundIn.of_contains (h : FoundIn o groupId userIds T.imGroupRelation) {u : UInt32}
    (hu : o.found.contains u = true) : ∃ r ∈ T.imGroupRelation, r.groupId = groupId ∧
      getColumn r.userId = u ∧ ∀ p, p (getColumn r.status) = true → r.userId ∈ usersWithStatus p o.found := by
  unfold Outcomes.found at hu ⊢
  cases hstatuses : o.statuses with
  | none =>
    rw [hstatuses] at hu
    simp [userStatuss] at hu
  | some rows =>
    rw [hstatuses] at hu
    have hselects := h rows hstatuses
    rw [Std.TreeMap.contains_eq_isSome_getElem?, Option.isSome_iff_exists] at hu
    obtain ⟨status, hstatus⟩ := hu
    obtain ⟨r, hr, huser, -⟩ := (userStatuss_getElem? hselects u status).mp hstatus
    obtain ⟨hrt, hin⟩ := hselects.2.1 r hr
    refine ⟨r, hrt, (RelationRow.isIn_iff.mp hin).1, by rw [huser, getColumn_uintToString], ?_⟩
    intro p hp
    exact (mem_usersWithStatus hselects p r.userId).mpr ⟨r, hr, rfl, hp⟩

/-- An UPDATE that reaches somebody changes a row. -/
theorem FoundIn.changed_pos (h : FoundIn o groupId userIds T.imGroupRelation) {p : UInt32 → Bool}
    {f : RelationRow → RelationRow} (hf : ∀ r : RelationRow, p (getColumn r.status) = true → f r ≠ r)
    (hne : usersWithStatus p o.found ≠ []) : 0 < Table.changed
      (RelationRow.isIn groupId (usersWithStatus p o.found)) f T.imGroupRelation := by
  obtain ⟨x, hx⟩ := List.exists_mem_of_ne_nil _ hne
  obtain ⟨r, hr, hg, huser, -, hp⟩ := h.of_mem hx
  refine List.countP_pos_iff.mpr ⟨r, hr, ?_⟩
  rw [Bool.and_eq_true, RelationRow.isIn_iff, decide_eq_true_iff]
  exact ⟨⟨hg, huser ▸ hx⟩, hf r hp⟩

/-- The counts with a new number are what they should be if and only if the number is the right one. -/
theorem CountedWith.recounted_iff {t t' : List GroupRow} {k : Int} (h : CountedWith o groupId n t t')
    (hpresent : groupId ∈ t.map (·.groupId)) :
    Recounted groupId k t t' ↔ if o.counts then n = k else k = 0 := by
  rcases h.cases with ⟨hcounts, rfl⟩ | ⟨hcounts, hn⟩
  · rw [hcounts, if_neg Bool.false_ne_true]
    constructor
    · intro hk
      have htotal := hk.totalCnt hpresent
      omega
    · rintro rfl
      exact recounted_zero _ _
  · rw [hcounts, if_pos rfl]
    constructor
    · intro hk
      have htotal := hk.totalCnt hpresent
      have htotal' := hn.totalCnt hpresent
      omega
    · rintro rfl
      exact hn

theorem CountedWith.groupIds {t t' : List GroupRow} (h : CountedWith o groupId n t t') :
    t'.map (·.groupId) = t.map (·.groupId) := by
  rcases h.cases with ⟨-, rfl⟩ | ⟨-, hn⟩
  · rfl
  · exact hn.groupIds

/-- Counts that add up as before have not been changed. -/
theorem CountedWith.eq_of_totalCnt {t t' : List GroupRow} (h : CountedWith o groupId n t t')
    (huncounted : n = 0 → t' = t) (htotal : totalCnt t' = totalCnt t) :
    t' = t ∧ (o.counts = false ∨ groupId ∉ t.map (·.groupId) ∨ n = 0) := by
  rcases h.cases with ⟨hcounts, rfl⟩ | ⟨-, hn⟩
  · exact ⟨rfl, Or.inl hcounts⟩
  by_cases hpresent : groupId ∈ t.map (·.groupId)
  · have htotal' := hn.totalCnt hpresent
    have hzero : n = 0 := by omega
    exact ⟨huncounted hzero, Or.inr (Or.inr hzero)⟩
  · exact ⟨hn.absent hpresent, Or.inr (Or.inl hpresent)⟩

/-- What is counted in another group is not counted in a new one. -/
theorem CountedWith.elsewhere {t t' : List GroupRow} {row row' : GroupRow} {k : Int}
    (h : CountedWith o groupId n (t ++ [row]) t') (hne : groupId ≠ row.groupId)
    (hrow : row'.groupId = row.groupId) (hunused : row.groupId ∉ t.map (·.groupId))
    (hcnt : row.memberCnt = 0) (hcnt' : row'.memberCnt = 0)
    (hcount : Recounted row.groupId k (t ++ [row']) t') :
    k = 0 ∧ Zattd.totalCnt t' = Zattd.totalCnt (t ++ [row]) := by
  have hold : t.filter (fun g => decide (g.groupId = row.groupId)) = [] := by
    refine List.filter_eq_nil_iff.mpr fun g hg hid => hunused ?_
    rw [← of_decide_eq_true hid]
    exact List.mem_map_of_mem hg
  have hsame : t'.filter (fun g => decide (g.groupId = row.groupId)) = [row] := by
    have hothers : t'.filter (fun g => decide (g.groupId = row.groupId)) =
        (t ++ [row]).filter fun g => decide (g.groupId = row.groupId) := by
      rcases h.cases with ⟨-, rfl⟩ | ⟨-, hn⟩
      · rfl
      · exact hn.others hne
    rw [hothers, List.filter_append, hold]
    simp
  have hframe := hcount.frame
  have htotal := hcount.totalCnt (by simp [hrow])
  have hsplit := totalCnt_split row.groupId t'
  have hsplit' := totalCnt_split row.groupId (t ++ [row])
  have hsplit'' := totalCnt_split row.groupId (t ++ [row'])
  rw [hsame, hframe] at hsplit
  simp only [List.filter_append, hold] at hsplit hsplit' hsplit''
  simp [hrow, Zattd.totalCnt, hcnt, hcnt'] at hsplit hsplit' hsplit'' htotal ⊢
  omega

/-- A row that an UPDATE of the status makes active, or leaves active, was active or is made so. -/
theorem JoinedWith.members (h : JoinedWith o groupId userIds T T' new n m)
    (hinserted : o.AllFound userIds ∨ o.inserts = true) (hupdated : o.inactive = [] ∨ o.updates = true) :
    ∀ u ∈ userIds, IsMember T'.imGroupRelation groupId u := by
  intro u hu
  rw [h.relations]
  by_cases hfound : o.found.contains u = true
  · -- he has a row, which is active or is made active
    obtain ⟨r, hr, hg, huser, hlisted⟩ := h.found.of_contains hfound
    refine ⟨_, List.mem_append_left _ (Table.mem_updateAll.mpr ⟨r, hr, rfl⟩), ?_⟩
    by_cases hin : r.isIn groupId (o.caught o.inactive) = true
    · rw [if_pos hin]
      exact ⟨hg, huser, (by decide : getColumn 1 ≠ 0)⟩
    · rw [if_neg hin]
      refine ⟨hg, huser, fun h0 => hin ?_⟩
      have hinactive : r.userId ∈ o.inactive := hlisted _ (decide_eq_true h0)
      have hupdates : o.updates = true := hupdated.resolve_left (List.ne_nil_of_mem hinactive)
      exact RelationRow.isIn_iff.mpr ⟨hg, Outcomes.mem_caught.mpr ⟨hupdates, hinactive⟩⟩
  · -- he is given a row
    have hnot : o.found.contains u = false := eq_false_of_ne_true hfound
    rcases h.newcomers with ⟨-, hwhy⟩ | ⟨-, -, hnew⟩
    · exact absurd (of_either hinserted hwhy u hu) hfound
    · obtain ⟨r, hr, hg, huser, hstatus⟩ := hnew u hu hnot
      exact ⟨r, List.mem_append_right _ hr, hg, huser, by rw [hstatus]; decide⟩

/-- The number of rows that a join changes. -/
theorem JoinedWith.rowsChanged_eq (h : JoinedWith o groupId userIds T T' new n m) :
    rowsChanged T.imGroupRelation T'.imGroupRelation = Table.changed
      (RelationRow.isIn groupId (o.caught o.inactive)) RelationRow.activate T.imGroupRelation +
      new.length := by
  rw [h.relations, rowsChanged_updateAll]

/-- A join changes nothing if it has nothing to write, or what it writes fails. -/
theorem JoinedWith.rowsChanged_eq_zero_iff (h : JoinedWith o groupId userIds T T' new n m) :
    rowsChanged T.imGroupRelation T'.imGroupRelation = 0 ↔
      (o.AllFound userIds ∨ o.inserts = false) ∧ (o.inactive = [] ∨ o.updates = false) := by
  rw [h.rowsChanged_eq, Nat.add_eq_zero_iff, and_comm, List.length_eq_zero_iff]
  refine and_congr ?_ ?_
  · constructor
    · intro hnil
      rcases h.newcomers with ⟨-, hwhy⟩ | ⟨-, hall, -⟩
      · exact hwhy
      · exact Or.inl (hall.mp hnil)
    · intro hwhy
      rcases h.newcomers with ⟨hnil, -⟩ | ⟨hinserts, hall, -⟩
      · exact hnil
      · exact hall.mpr (of_either (Or.inr hinserts) hwhy)
  · constructor
    · intro hzero
      by_contra hcon
      rw [not_or] at hcon
      have hupdates : o.updates = true := by simpa using hcon.2
      have hactivates : ∀ r : RelationRow, decide (getColumn r.status = 0) = true → r.activate ≠ r := by
        intro r hr heq
        have hstatus : r.status = 1 := congrArg RelationRow.status heq.symm
        rw [hstatus] at hr
        exact absurd hr (by decide)
      have hpos := h.found.changed_pos hactivates hcon.1
      rw [Outcomes.caught, if_pos hupdates] at hzero
      exact absurd hzero hpos.ne'
    · intro hwhy
      rw [Outcomes.caught_eq_nil hwhy]
      exact changed_isIn_nil _ _

/-- If no row has changed, the rows are the same. -/
theorem JoinedWith.relations_eq (h : JoinedWith o groupId userIds T T' new n m)
    (hzero : rowsChanged T.imGroupRelation T'.imGroupRelation = 0) :
    T'.imGroupRelation = T.imGroupRelation := by
  rw [h.rowsChanged_eq, Nat.add_eq_zero_iff] at hzero
  rw [h.relations, Table.updateAll_of_changed hzero.1, List.length_eq_zero_iff.mp hzero.2,
    List.append_nil]

/-- **Joins.**  In a group that is there. -/
theorem JoinedWith.entered_iff (h : JoinedWith o groupId userIds T T' new n m)
    (hpresent : groupId ∈ T.imGroup.map (·.groupId)) :
    Entered groupId userIds T T' ↔ o.JoinsWhole T.imGroupRelation groupId userIds := by
  have hcounted := h.counted.recounted_iff hpresent
    (k := rowsChanged T.imGroupRelation T'.imGroupRelation)
  have hle := h.inserted.le
  have hle' := h.updated.le
  constructor
  · rintro ⟨-, hmembers, hcount⟩
    rw [hcounted] at hcount
    cases hcounts : o.counts with
    | true =>
      rw [hcounts, if_pos rfl, h.rowsChanged_eq] at hcount
      push_cast at hcount
      exact Or.inl ⟨h.inserted.eq_iff.mp (by omega), h.updated.eq_iff.mp (by omega), hcounts⟩
    | false =>
      rw [hcounts, if_neg Bool.false_ne_true, Nat.cast_eq_zero] at hcount
      obtain ⟨hinserts, hupdates⟩ := h.rowsChanged_eq_zero_iff.mp hcount
      rw [h.relations_eq hcount] at hmembers
      exact Or.inr ⟨hinserts, hupdates, hcounts, hmembers⟩
  · have hthere : groupId ∈ T'.imGroup.map (·.groupId) := by
      rw [h.counted.groupIds]
      exact hpresent
    rintro (⟨hinserts, hupdates, hcounts⟩ | ⟨hinserts, hupdates, hcounts, hmembers⟩)
    · refine ⟨hthere, h.members hinserts hupdates, hcounted.mpr ?_⟩
      have hn := h.inserted.eq_iff.mpr hinserts
      have hm := h.updated.eq_iff.mpr hupdates
      rw [hcounts, if_pos rfl, h.rowsChanged_eq]
      push_cast
      omega
    · have hzero := h.rowsChanged_eq_zero_iff.mpr ⟨hinserts, hupdates⟩
      refine ⟨hthere, ?_, hcounted.mpr ?_⟩
      · rw [h.relations_eq hzero]
        exact hmembers
      · rw [hcounts, if_neg Bool.false_ne_true, hzero, Nat.cast_zero]

/-- A join is whole only in a group that is there. -/
theorem JoinedWith.placed_iff (h : JoinedWith o groupId userIds T T' new n m) :
    Entered groupId userIds T T' ↔
      groupId ∈ T.imGroup.map (·.groupId) ∧ o.JoinsWhole T.imGroupRelation groupId userIds := by
  constructor
  · intro hentered
    have hpresent : groupId ∈ T.imGroup.map (·.groupId) := by
      rw [← h.counted.groupIds]
      exact hentered.present
    exact ⟨hpresent, (h.entered_iff hpresent).mp hentered⟩
  · rintro ⟨hpresent, hjoins⟩
    exact (h.entered_iff hpresent).mpr hjoins

/-- **Joins that miss the new group.** -/
theorem JoinedWith.leaves_iff {key : NewKey} {row : GroupRow}
    (h : JoinedWith o (percentD key.groupId) userIds { T with imGroup := T.imGroup ++ [row] } T' new n m)
    (hprinted : ¬percentD key.groupId = key.val) (hid : row.groupId = key.val)
    (hunused : row.groupId ∉ T.imGroup.map (·.groupId)) (hcnt : row.memberCnt = 0) :
    Entered row.groupId userIds { T with imGroup := T.imGroup ++ [row] } T' ↔
      o.LeavesWhole T key userIds := by
  have hne : percentD key.groupId ≠ row.groupId := by
    rw [hid]
    exact hprinted
  constructor
  · rintro ⟨-, hmembers, hcount⟩
    obtain ⟨hchanged, htotal⟩ := h.counted.elsewhere hne rfl hunused hcnt hcnt hcount
    rw [Nat.cast_eq_zero] at hchanged
    obtain ⟨hinserts, hupdates⟩ := h.rowsChanged_eq_zero_iff.mp hchanged
    rw [h.relations_eq hchanged, hid] at hmembers
    refine ⟨hinserts, hupdates, ?_, hmembers⟩
    obtain ⟨-, hcounts | habsent | hzero⟩ := h.counted.eq_of_totalCnt h.uncounted htotal
    · exact Or.inl hcounts
    · refine Or.inr (Or.inl fun hmem => habsent ?_)
      rw [List.map_append]
      exact List.mem_append_left _ hmem
    · -- both statements answer 0, so neither has failed
      have hrows := h.rowsChanged_eq
      have hle := h.inserted.le
      have hle' := h.updated.le
      have hall := h.inserted.eq_iff.mp (by omega)
      have hnone := h.updated.eq_iff.mp (by omega)
      exact Or.inr (Or.inr ⟨of_either hall hinserts, of_either hnone hupdates⟩)
  · rintro ⟨hinserts, hupdates, hcounts, hmembers⟩
    have hzero := h.rowsChanged_eq_zero_iff.mpr ⟨hinserts, hupdates⟩
    have hgroups : T'.imGroup = T.imGroup ++ [row] := by
      rcases hcounts with hfails | habsent | ⟨hall, hnone⟩
      · rcases h.counted.cases with ⟨-, hsame⟩ | ⟨hcounts, -⟩
        · exact hsame
        · exact absurd hcounts (by rw [hfails]; decide)
      · rcases h.counted.cases with ⟨-, hsame⟩ | ⟨-, hn⟩
        · exact hsame
        · apply hn.absent
          rw [List.map_append, List.mem_append, not_or]
          exact ⟨habsent, by simpa using hne⟩
      · have hn := h.inserted.eq_iff.mpr (Or.inl hall)
        have hm := h.updated.eq_iff.mpr (Or.inl hnone)
        have hrows := h.rowsChanged_eq
        exact h.uncounted (by omega)
    refine ⟨?_, ?_, ?_⟩
    · rw [hgroups]
      simp
    · rw [h.relations_eq hzero, hid]
      exact hmembers
    · rw [hzero, hgroups]
      exact recounted_zero _ _

/-- Nobody listed is a member afterwards if the UPDATE reaches all active rows of the listed users. -/
theorem QuitWith.members_iff (h : QuitWith o groupId updated userIds T T' m) :
    (∀ u ∈ userIds, ¬IsMember T'.imGroupRelation groupId u) ↔
      ∀ r ∈ T.imGroupRelation, r.groupId = groupId → getColumn r.userId ∈ userIds →
        getColumn r.status ≠ 0 → r.userId ∈ o.caught o.active := by
  rw [h.relations]
  constructor
  · intro hnone r hr hg hu hstatus
    by_contra hnot
    have hin : ¬r.isIn groupId (o.caught o.active) = true := fun hin =>
      hnot (RelationRow.isIn_iff.mp hin).2
    exact hnone _ hu ⟨r, Table.mem_updateAll.mpr ⟨r, hr, if_neg hin⟩, hg, rfl, hstatus⟩
  · rintro hall u hu ⟨r', hr', hg, huser, hstatus⟩
    obtain ⟨r, hr, rfl⟩ := Table.mem_updateAll.mp hr'
    by_cases hin : r.isIn groupId (o.caught o.active) = true
    · rw [if_pos hin] at hstatus
      exact hstatus (by decide : getColumn 0 = 0)
    · rw [if_neg hin] at hg huser hstatus
      exact hin (RelationRow.isIn_iff.mpr ⟨hg, hall r hr hg (huser ▸ hu) hstatus⟩)

/-- **Departures.**  From a group that is there. -/
theorem QuitWith.gone_iff (h : QuitWith o groupId updated userIds T T' m)
    (hpresent : groupId ∈ T.imGroup.map (·.groupId)) :
    Gone groupId userIds T T' ↔ o.QuitsWhole T.imGroupRelation groupId userIds := by
  have hchanged : rowsChanged T.imGroupRelation T'.imGroupRelation = Table.changed
      (RelationRow.isIn groupId (o.caught o.active)) (RelationRow.deactivate updated)
      T.imGroupRelation := by
    have happend := rowsChanged_updateAll (RelationRow.isIn groupId (o.caught o.active))
      (RelationRow.deactivate updated) T.imGroupRelation []
    rwa [List.append_nil, ← h.relations, List.length_nil, Nat.add_zero] at happend
  have hcounted := h.counted.recounted_iff hpresent
    (k := -rowsChanged T.imGroupRelation T'.imGroupRelation)
  have hdeactivates : ∀ r : RelationRow, decide (getColumn r.status ≠ 0) = true →
      r.deactivate updated ≠ r := by
    intro r hr heq
    have hstatus : r.status = 0 := congrArg RelationRow.status heq.symm
    rw [hstatus] at hr
    exact absurd hr (by decide)
  constructor
  · rintro ⟨-, hmembers, hcount⟩
    rw [h.members_iff] at hmembers
    refine ⟨fun r hr hg hu hstatus => ?_, ?_⟩
    · exact (Outcomes.mem_caught.mp (hmembers r hr hg hu hstatus)).2
    · by_contra hcon
      rw [not_or] at hcon
      -- a row that was found active has to be reached
      obtain ⟨x, hx⟩ := List.exists_mem_of_ne_nil _ hcon.1
      obtain ⟨r, hr, hg, rfl, hu, hstatus⟩ := h.found.of_mem hx
      have hcaught := hmembers r hr hg hu (of_decide_eq_true hstatus)
      obtain ⟨hupdates, -⟩ := Outcomes.mem_caught.mp hcaught
      have hfails : o.counts = false := by
        have hnot := hcon.2
        rw [not_and] at hnot
        exact eq_false_of_ne_true (hnot hupdates)
      have hpos := h.found.changed_pos hdeactivates hcon.1
      rw [hcounted, hfails, if_neg Bool.false_ne_true, hchanged, Outcomes.caught, if_pos hupdates]
        at hcount
      have hpos' : 0 < Table.changed (RelationRow.isIn groupId o.active)
        (RelationRow.deactivate updated) T.imGroupRelation := hpos
      omega
  · rintro ⟨hmembers, hwrites⟩
    have hthere : groupId ∈ T'.imGroup.map (·.groupId) := by
      rw [h.counted.groupIds]
      exact hpresent
    refine ⟨hthere, h.members_iff.mpr fun r hr hg hu hstatus => ?_, hcounted.mpr ?_⟩
    · have hactive := hmembers r hr hg hu hstatus
      have hupdates := (hwrites.resolve_left (List.ne_nil_of_mem hactive)).1
      exact Outcomes.mem_caught.mpr ⟨hupdates, hactive⟩
    · have hm := h.updated.eq_iff
      rcases hwrites with hnone | ⟨hupdates, hcounts⟩
      · have hm' := hm.mpr (Or.inl hnone)
        have hzero : Table.changed (RelationRow.isIn groupId (o.caught o.active))
            (RelationRow.deactivate updated) T.imGroupRelation = 0 := by
          rw [Outcomes.caught_eq_nil (Or.inl hnone)]
          exact changed_isIn_nil _ _
        rw [hchanged]
        split <;> omega
      · have hm' := hm.mpr (Or.inr hupdates)
        rw [hcounts, if_pos rfl, hchanged, hm']

/-- A departure is whole only from a group that is there. -/
theorem QuitWith.placed_iff (h : QuitWith o groupId updated userIds T T' m) :
    Gone groupId userIds T T' ↔
      groupId ∈ T.imGroup.map (·.groupId) ∧ o.QuitsWhole T.imGroupRelation groupId userIds := by
  constructor
  · intro hgone
    have hpresent : groupId ∈ T.imGroup.map (·.groupId) := by
      rw [← h.counted.groupIds]
      exact hgone.present
    exact ⟨hpresent, (h.gone_iff hpresent).mp hgone⟩
  · rintro ⟨hpresent, hquits⟩
    exact (h.gone_iff hpresent).mpr hquits

end Whole

/-! ## Making a group -/

theorem NewKey.ofInt_pos (key : NewKey) : UInt64.ofInt key.val > 0 := by
  have hpos := key.pos
  have hmod : key.val % 2 ^ 64 = key.val := Int.emod_eq_of_lt hpos.le key.lt
  have hnat : (UInt64.ofInt key.val).toNat = key.val.toNat := by
    have hlt := key.lt
    rw [UInt64.ofInt, hmod, UInt64.toNat_ofNat', Nat.mod_eq_of_lt (by omega)]
  show (0 : UInt64) < UInt64.ofInt key.val
  rw [UInt64.lt_iff_toNat_lt, hnat]
  show 0 < key.val.toNat
  omega

/-- A call that makes a group leaves `joinGroup` to add the members to it; a call that makes none
    returns `false`. -/
theorem createGroup_with {o : Outcomes} {w w' : World} {tr : List Event} {createUserId groupType : UInt32}
    {groupName avatar adesc : Bytes} {memberUserIds : List UInt32} {group group' : GroupInfo} {ok : Bool}
    (h : Runs (StepWith o) w
      (createGroup createUserId groupName groupType avatar adesc memberUserIds group) tr (ok, group') w') :
    (ok = false ∧ w'.db.groups = w.db.groups ∧
      ((createUserId = 0 ∨ groupName = [] ∨ groupType = 0) ∨ o.newKey = none)) ∨
    ∃ (key : NewKey) (row : GroupRow), ¬(createUserId = 0 ∨ groupName = [] ∨ groupType = 0) ∧
      o.newKey = some key ∧ row.groupId = key.val ∧ row.groupId ∉ w.db.groups.imGroup.map (·.groupId) ∧
      row.groupName = cStr groupName ∧ row.avatar = cStr avatar ∧ row.adesc = cStr adesc ∧
      row.createUserId = addParam createUserId ∧ row.groupType = addParam groupType ∧
      row.memberCnt = 0 ∧
      ∃ (info : GroupInfo) (tr' : List Event), info.groupId = key.groupId ∧
        Runs (StepWith o)
          (w.setGroups { w.db.groups with imGroup := w.db.groups.imGroup ++ [row] })
          (joinGroup memberUserIds key.groupId info) tr' ok w' := by
  rcases createGroup_commands h with ⟨hfalse, hguard, rfl, -⟩ | ⟨hguard, now, now', id, w₁, w₂, w₃, tr₁,
    hclock, hclock', hinsert, -, hrest⟩
  · exact Or.inl ⟨hfalse, rfl, Or.inl hguard⟩
  obtain rfl : w₁ = w := hclock
  obtain rfl : w₂ = w₁ := hclock'
  obtain ⟨t₁, houtcome, rfl⟩ := hinsert
  unfold GroupStmt.Outcome at houtcome
  cases hkey : o.newKey with
  | none =>
    simp only [hkey] at houtcome
    obtain ⟨rfl, rfl⟩ := houtcome
    rcases hrest with ⟨hfalse, -, rfl, -⟩ | ⟨hgt, -⟩
    · exact Or.inl ⟨hfalse, rfl, Or.inr rfl⟩
    · exact absurd hgt (by decide : ¬(0 : UInt64) > 0)
  | some key =>
    simp only [hkey] at houtcome
    obtain ⟨⟨-, -, hfresh, hrows⟩, hrel, rfl⟩ := houtcome
    obtain ⟨groups₁, relations₁⟩ := t₁
    subst hrows hrel
    have hunused : key.val ∉ w₂.db.groups.imGroup.map (·.groupId) := by
      intro hmem
      obtain ⟨row, hrow, heq⟩ := List.mem_map.mp hmem
      exact (hfresh key.val (List.mem_singleton_self _)).2 row hrow heq
    rcases hrest with ⟨-, hgt, -⟩ | ⟨-, now'', w₄, info, tr', hclock'', hinfo, hjoin, -⟩
    · exact absurd key.ofInt_pos hgt
    · obtain rfl := hclock''
      exact Or.inr ⟨key, _, hguard, rfl, rfl, hunused, rfl, rfl, rfl, rfl, rfl, rfl, info, tr', hinfo,
        hjoin⟩

/-- The count of the new group is the number of its new rows, whatever else is in its row. -/
theorem Entered.ofNew {o : Outcomes} {groupId n m : Int} {userIds : List UInt32} {T T' : GroupTables}
    {new : List RelationRow} {row row' : GroupRow}
    (h : Entered row'.groupId userIds { T with imGroup := T.imGroup ++ [row'] } T')
    (hj : JoinedWith o groupId userIds { T with imGroup := T.imGroup ++ [row] } T' new n m)
    (hcnt : row.memberCnt = 0) (hcnt' : row'.memberCnt = 0)
    (hunused : row.groupId ∉ T.imGroup.map (·.groupId)) :
    Entered row.groupId userIds { T with imGroup := T.imGroup ++ [row] } T' := by
  have hrow : row'.groupId = row.groupId := by
    have hmap := h.counted.groupIds.symm.trans hj.counted.groupIds
    simpa using hmap
  obtain ⟨hpresent, hmembers, hcount⟩ := h
  rw [hrow] at hpresent hmembers hcount
  refine ⟨hpresent, hmembers, ?_⟩
  show Recounted row.groupId (rowsChanged T.imGroupRelation T'.imGroupRelation)
    (T.imGroup ++ [row]) T'.imGroup
  by_cases hgroup : groupId = row.groupId
  · have hthere : row.groupId ∈ (T.imGroup ++ [row]).map (·.groupId) := by simp
    have htotal : totalCnt T'.imGroup = totalCnt (T.imGroup ++ [row']) +
        rowsChanged T.imGroupRelation T'.imGroupRelation := hcount.totalCnt (by simp [hrow])
    have hstart : totalCnt (T.imGroup ++ [row']) = totalCnt (T.imGroup ++ [row]) := by
      simp [totalCnt, hcnt, hcnt']
    rw [hstart] at htotal
    have hcounted : CountedWith o row.groupId (n + m) (T.imGroup ++ [row]) T'.imGroup :=
      hgroup ▸ hj.counted
    rw [hcounted.recounted_iff hthere]
    rcases hcounted.cases with ⟨hcounts, hsame⟩ | ⟨hcounts, hn⟩
    · rw [hsame] at htotal
      rw [hcounts, if_neg Bool.false_ne_true]
      omega
    · have htotal' := hn.totalCnt hthere
      rw [hcounts, if_pos rfl]
      omega
  · obtain ⟨hzero, htotal⟩ := hj.counted.elsewhere hgroup hrow hunused hcnt hcnt' hcount
    obtain ⟨hgroups, -⟩ := hj.counted.eq_of_totalCnt hj.uncounted htotal
    have hgroups' : T'.imGroup = T.imGroup ++ [row] := hgroups
    have hzero' : (rowsChanged T.imGroupRelation T'.imGroupRelation : Int) = 0 := hzero
    rw [hzero', hgroups']
    exact recounted_zero _ _

namespace GroupOp

theorem allOrNothing_true {op : GroupOp} {T T' : GroupTables} :
    AllOrNothing op T true T' ↔ op.InPlace T T' := by
  simp [AllOrNothing]

theorem allOrNothing_false {op : GroupOp} {T T' : GroupTables} :
    AllOrNothing op T false T' ↔ T' = T := by
  simp [AllOrNothing]

/-- `CreateGroup` is all or nothing by what becomes of its join. -/
theorem createGroup_allOrNothing_iff {o : Outcomes} {creator type : UInt32} {name avatar adesc : Bytes}
    {us : List UInt32} {group : GroupInfo} {w w' : World} {tr : List Event} {ok : Bool}
    (h : Runs (StepWith o) w (run (.createGroup creator name type avatar adesc us group)) tr ok w') :
    AllOrNothing (.createGroup creator name type avatar adesc us group) w.db.groups ok w'.db.groups ↔
      Whole o w.db.groups (.createGroup creator name type avatar adesc us group) := by
  -- the call returns the answer of a pair
  have hbind : Runs (StepWith o) w (ZAresGroupManagerImpl.createGroup creator name type avatar adesc us
      group >>= fun p => pure p.1) tr ok w' := by
    rw [bind_pure_comp]
    exact h
  obtain ⟨_, ⟨ok', group'⟩, w₁, _, hcreate, hpure, _⟩ := runs_bind.mp hbind
  obtain ⟨-, rfl, rfl⟩ := runs_pure.mp hpure
  rcases createGroup_with hcreate with ⟨hfalse, hsame, hwhy⟩ |
    ⟨key, row, hguard, hkey, hid, hunused, hname, havatar, hdesc, hcreator, htype, hcnt, info, tr',
      hinfo, hjoin⟩
  · refine iff_of_true (Or.inr ⟨hfalse, hsame⟩) fun haccepts key hkey => ?_
    rcases hwhy with hguard | hnone
    · exact absurd hguard haccepts
    · rw [hnone] at hkey
      cases hkey
  have hpresent : row.groupId ∈ (w.db.groups.imGroup ++ [row]).map (·.groupId) := by simp
  rcases joinGroup_with hjoin with ⟨hfalse, hrejects, rfl⟩ | ⟨htrue, haccepts, new, n, m, t', rfl, hj⟩
  · -- a join to the new group is rejected for an empty list, or if the id ends in 32 zero bits
    obtain rfl : ok = false := hfalse
    refine iff_of_false ?_ fun hwhole => ?_
    · rw [allOrNothing_false]
      -- the new row is there, so the tables are not as they were
      intro hsame
      have hgroups : w.db.groups.imGroup ++ [row] = w.db.groups.imGroup :=
        congrArg GroupTables.imGroup hsame
      have hlen := congrArg List.length hgroups
      rw [List.length_append, List.length_singleton] at hlen
      omega
    · obtain ⟨hlist, hnonzero, -⟩ := hwhole hguard key hkey
      exact hrejects ⟨hlist, hnonzero, hinfo.symm⟩
  obtain rfl : ok = true := htrue
  obtain ⟨hlist, hnonzero, -⟩ := haccepts
  have hentered : Entered row.groupId us
      { w.db.groups with imGroup := w.db.groups.imGroup ++ [row] } t' ↔
      if percentD key.groupId = key.val then o.JoinsWhole w.db.groups.imGroupRelation key.val us
      else o.LeavesWhole w.db.groups key us := by
    by_cases hprinted : percentD key.groupId = key.val
    · rw [if_pos hprinted, ← hid]
      rw [hprinted, ← hid] at hj
      exact hj.entered_iff hpresent
    · rw [if_neg hprinted]
      exact hj.leaves_iff hprinted hid hunused hcnt
  rw [allOrNothing_true]
  constructor
  · rintro ⟨row', -, -, -, -, -, -, hcnt', hentered'⟩
    intro _ key' hkey'
    obtain rfl : key = key' := Option.some.inj (hkey.symm.trans hkey')
    exact ⟨hlist, hnonzero, hentered.mp (hentered'.ofNew hj hcnt hcnt' hunused)⟩
  · intro hwhole
    obtain ⟨-, -, hjoins⟩ := hwhole hguard key hkey
    exact ⟨row, hunused, hname, havatar, hdesc, hcreator, htype, hcnt, hentered.mpr hjoins⟩

/-- **All or nothing**, if and only if the outcomes of the statements and the tables before the call
    are such that it is whole. -/
theorem allOrNothing_iff {o : Outcomes} {op : GroupOp} {w w' : World} {tr : List Event} {ok : Bool}
    (h : Runs (StepWith o) w op.run tr ok w') :
    AllOrNothing op w.db.groups ok w'.db.groups ↔ op.Whole o w.db.groups := by
  cases op with
  | joinGroup us g group =>
    rcases joinGroup_with h with ⟨rfl, hrejects, rfl⟩ | ⟨rfl, haccepts, new, n, m, t', rfl, hj⟩
    · exact iff_of_true (Or.inr ⟨rfl, rfl⟩) fun haccepts => absurd haccepts hrejects
    · rw [allOrNothing_true]
      apply Iff.trans hj.placed_iff
      exact ⟨fun hwhole _ => hwhole, fun hwhole => hwhole haccepts⟩
  | quitGroup r us g group =>
    rcases quitGroup_with h with ⟨rfl, hrejects, rfl⟩ | ⟨rfl, haccepts, updated, m, t', rfl, hq⟩
    · exact iff_of_true (Or.inr ⟨rfl, rfl⟩) fun haccepts => absurd haccepts hrejects
    · rw [allOrNothing_true]
      apply Iff.trans hq.placed_iff
      exact ⟨fun hwhole _ => hwhole, fun hwhole => hwhole haccepts⟩
  | createGroup creator name type avatar adesc us group => exact createGroup_allOrNothing_iff h

end GroupOp

/-! ## When everything fails -/

/-- Everything fails. -/
def Outcomes.none : Outcomes := ⟨.none, .none, false, false, false⟩

/-- A world in which the statements of these calls fail. -/
def respondFail (w : World) : (c : Cmd) → c.Answer × World
  | .group (.insertGroup _) => ((0 : UInt64), w)
  | .group (.selectStatuses _ _) => (none, w)
  | .group (.insertRelations _) | .group (.updateActivate _ _) | .group (.updateDeactivate _ _ _)
  | .group (.updateMemberCntAdd _ _) | .group (.updateMemberCntSub _ _ _) => ((-1 : Int), w)
  | c => respond w c

theorem respondFail_with (w : World) (c : Cmd) :
    StepWith .none w c (respondFail w c).1 (respondFail w c).2 := by
  have hfails : ExecuteFailed w.db.groups (-1) w.db.groups := ⟨by decide, rfl⟩
  cases c with
  | group s =>
    cases s with
    | insertGroup values => exact ⟨w.db.groups, ⟨rfl, rfl⟩, rfl⟩
    | selectStatuses groupId userIds => exact ⟨w.db.groups, ⟨rfl, rfl, nofun⟩, rfl⟩
    | insertRelations rows => exact ⟨w.db.groups, hfails, rfl⟩
    | updateActivate groupId userIds => exact ⟨w.db.groups, hfails, rfl⟩
    | updateDeactivate updated groupId userIds => exact ⟨w.db.groups, hfails, rfl⟩
    | updateMemberCntAdd n groupId => exact ⟨w.db.groups, hfails, rfl⟩
    | updateMemberCntSub n updated groupId => exact ⟨w.db.groups, hfails, rfl⟩
    | selectGroupsOf userId isFixedGroup limit =>
      exact respond_ok w (.group (.selectGroupsOf userId isFixedGroup limit))
    | selectGroupIdsOf userId isFixedGroup limit =>
      exact respond_ok w (.group (.selectGroupIdsOf userId isFixedGroup limit))
    | selectMembersIn groupIds => exact respond_ok w (.group (.selectMembersIn groupIds))
    | selectMembers groupId => exact respond_ok w (.group (.selectMembers groupId))
    | selectGroup groupId => exact respond_ok w (.group (.selectGroup groupId))
    | selectRecentGroups userId => exact respond_ok w (.group (.selectRecentGroups userId))
  | nowMSTime => exact respond_ok w .nowMSTime
  | user s => exact respond_ok w (.user s)
  | department s => exact respond_ok w (.department s)
  | contact s => exact respond_ok w (.contact s)
  | message s => exact respond_ok w (.message s)
  | file s => exact respond_ok w (.file s)
  | counter op => exact respond_ok w (.counter op)
  | sendSessionData sessionId message => exact respond_ok w (.sendSessionData sessionId message)

/-- If the INSERT of the group fails, nothing is left of the call. -/
theorem GroupOp.allOrNothing_iff_makeGroup : ∃ tr ok w',
    Runs (StepWith .none) emptyWorld (makeGroup [2]).run tr ok w' ∧
      AllOrNothing (makeGroup [2]) emptyWorld.db.groups ok w'.db.groups := by
  have hrun := exec_runs respondFail_with (makeGroup [2]).run emptyWorld
  have hwhole : (makeGroup [2]).Whole .none emptyWorld.db.groups := fun _ _ => nofun
  exact ⟨_, _, _, hrun, (GroupOp.allOrNothing_iff hrun).mpr hwhole⟩

/-- 7 joins the group of 2, every statement fails, and the answer is `true`. -/
theorem GroupOp.not_forall_allOrNothing :
    ¬∀ (o : Outcomes) (op : GroupOp) (w w' : World) (tr : List Event) (ok : Bool),
      Runs (StepWith o) w op.run tr ok w' → AllOrNothing op w.db.groups ok w'.db.groups := by
  intro h
  let join : GroupOp := .joinGroup [7] 1 { GroupInfo.new with groupId := 1 }
  have hrun := exec_runs respondFail_with join.run (madeGroup [2])
  have htrue : (join.run.exec respondFail (madeGroup [2])).2.1 = true := by decide
  have hsame : (join.run.exec respondFail (madeGroup [2])).2.2.db.groups.imGroupRelation =
      (madeGroup [2]).db.groups.imGroupRelation := by decide
  have hnot : ¬IsMember (madeGroup [2]).db.groups.imGroupRelation 1 7 := by
    unfold IsMember
    decide
  rcases h _ _ _ _ _ _ hrun with ⟨-, hplace⟩ | ⟨hfalse, -⟩
  · have hmember := Entered.members hplace 7 (List.mem_singleton_self 7)
    rw [hsame] at hmember
    exact hnot hmember
  · rw [htrue] at hfalse
    cases hfalse

end Zattd
