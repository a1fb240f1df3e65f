/-
  What joining and leaving a group do to its rows.

  The two functions ask for the status of each listed user, build the statements that are needed
  from the answer, and add the numbers of rows written.  Read as a whole, with the statuses of a
  user's rows in a group being the same:

  * a join makes every row of a listed user active, and adds active rows for each entry of the list
    whose user has none (as many as the user is listed);
  * a departure makes the active rows of the listed users inactive;

  and the number that goes to `memberCnt` is the number of rows that have become active or inactive.
-/
import Zattd.Lib.OrderedMap
import Zattd.Model.GroupManager

set_option linter.unusedVariables false

namespace Zattd

open Prog

/-- The invariant of the relations: a status is 0 or 1, and a user's rows in a group share it. -/
structure Shared (t : List RelationRow) : Prop where
  status : ∀ r ∈ t, r.status = 0 ∨ r.status = 1
  shared : ∀ r ∈ t, ∀ r' ∈ t, r.groupId = r'.groupId → r.userId = r'.userId → r.status = r'.status

/-- A membership: a row that `GetGroupMembers` selects. -/
def RelationRow.isActive (groupId : Int) (r : RelationRow) : Bool :=
  decide (r.groupId = groupId ∧ 1 ≤ r.status)

/-- The listed user has a row in the group. -/
def HasRow (t : List RelationRow) (groupId userId : Int) : Prop :=
  ∃ r ∈ t, r.groupId = groupId ∧ r.userId = userId

instance (t : List RelationRow) (groupId userId : Int) : Decidable (HasRow t groupId userId) :=
  inferInstanceAs (Decidable (∃ r ∈ t, r.groupId = groupId ∧ r.userId = userId))

namespace ZAresGroupManagerImpl

/-! ## The statuses found -/

section Statuses

variable {t rows : List RelationRow} {groupId : Int} {userIds : List UInt32}

/-- Every user found is one of the list, so his id is read back as it was printed. -/
theorem uintToString_getColumn_userId
    (h : Table.SelectsOneEach (RelationRow.isIn groupId (userIds.map uintToString)) (·.userId) t rows)
    {r : RelationRow} (hr : r ∈ rows) : uintToString (getColumn r.userId) = r.userId := by
  have hin := (h.2.1 r hr).2
  rw [RelationRow.isIn_iff] at hin
  obtain ⟨u, -, hu⟩ := List.mem_map.mp hin.2
  rw [← hu, getColumn_uintToString]

/-- `user_statuss` has an entry for each row found. -/
theorem userStatuss_getElem?
    (h : Table.SelectsOneEach (RelationRow.isIn groupId (userIds.map uintToString)) (·.userId) t rows)
    (u status : UInt32) : (userStatuss (some rows))[u]? = some status ↔
      ∃ r ∈ rows, r.userId = uintToString u ∧ getColumn r.status = status := by
  have hfold : userStatuss (some rows) =
      OrderedMap.insertAll ∅ (rows.map fun r => (getColumn r.userId, getColumn r.status)) := by
    unfold userStatuss OrderedMap.insertAll
    rw [List.foldl_map]
    rfl
  have hkeys : ((rows.map fun r => (getColumn r.userId, getColumn r.status)).map (·.1)).Nodup := by
    rw [List.map_map]
    apply List.Nodup.of_map uintToString
    rw [List.map_map]
    have hsame : rows.map (uintToString ∘ ((·.1) ∘ fun r => (getColumn r.userId, getColumn r.status))) =
        rows.map (·.userId) := List.map_congr_left fun r hr => uintToString_getColumn_userId h hr
    rw [hsame]
    exact h.1
  rw [hfold, OrderedMap.getElem?_insertAll hkeys (by simp), Std.TreeMap.getElem?_emptyc, List.mem_map]
  simp only [reduceCtorEq, false_or, Prod.mk.injEq]
  constructor
  · rintro ⟨r, hr, rfl, hstatus⟩
    exact ⟨r, hr, (uintToString_getColumn_userId h hr).symm, hstatus⟩
  · rintro ⟨r, hr, hu, hstatus⟩
    exact ⟨r, hr, by rw [hu, getColumn_uintToString], hstatus⟩

/-- A listed user is found exactly if he has a row in the group. -/
theorem userStatuss_contains
    (h : Table.SelectsOneEach (RelationRow.isIn groupId (userIds.map uintToString)) (·.userId) t rows)
    {u : UInt32} (hu : u ∈ userIds) :
    (userStatuss (some rows)).contains u = true ↔ HasRow t groupId (uintToString u) := by
  rw [Std.TreeMap.contains_eq_isSome_getElem?, Option.isSome_iff_exists]
  constructor
  · rintro ⟨status, hstatus⟩
    obtain ⟨r, hr, hru, -⟩ := (userStatuss_getElem? h u status).mp hstatus
    obtain ⟨hrt, hin⟩ := h.2.1 r hr
    exact ⟨r, hrt, (RelationRow.isIn_iff.mp hin).1, hru⟩
  · rintro ⟨r, hr, hg, hru⟩
    have hin : r.isIn groupId (userIds.map uintToString) = true :=
      RelationRow.isIn_iff.mpr ⟨hg, hru ▸ List.mem_map.mpr ⟨u, hu, rfl⟩⟩
    obtain ⟨r', hr', heq⟩ := List.mem_map.mp (h.2.2 r hr hin)
    exact ⟨_, (userStatuss_getElem? h u _).mpr ⟨r', hr', heq.trans hru, rfl⟩⟩

/-- The users listed for an update are those found with a status that satisfies `p`. -/
theorem mem_usersWithStatus
    (h : Table.SelectsOneEach (RelationRow.isIn groupId (userIds.map uintToString)) (·.userId) t rows)
    (p : UInt32 → Bool) (x : Int) : x ∈ usersWithStatus p (userStatuss (some rows)) ↔
      ∃ r ∈ rows, r.userId = x ∧ p (getColumn r.status) = true := by
  simp only [usersWithStatus, List.mem_map, List.mem_filter, Prod.exists,
    Std.TreeMap.mem_toList_iff_getElem?_eq_some, userStatuss_getElem? h]
  constructor
  · rintro ⟨u, status, ⟨⟨r, hr, hu, rfl⟩, hp⟩, rfl⟩
    exact ⟨r, hr, hu, hp⟩
  · rintro ⟨r, hr, rfl, hp⟩
    have hu := uintToString_getColumn_userId h hr
    exact ⟨_, _, ⟨⟨r, hr, hu.symm, rfl⟩, hp⟩, hu⟩

/-- One status speaks for all rows of its user, so the rows of the users listed for an update are
    the rows of listed users whose OWN status satisfies `p`. -/
theorem isIn_usersWithStatus (hshared : Shared t)
    (h : Table.SelectsOneEach (RelationRow.isIn groupId (userIds.map uintToString)) (·.userId) t rows)
    (p : UInt32 → Bool) {r : RelationRow} (hr : r ∈ t) :
    r.isIn groupId (usersWithStatus p (userStatuss (some rows))) =
      (r.isIn groupId (userIds.map uintToString) && p (getColumn r.status)) := by
  rw [Bool.eq_iff_iff, Bool.and_eq_true, RelationRow.isIn_iff, mem_usersWithStatus h]
  constructor
  · rintro ⟨hg, r', hr', hu, hp⟩
    obtain ⟨hrt', hin'⟩ := h.2.1 r' hr'
    obtain ⟨hg', hu'⟩ := RelationRow.isIn_iff.mp hin'
    have hstatus := hshared.shared r hr r' hrt' (hg.trans hg'.symm) hu.symm
    exact ⟨RelationRow.isIn_iff.mpr ⟨hg, hu ▸ hu'⟩, by rw [hstatus]; exact hp⟩
  · rintro ⟨hin, hp⟩
    obtain ⟨hg, -⟩ := RelationRow.isIn_iff.mp hin
    obtain ⟨r', hr', hu⟩ := List.mem_map.mp (h.2.2 r hr hin)
    obtain ⟨hrt', hin'⟩ := h.2.1 r' hr'
    have hg' : r.groupId = r'.groupId := hg.trans (RelationRow.isIn_iff.mp hin').1.symm
    have hstatus := hshared.shared r hr r' hrt' hg' hu.symm
    exact ⟨hg, r', hr', hu, by rw [← hstatus]; exact hp⟩

end Statuses

end ZAresGroupManagerImpl

/-! ## The effect on the tables -/

/-- `SET status = 1`. -/
def RelationRow.activate (r : RelationRow) : RelationRow := { r with status := 1 }

/-- `SET status = 0, updated = …`. -/
def RelationRow.deactivate (updated : Int) (r : RelationRow) : RelationRow :=
  { r with status := 0, updated := updated }

/-- A row of a listed user in the group, with the status given. -/
def RelationRow.isInWith (status groupId : Int) (userIds : List Int) (r : RelationRow) : Bool :=
  r.isIn groupId userIds && decide (r.status = status)

@[simp] theorem RelationRow.isInWith_iff {status groupId : Int} {userIds : List Int}
    {r : RelationRow} : r.isInWith status groupId userIds = true ↔
      (r.groupId = groupId ∧ r.userId ∈ userIds) ∧ r.status = status := by
  rw [isInWith, Bool.and_eq_true, isIn_iff, decide_eq_true_iff]

theorem RelationRow.status_of_isInWith {status groupId : Int} {userIds : List Int} {r : RelationRow}
    (h : r.isInWith status groupId userIds = true) : r.status = status :=
  (isInWith_iff.mp h).2

/-- The group's `memberCnt`, and no other, has grown by `n`. -/
def Recounted (groupId n : Int) (t t' : List GroupRow) : Prop :=
  ∃ f k, (∀ g : GroupRow, (f g).groupId = g.groupId ∧ (f g).memberCnt = g.memberCnt + n) ∧
    Table.UpdatesLimit (fun g => decide (g.groupId = groupId)) f 1 t k t'

theorem recounted_add {groupId n m : Int} {t t' : List GroupRow} {k : Nat} (hn : n = m)
    (h : Table.UpdatesLimit (fun g => decide (g.groupId = groupId))
      (fun g => { g with memberCnt := g.memberCnt + n }) 1 t k t') : Recounted groupId m t t' := by
  subst hn
  refine ⟨_, k, ?_, h⟩
  intro g
  exact ⟨rfl, rfl⟩

theorem recounted_sub {groupId updated n m : Int} {t t' : List GroupRow} {k : Nat} (hn : n = m)
    (h : Table.UpdatesLimit (fun g => decide (g.groupId = groupId))
      (fun g => { g with memberCnt := g.memberCnt - n, updated := updated }) 1 t k t') :
    Recounted groupId (-m) t t' := by
  subst hn
  refine ⟨_, k, ?_, h⟩
  intro g
  exact ⟨rfl, Int.sub_eq_add_neg⟩

/-- `new` are rows for the listed users that have none: one for each time such a user is listed. -/
structure Newcomers (groupId : Int) (userIds : List Int) (t new : List RelationRow) : Prop where
  users : new.map (·.userId) = userIds.filter fun userId => decide (¬HasRow t groupId userId)
  rows : ∀ r ∈ new, r.groupId = groupId ∧ r.status = 1

/-- What an accepted `JoinGroup` does to the tables, `new` being the rows it inserts. -/
structure Joined (groupId : Int) (userIds : List Int) (new : List RelationRow)
    (t t' : GroupTables) : Prop where
  newcomers : Newcomers groupId userIds t.imGroupRelation new
  relations : t'.imGroupRelation =
    Table.updateAll (RelationRow.isInWith 0 groupId userIds) RelationRow.activate
      t.imGroupRelation ++ new
  counted : Recounted groupId
    (new.length + t.imGroupRelation.countP (RelationRow.isInWith 0 groupId userIds))
    t.imGroup t'.imGroup

/-- What an accepted `QuitGroup` does to the tables, at the time `updated`. -/
structure Departed (groupId : Int) (userIds : List Int) (updated : Int)
    (t t' : GroupTables) : Prop where
  relations : t'.imGroupRelation =
    Table.updateAll (RelationRow.isInWith 1 groupId userIds) (RelationRow.deactivate updated)
      t.imGroupRelation
  counted : Recounted groupId
    (-(t.imGroupRelation.countP (RelationRow.isInWith 1 groupId userIds) : Int))
    t.imGroup t'.imGroup

namespace ZAresGroupManagerImpl

section Effects

variable {w w' : World} {tr : List Event} {groupId : Int}

/-- The INSERT, which is left out when there is nothing to insert. -/
theorem insertRelations_runs {relations : List RelationValues} {n : Int}
    (h : Runs StepOk w (if relations = [] then pure 0
      else issue (.group (.insertRelations relations)) : Server Int) tr n w') :
    ∃ new t', w' = w.setGroups t' ∧ t'.imGroup = w.db.groups.imGroup ∧
      t'.imGroupRelation = w.db.groups.imGroupRelation ++ new ∧ n = relations.length ∧
      Table.NewRows (·.id) RelationValues.row relations w.db.groups.imGroupRelation new := by
  rcases runs_optional.mp h with ⟨rfl, -, rfl, rfl⟩ | ⟨-, hissue⟩
  · exact ⟨[], w'.db.groups, rfl, rfl, by simp, rfl, List.nodup_nil, by simp, .nil⟩
  · obtain ⟨⟨t', ⟨hgroups, keys, hins, rfl⟩, rfl⟩, -⟩ := runs_issue.mp hissue
    obtain ⟨new, hnew, hrows⟩ := hins.newRows fun _ _ => rfl
    exact ⟨new, t', rfl, hgroups, hnew, rfl, hrows⟩

/-- No row is one of a user of the empty list. -/
theorem isIn_nil (r : RelationRow) : r.isIn groupId [] = false := by
  simp [RelationRow.isIn]

theorem updateAll_isIn_nil (f : RelationRow → RelationRow) (t : List RelationRow) :
    Table.updateAll (RelationRow.isIn groupId []) f t = t := by
  apply Table.updateAll_eq_self
  intro r _ hin
  rw [isIn_nil] at hin
  cases hin

theorem changed_isIn_nil (f : RelationRow → RelationRow) (t : List RelationRow) :
    Table.changed (RelationRow.isIn groupId []) f t = 0 :=
  Table.changed_eq_zero fun r _ => isIn_nil r

/-- The UPDATE of `JoinGroup`, which is left out when there is nothing to activate. -/
theorem updateActivate_runs {userIds : List Int} {n : Int}
    (h : Runs StepOk w (if userIds = [] then pure 0
      else issue (.group (.updateActivate groupId userIds)) : Server Int) tr n w') :
    ∃ t', w' = w.setGroups t' ∧ t'.imGroup = w.db.groups.imGroup ∧
      t'.imGroupRelation = Table.updateAll (RelationRow.isIn groupId userIds) RelationRow.activate
        w.db.groups.imGroupRelation ∧
      n = Table.changed (RelationRow.isIn groupId userIds) RelationRow.activate
        w.db.groups.imGroupRelation := by
  rcases runs_optional.mp h with ⟨rfl, -, rfl, rfl⟩ | ⟨-, hissue⟩
  · exact ⟨w'.db.groups, rfl, rfl, (updateAll_isIn_nil _ _).symm, by rw [changed_isIn_nil]; rfl⟩
  · obtain ⟨⟨t', ⟨hgroups, hrel, rfl⟩, rfl⟩, -⟩ := runs_issue.mp hissue
    exact ⟨t', rfl, hgroups, hrel, rfl⟩

/-- The UPDATE of `QuitGroup`, which is left out when there is nothing to deactivate. -/
theorem updateDeactivate_runs {userIds : List Int} {updated n : Int}
    (h : Runs StepOk w (if userIds = [] then pure 0
      else issue (.group (.updateDeactivate updated groupId userIds)) : Server Int) tr n w') :
    ∃ t', w' = w.setGroups t' ∧ t'.imGroup = w.db.groups.imGroup ∧
      t'.imGroupRelation = Table.updateAll (RelationRow.isIn groupId userIds)
        (RelationRow.deactivate updated) w.db.groups.imGroupRelation ∧
      n = Table.changed (RelationRow.isIn groupId userIds) (RelationRow.deactivate updated)
        w.db.groups.imGroupRelation := by
  rcases runs_optional.mp h with ⟨rfl, -, rfl, rfl⟩ | ⟨-, hissue⟩
  · exact ⟨w'.db.groups, rfl, rfl, (updateAll_isIn_nil _ _).symm, by rw [changed_isIn_nil]; rfl⟩
  · obtain ⟨⟨t', ⟨hgroups, hrel, rfl⟩, rfl⟩, -⟩ := runs_issue.mp hissue
    exact ⟨t', rfl, hgroups, hrel, rfl⟩

/-- The rows the INSERT of `JoinGroup` adds are the newcomers. -/
theorem newRelations_newcomers {t rows new : List RelationRow} {userIds : List UInt32}
    {g now : UInt32} {group : GroupInfo} (hids : ∀ u ∈ userIds, u.toNat < 2 ^ 31)
    (h : Table.SelectsOneEach (RelationRow.isIn (percentD g) (userIds.map uintToString)) (·.userId)
      t rows)
    (hnew : Table.NewRows (·.id) RelationValues.row
      (newRelations (userStatuss (some rows)) userIds g group now) t new) :
    Newcomers (percentD g) (userIds.map uintToString) t new := by
  constructor
  · have hfound : ∀ u ∈ userIds, (!(userStatuss (some rows)).contains u) =
        decide (¬HasRow t (percentD g) (uintToString u)) := by
      intro u hu
      rw [Bool.eq_iff_iff, Bool.not_eq_true', ← Bool.not_eq_true, userStatuss_contains h hu,
        decide_eq_true_iff]
    have husers : new.map (·.userId) =
        (newRelations (userStatuss (some rows)) userIds g group now).map (·.userId) :=
      hnew.map_eq fun _ _ => rfl
    rw [husers, newRelations, List.map_map, List.filter_congr hfound, List.filter_map]
    apply List.map_congr_left
    intro u hu
    -- below 2^31 the INSERT prints a user as the query did
    exact percentD_eq (hids u (List.mem_of_mem_filter hu))
  · have hpairs : new.map (fun r => (r.groupId, r.status)) =
        (newRelations (userStatuss (some rows)) userIds g group now).map fun v => (v.groupId, 1) :=
      hnew.map_eq fun _ _ => rfl
    intro r hr
    have hpair : (r.groupId, r.status) ∈ new.map fun r => (r.groupId, r.status) :=
      List.mem_map.mpr ⟨r, hr, rfl⟩
    rw [hpairs] at hpair
    obtain ⟨v, hv, heq⟩ := List.mem_map.mp hpair
    obtain ⟨u, -, rfl⟩ := List.mem_map.mp hv
    exact Prod.mk.inj heq.symm

/-- The users listed for the UPDATE of `JoinGroup` stand for the inactive rows. -/
theorem isIn_inactive {t rows : List RelationRow} {userIds : List UInt32} (hshared : Shared t)
    (h : Table.SelectsOneEach (RelationRow.isIn groupId (userIds.map uintToString)) (·.userId) t rows)
    {r : RelationRow} (hr : r ∈ t) :
    r.isIn groupId (usersWithStatus (fun status => decide (status = 0)) (userStatuss (some rows))) =
      r.isInWith 0 groupId (userIds.map uintToString) := by
  rw [isIn_usersWithStatus hshared h _ hr, RelationRow.isInWith]
  rcases hshared.status r hr with h0 | h1
  · rw [h0]; rfl
  · rw [h1]; rfl

/-- The users listed for the UPDATE of `QuitGroup` stand for the active rows. -/
theorem isIn_active {t rows : List RelationRow} {userIds : List UInt32} (hshared : Shared t)
    (h : Table.SelectsOneEach (RelationRow.isIn groupId (userIds.map uintToString)) (·.userId) t rows)
    {r : RelationRow} (hr : r ∈ t) :
    r.isIn groupId (usersWithStatus (fun status => decide (status ≠ 0)) (userStatuss (some rows))) =
      r.isInWith 1 groupId (userIds.map uintToString) := by
  rw [isIn_usersWithStatus hshared h _ hr, RelationRow.isInWith]
  rcases hshared.status r hr with h0 | h1
  · rw [h0]; rfl
  · rw [h1]; rfl

/-- The newcomers are not touched by the UPDATE: its users have rows. -/
theorem isIn_newcomer {t rows new : List RelationRow} {userIds : List UInt32}
    {p : UInt32 → Bool}
    (h : Table.SelectsOneEach (RelationRow.isIn groupId (userIds.map uintToString)) (·.userId) t rows)
    (hnew : Newcomers groupId (userIds.map uintToString) t new) {r : RelationRow} (hr : r ∈ new) :
    r.isIn groupId (usersWithStatus p (userStatuss (some rows))) = false := by
  rw [← Bool.not_eq_true, RelationRow.isIn_iff, mem_usersWithStatus h]
  rintro ⟨-, r', hr', hu, -⟩
  have hfilter : r.userId ∈ new.map (·.userId) := List.mem_map.mpr ⟨r, hr, rfl⟩
  rw [hnew.users, List.mem_filter, decide_eq_true_iff] at hfilter
  obtain ⟨hrt', hin'⟩ := h.2.1 r' hr'
  exact hfilter.2 ⟨r', hrt', (RelationRow.isIn_iff.mp hin').1, hu⟩

/-- The guards of `JoinGroup` let the call pass. -/
def JoinAccepts (userIds : List UInt32) (groupId : UInt32) (group : GroupInfo) : Prop :=
  userIds ≠ [] ∧ groupId ≠ 0 ∧ groupId = group.groupId

/-- The guards of `QuitGroup` let the call pass. -/
def QuitAccepts (requestUserId : UInt32) (quitUserIds : List UInt32) (groupId : UInt32)
    (group : GroupInfo) : Prop :=
  quitUserIds ≠ [] ∧ groupId ≠ 0 ∧ requestUserId ≠ 0 ∧ requestUserId = group.groupCreatorId ∧
    groupId = group.groupId

section Commands

variable {step : World → (c : Cmd) → c.Answer → World → Prop} {ok : Bool}

/-- The commands of `JoinGroup`, whatever comes of them: none if its guards reject the call. -/
theorem joinGroup_commands {userIds : List UInt32} {g : UInt32} {group : GroupInfo}
    (h : Runs step w (joinGroup userIds g group) tr ok w') :
    ok = false ∧ ¬JoinAccepts userIds g group ∧ w' = w ∨
      ok = true ∧ JoinAccepts userIds g group ∧
        ∃ now answ n m k w₁ w₂ w₃ w₄ tr₁ tr₂, ∃ relations inactive,
          relations = newRelations (userStatuss answ) userIds g group (UInt64.toUInt32 now) ∧
          inactive = usersWithStatus (fun status => decide (status = 0)) (userStatuss answ) ∧
          step w .nowMSTime now w₁ ∧
          step w₁ (.group (.selectStatuses (percentD g) (userIds.map uintToString))) answ w₂ ∧
          Runs step w₂ (if relations = [] then pure 0
            else issue (.group (.insertRelations relations)) : Server Int) tr₁ n w₃ ∧
          Runs step w₃ (if inactive = [] then pure 0
            else issue (.group (.updateActivate (percentD g) inactive)) : Server Int) tr₂ m w₄ ∧
          step w₄ (.group (.updateMemberCntAdd (n + m) (percentD g))) k w' ∧
          tr = ⟨.nowMSTime, now⟩ ::
            ⟨.group (.selectStatuses (percentD g) (userIds.map uintToString)), answ⟩ ::
            (tr₁ ++ (tr₂ ++ [⟨.group (.updateMemberCntAdd (n + m) (percentD g)), k⟩])) := by
  unfold joinGroup at h
  by_cases hnone : userIds = [] ∨ g = 0
  · rw [if_pos hnone] at h
    obtain ⟨-, rfl, rfl⟩ := runs_pure.mp h
    exact Or.inl ⟨rfl, fun haccepts => not_or.mpr ⟨haccepts.1, haccepts.2.1⟩ hnone, rfl⟩
  by_cases hother : g ≠ group.groupId
  · rw [if_neg hnone, if_pos hother] at h
    obtain ⟨-, rfl, rfl⟩ := runs_pure.mp h
    exact Or.inl ⟨rfl, fun haccepts => hother haccepts.2.2, rfl⟩
  have haccepts : JoinAccepts userIds g group := by
    obtain ⟨hlist, hid⟩ := not_or.mp hnone
    exact ⟨hlist, hid, not_not.mp hother⟩
  simp only [if_neg hnone, if_neg hother, runs_bind, runs_issue] at h
  obtain ⟨_, now, w₁, _, ⟨hclock, rfl⟩, h, rfl⟩ := h
  obtain ⟨_, answ, w₂, _, ⟨hquery, rfl⟩, h, rfl⟩ := h
  obtain ⟨tr₁, n, w₃, _, hinsert, h, rfl⟩ := h
  obtain ⟨tr₂, m, w₄, _, hupdate, h, rfl⟩ := h
  obtain ⟨_, k, w₅, _, ⟨hcount, rfl⟩, h, rfl⟩ := h
  obtain ⟨rfl, rfl, rfl⟩ := runs_pure.mp h
  exact Or.inr ⟨rfl, haccepts, now, answ, n, m, k, w₁, w₂, w₃, w₄, tr₁, tr₂, _, _, rfl, rfl, hclock,
    hquery, hinsert, hupdate, hcount, rfl⟩

/-- The commands of `QuitGroup`, whatever comes of them: none if its guards reject the call. -/
theorem quitGroup_commands {userIds : List UInt32} {requestUserId g : UInt32} {group : GroupInfo}
    (h : Runs step w (quitGroup requestUserId userIds g group) tr ok w') :
    ok = false ∧ ¬QuitAccepts requestUserId userIds g group ∧ w' = w ∨
      ok = true ∧ QuitAccepts requestUserId userIds g group ∧
        ∃ now answ m k w₁ w₂ w₃ tr₁, ∃ active updated,
          active = usersWithStatus (fun status => decide (status ≠ 0)) (userStatuss answ) ∧
          updated = percentD (UInt64.toUInt32 now) ∧
          step w .nowMSTime now w₁ ∧
          step w₁ (.group (.selectStatuses (percentD g) (userIds.map uintToString))) answ w₂ ∧
          Runs step w₂ (if active = [] then pure 0
            else issue (.group (.updateDeactivate updated (percentD g) active)) : Server Int) tr₁ m w₃ ∧
          step w₃ (.group (.updateMemberCntSub m updated (percentD g))) k w' ∧
          tr = ⟨.nowMSTime, now⟩ ::
            ⟨.group (.selectStatuses (percentD g) (userIds.map uintToString)), answ⟩ ::
            (tr₁ ++ [⟨.group (.updateMemberCntSub m updated (percentD g)), k⟩]) := by
  unfold quitGroup at h
  by_cases hnone : userIds = [] ∨ g = 0 ∨ requestUserId = 0 ∨ g = 0
  · rw [if_pos hnone] at h
    obtain ⟨-, rfl, rfl⟩ := runs_pure.mp h
    refine Or.inl ⟨rfl, ?_, rfl⟩
    rintro ⟨hlist, hg, hr, -, -⟩
    tauto
  by_cases hother : requestUserId ≠ group.groupCreatorId ∨ g ≠ group.groupId
  · rw [if_neg hnone, if_pos hother] at h
    obtain ⟨-, rfl, rfl⟩ := runs_pure.mp h
    refine Or.inl ⟨rfl, ?_, rfl⟩
    rintro ⟨-, -, -, hcreator, hid⟩
    tauto
  have haccepts : QuitAccepts requestUserId userIds g group := by
    simp only [not_or, not_not] at hnone hother
    exact ⟨hnone.1, hnone.2.1, hnone.2.2.1, hother⟩
  simp only [if_neg hnone, if_neg hother, runs_bind, runs_issue] at h
  obtain ⟨_, now, w₁, _, ⟨hclock, rfl⟩, h, rfl⟩ := h
  obtain ⟨_, answ, w₂, _, ⟨hquery, rfl⟩, h, rfl⟩ := h
  obtain ⟨tr₁, m, w₃, _, hupdate, h, rfl⟩ := h
  obtain ⟨_, k, w₄, _, ⟨hcount, rfl⟩, h, rfl⟩ := h
  obtain ⟨rfl, rfl, rfl⟩ := runs_pure.mp h
  exact Or.inr ⟨rfl, haccepts, now, answ, m, k, w₁, w₂, w₃, tr₁, _, _, rfl, rfl, hclock, hquery,
    hupdate, hcount, rfl⟩

end Commands

/-- **`JoinGroup`**: a call that its guards reject changes nothing, an accepted one joins. -/
theorem joinGroup_runs {userIds : List UInt32} {g : UInt32} {group : GroupInfo} {ok : Bool}
    (hshared : Shared w.db.groups.imGroupRelation) (hids : ∀ u ∈ userIds, u.toNat < 2 ^ 31)
    (h : Runs StepOk w (joinGroup userIds g group) tr ok w') :
    ok = false ∧ ¬JoinAccepts userIds g group ∧ w' = w ∨
      ok = true ∧ JoinAccepts userIds g group ∧ ∃ new t', w' = w.setGroups t' ∧
        Joined (percentD g) (userIds.map uintToString) new w.db.groups t' := by
  rcases joinGroup_commands h with hrejected | ⟨rfl, haccepts, now, answ, n, m, k, w₁, w₂, w₃, w₄, _, _,
    relations, inactive, rfl, rfl, hclock, hquery, hinsert, hupdate, hcount, -⟩
  · exact Or.inl hrejected
  obtain rfl : w₁ = w := hclock
  obtain ⟨_, ⟨rfl, rows, hrows, rfl⟩, rfl⟩ := hquery
  obtain ⟨t', ⟨hrel, k, hcount, -⟩, rfl⟩ := hcount
  obtain ⟨new, t₂, rfl, hgroups₂, hrel₂, rfl, hvalues⟩ := insertRelations_runs hinsert
  obtain ⟨t₃, rfl, hgroups₃, hrel₃, rfl⟩ := updateActivate_runs hupdate
  have hnew := newRelations_newcomers hids hrows hvalues
  have hlen : new.length = (newRelations (userStatuss (some rows)) userIds g group
      (UInt64.toUInt32 now)).length := hvalues.rows.length_eq.symm
  -- the UPDATE runs on the old rows and the new ones, and finds only old ones
  have hwritten : t₃.imGroupRelation =
      Table.updateAll (RelationRow.isInWith 0 (percentD g) (userIds.map uintToString))
        RelationRow.activate w₁.db.groups.imGroupRelation ++ new := by
    rw [hrel₃]
    show Table.updateAll _ _ t₂.imGroupRelation = _
    rw [hrel₂, Table.updateAll_append]
    congr 1
    · exact Table.updateAll_congr fun r hr => isIn_inactive hshared hrows hr
    · apply Table.updateAll_eq_self
      intro r hr hin
      rw [isIn_newcomer hrows hnew hr] at hin
      cases hin
  have hchanged : Table.changed (RelationRow.isIn (percentD g)
      (usersWithStatus (fun status => decide (status = 0)) (userStatuss (some rows))))
      RelationRow.activate t₂.imGroupRelation =
      w₁.db.groups.imGroupRelation.countP
        (RelationRow.isInWith 0 (percentD g) (userIds.map uintToString)) := by
    have hnone : Table.changed (RelationRow.isIn (percentD g)
        (usersWithStatus (fun status => decide (status = 0)) (userStatuss (some rows))))
        RelationRow.activate new = 0 := Table.changed_eq_zero fun r hr => isIn_newcomer hrows hnew hr
    rw [hrel₂, Table.changed_append, hnone, Nat.add_zero]
    refine Table.changed_eq_countP (fun r hr => isIn_inactive hshared hrows hr) fun r _ hin => ?_
    have hstatus : r.status = 0 := RelationRow.status_of_isInWith hin
    intro heq
    have hactive : r.status = 1 := congrArg RelationRow.status heq.symm
    omega
  have hgroups : t₃.imGroup = w₁.db.groups.imGroup := hgroups₃.trans hgroups₂
  have hcounted : Recounted (percentD g) (new.length + w₁.db.groups.imGroupRelation.countP
      (RelationRow.isInWith 0 (percentD g) (userIds.map uintToString))) t₃.imGroup t'.imGroup := by
    refine recounted_add ?_ hcount
    rw [hlen, ← hchanged]
    rfl
  exact Or.inr ⟨rfl, haccepts, new, t', rfl, hnew, hrel.trans hwritten, hgroups ▸ hcounted⟩

/-- **`QuitGroup`**: a call that its guards reject changes nothing, an accepted one is a request of
    the group's creator and removes. -/
theorem quitGroup_runs {userIds : List UInt32} {requestUserId g : UInt32} {group : GroupInfo}
    {ok : Bool} (hshared : Shared w.db.groups.imGroupRelation)
    (h : Runs StepOk w (quitGroup requestUserId userIds g group) tr ok w') :
    ok = false ∧ ¬QuitAccepts requestUserId userIds g group ∧ w' = w ∨
      ok = true ∧ QuitAccepts requestUserId userIds g group ∧ ∃ updated t', w' = w.setGroups t' ∧
        Departed (percentD g) (userIds.map uintToString) updated w.db.groups t' := by
  rcases quitGroup_commands h with hrejected | ⟨rfl, haccepts, now, answ, m, k, w₁, w₂, w₃, _, active,
    updated, rfl, rfl, hclock, hquery, hupdate, hcount, -⟩
  · exact Or.inl hrejected
  obtain rfl : w₁ = w := hclock
  obtain ⟨_, ⟨rfl, rows, hrows, rfl⟩, rfl⟩ := hquery
  obtain ⟨t', ⟨hrel, k, hcount, -⟩, rfl⟩ := hcount
  obtain ⟨t₂, rfl, hgroups₂, hrel₂, rfl⟩ := updateDeactivate_runs hupdate
  have hfound : ∀ r ∈ w₁.db.groups.imGroupRelation, r.isIn (percentD g)
      (usersWithStatus (fun status => decide (status ≠ 0)) (userStatuss (some rows))) =
      r.isInWith 1 (percentD g) (userIds.map uintToString) :=
    fun r hr => isIn_active hshared hrows hr
  have hchanged : Table.changed (RelationRow.isIn (percentD g)
      (usersWithStatus (fun status => decide (status ≠ 0)) (userStatuss (some rows))))
      (RelationRow.deactivate (percentD (UInt64.toUInt32 now))) w₁.db.groups.imGroupRelation =
      w₁.db.groups.imGroupRelation.countP
        (RelationRow.isInWith 1 (percentD g) (userIds.map uintToString)) := by
    apply Table.changed_eq_countP hfound
    intro r _ hin
    have hstatus : r.status = 1 := RelationRow.status_of_isInWith hin
    intro heq
    have hinactive : r.status = 0 := congrArg RelationRow.status heq.symm
    omega
  have hcounted : Recounted (percentD g) (-(w₁.db.groups.imGroupRelation.countP
      (RelationRow.isInWith 1 (percentD g) (userIds.map uintToString)) : Int))
      t₂.imGroup t'.imGroup := by
    refine recounted_sub ?_ hcount
    rw [← hchanged]
    rfl
  have hwritten := hrel.trans (hrel₂.trans (Table.updateAll_congr hfound))
  exact Or.inr ⟨rfl, haccepts, _, t', rfl, hwritten, hgroups₂ ▸ hcounted⟩

end Effects

end ZAresGroupManagerImpl

/-! ## What the writes keep -/

section Keep

variable {groupId updated : Int} {userIds : List Int} {t t' new : List RelationRow}
  {T T' : GroupTables}

/-- An update that goes by group, user and status writes all rows of a user or none. -/
theorem Shared.update (hs : Shared t) {status : Int} {f : RelationRow → RelationRow} {v : Int}
    (hv : v = 0 ∨ v = 1)
    (hf : ∀ r, (f r).groupId = r.groupId ∧ (f r).userId = r.userId ∧ (f r).status = v) :
    Shared (Table.updateAll (RelationRow.isInWith status groupId userIds) f t) := by
  constructor
  · intro r' hr'
    obtain ⟨r, hr, rfl⟩ := Table.mem_updateAll.mp hr'
    split
    · rw [(hf r).2.2]; exact hv
    · exact hs.status r hr
  · intro r₁' hr₁' r₂' hr₂' hg hu
    obtain ⟨r₁, hr₁, rfl⟩ := Table.mem_updateAll.mp hr₁'
    obtain ⟨r₂, hr₂, rfl⟩ := Table.mem_updateAll.mp hr₂'
    have hkey : ∀ r : RelationRow, (if r.isInWith status groupId userIds then f r else r).groupId = r.groupId ∧
        (if r.isInWith status groupId userIds then f r else r).userId = r.userId := by
      intro r
      split
      · exact ⟨(hf r).1, (hf r).2.1⟩
      · exact ⟨rfl, rfl⟩
    rw [(hkey r₁).1, (hkey r₂).1] at hg
    rw [(hkey r₁).2, (hkey r₂).2] at hu
    have hstatus := hs.shared r₁ hr₁ r₂ hr₂ hg hu
    have hsame : r₁.isInWith status groupId userIds = r₂.isInWith status groupId userIds := by
      rw [Bool.eq_iff_iff, RelationRow.isInWith_iff, RelationRow.isInWith_iff, hg, hu, hstatus]
    rw [hsame]
    split
    · rw [(hf r₁).2.2, (hf r₂).2.2]
    · exact hstatus

theorem Newcomers.mem (h : Newcomers groupId userIds t new) {r : RelationRow} (hr : r ∈ new) :
    r.groupId = groupId ∧ r.userId ∈ userIds ∧ r.status = 1 ∧ ¬HasRow t groupId r.userId := by
  have huser : r.userId ∈ new.map (·.userId) := List.mem_map.mpr ⟨r, hr, rfl⟩
  rw [h.users, List.mem_filter, decide_eq_true_iff] at huser
  exact ⟨(h.rows r hr).1, huser.1, (h.rows r hr).2, huser.2⟩

/-- Newcomers have no rows but their own, all of them active. -/
theorem Newcomers.shared (h : Newcomers groupId userIds t new) (hs : Shared t')
    (hkeys : ∀ u, HasRow t' groupId u → HasRow t groupId u) : Shared (t' ++ new) := by
  have hapart : ∀ r ∈ t', ∀ r' ∈ new, r.groupId = r'.groupId → r.userId ≠ r'.userId := by
    intro r hr r' hr' hg hu
    obtain ⟨hg', -, -, hnone⟩ := h.mem hr'
    exact hnone (hkeys _ ⟨r, hr, hg.trans hg', hu⟩)
  constructor
  · intro r hr
    rcases List.mem_append.mp hr with hold | hnew
    · exact hs.status r hold
    · exact Or.inr (h.mem hnew).2.2.1
  · intro r hr r' hr' hg hu
    rcases List.mem_append.mp hr with hold | hnew
    · rcases List.mem_append.mp hr' with hold' | hnew'
      · exact hs.shared r hold r' hold' hg hu
      · exact absurd hu (hapart r hold r' hnew' hg)
    · rcases List.mem_append.mp hr' with hold' | hnew'
      · exact absurd hu.symm (hapart r' hold' r hnew hg.symm)
      · rw [(h.mem hnew).2.2.1, (h.mem hnew').2.2.1]

theorem Joined.shared (h : Joined groupId userIds new T T') (hs : Shared T.imGroupRelation) :
    Shared T'.imGroupRelation := by
  rw [h.relations]
  refine h.newcomers.shared (hs.update (Or.inr rfl) fun r => ⟨rfl, rfl, rfl⟩) ?_
  rintro u ⟨r', hr', hg, hu⟩
  obtain ⟨r, hr, rfl⟩ := Table.mem_updateAll.mp hr'
  refine ⟨r, hr, ?_, ?_⟩
  · rw [← hg]; split <;> rfl
  · rw [← hu]; split <;> rfl

theorem Departed.shared (h : Departed groupId userIds updated T T')
    (hs : Shared T.imGroupRelation) : Shared T'.imGroupRelation := by
  rw [h.relations]
  exact hs.update (Or.inl rfl) fun r => ⟨rfl, rfl, rfl⟩

/-- Rows of other groups and of users outside the list stay as they are. -/
theorem filter_update {status : Int} {f : RelationRow → RelationRow}
    (hf : ∀ r, (f r).groupId = r.groupId ∧ (f r).userId = r.userId) :
    (Table.updateAll (RelationRow.isInWith status groupId userIds) f t).filter
      (fun r => !r.isIn groupId userIds) = t.filter fun r => !r.isIn groupId userIds := by
  apply Table.filter_updateAll t
  intro r hr
  have hin := (RelationRow.isInWith_iff.mp hr).1
  have hin' : (f r).groupId = groupId ∧ (f r).userId ∈ userIds := by
    rw [(hf r).1, (hf r).2]; exact hin
  rw [RelationRow.isIn_iff.mpr hin, RelationRow.isIn_iff.mpr hin']
  exact ⟨rfl, rfl⟩

theorem Joined.frame (h : Joined groupId userIds new T T') :
    T'.imGroupRelation.filter (fun r => !r.isIn groupId userIds) =
      T.imGroupRelation.filter fun r => !r.isIn groupId userIds := by
  have hnew : new.filter (fun r => !r.isIn groupId userIds) = [] := by
    apply List.filter_eq_nil_iff.mpr
    intro r hr
    obtain ⟨hg, hu, -⟩ := h.newcomers.mem hr
    simp [RelationRow.isIn, hg, hu]
  rw [h.relations, List.filter_append, hnew, List.append_nil]
  exact filter_update fun r => ⟨rfl, rfl⟩

theorem Departed.frame (h : Departed groupId userIds updated T T') :
    T'.imGroupRelation.filter (fun r => !r.isIn groupId userIds) =
      T.imGroupRelation.filter fun r => !r.isIn groupId userIds := by
  rw [h.relations]
  exact filter_update fun r => ⟨rfl, rfl⟩

/-- The rows of other groups stay as they are. -/
theorem Recounted.frame {n : Int} {g g' : List GroupRow} (h : Recounted groupId n g g') :
    g'.filter (fun row => decide (row.groupId ≠ groupId)) =
      g.filter fun row => decide (row.groupId ≠ groupId) := by
  obtain ⟨f, k, hf, m, htouch, -⟩ := h
  apply htouch.filter
  intro row hrow
  have hid : row.groupId = groupId := of_decide_eq_true hrow
  have hid' : (f row).groupId = groupId := (hf row).1.trans hid
  exact ⟨decide_eq_false (not_not_intro hid), decide_eq_false (not_not_intro hid')⟩

end Keep

/-! ## The sum of the counts -/

/-- The sum of the counts. -/
def totalCnt (t : List GroupRow) : Int := (t.map (·.memberCnt)).sum

/-- A count that has changed shows in the sum. -/
theorem Recounted.totalCnt {groupId n : Int} {t t' : List GroupRow} (h : Recounted groupId n t t')
    (hpresent : groupId ∈ t.map (·.groupId)) : Zattd.totalCnt t' = Zattd.totalCnt t + n := by
  obtain ⟨f, k, hf, m, htouch, hm⟩ := h
  obtain ⟨g, hg, hid⟩ := List.mem_map.mp hpresent
  have hpos : 0 < t.countP fun g => decide (g.groupId = groupId) :=
    List.countP_pos_iff.mpr ⟨g, hg, decide_eq_true hid⟩
  have hone : m = 1 := by omega
  have hsum : ∀ {t t' : List GroupRow} {m k : Nat},
      Table.Touch (fun g => decide (g.groupId = groupId)) f t m k t' →
      Zattd.totalCnt t' = Zattd.totalCnt t + m * n := by
    intro t t' m k htouch
    induction htouch with
    | nil => simp [Zattd.totalCnt]
    | leave _ ih =>
      simp only [Zattd.totalCnt, List.map_cons, List.sum_cons] at ih ⊢
      omega
    | @hit r t t' m k _ _ ih =>
      simp only [Zattd.totalCnt, List.map_cons, List.sum_cons, (hf r).2] at ih ⊢
      push_cast
      rw [ih]
      ring
  rw [hsum htouch, hone]
  simp

/-- Nothing is counted in a group that is not there. -/
theorem Recounted.absent {groupId n : Int} {t t' : List GroupRow} (h : Recounted groupId n t t')
    (habsent : groupId ∉ t.map (·.groupId)) : t' = t := by
  obtain ⟨f, k, -, hupdate⟩ := h
  have hnone : ∀ g ∈ t, decide (g.groupId = groupId) = false := by
    intro g hg
    refine decide_eq_false fun hid => habsent ?_
    rw [← hid]
    exact List.mem_map_of_mem hg
  have hcount : t.countP (fun g => decide (g.groupId = groupId)) = 0 :=
    List.countP_eq_zero.mpr fun g hg => by rw [hnone g hg]; exact Bool.false_ne_true
  obtain ⟨rfl, -⟩ := hupdate.all (by omega)
  exact Table.updateAll_eq_self fun g hg hid => absurd hid (by rw [hnone g hg]; exact Bool.false_ne_true)

/-- The counts of other groups stay as they are. -/
theorem Recounted.others {groupId other n : Int} {t t' : List GroupRow} (h : Recounted groupId n t t')
    (hne : groupId ≠ other) : t'.filter (fun g => decide (g.groupId = other)) =
      t.filter fun g => decide (g.groupId = other) := by
  obtain ⟨f, k, hf, m, htouch, -⟩ := h
  apply htouch.filter
  intro g hg
  have hid : g.groupId = groupId := of_decide_eq_true hg
  have hid' : (f g).groupId = groupId := (hf g).1.trans hid
  exact ⟨decide_eq_false (hid ▸ hne), decide_eq_false (hid' ▸ hne)⟩

/-- The counts of one group and those of the others. -/
theorem totalCnt_split (groupId : Int) (t : List GroupRow) :
    totalCnt t = totalCnt (t.filter fun g => decide (g.groupId = groupId)) +
      totalCnt (t.filter fun g => decide (g.groupId ≠ groupId)) := by
  have hperm := List.filter_append_perm (fun g : GroupRow => decide (g.groupId = groupId)) t
  have hsum := (hperm.map (·.memberCnt)).sum_eq
  rw [List.map_append, List.sum_append] at hsum
  simpa [totalCnt] using hsum.symm

/-- Nothing added. -/
theorem recounted_zero (groupId : Int) (t : List GroupRow) : Recounted groupId 0 t t := by
  exact ⟨id, 0, fun g => ⟨rfl, (add_zero _).symm⟩, _, Table.touch_id (Nat.min_le_right _ _), rfl⟩

end Zattd
