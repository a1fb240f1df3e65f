/-
  What a client is told about a change of the members of a group.

  `GroupChangeMemberRequestHandler` replies with a `result` that it sets to 0 at the start and never
  touches again: it looks neither at what `JoinGroup` and `QuitGroup` return nor at whether there was
  a group to call them for.  So the reply is right exactly if the change could not be refused and was
  made in full.

  Made in full is not the same as accepted.  A join leaves a user whose status it finds to be neither
  0 nor active as he is; a departure does not see the rows of users whose ids were printed with a
  sign, nor more than one of the statuses of a user who has several.
-/
import Zattd.Correct.GroupMembership
import Zattd.Correct.Rendering

set_option linter.unusedVariables false

namespace Zattd

open Prog ZAresGroupManagerImpl

/-! ## The property -/

/-- The group is there for `GetGroupInfo`. -/
def GroupExists (T : GroupTables) (g : UInt32) : Prop :=
  g ≠ 0 ∧ ∃ row ∈ T.imGroup, row.groupId = percentD g ∧ 1 ≤ row.status

/-- The user has a row in the group that `GetGroupMembers` selects. -/
def IsActiveIn (T : GroupTables) (g u : UInt32) : Prop :=
  ∃ r ∈ T.imGroupRelation, r.groupId = percentD g ∧ getColumn r.userId = u ∧ 1 ≤ r.status

/-- The change is in place: every listed user is a member, or no longer one. -/
def ChangeInPlace (T : GroupTables) (m : GroupChangeMemberRequest) : Prop :=
  GroupExists T m.groupId ∧
    if m.changeType = 0 then ∀ u ∈ m.userList, IsActiveIn T m.groupId u
    else ∀ u ∈ m.userList, ¬IsActiveIn T m.groupId u

/-- The change has to be refused: no group, no users, or a removal that its creator has not asked
    for. -/
def MustRefuse (T : GroupTables) (m : GroupChangeMemberRequest) : Prop :=
  ¬GroupExists T m.groupId ∨ m.userList = [] ∨
    m.changeType ≠ 0 ∧ ¬IsCreator T (percentD m.groupId) m.reqUserId

/-- The result is what became of the change. -/
structure AnswersChange (m : GroupChangeMemberRequest) (w w' : World) (result : UInt32) : Prop where
  result_iff : result = 0 ↔ ChangeInPlace w'.db.groups m
  refused : MustRefuse w.db.groups m → result ≠ 0 ∧ w'.db = w.db

/-- The one reply of a run answers the change. -/
def ChangeReplied (sessionId : UInt64) (m : GroupChangeMemberRequest) (w w' : World)
    (tr : List Event) : Prop :=
  ∃ reply : Pdu GroupChangeMemberResponse,
    replies tr = [(sessionId, ⟨.groupChangeMemberResponse, reply⟩)] ∧
      AnswersChange m w w' reply.body.result

/-! ## The condition -/

/-- The rows that a query for the statuses of users was answered. -/
def Event.statusRows : Event → List RelationRow
  | ⟨.group (.selectStatuses _ _), answ⟩ => answ.getD []
  | _ => []

/-- The statuses that a run has found. -/
def statusRows (tr : List Event) : List RelationRow := tr.flatMap Event.statusRows

/-- The change is one to be made, and

    * every user to be added is active, or the status found for him, if there is one, is 0;
    * every active row of a user to be removed has the id of a user whose status found is not 0. -/
def WillChange (T : GroupTables) (m : GroupChangeMemberRequest) (found : List RelationRow) : Prop :=
  ¬MustRefuse T m ∧
    if m.changeType = 0 then
      ∀ u ∈ m.userList, IsActiveIn T m.groupId u ∨
        ∀ r ∈ found, r.userId = uintToString u → getColumn r.status = 0
    else
      ∀ r ∈ T.imGroupRelation, r.groupId = percentD m.groupId → getColumn r.userId ∈ m.userList →
        1 ≤ r.status → ∃ r' ∈ found, r'.userId = r.userId ∧ getColumn r'.status ≠ 0

/-! ## The group -/

/-- What no change of the members changes in a group. -/
def GroupRow.place (row : GroupRow) : Int × Int := (row.groupId, row.status)

theorem groupExists_congr {T T' : GroupTables} {g : UInt32}
    (h : T'.imGroup.map GroupRow.place = T.imGroup.map GroupRow.place) :
    GroupExists T' g ↔ GroupExists T g := by
  have hplace : ∀ T : GroupTables, GroupExists T g ↔
      g ≠ 0 ∧ ∃ x ∈ T.imGroup.map GroupRow.place, x.1 = percentD g ∧ 1 ≤ x.2 := by
    intro T
    refine and_congr_right fun _ => ?_
    constructor
    · rintro ⟨row, hrow, hplaced⟩
      exact ⟨_, List.mem_map_of_mem hrow, hplaced⟩
    · rintro ⟨x, hx, hplaced⟩
      obtain ⟨row, hrow, rfl⟩ := List.mem_map.mp hx
      exact ⟨row, hrow, hplaced⟩
  rw [hplace, hplace, h]

theorem statusRows_append (tr tr' : List Event) :
    statusRows (tr ++ tr') = statusRows tr ++ statusRows tr' := List.flatMap_append

/-- `GetGroupInfo` asks for no statuses. -/
theorem getGroupInfo_statusRows {w w' : World} {tr : List Event} {g : UInt32} {object : GroupInfo}
    {found : Option GroupInfo} (h : Runs StepOk w (getGroupInfo g object) tr found w') :
    statusRows tr = [] := by
  unfold getGroupInfo at h
  by_cases h0 : g = 0
  · rw [if_pos h0] at h
    obtain ⟨rfl, -, -⟩ := runs_pure.mp h
    rfl
  simp only [if_neg h0, runs_bind, runs_issue] at h
  obtain ⟨_, answ, _, tr', ⟨-, rfl⟩, h, rfl⟩ := h
  have hrest : tr' = [] := by
    rcases answ with _ | _ | ⟨row, rest⟩
    · exact (runs_pure.mp h).1
    · exact (runs_pure.mp h).1
    · exact (runs_pure.mp h).1
  rw [hrest]
  rfl

/-- `GetGroupInfo` finds no group exactly where there is none. -/
theorem getGroupInfo_none {w w' : World} {tr : List Event} {g : UInt32} {object : GroupInfo}
    (h : Runs StepOk w (getGroupInfo g object) tr none w') : w' = w ∧ ¬GroupExists w.db.groups g := by
  unfold getGroupInfo at h
  by_cases h0 : g = 0
  · rw [if_pos h0] at h
    obtain ⟨-, -, rfl⟩ := runs_pure.mp h
    exact ⟨rfl, fun hexists => hexists.1 h0⟩
  simp only [if_neg h0, runs_bind, runs_issue] at h
  obtain ⟨_, answ, _, _, ⟨⟨t, ⟨rfl, rows, hrows, rfl⟩, rfl⟩, _⟩, h, _⟩ := h
  cases rows with
  | nil =>
    obtain ⟨-, -, rfl⟩ := runs_pure.mp h
    refine ⟨rfl, fun hexists => ?_⟩
    obtain ⟨-, row, hrow, hid, hstatus⟩ := hexists
    exact List.not_mem_nil ((hrows.mem_iff row).mpr ⟨hrow, decide_eq_true ⟨hid, hstatus⟩⟩)
  | cons row rest =>
    obtain ⟨-, hnone, -⟩ := runs_pure.mp h
    cases hnone

/-! ## Joining -/

section Changes

variable {w w' : World} {tr : List Event} {g : UInt32} {us : List UInt32} {group : GroupInfo} {ok : Bool}

/-- Between the query and the count, a statement that may be left out finds no statuses. -/
theorem statusRows_optional {c : Prop} [Decidable c] {s : GroupStmt} {n zero : s.Answer}
    (hs : ∀ answ, Event.statusRows ⟨.group s, answ⟩ = [])
    (h : Runs StepOk w (if c then pure zero else issue (.group s)) tr n w') : statusRows tr = [] := by
  rcases runs_optional.mp h with ⟨-, rfl, -⟩ | ⟨-, hissue⟩
  · rfl
  · obtain ⟨-, rfl⟩ := runs_issue.mp hissue
    show Event.statusRows _ ++ [] = []
    rw [List.append_nil]
    exact hs _

/-- What a join writes, for whatever the tables hold. -/
theorem joinGroup_writes (haccepts : JoinAccepts us g group)
    (h : Runs StepOk w (joinGroup us g group) tr ok w') :
    w'.db.groups.imGroup.map GroupRow.place = w.db.groups.imGroup.map GroupRow.place ∧
      Table.SelectsOneEach (RelationRow.isIn (percentD g) (us.map uintToString)) (·.userId)
        w.db.groups.imGroupRelation (statusRows tr) ∧
      ∃ new, new.map (fun r => (r.groupId, r.userId, r.status)) =
          (us.filter fun u => !(userStatuss (some (statusRows tr))).contains u).map
            (fun u => (percentD g, percentD u, 1)) ∧
        w'.db.groups.imGroupRelation = Table.updateAll (RelationRow.isIn (percentD g)
          (usersWithStatus (fun status => decide (status = 0)) (userStatuss (some (statusRows tr)))))
          RelationRow.activate (w.db.groups.imGroupRelation ++ new) := by
  rcases joinGroup_commands h with ⟨-, hrejects, -⟩ | ⟨rfl, -, now, answ, n, m, k, w₁, w₂, w₃, w₄, tr₁,
    tr₂, relations, inactive, rfl, rfl, hclock, hquery, hinsert, hupdate, hcount, rfl⟩
  · exact absurd haccepts hrejects
  obtain rfl : w₁ = w := hclock
  obtain ⟨_, ⟨rfl, rows, hrows, rfl⟩, rfl⟩ := hquery
  obtain ⟨t', ⟨hrel, _, ⟨_, htouch, _⟩, -⟩, rfl⟩ := hcount
  have hfound : statusRows (⟨.nowMSTime, now⟩ ::
      ⟨.group (.selectStatuses (percentD g) (us.map uintToString)), some rows⟩ ::
      (tr₁ ++ (tr₂ ++ [⟨.group (.updateMemberCntAdd (n + m) (percentD g)), k⟩]))) = rows := by
    have hinserted := statusRows_optional (fun _ => rfl) hinsert
    have hupdated := statusRows_optional (fun _ => rfl) hupdate
    simp only [statusRows] at hinserted hupdated
    simp [statusRows, hinserted, hupdated, Event.statusRows]
  obtain ⟨new, t₂, rfl, hgroups₂, hrel₂, -, hvalues⟩ := insertRelations_runs hinsert
  obtain ⟨t₃, rfl, hgroups₃, hrel₃, -⟩ := updateActivate_runs hupdate
  rw [hfound]
  refine ⟨?_, hrows, new, ?_, ?_⟩
  · have himGroup : t₃.imGroup = w₁.db.groups.imGroup := hgroups₃.trans hgroups₂
    show t'.imGroup.map GroupRow.place = _
    rw [← himGroup]
    exact htouch.map_eq (by intro r; rfl)
  · have hmap : new.map (fun r => (r.groupId, r.userId, r.status)) =
        (newRelations (userStatuss (some rows)) us g group (UInt64.toUInt32 now)).map
          fun v => (v.groupId, v.userId, 1) := hvalues.map_eq fun _ _ => rfl
    rw [hmap, newRelations, List.map_map]
    rfl
  · refine hrel.trans (hrel₃.trans ?_)
    show Table.updateAll _ _ t₂.imGroupRelation = _
    rw [hrel₂]
    rfl

/-- **Who is in after a join.**  A listed user is active if he was, or if the status found for him, if
    there is one, is 0. -/
theorem joinGroup_active (haccepts : JoinAccepts us g group)
    (h : Runs StepOk w (joinGroup us g group) tr ok w') {u : UInt32} (hu : u ∈ us) :
    IsActiveIn w'.db.groups g u ↔ IsActiveIn w.db.groups g u ∨
      ∀ r ∈ statusRows tr, r.userId = uintToString u → getColumn r.status = 0 := by
  obtain ⟨-, hrows, new, hnew, hrel⟩ := joinGroup_writes haccepts h
  generalize statusRows tr = rows at hrows hnew hrel
  have hinactive := mem_usersWithStatus hrows fun status => decide (status = 0)
  have hcontains := userStatuss_contains hrows hu
  unfold IsActiveIn
  rw [hrel]
  constructor
  · rintro ⟨r', hr', hg, huser, hactive⟩
    obtain ⟨r, hr, rfl⟩ := Table.mem_updateAll.mp hr'
    by_cases hin : r.isIn (percentD g)
        (usersWithStatus (fun status => decide (status = 0)) (userStatuss (some rows))) = true
    · -- he was activated, for the one status found
      rw [if_pos hin] at huser
      obtain ⟨r₀, hr₀, hsame, hzero⟩ := (hinactive _).mp (RelationRow.isIn_iff.mp hin).2
      have hid := uintToString_getColumn_userId hrows hr₀
      rw [hsame, show getColumn r.userId = u from huser] at hid
      refine Or.inr fun r₁ hr₁ huser₁ => ?_
      obtain rfl : r₁ = r₀ :=
        List.inj_on_of_nodup_map hrows.1 hr₁ hr₀ (huser₁.trans (hid.trans hsame.symm))
      exact of_decide_eq_true hzero
    · rw [if_neg hin] at hg huser hactive
      rcases List.mem_append.mp hr with hold | hnew'
      · exact Or.inl ⟨r, hold, hg, huser, hactive⟩
      · -- he was given a row, and no status was found for him
        have hcolumns : (r.groupId, r.userId, r.status) ∈
            new.map fun r => (r.groupId, r.userId, r.status) := List.mem_map.mpr ⟨r, hnew', rfl⟩
        rw [hnew] at hcolumns
        obtain ⟨x, hx, heq⟩ := List.mem_map.mp hcolumns
        obtain ⟨-, hrest⟩ := Prod.mk.inj heq
        obtain rfl : x = u := by
          rw [← huser, ← (Prod.mk.inj hrest).1, getColumn_percentD]
        have hnone : (userStatuss (some rows)).contains x = false := by
          simpa using (List.mem_filter.mp hx).2
        refine Or.inr fun r₁ hr₁ huser₁ => ?_
        obtain ⟨ht, hin₁⟩ := hrows.2.1 r₁ hr₁
        have hfound := hcontains.mpr ⟨r₁, ht, (RelationRow.isIn_iff.mp hin₁).1, huser₁⟩
        rw [hnone] at hfound
        cases hfound
  · intro hcases
    -- a row of his that is active, or is activated, is active afterwards
    have hafter : ∀ r ∈ w.db.groups.imGroupRelation ++ new, r.groupId = percentD g →
        getColumn r.userId = u → (1 ≤ r.status ∨ r.isIn (percentD g)
          (usersWithStatus (fun status => decide (status = 0)) (userStatuss (some rows))) = true) →
        ∃ r' ∈ Table.updateAll (RelationRow.isIn (percentD g)
          (usersWithStatus (fun status => decide (status = 0)) (userStatuss (some rows))))
          RelationRow.activate (w.db.groups.imGroupRelation ++ new),
          r'.groupId = percentD g ∧ getColumn r'.userId = u ∧ 1 ≤ r'.status := by
      intro r hr hg huser hactive
      refine ⟨_, Table.mem_updateAll.mpr ⟨r, hr, rfl⟩, ?_⟩
      split
      · exact ⟨hg, huser, le_refl (1 : Int)⟩
      · next hin => exact ⟨hg, huser, hactive.resolve_right hin⟩
    rcases hcases with ⟨r, hr, hg, huser, hactive⟩ | hzero
    · exact hafter r (List.mem_append_left _ hr) hg huser (Or.inl hactive)
    cases hfound : (userStatuss (some rows)).contains u with
    | true =>
      rw [Std.TreeMap.contains_eq_isSome_getElem?, Option.isSome_iff_exists] at hfound
      obtain ⟨status, hstatus⟩ := hfound
      obtain ⟨r, hr, huser, -⟩ := (userStatuss_getElem? hrows u status).mp hstatus
      obtain ⟨ht, hin⟩ := hrows.2.1 r hr
      have hlisted := (hinactive r.userId).mpr ⟨r, hr, rfl, decide_eq_true (hzero r hr huser)⟩
      have hg := (RelationRow.isIn_iff.mp hin).1
      refine hafter r (List.mem_append_left _ ht) hg (by rw [huser, getColumn_uintToString]) ?_
      exact Or.inr (RelationRow.isIn_iff.mpr ⟨hg, hlisted⟩)
    | false =>
      have hcolumns : (percentD g, percentD u, (1 : Int)) ∈
          new.map fun r => (r.groupId, r.userId, r.status) := by
        rw [hnew]
        exact List.mem_map.mpr ⟨u, List.mem_filter.mpr ⟨hu, by rw [hfound]; rfl⟩, rfl⟩
      obtain ⟨r, hr, heq⟩ := List.mem_map.mp hcolumns
      obtain ⟨hg, hrest⟩ := Prod.mk.inj heq
      obtain ⟨huser, hstatus⟩ := Prod.mk.inj hrest
      exact hafter r (List.mem_append_right _ hr) hg (by rw [huser, getColumn_percentD])
        (Or.inl hstatus.ge)

/-! ## Leaving -/

theorem quitGroup_rejects {requestUserId : UInt32} (h : ¬QuitAccepts requestUserId us g group) :
    quitGroup requestUserId us g group = return false := by
  unfold quitGroup
  by_cases hnone : us = [] ∨ g = 0 ∨ requestUserId = 0 ∨ g = 0
  · rw [if_pos hnone]
  by_cases hother : requestUserId ≠ group.groupCreatorId ∨ g ≠ group.groupId
  · rw [if_neg hnone, if_pos hother]
  · simp only [not_or, not_not] at hnone hother
    exact absurd ⟨hnone.1, hnone.2.1, hnone.2.2.1, hother⟩ h

/-- What a departure writes, for whatever the tables hold: nothing if it is rejected. -/
theorem quitGroup_writes {requestUserId : UInt32}
    (h : Runs StepOk w (quitGroup requestUserId us g group) tr ok w') :
    w'.db.groups.imGroup.map GroupRow.place = w.db.groups.imGroup.map GroupRow.place ∧
      ∃ updated active, w'.db.groups.imGroupRelation = Table.updateAll
          (RelationRow.isIn (percentD g) active) (RelationRow.deactivate updated)
          w.db.groups.imGroupRelation ∧
        ∀ x, x ∈ active ↔ ∃ r ∈ statusRows tr, r.userId = x ∧ getColumn r.status ≠ 0 := by
  rcases quitGroup_commands h with ⟨rfl, hrejects, rfl⟩ | ⟨rfl, haccepts, now, answ, m, k, w₁, w₂, w₃,
    tr₁, active, updated, rfl, rfl, hclock, hquery, hupdate, hcount, rfl⟩
  · rw [quitGroup_rejects hrejects] at h
    obtain ⟨rfl, -, -⟩ := runs_pure.mp h
    exact ⟨rfl, 0, [], (updateAll_isIn_nil _ _).symm, by simp [statusRows]⟩
  obtain rfl : w₁ = w := hclock
  obtain ⟨_, ⟨rfl, rows, hrows, rfl⟩, rfl⟩ := hquery
  obtain ⟨t', ⟨hrel, _, ⟨_, htouch, _⟩, -⟩, rfl⟩ := hcount
  have hdeactivated := statusRows_optional (fun _ => rfl) hupdate
  obtain ⟨t₂, rfl, hgroups₂, hrel₂, -⟩ := updateDeactivate_runs hupdate
  refine ⟨?_, _, _, hrel.trans hrel₂, fun x => ?_⟩
  · have himGroup : t₂.imGroup = w₁.db.groups.imGroup := hgroups₂
    show t'.imGroup.map GroupRow.place = _
    rw [← himGroup]
    exact htouch.map_eq (by intro r; rfl)
  · have hfound : statusRows (⟨.nowMSTime, now⟩ ::
        ⟨.group (.selectStatuses (percentD g) (us.map uintToString)), some rows⟩ ::
        (tr₁ ++ [⟨.group (.updateMemberCntSub m (percentD (UInt64.toUInt32 now)) (percentD g)), k⟩])) =
        rows := by
      simp only [statusRows] at hdeactivated
      simp [statusRows, hdeactivated, Event.statusRows]
    rw [hfound, mem_usersWithStatus hrows]
    simp

/-- **Who is out after a departure.**  No listed user is active if every active row of theirs has the
    id of a user whose status found is not 0. -/
theorem quitGroup_inactive {requestUserId : UInt32}
    (h : Runs StepOk w (quitGroup requestUserId us g group) tr ok w') :
    (∀ u ∈ us, ¬IsActiveIn w'.db.groups g u) ↔ ∀ r ∈ w.db.groups.imGroupRelation,
      r.groupId = percentD g → getColumn r.userId ∈ us → 1 ≤ r.status →
        ∃ r' ∈ statusRows tr, r'.userId = r.userId ∧ getColumn r'.status ≠ 0 := by
  obtain ⟨-, updated, active, hrel, hactive⟩ := quitGroup_writes h
  simp only [← hactive]
  unfold IsActiveIn
  rw [hrel]
  constructor
  · intro hout r hr hg hu hstatus
    by_contra hnot
    have hin : ¬r.isIn (percentD g) active = true := fun hin => hnot (RelationRow.isIn_iff.mp hin).2
    exact hout _ hu ⟨r, Table.mem_updateAll.mpr ⟨r, hr, if_neg hin⟩, hg, rfl, hstatus⟩
  · rintro hall u hu ⟨r', hr', hg, rfl, hstatus⟩
    obtain ⟨r, hr, rfl⟩ := Table.mem_updateAll.mp hr'
    by_cases hin : r.isIn (percentD g) active = true
    · rw [if_pos hin] at hstatus
      exact absurd hstatus (show ¬(1 : Int) ≤ 0 by decide)
    · rw [if_neg hin] at hg hu hstatus
      exact hin (RelationRow.isIn_iff.mpr ⟨hg, hall r hr hg hu hstatus⟩)

end Changes

/-! ## The request -/

/-- The constant answer is right exactly if the change is one to be made, and is in place. -/
theorem answersChange_zero_iff {m : GroupChangeMemberRequest} {w w' : World} :
    AnswersChange m w w' 0 ↔ ¬MustRefuse w.db.groups m ∧ ChangeInPlace w'.db.groups m := by
  constructor
  · intro h
    exact ⟨fun hrefuse => (h.refused hrefuse).1 rfl, h.result_iff.mp rfl⟩
  · rintro ⟨hmake, hplace⟩
    exact ⟨iff_of_true rfl hplace, fun hrefuse => absurd hrefuse hmake⟩

/-- **What becomes of a change.**  A change that is one to be made is in place afterwards exactly if
    the statuses found allow it. -/
theorem changeMember_runs {mem : Memory} {m : GroupChangeMemberRequest} {w w' : World}
    {tr : List Event} (h : Runs StepOk w (changeMember zAresModelModule mem m) tr () w') :
    AnswersChange m w w' 0 ↔ WillChange w.db.groups m (statusRows tr) := by
  rw [answersChange_zero_iff, WillChange]
  refine and_congr_right fun hmake => ?_
  obtain ⟨hexists, hlist, hcreator⟩ : GroupExists w.db.groups m.groupId ∧ m.userList ≠ [] ∧
      (m.changeType ≠ 0 → IsCreator w.db.groups (percentD m.groupId) m.reqUserId) := by
    simpa only [MustRefuse, not_or, not_not, not_and] using hmake
  unfold changeMember at h
  by_cases htype : m.changeType = 0
  · simp only [if_pos htype, runs_bind] at h
    obtain ⟨tr₁, found, w₁, tr₂, hinfo, hrest, rfl⟩ := h
    cases found with
    | none => exact absurd hexists (getGroupInfo_none hinfo).2
    | some group =>
      have hsilent := getGroupInfo_statusRows hinfo
      obtain ⟨rfl, row, -, hid, -, rfl⟩ := getGroupInfo_runs hinfo
      simp only [runs_bind, runs_pure] at hrest
      obtain ⟨tr₃, ok, w₂, _, hjoin, ⟨rfl, -, rfl⟩, rfl⟩ := hrest
      have haccepts : JoinAccepts m.userList m.groupId (parseFromDatabase mem.newGroupInfo row) := by
        refine ⟨hlist, hexists.1, ?_⟩
        show m.groupId = getColumn row.groupId
        rw [hid, getColumn_percentD]
      rw [ChangeInPlace, if_pos htype, if_pos htype, List.append_nil, statusRows_append, hsilent,
        List.nil_append]
      rw [and_iff_right ((groupExists_congr (joinGroup_writes haccepts hjoin).1).mpr hexists)]
      exact forall₂_congr fun u hu => joinGroup_active haccepts hjoin hu
  · simp only [if_neg htype, runs_bind] at h
    obtain ⟨tr₁, found, w₁, tr₂, hinfo, hrest, rfl⟩ := h
    cases found with
    | none => exact absurd hexists (getGroupInfo_none hinfo).2
    | some group =>
      have hsilent := getGroupInfo_statusRows hinfo
      obtain ⟨rfl, -⟩ := getGroupInfo_runs hinfo
      simp only [runs_bind, runs_pure] at hrest
      obtain ⟨tr₃, ok, w₂, _, hquit, ⟨rfl, -, rfl⟩, rfl⟩ := hrest
      rw [ChangeInPlace, if_neg htype, if_neg htype, List.append_nil, statusRows_append, hsilent,
        List.nil_append]
      rw [and_iff_right ((groupExists_congr (quitGroup_writes hquit).1).mpr hexists)]
      exact quitGroup_inactive hquit

/-- A run of the handler is a run of the change and then the reply with the constant. -/
theorem groupChangeMemberRequestHandler_runs {mem : Memory} {sessionId : UInt64}
    {request : Pdu GroupChangeMemberRequest} {w w' : World} {tr : List Event}
    (h : Runs StepOk w (groupChangeMemberRequestHandler zAresModelModule mem sessionId request) tr ()
      w') :
    ∃ (tr₁ tr₂ : List Event) (reply : Pdu GroupChangeMemberResponse),
      Runs StepOk w (changeMember zAresModelModule mem request.body) tr₁ () w' ∧
      tr = tr₁ ++ tr₂ ∧ statusRows tr₂ = [] ∧
      replies tr = [(sessionId, ⟨.groupChangeMemberResponse, reply⟩)] ∧ reply.body.result = 0 := by
  simp only [groupChangeMemberRequestHandler, runs_bind] at h
  obtain ⟨tr₁, _, w₁, tr₂, hchange, hsend, rfl⟩ := h
  obtain ⟨rfl, hreply⟩ := sendSessionData_runs (hsend.mono fun _ _ _ _ => StepOk.step)
  have hsilent : replies tr₁ = [] := Silent.replies_eq
    (fun q => changeMember_silent zAresModelModule_allSilent request.body)
    (hchange.mono fun _ _ _ _ => StepOk.step)
  have hreplies : replies (tr₁ ++ tr₂) = replies tr₂ := by
    rw [replies_append, hsilent, List.nil_append]
  have hnone : statusRows tr₂ = [] := by
    obtain ⟨-, rfl⟩ := runs_issue.mp hsend
    rfl
  exact ⟨tr₁, tr₂, _, hchange, rfl, hnone, hreplies.trans hreply, rfl⟩

/-- **Zero, whatever happened.**  If every statement succeeds, the reply to a request to change the
    members of a group is right exactly if the change is one to be made, and the statuses found allow
    it. -/
theorem changeReplied_iff {mem : Memory} {sessionId : UInt64} {request : Pdu GroupChangeMemberRequest}
    {w w' : World} {tr : List Event}
    (h : Runs StepOk w (groupChangeMemberRequestHandler zAresModelModule mem sessionId request) tr ()
      w') :
    ChangeReplied sessionId request.body w w' tr ↔
      WillChange w.db.groups request.body (statusRows tr) := by
  obtain ⟨tr₁, tr₂, reply, hchange, rfl, hnone, hreply, hresult⟩ :=
    groupChangeMemberRequestHandler_runs h
  rw [statusRows_append, hnone, List.append_nil, ← changeMember_runs hchange]
  constructor
  · rintro ⟨reply', hreply', hanswers⟩
    obtain rfl := reply_unique hreply hreply'
    rwa [hresult] at hanswers
  · intro hanswers
    exact ⟨reply, hreply, by rwa [hresult]⟩

/-- 3 is to join the group of 1. -/
def joinRequest : Pdu GroupChangeMemberRequest where
  attachData := []
  reserved := 0
  body := { changeType := 0, reqUserId := 3, groupId := 1, userList := [3] }

/-- What is done for him. -/
def joining : List Event × Unit × World :=
  (groupChangeMemberRequestHandler zAresModelModule default 1 joinRequest).play oneGroup

/-- He does, and it is said so. -/
theorem changeReplied_joinRequest :
    joining.2.2.db.groups.imGroupRelation.map (fun r => (r.groupId, r.userId, r.status)) = [(1, 3, 1)] ∧
      ChangeReplied 1 joinRequest.body oneGroup joining.2.2 joining.1 := by
  refine ⟨by decide, (changeReplied_iff (Prog.play_runs
    (groupChangeMemberRequestHandler zAresModelModule default 1 joinRequest) oneGroup)).mpr ?_⟩
  have hexists : GroupExists oneGroup.db.groups 1 :=
    ⟨by decide, _, List.mem_singleton_self _, by decide, by decide⟩
  show WillChange oneGroup.db.groups joinRequest.body []
  refine ⟨?_, fun u hu => Or.inr nofun⟩
  rintro (hnone | hempty | ⟨htype, -⟩)
  · exact hnone hexists
  · cases hempty
  · exact htype rfl

/-- There is no group to join, and it is said that he has. -/
theorem not_forall_changeReplied :
    ¬∀ (mem : Memory) (sessionId : UInt64) (request : Pdu GroupChangeMemberRequest) (w w' : World)
      (tr : List Event),
      Runs StepOk w (groupChangeMemberRequestHandler zAresModelModule mem sessionId request) tr () w' →
      ChangeReplied sessionId request.body w w' tr := by
  intro h
  have hrun := Prog.play_runs
    (groupChangeMemberRequestHandler zAresModelModule default 1 joinRequest) emptyWorld
  obtain ⟨reply, hreply, hanswers⟩ := h _ _ _ _ _ _ hrun
  obtain ⟨-, -, reply', -, -, -, hreply', hresult⟩ := groupChangeMemberRequestHandler_runs hrun
  obtain rfl := reply_unique hreply hreply'
  have hrefuse : MustRefuse emptyWorld.db.groups joinRequest.body := by
    refine Or.inl fun hexists => ?_
    obtain ⟨-, row, hrow, -⟩ := hexists
    cases hrow
  exact (hanswers.refused hrefuse).1 hresult

end Zattd
