/-
  One id, two RENDERINGS.

  A packet carries an id as 32 bits.  A statement prints it: `%d` and `%i` as a signed number, the
  bound parameters, `UintToString` and `JoinString` as an unsigned one.  The column keeps the number
  that was printed, and a comparison is between numbers.  Below 2^31 all routes print the same; from
  2^31 on they differ by 2^32, so that what one statement writes another does not find.

  `AddFriendship` binds its ids and `GetRelateId` prints them with `%i`; `JoinGroup` inserts with `%d`
  and asks with `JoinString`.  Each loses its own rows on exactly the upper half of the ids.
-/
import Zattd.Correct.Contacts
import Zattd.Correct.GroupWrites

set_option linter.unusedVariables false

namespace Zattd

open Prog

/-- The two renderings agree on the lower half, and there only. -/
theorem percentD_eq_addParam_iff (v : UInt32) : percentD v = addParam v ↔ v.toNat < 2 ^ 31 := by
  constructor
  · intro heq
    by_contra hlarge
    rw [percentD, ← Int32.toInt_toBitVec, UInt32.toBitVec_toInt32, BitVec.toInt_eq_toNat_cond] at heq
    simp only [UInt32.toNat_toBitVec, addParam] at heq
    omega
  · exact percentD_eq

/-! ## A friendship -/

namespace ZAresRelationshipManagerImpl

/-- What `GetRelateId` asks for: a row of the smaller id about the larger one, as `%i` prints them. -/
def asked (a b : UInt32) : Int × Int :=
  (percentD (if a > b then b else a), percentD (if a > b then a else b))

/-- `GetRelateId` asks once, is answered a row or none, and answers the row's key or `kInvalidID`. -/
theorem getRelateId_asks {a b relateId : UInt32} {w w' : World} {tr : List Event} (ha : a ≠ 0)
    (hb : b ≠ 0) (h : Runs StepOk w (getRelateId a b) tr relateId w') : w' = w ∧
      ∃ rows, tr = [⟨.contact (.selectRelateId (asked a b).1 (asked a b).2), some rows⟩] ∧
        ((rows = [] ∧ relateId = kInvalidID ∧
          ∀ r ∈ w.db.imRecentContact, r.pair ≠ asked a b) ∨
        ∃ row ∈ w.db.imRecentContact, row.pair = asked a b ∧ rows = [row] ∧
          relateId = getColumn row.relateId) := by
  have hguard : ¬(a = 0 ∨ b = 0) := not_or.mpr ⟨ha, hb⟩
  simp only [getRelateId, if_neg hguard, runs_bind, runs_issue] at h
  obtain ⟨_, answ, w₁, _, ⟨⟨t, ⟨rfl, rows, hrows, rfl⟩, rfl⟩, rfl⟩, hrest, rfl⟩ := h
  rw [ContactRow.isOf_eq] at hrows
  obtain ⟨all, hall, htake⟩ := hrows
  rw [List.drop_zero] at htake
  cases all with
  | nil =>
    subst htake
    obtain ⟨rfl, rfl, rfl⟩ := runs_pure.mp hrest
    refine ⟨rfl, [], rfl, Or.inl ⟨rfl, rfl, fun r hr hpair => ?_⟩⟩
    exact List.not_mem_nil ((hall.mem_iff r).mpr ⟨hr, decide_eq_true hpair⟩)
  | cons row all =>
    rw [List.take_succ_cons, List.take_zero] at htake
    subst htake
    obtain ⟨rfl, rfl, rfl⟩ := runs_pure.mp hrest
    obtain ⟨hmem, hpair⟩ := (hall.mem_iff row).mp List.mem_cons_self
    exact ⟨rfl, [row], rfl, Or.inr ⟨row, hmem, of_decide_eq_true hpair, rfl, rfl⟩⟩

/-- `AddFriendship` changes nothing, or `GetRelateId` has found no id, and it adds rows of which the
    first is the one of the smaller id about the larger, both as parameters are bound. -/
theorem addFriendship_adds {a b relateId : UInt32} {w w' : World} {tr : List Event} (ha : a ≠ 0)
    (hb : b ≠ 0) (h : Runs StepOk w (addFriendship a b) tr relateId w') :
    (w' = w ∧ ∃ r ∈ w.db.imRecentContact, r.pair = asked a b) ∨
      (∀ r ∈ w.db.imRecentContact, r.pair = asked a b → ∃ r' ∈ w.db.imRecentContact,
        getColumn r'.relateId = kInvalidID) ∧
      ∃ row rest, w' = w.setContacts (w.db.imRecentContact ++ row :: rest) ∧
        ((row :: rest).map (·.pair)).Nodup ∧ row.pair = conversationPair a b := by
  have hguard : ¬(a = 0 ∨ b = 0) := not_or.mpr ⟨ha, hb⟩
  simp only [addFriendship, if_neg hguard, runs_bind] at h
  obtain ⟨_, found, w₁, _, hfound, hrest, _⟩ := h
  obtain ⟨rfl, rows, -, hfound⟩ := getRelateId_asks ha hb hfound
  by_cases hvalid : found ≠ kInvalidID
  · rw [if_pos hvalid] at hrest
    obtain ⟨-, -, rfl⟩ := runs_pure.mp hrest
    rcases hfound with ⟨-, hnone, -⟩ | ⟨row, hrow, hpair, -⟩
    · exact absurd hnone hvalid
    · exact Or.inl ⟨rfl, row, hrow, hpair⟩
  simp only [if_neg hvalid, runs_bind, runs_issue, runs_pure] at hrest
  obtain ⟨_, ctime, w₂, _, ⟨rfl, _⟩, ⟨_, id, w₃, _, ⟨⟨t, ⟨keys, hinsert, rfl⟩, rfl⟩, _⟩,
    ⟨_, rfl, rfl⟩, _⟩, _⟩ := hrest
  obtain ⟨new, rfl, hrows, -⟩ := hinsert.newRows_keys fun _ _ => rfl
  have hpairs : new.map (·.pair) = _ := hrows.map_eq (show ∀ v k, _ = valuesPair v from fun _ _ => rfl)
  have hnodup : (new.map (·.pair)).Nodup := by rw [hpairs]; exact friendshipRows_pairs_nodup _ _ _
  have hhead : (new.map (·.pair)).head? = some (conversationPair a b) := by
    rw [hpairs, friendshipRows_head, ordered_eq]
  refine Or.inr ⟨fun r hr hpair => ?_, ?_⟩
  · rcases hfound with ⟨-, -, hnone⟩ | ⟨row, hrow, -, -, hid⟩
    · exact absurd hpair (hnone r hr)
    · exact ⟨row, hrow, hid.symm.trans (not_not.mp hvalid)⟩
  · cases new with
    | nil => cases hhead
    | cons row rest => exact ⟨row, rest, rfl, hnodup, Option.some.inj hhead⟩

/-- Both statements mean the same pair on the lower half, and there only. -/
theorem asked_eq_iff (a b : UInt32) :
    asked a b = conversationPair a b ↔ a.toNat < 2 ^ 31 ∧ b.toNat < 2 ^ 31 := by
  rw [← ordered_eq, asked, Prod.mk.injEq, percentD_eq_addParam_iff, percentD_eq_addParam_iff]
  split
  · exact and_comm
  · exact Iff.rfl

end ZAresRelationshipManagerImpl

open ZAresRelationshipManagerImpl in
/-- Where no row has the id that stands for none: `GetRelateId` is answered the first of the rows
    that `AddFriendship` has inserted, and returns its key. -/
def FriendshipFound (a b : UInt32) : Prop :=
  ∀ w tr id w₁, Runs StepOk w (addFriendship a b) tr id w₁ →
    (∀ r ∈ w.db.imRecentContact, getColumn r.relateId ≠ kInvalidID) →
    ∀ row rest, w₁.db.imRecentContact = w.db.imRecentContact ++ row :: rest →
    ∀ tr' found w₂, Runs StepOk w₁ (getRelateId a b) tr' found w₂ →
      (∃ x y, ⟨.contact (.selectRelateId x y), some [row]⟩ ∈ tr') ∧ found = getColumn row.relateId

namespace ZAresRelationshipManagerImpl

/-- **Friendships.**  `GetRelateId` finds what `AddFriendship` inserts exactly for ids below 2^31. -/
theorem friendshipFound_iff {a b : UInt32} (ha : a ≠ 0) (hb : b ≠ 0) :
    FriendshipFound a b ↔ a.toNat < 2 ^ 31 ∧ b.toNat < 2 ^ 31 := by
  rw [← asked_eq_iff]
  constructor
  · intro hfinds
    by_contra hother
    -- the first two users to talk
    have hrun := Prog.play_runs (addFriendship a b) emptyWorld
    rcases addFriendship_adds ha hb hrun with hsame | ⟨-, row, rest, hw₁, -, hpair⟩
    · exact absurd hsame.2 (by simp [emptyWorld])
    · have hget := Prog.play_runs (getRelateId a b)
        ((addFriendship a b).play emptyWorld).2.2
      obtain ⟨⟨x, y, hevent⟩, -⟩ := hfinds _ _ _ _ hrun (by simp [emptyWorld]) row rest
        (by rw [hw₁]; rfl) _ _ _ hget
      obtain ⟨-, rows, htr, hrows⟩ := getRelateId_asks ha hb hget
      rw [htr, List.mem_singleton] at hevent
      cases hevent
      rcases hrows with ⟨hnil, -⟩ | ⟨r, -, hasked, hr, -⟩
      · cases hnil
      · cases hr
        exact hother (hasked.symm.trans hpair)
  · intro hsame w tr id w₁ hrun hvalid row rest hw₁ tr' found w₂ hget
    rcases addFriendship_adds ha hb hrun with ⟨rfl, -⟩ | ⟨hnone, row', rest', rfl, hnodup, hpair⟩
    · have hlen := congrArg List.length hw₁
      simp at hlen
    obtain ⟨rfl, rfl⟩ : row' = row ∧ rest' = rest := by
      simpa using List.append_cancel_left hw₁
    obtain ⟨-, rows, rfl, hrows⟩ := getRelateId_asks ha hb hget
    have hmem : row' ∈ w.db.imRecentContact ++ row' :: rest' :=
      List.mem_append_right _ List.mem_cons_self
    rcases hrows with ⟨-, -, hnone'⟩ | ⟨r, hr, hpair', rfl, hfound⟩
    · exact absurd (hpair.trans hsame.symm) (hnone' row' hmem)
    · -- the row found is none of the old ones, and the only new one of the pair
      have hone : r = row' := by
        rcases List.mem_append.mp hr with hold | hnew
        · obtain ⟨r', hr', hinvalid⟩ := hnone r hold hpair'
          exact absurd hinvalid (hvalid r' hr')
        · exact List.inj_on_of_nodup_map hnodup hnew List.mem_cons_self
            (hpair'.trans (hsame.trans hpair.symm))
      subst hone
      exact ⟨⟨_, _, List.mem_singleton_self _⟩, hfound⟩

end ZAresRelationshipManagerImpl

/-! ## A membership -/

/-- The command asks for the statuses of users in a group: the existence query. -/
def Cmd.isStatusQuery : Cmd → Bool
  | .group (.selectStatuses _ _) => true
  | _ => false

namespace ZAresGroupManagerImpl

/-- An accepted `JoinGroup` asks once, and inserts rows for the listed users that the answer leaves
    out. -/
theorem joinGroup_asks {userIds : List UInt32} {g : UInt32} {group : GroupInfo} {ok : Bool}
    {w w' : World} {tr : List Event} (h : Runs StepOk w (joinGroup userIds g group) tr ok w')
    (haccepts : JoinAccepts userIds g group) : ok = true ∧ ∃ now rows new,
      tr.filter (·.1.isStatusQuery) =
        [⟨.group (.selectStatuses (percentD g) (userIds.map uintToString)), some rows⟩] ∧
      Table.SelectsOneEach (RelationRow.isIn (percentD g) (userIds.map uintToString)) (·.userId)
        w.db.groups.imGroupRelation rows ∧
      Table.NewRows (·.id) RelationValues.row
        (newRelations (userStatuss (some rows)) userIds g group now)
        w.db.groups.imGroupRelation new ∧
      w'.db.groups.imGroupRelation = Table.updateAll (RelationRow.isIn (percentD g)
        (usersWithStatus (fun status => decide (status = 0)) (userStatuss (some rows))))
        RelationRow.activate (w.db.groups.imGroupRelation ++ new) := by
  rcases joinGroup_commands h with ⟨-, hrejects, -⟩ | ⟨rfl, -, now, answ, n, m, k, w₁, w₂, w₃, w₄, tr₁,
    tr₂, relations, inactive, rfl, rfl, hclock, hquery, hinsert, hupdate, hcount, rfl⟩
  · exact absurd haccepts hrejects
  obtain rfl : w₁ = w := hclock
  obtain ⟨_, ⟨rfl, rows, hrows, rfl⟩, rfl⟩ := hquery
  obtain ⟨t', ⟨hrel, k, hcount, -⟩, rfl⟩ := hcount
  have hsilent₁ : tr₁.filter (·.1.isStatusQuery) = [] := by
    rcases runs_optional.mp hinsert with ⟨-, rfl, -⟩ | ⟨-, hissue⟩
    · rfl
    · rw [(runs_issue.mp hissue).2]
      rfl
  have hsilent₂ : tr₂.filter (·.1.isStatusQuery) = [] := by
    rcases runs_optional.mp hupdate with ⟨-, rfl, -⟩ | ⟨-, hissue⟩
    · rfl
    · rw [(runs_issue.mp hissue).2]
      rfl
  obtain ⟨new, t₂, rfl, -, hrel₂, -, hvalues⟩ := insertRelations_runs hinsert
  obtain ⟨t₃, rfl, -, hrel₃, -⟩ := updateActivate_runs hupdate
  refine ⟨rfl, _, rows, new, ?_, hrows, hvalues, ?_⟩
  · show _ :: List.filter _ (tr₁ ++ (tr₂ ++ _)) = _
    rw [List.filter_append, List.filter_append, hsilent₁, hsilent₂]
    rfl
  · refine hrel.trans (hrel₃.trans ?_)
    show Table.updateAll _ _ t₂.imGroupRelation = _
    rw [hrel₂]
    rfl

/-- An accepted `QuitGroup` asks too. -/
theorem quitGroup_asks {requestUserId g : UInt32} {userIds : List UInt32} {group : GroupInfo}
    {w w' : World} {tr : List Event}
    (h : Runs StepOk w (quitGroup requestUserId userIds g group) tr true w') : ∃ rows,
      ⟨.group (.selectStatuses (percentD g) (userIds.map uintToString)), some rows⟩ ∈ tr ∧
      Table.SelectsOneEach (RelationRow.isIn (percentD g) (userIds.map uintToString)) (·.userId)
        w.db.groups.imGroupRelation rows := by
  rcases quitGroup_commands h with ⟨hfalse, -⟩ | ⟨-, -, now, answ, m, k, w₁, w₂, w₃, tr₁, active, updated,
    rfl, rfl, hclock, hquery, -, -, rfl⟩
  · cases hfalse
  · obtain rfl : w₁ = w := hclock
    obtain ⟨_, ⟨rfl, rows, hrows, rfl⟩, rfl⟩ := hquery
    exact ⟨rows, by simp, hrows⟩

/-- What the two calls for the members of a group are answered, and make of it. -/
theorem getGroupMembers_asks {g : UInt32} (hg : g ≠ 0) {w w' : World} {tr : List Event} {n : Nat}
    {relations : List GroupRelationInfo}
    (h : Runs StepOk w (getGroupMembers g []) tr (n, relations) w') :
    ∃ rows, Table.SelectsLimit (RelationRow.isActive (percentD g)) (·.created) 0 10000
      w.db.groups.imGroupRelation rows ∧ relations = rows.map relationInfo := by
  simp only [getGroupMembers, if_neg hg, runs_bind, runs_issue] at h
  obtain ⟨_, _, _, _, ⟨⟨_, ⟨rfl, rows, hrows, rfl⟩, rfl⟩, _⟩, h, _⟩ := h
  obtain ⟨-, heq, -⟩ := runs_pure.mp h
  exact ⟨rows, hrows, (Prod.mk.inj heq).2⟩

/-- The relations of a list, filed under their groups, are those of each group in their order. -/
theorem getD_filed (relations : List GroupRelationInfo) (m : Map (List GroupRelationInfo))
    (g : UInt32) :
    (relations.foldl (fun m relation =>
      m.insert relation.groupId (m.getD relation.groupId [] ++ [relation])) m).getD g [] =
    m.getD g [] ++ relations.filter fun relation => decide (relation.groupId = g) := by
  induction relations generalizing m with
  | nil => simp
  | cons relation relations ih =>
    rw [List.foldl_cons, ih, Std.TreeMap.getD_insert, List.filter_cons]
    by_cases hg : relation.groupId = g
    · subst hg
      simp
    · have hne : ¬compare relation.groupId g = .eq := fun h => hg (Std.LawfulEqCmp.eq_of_compare h)
      rw [if_neg hne, if_neg (by simpa using hg)]

theorem getGroupMembersIn_asks {groupIds : List UInt32} (hne : groupIds ≠ []) {w w' : World}
    {tr : List Event} {n : Nat} {m : Map (List GroupRelationInfo)}
    (h : Runs StepOk w (getGroupMembersIn groupIds ∅) tr (n, m) w') :
    ∃ rows, tr = [⟨.group (.selectMembersIn (groupIds.map uintToString)), some rows⟩] ∧
      Table.SelectsLimit
        (fun r => decide (r.groupId ∈ groupIds.map uintToString ∧ 1 ≤ r.status)) (·.created) 0 10000
        w.db.groups.imGroupRelation rows ∧
      ∀ g, m.getD g [] = (rows.map relationInfo).filter fun relation => decide (relation.groupId = g) := by
  simp only [getGroupMembersIn, if_neg hne, runs_bind, runs_issue] at h
  obtain ⟨_, _, _, _, ⟨⟨_, ⟨rfl, rows, hrows, rfl⟩, rfl⟩, rfl⟩, h, rfl⟩ := h
  obtain ⟨rfl, heq, -⟩ := runs_pure.mp h
  refine ⟨rows, rfl, hrows, fun g => ?_⟩
  rw [(Prod.mk.inj heq).2]
  exact (getD_filed _ _ g).trans (by rw [Std.TreeMap.getD_emptyc, List.nil_append]; rfl)

end ZAresGroupManagerImpl

/-- The run's existence query has found the user. -/
def FoundBy (tr : List Event) (u : UInt32) : Prop :=
  ∃ groupId userIds answ, ⟨.group (.selectStatuses groupId userIds), answ⟩ ∈ tr ∧
    (ZAresGroupManagerImpl.userStatuss answ).contains u = true

open ZAresGroupManagerImpl in
/-- The user is known in the group by the name he has in the packets: each existence query about him
    finds him, and, while his row is active, the two calls for the members report him, up to the row
    limit of their statements. -/
structure MemberKnown (w : World) (u g : UInt32) (active : Prop) : Prop where
  join : ∀ userIds group tr w', u ∈ userIds →
    Runs StepOk w (joinGroup userIds g group) tr true w' → FoundBy tr u
  quit : ∀ requestUserId userIds group tr w', u ∈ userIds →
    Runs StepOk w (quitGroup requestUserId userIds g group) tr true w' → FoundBy tr u
  members : active → ∀ tr n relations w', Runs StepOk w (getGroupMembers g []) tr (n, relations) w' →
    relations.length < 10000 → ∃ relation ∈ relations, relation.userId = u
  membersIn : active → ∀ groupIds tr n m w', g ∈ groupIds →
    Runs StepOk w (getGroupMembersIn groupIds ∅) tr (n, m) w' →
    (∀ ids rows, ⟨.group (.selectMembersIn ids), some rows⟩ ∈ tr → rows.length < 10000) →
    ∃ relation ∈ m.getD g [], relation.userId = u

/-- A row that `JoinGroup` inserts for `u`, whatever becomes of its other columns, makes him known. -/
def MemberFound (u g : UInt32) : Prop :=
  ∀ w userIds group tr w₁,
    Runs StepOk w (ZAresGroupManagerImpl.joinGroup userIds g group) tr true w₁ →
    ∀ row ∈ w₁.db.groups.imGroupRelation, (∀ r ∈ w.db.groups.imGroupRelation, r.id ≠ row.id) →
    getColumn row.userId = u →
    ∀ w₂, ∀ row' ∈ w₂.db.groups.imGroupRelation, row'.groupId = row.groupId →
      row'.userId = row.userId → MemberKnown w₂ u g (1 ≤ row'.status)

namespace ZAresGroupManagerImpl

theorem joinAccepts_of_runs {userIds : List UInt32} {g : UInt32} {group : GroupInfo} {w w' : World}
    {tr : List Event} (h : Runs StepOk w (joinGroup userIds g group) tr true w') :
    JoinAccepts userIds g group := by
  rcases joinGroup_commands h with ⟨hfalse, -⟩ | ⟨-, haccepts, -⟩
  · cases hfalse
  · exact haccepts

/-- A row of the printed group and user is found and reported, if both are printed alike everywhere. -/
theorem memberKnown {w : World} {u g : UInt32} (hg : g ≠ 0) (hu : u.toNat < 2 ^ 31)
    (hg' : g.toNat < 2 ^ 31) {row : RelationRow} (hrow : row ∈ w.db.groups.imGroupRelation)
    (hgroup : row.groupId = percentD g) (huser : row.userId = percentD u) :
    MemberKnown w u g (1 ≤ row.status) := by
  have hread : (relationInfo row).userId = u := by
    show getColumn row.userId = u
    rw [huser, getColumn_percentD]
  have hhas : HasRow w.db.groups.imGroupRelation (percentD g) (uintToString u) :=
    ⟨row, hrow, hgroup, huser.trans (percentD_eq hu)⟩
  refine ⟨?_, ?_, ?_, ?_⟩
  · intro userIds group tr w' hlisted hrun
    obtain ⟨-, now, rows, new, htr, hrows, -⟩ := joinGroup_asks hrun (joinAccepts_of_runs hrun)
    have hevent : ⟨.group (.selectStatuses (percentD g) (userIds.map uintToString)), some rows⟩ ∈
        tr.filter (·.1.isStatusQuery) := by
      rw [htr]
      exact List.mem_singleton_self _
    exact ⟨_, _, _, List.mem_of_mem_filter hevent, (userStatuss_contains hrows hlisted).mpr hhas⟩
  · intro requestUserId userIds group tr w' hlisted hrun
    obtain ⟨rows, htr, hrows⟩ := quitGroup_asks hrun
    exact ⟨_, _, _, htr, (userStatuss_contains hrows hlisted).mpr hhas⟩
  · intro hactive tr n relations w' hrun hshort
    obtain ⟨rows, hrows, rfl⟩ := getGroupMembers_asks hg hrun
    rw [List.length_map] at hshort
    have hmem := hrows.mem_of_short hshort hrow (decide_eq_true ⟨hgroup, hactive⟩)
    exact ⟨_, List.mem_map.mpr ⟨row, hmem, rfl⟩, hread⟩
  · intro hactive groupIds tr n m w' hlisted hrun hshort
    obtain ⟨rows, rfl, hrows, hm⟩ := getGroupMembersIn_asks (List.ne_nil_of_mem hlisted) hrun
    -- the group is printed unsigned here
    have hin : row.groupId ∈ groupIds.map uintToString :=
      List.mem_map.mpr ⟨g, hlisted, (hgroup.trans (percentD_eq hg')).symm⟩
    have hmem := hrows.mem_of_short (hshort _ _ (List.mem_singleton_self _)) hrow
      (decide_eq_true ⟨hin, hactive⟩)
    refine ⟨relationInfo row, ?_, hread⟩
    rw [hm, List.mem_filter]
    refine ⟨List.mem_map.mpr ⟨row, hmem, rfl⟩, decide_eq_true ?_⟩
    show getColumn row.groupId = g
    rw [hgroup, getColumn_percentD]

/-- The rows that `JoinGroup` inserts print the group and their users with `%d`. -/
theorem joinGroup_inserted {userIds : List UInt32} {g : UInt32} {group : GroupInfo} {w w' : World}
    {tr : List Event} (h : Runs StepOk w (joinGroup userIds g group) tr true w') {row : RelationRow}
    (hrow : row ∈ w'.db.groups.imGroupRelation)
    (hnew : ∀ r ∈ w.db.groups.imGroupRelation, r.id ≠ row.id) :
    row.groupId = percentD g ∧ ∃ u, row.userId = percentD u := by
  obtain ⟨-, now, rows, new, -, -, hvalues, hw'⟩ := joinGroup_asks h (joinAccepts_of_runs h)
  rw [hw'] at hrow
  obtain ⟨r, hr, rfl⟩ := Table.mem_updateAll.mp hrow
  have hkept : ∀ p : Bool, (if p then r.activate else r).id = r.id ∧
      (if p then r.activate else r).groupId = r.groupId ∧
      (if p then r.activate else r).userId = r.userId := by
    intro p
    cases p <;> exact ⟨rfl, rfl, rfl⟩
  rw [(hkept _).2.1, (hkept _).2.2]
  rcases List.mem_append.mp hr with hold | hinserted
  · exact absurd (hkept _).1.symm (hnew r hold)
  · have hpairs : new.map (fun r => (r.groupId, r.userId)) = _ :=
      hvalues.map_eq (show ∀ v k, _ = (RelationValues.groupId v, RelationValues.userId v) from
        fun _ _ => rfl)
    have hpair := List.mem_map_of_mem (f := fun r : RelationRow => (r.groupId, r.userId)) hinserted
    rw [hpairs] at hpair
    obtain ⟨v, hv, heq⟩ := List.mem_map.mp hpair
    obtain ⟨u, -, rfl⟩ := List.mem_map.mp hv
    obtain ⟨hgroup, huser⟩ := Prod.mk.inj heq
    exact ⟨hgroup.symm, u, huser.symm⟩

/-- The first user of a group. -/
theorem joinGroup_first {u g : UInt32} (hg : g ≠ 0) : ∃ tr w' row,
    Runs StepOk emptyWorld (joinGroup [u] g { GroupInfo.new with groupId := g }) tr true w' ∧
      w'.db.groups.imGroupRelation = [row] ∧ row.groupId = percentD g ∧ row.userId = percentD u ∧
      row.status = 1 := by
  have haccepts : JoinAccepts [u] g { GroupInfo.new with groupId := g } := ⟨by simp, hg, rfl⟩
  have hrun := Prog.play_runs (joinGroup [u] g { GroupInfo.new with groupId := g }) emptyWorld
  obtain ⟨hok, now, rows, new, -, hrows, hvalues, hw'⟩ := joinGroup_asks hrun haccepts
  rw [hok] at hrun
  obtain rfl : rows = [] := List.eq_nil_iff_forall_not_mem.mpr fun r hr => by
    simpa [emptyWorld] using (hrows.2.1 r hr).1
  have hinsert := hvalues.rows
  have hone : newRelations (userStatuss (some [])) [u] g { GroupInfo.new with groupId := g } now =
      [{ groupId := percentD g, userId := percentD u,
         title := if GroupInfo.new.groupCreatorId = u then 1 else 0,
         groupType := percentD GroupInfo.new.groupType, created := percentD now,
         updated := percentD now }] := by
    simp [newRelations, userStatuss]
  rw [hone] at hinsert
  cases hinsert with
  | @cons _ row _ rest hrow hrest =>
    cases hrest
    refine ⟨_, _, row, hrun, ?_, ?_, ?_, ?_⟩
    · have hnobody : usersWithStatus (fun status => decide (status = 0)) (userStatuss (some [])) =
          [] := rfl
      rw [hw', hnobody, updateAll_isIn_nil]
      rfl
    · rw [hrow]; rfl
    · rw [hrow]; rfl
    · rw [hrow]; rfl

/-- **Memberships.**  The calls on a group know the users that `JoinGroup` inserts exactly for ids
    below 2^31, of the user and of the group. -/
theorem memberFound_iff {u g : UInt32} (hg : g ≠ 0) :
    MemberFound u g ↔ u.toNat < 2 ^ 31 ∧ g.toNat < 2 ^ 31 := by
  constructor
  · intro hfinds
    obtain ⟨tr, w', row, hrun, hw', hgroup, huser, hstatus⟩ := joinGroup_first (u := u) hg
    have hrow : row ∈ w'.db.groups.imGroupRelation := by rw [hw']; exact List.mem_singleton_self _
    have hknown := hfinds _ _ _ _ _ hrun row hrow (by simp [emptyWorld])
      (by rw [huser, getColumn_percentD]) w' row hrow rfl rfl
    constructor
    · -- he joins again
      have hagain := Prog.play_runs (joinGroup [u] g { GroupInfo.new with groupId := g }) w'
      have haccepts : JoinAccepts [u] g { GroupInfo.new with groupId := g } := ⟨by simp, hg, rfl⟩
      obtain ⟨hok, now, rows, new, htr, hrows, -⟩ := joinGroup_asks hagain haccepts
      rw [hok] at hagain
      obtain ⟨groupId, userIds, answ, hevent, hfound⟩ :=
        hknown.join _ _ _ _ (List.mem_singleton_self u) hagain
      have hasked := List.mem_filter (p := fun e : Event => e.1.isStatusQuery).mpr ⟨hevent, rfl⟩
      rw [htr, List.mem_singleton] at hasked
      cases hasked
      obtain ⟨r, hr, -, hru⟩ :=
        (userStatuss_contains hrows (List.mem_singleton_self u)).mp hfound
      rw [hw', List.mem_singleton] at hr
      rw [hr, huser] at hru
      exact (percentD_eq_addParam_iff u).mp hru
    · -- the members of a list of groups are asked for
      have hasking := Prog.play_runs (getGroupMembersIn [g] ∅) w'
      obtain ⟨rows, htr, hrows, hm⟩ := getGroupMembersIn_asks (by simp) hasking
      have hshort : ∀ ids rows', ⟨.group (.selectMembersIn ids), some rows'⟩ ∈
          ((getGroupMembersIn [g] ∅).play w').1 → rows'.length < 10000 := by
        intro ids rows' hevent
        rw [htr, List.mem_singleton] at hevent
        cases hevent
        apply lt_of_le_of_lt hrows.length_le
        rw [hw', List.length_singleton]
        omega
      obtain ⟨relation, hrelation, -⟩ := hknown.membersIn (by rw [hstatus]) [g] _ _ _ _
        (List.mem_singleton_self g) hasking hshort
      rw [hm] at hrelation
      obtain ⟨r, hr, -⟩ := List.mem_map.mp (List.mem_of_mem_filter hrelation)
      obtain ⟨hrw, hin⟩ := hrows.mem hr
      rw [hw', List.mem_singleton] at hrw
      have hprinted := (of_decide_eq_true hin).1
      rw [hrw, hgroup, List.map_cons, List.map_nil, List.mem_singleton] at hprinted
      exact (percentD_eq_addParam_iff g).mp hprinted
  · rintro ⟨hu, hg'⟩ w userIds group tr w₁ hrun row hrow hnew hread w₂ row' hrow' hsame hsame'
    obtain ⟨hgroup, v, hv⟩ := joinGroup_inserted hrun hrow hnew
    have hvu : v = u := by rw [← hread, hv, getColumn_percentD]
    exact memberKnown hg hu hg' hrow' (hsame.trans hgroup) (hsame'.trans (hvu ▸ hv))

end ZAresGroupManagerImpl

/-! ## All ids -/

/-- **One number for an id.**  What two managers insert for two users, and for a user and a group, is
    found by the other statements exactly for ids below 2^31. -/
theorem friendsAndMembersFound_iff {a b u g : UInt32} (ha : a ≠ 0) (hb : b ≠ 0) (hu : u ≠ 0)
    (hg : g ≠ 0) : FriendshipFound a b ∧ MemberFound u g ↔
      (a.toNat < 2 ^ 31 ∧ b.toNat < 2 ^ 31) ∧ u.toNat < 2 ^ 31 ∧ g.toNat < 2 ^ 31 :=
  and_congr (ZAresRelationshipManagerImpl.friendshipFound_iff ha hb)
    (ZAresGroupManagerImpl.memberFound_iff hg)

theorem friendsAndMembersFound_small : FriendshipFound 1 2 ∧ MemberFound 2 1 :=
  (friendsAndMembersFound_iff (by decide) (by decide) (by decide) (by decide)).mpr (by decide)

theorem not_forall_friendsAndMembersFound : ¬∀ a b u g : UInt32, a ≠ 0 → b ≠ 0 → u ≠ 0 → g ≠ 0 →
    FriendshipFound a b ∧ MemberFound u g := by
  intro hall
  have hfound := (hall 1 0x80000000 2 1 (by decide) (by decide) (by decide) (by decide)).1
  have hsmall := (ZAresRelationshipManagerImpl.friendshipFound_iff (by decide) (by decide)).mp hfound
  exact absurd hsmall.2 (by decide)

end Zattd
