/-
  `memberCnt` is EXACT: in every state that creating groups, joining and leaving can reach, it is the
  number of active rows of the group.

  Nothing recounts.  Each call adds the numbers of rows that its own statements have written, so the
  count is right only because of what each statement leaves out: the INSERT the users with rows, the
  UPDATE of a join the active ones, the UPDATE of a departure the inactive ones.  What makes this
  come out is the invariant of the relations (`Shared`): one status speaks for all rows of a user.
-/
import Zattd.Correct.GroupWrites
import Zattd.Lib.Run

set_option linter.unusedVariables false

namespace Zattd

open Prog

/-! ## The calls -/

/-- A call on the groups, with any arguments. -/
inductive GroupOp
  | createGroup (createUserId : UInt32) (groupName : Bytes) (groupType : UInt32)
      (avatar adesc : Bytes) (memberUserIds : List UInt32) (group : GroupInfo)
  | joinGroup (userIds : List UInt32) (groupId : UInt32) (group : GroupInfo)
  | quitGroup (requestUserId : UInt32) (quitUserIds : List UInt32) (groupId : UInt32)
      (group : GroupInfo)

namespace GroupOp

/-- The program of the call. -/
def run : GroupOp → Server Bool
  | createGroup createUserId groupName groupType avatar adesc memberUserIds group =>
      Prod.fst <$> ZAresGroupManagerImpl.createGroup createUserId groupName groupType avatar adesc
        memberUserIds group
  | joinGroup userIds groupId group => ZAresGroupManagerImpl.joinGroup userIds groupId group
  | quitGroup requestUserId quitUserIds groupId group =>
      ZAresGroupManagerImpl.quitGroup requestUserId quitUserIds groupId group

/-- The guards let the call pass. -/
def Accepts : GroupOp → Prop
  | createGroup createUserId groupName groupType _ _ _ _ =>
      ¬(createUserId = 0 ∨ groupName = [] ∨ groupType = 0)
  | joinGroup userIds groupId group => ZAresGroupManagerImpl.JoinAccepts userIds groupId group
  | quitGroup requestUserId quitUserIds groupId group =>
      ZAresGroupManagerImpl.QuitAccepts requestUserId quitUserIds groupId group

/-- The users it lists. -/
def userIds : GroupOp → List UInt32
  | createGroup _ _ _ _ _ memberUserIds _ => memberUserIds
  | joinGroup userIds _ _ => userIds
  | quitGroup _ quitUserIds _ _ => quitUserIds

end GroupOp

/-- The ids of the groups made between `t` and `t'` are below 2^31, and no row is about them yet. -/
def FreshGroups (t t' : GroupTables) : Prop :=
  ∀ row ∈ t'.imGroup, row.groupId ∉ t.imGroup.map (·.groupId) →
    row.groupId < 2 ^ 31 ∧ ∀ r ∈ t.imGroupRelation, r.groupId ≠ row.groupId

/-- `Step w (op, ok) w'`: the call `op` answers `ok`, every statement of it succeeding. -/
def GroupOp.Step (w : World) (l : GroupOp × Bool) (w' : World) : Prop :=
  (∀ u ∈ l.1.userIds, u.toNat < 2 ^ 31) ∧ FreshGroups w.db.groups w'.db.groups ∧
    ∃ tr, Runs StepOk w l.1.run tr l.2 w'

namespace ZAresGroupManagerImpl

section CreateGroup

variable {w w' : World} {tr : List Event} {createUserId groupType : UInt32}
  {groupName avatar adesc : Bytes} {memberUserIds : List UInt32} {group group' : GroupInfo} {ok : Bool}

/-- The values that `CreateGroup` inserts, with the second clock at `now`. -/
def createValues (createUserId : UInt32) (groupName : Bytes) (groupType : UInt32) (avatar adesc : Bytes)
    (now : UInt64) : GroupValues where
  groupName := cStr groupName
  avatar := cStr avatar
  adesc := cStr adesc
  createUserId := addParam createUserId
  groupType := addParam groupType
  memberCnt := 0
  created := addParam (now / 1000).toUInt32
  updated := addParam (now / 1000).toUInt32

/-- The commands of `CreateGroup`, whatever comes of them: none if its guard rejects the call, and
    with an id for the new group those of a join to it. -/
theorem createGroup_commands {step : World → (c : Cmd) → c.Answer → World → Prop}
    (h : Runs step w (createGroup createUserId groupName groupType avatar adesc memberUserIds group)
      tr (ok, group') w') :
    ok = false ∧ (createUserId = 0 ∨ groupName = [] ∨ groupType = 0) ∧ w' = w ∧ tr = [] ∨
      ¬(createUserId = 0 ∨ groupName = [] ∨ groupType = 0) ∧ ∃ now now' id w₁ w₂ w₃ tr₁,
        step w .nowMSTime now w₁ ∧ step w₁ .nowMSTime now' w₂ ∧
        step w₂ (.group (.insertGroup
          (createValues createUserId groupName groupType avatar adesc now'))) id w₃ ∧
        tr = ⟨.nowMSTime, now⟩ :: ⟨.nowMSTime, now'⟩ :: ⟨.group (.insertGroup
          (createValues createUserId groupName groupType avatar adesc now')), id⟩ :: tr₁ ∧
        (ok = false ∧ ¬id > (0 : UInt64) ∧ w' = w₃ ∧ tr₁ = [] ∨
          id > (0 : UInt64) ∧ ∃ now'' w₄ info tr', step w₃ .nowMSTime now'' w₄ ∧
            info.groupId = UInt64.toUInt32 id ∧
            Runs step w₄ (joinGroup memberUserIds (UInt64.toUInt32 id) info) tr' ok w' ∧
            tr₁ = ⟨.nowMSTime, now''⟩ :: tr' ∧ group'.groupUpdated = UInt64.toUInt32 now'') := by
  unfold createGroup at h
  by_cases hguard : createUserId = 0 ∨ groupName = [] ∨ groupType = 0
  · rw [if_pos hguard] at h
    obtain ⟨rfl, heq, rfl⟩ := runs_pure.mp h
    exact Or.inl ⟨(Prod.mk.inj heq).1, hguard, rfl, rfl⟩
  simp only [if_neg hguard, runs_bind, runs_issue] at h
  obtain ⟨_, now, w₁, _, ⟨hclock, rfl⟩, h, rfl⟩ := h
  obtain ⟨_, now', w₂, _, ⟨hclock', rfl⟩, h, rfl⟩ := h
  obtain ⟨_, id, w₃, _, ⟨hinsert, rfl⟩, h, rfl⟩ := h
  refine Or.inr ⟨hguard, now, now', id, w₁, w₂, w₃, _, hclock, hclock', hinsert, rfl, ?_⟩
  by_cases hgt : id > (0 : UInt64)
  · rw [if_pos hgt] at h
    simp only [runs_bind, runs_issue] at h
    obtain ⟨_, now'', w₄, _, ⟨hclock'', rfl⟩, ⟨_, _, w₅, _, hjoin, h, rfl⟩, rfl⟩ := h
    obtain ⟨rfl, heq, rfl⟩ := runs_pure.mp h
    obtain ⟨rfl, rfl⟩ := Prod.mk.inj heq
    exact Or.inr ⟨hgt, now'', w₄, _, _, hclock'', rfl, hjoin, by rw [List.append_nil]; rfl, rfl⟩
  · rw [if_neg hgt] at h
    obtain ⟨rfl, heq, rfl⟩ := runs_pure.mp h
    exact Or.inl ⟨(Prod.mk.inj heq).1, hgt, rfl, rfl⟩

/-- A call that makes a group leaves `joinGroup` to add the members to it. -/
theorem createGroup_runs
    (h : Runs StepOk w (createGroup createUserId groupName groupType avatar adesc memberUserIds group)
      tr (ok, group') w') :
    ((createUserId = 0 ∨ groupName = [] ∨ groupType = 0) ∧ w' = w) ∨
      ∃ (row : GroupRow) (t₁ : GroupTables),
      ¬(createUserId = 0 ∨ groupName = [] ∨ groupType = 0) ∧
      t₁.imGroup = w.db.groups.imGroup ++ [row] ∧
      t₁.imGroupRelation = w.db.groups.imGroupRelation ∧
      0 < row.groupId ∧ row.memberCnt = 0 ∧ row.groupId ∉ w.db.groups.imGroup.map (·.groupId) ∧
      ((¬UInt64.ofInt row.groupId > 0 ∧ w' = w.setGroups t₁) ∨
        ∃ info tr', info.groupId = (UInt64.ofInt row.groupId).toUInt32 ∧
          Runs StepOk (w.setGroups t₁)
            (joinGroup memberUserIds (UInt64.ofInt row.groupId).toUInt32 info) tr' ok w') := by
  rcases createGroup_commands h with ⟨-, hguard, rfl, -⟩ | ⟨hguard, now, now', id, w₁, w₂, w₃, tr₁,
    hclock, hclock', hinsert, -, hrest⟩
  · exact Or.inl ⟨hguard, rfl⟩
  obtain rfl : w₁ = w := hclock
  obtain rfl : w₂ = w₁ := hclock'
  obtain ⟨t₁, ⟨key, ⟨_, _, hkey, hrows⟩, hrel, rfl⟩, rfl⟩ := hinsert
  obtain ⟨hpos, hnew⟩ := hkey key (List.mem_singleton_self key)
  have hunused : key ∉ w₂.db.groups.imGroup.map (·.groupId) := by
    intro hmem
    obtain ⟨row, hrow, heq⟩ := List.mem_map.mp hmem
    exact hnew row hrow heq
  refine Or.inr ⟨_, t₁, hguard, hrows, hrel, hpos, rfl, hunused, ?_⟩
  rcases hrest with ⟨-, hgt, rfl, -⟩ | ⟨-, now'', w₄, info, tr', hclock'', hinfo, hjoin, -⟩
  · exact Or.inl ⟨hgt, rfl⟩
  · obtain rfl := hclock''
    exact Or.inr ⟨info, tr', hinfo, hjoin⟩

end CreateGroup

end ZAresGroupManagerImpl

/-! ## The invariant -/

/-- Every group's `memberCnt` is the number of its active rows. -/
structure Exact (t : GroupTables) : Prop where
  ids : (t.imGroup.map (·.groupId)).Nodup
  counted : ∀ g ∈ t.imGroup, g.memberCnt = t.imGroupRelation.countP (RelationRow.isActive g.groupId)
  shared : Shared t.imGroupRelation

theorem exact_empty : Exact { imGroup := [], imGroupRelation := [] } where
  ids := List.nodup_nil
  counted := by simp
  shared := ⟨by simp, by simp⟩

section Keep

variable {groupId updated n : Int} {userIds : List Int} {new : List RelationRow} {T T' : GroupTables}

/-- Active rows and rows that become active make the active rows after a join. -/
theorem Joined.countP_active (h : Joined groupId userIds new T T') (g : Int) :
    T'.imGroupRelation.countP (RelationRow.isActive g) =
      T.imGroupRelation.countP (RelationRow.isActive g) + if g = groupId then
        new.length + T.imGroupRelation.countP (RelationRow.isInWith 0 groupId userIds) else 0 := by
  rw [h.relations, List.countP_append, Table.countP_updateAll]
  by_cases hg : g = groupId
  · subst hg
    have hnew : new.countP (RelationRow.isActive g) = new.length := by
      refine List.countP_eq_length.mpr fun r hr => decide_eq_true ?_
      obtain ⟨hrg, -, hstatus, -⟩ := h.newcomers.mem hr
      exact ⟨hrg, by omega⟩
    have hold : (T.imGroupRelation.countP fun r => RelationRow.isActive g
        (if r.isInWith 0 g userIds then r.activate else r)) =
        T.imGroupRelation.countP (RelationRow.isActive g) +
          T.imGroupRelation.countP (RelationRow.isInWith 0 g userIds) := by
      refine Table.countP_split (fun r _ => ?_) fun r _ hactive => ?_
      · by_cases hin : r.isInWith 0 g userIds = true
        · rw [if_pos hin, hin, Bool.or_true]
          exact decide_eq_true ⟨(RelationRow.isInWith_iff.mp hin).1.1, le_refl 1⟩
        · rw [if_neg hin, eq_false_of_ne_true hin, Bool.or_false]
      · have hstatus := (of_decide_eq_true hactive).2
        rw [← Bool.not_eq_true]
        intro hin
        have h0 := RelationRow.status_of_isInWith hin
        omega
    rw [if_pos rfl, hnew, hold]
    omega
  · have hnew : new.countP (RelationRow.isActive g) = 0 := by
      apply List.countP_eq_zero.mpr
      intro r hr hactive
      exact hg ((of_decide_eq_true hactive).1.symm.trans (h.newcomers.mem hr).1)
    rw [if_neg hg, hnew]
    apply List.countP_congr
    intro r _
    by_cases hin : r.isInWith 0 groupId userIds = true
    · have hrg := (RelationRow.isInWith_iff.mp hin).1.1
      have hne : r.groupId ≠ g := fun hrg' => hg (hrg'.symm.trans hrg)
      have hne' : r.activate.groupId ≠ g := hne
      rw [if_pos hin]
      simp [RelationRow.isActive, hne, hne']
    · rw [if_neg hin]

/-- The active rows are those that stay active and those that a departure takes. -/
theorem Departed.countP_active (h : Departed groupId userIds updated T T') (g : Int) :
    T.imGroupRelation.countP (RelationRow.isActive g) =
      T'.imGroupRelation.countP (RelationRow.isActive g) + if g = groupId then
        T.imGroupRelation.countP (RelationRow.isInWith 1 groupId userIds) else 0 := by
  rw [h.relations, Table.countP_updateAll]
  by_cases hg : g = groupId
  · subst hg
    rw [if_pos rfl]
    refine Table.countP_split (fun r _ => ?_) fun r _ hactive => ?_
    · by_cases hin : r.isInWith 1 g userIds = true
      · obtain ⟨⟨hrg, -⟩, hstatus⟩ := RelationRow.isInWith_iff.mp hin
        rw [if_pos hin, hin, Bool.or_true]
        exact decide_eq_true ⟨hrg, by omega⟩
      · rw [if_neg hin, eq_false_of_ne_true hin, Bool.or_false]
    · rw [← Bool.not_eq_true]
      intro hin
      rw [if_pos hin] at hactive
      have hstatus : (1 : Int) ≤ 0 := (of_decide_eq_true hactive).2
      omega
  · rw [if_neg hg]
    apply List.countP_congr
    intro r _
    by_cases hin : r.isInWith 1 groupId userIds = true
    · have hrg := (RelationRow.isInWith_iff.mp hin).1.1
      have hne : r.groupId ≠ g := fun hrg' => hg (hrg'.symm.trans hrg)
      have hne' : (r.deactivate updated).groupId ≠ g := hne
      rw [if_pos hin]
      simp [RelationRow.isActive, hne, hne']
    · rw [if_neg hin]

/-- If the active rows of the group have changed by the number that is added to its `memberCnt`, and
    those of no other group have changed, the counts are still exact. -/
theorem Exact.recount (h : Exact T) (hcount : Recounted groupId n T.imGroup T'.imGroup)
    (hs : Shared T'.imGroupRelation)
    (hactive : ∀ g, (T'.imGroupRelation.countP (RelationRow.isActive g) : Int) =
      T.imGroupRelation.countP (RelationRow.isActive g) + if g = groupId then n else 0) :
    Exact T' := by
  obtain ⟨f, k, hf, hupdate⟩ := hcount
  -- the LIMIT 1 does not matter: the id is a key
  obtain ⟨heq, -⟩ := hupdate.all (Table.countP_unique h.ids groupId)
  have hids : T'.imGroup.map (·.groupId) = T.imGroup.map (·.groupId) := by
    rw [heq]
    exact Table.map_updateAll (fun g => (hf g).1) T.imGroup
  refine ⟨hids ▸ h.ids, ?_, hs⟩
  intro g' hg'
  rw [heq] at hg'
  obtain ⟨g, hg, rfl⟩ := Table.mem_updateAll.mp hg'
  by_cases hid : g.groupId = groupId
  · rw [if_pos (decide_eq_true hid), (hf g).1, (hf g).2, h.counted g hg, hactive, if_pos hid]
  · have hne : ¬decide (g.groupId = groupId) = true := fun hd => hid (of_decide_eq_true hd)
    rw [if_neg hne, h.counted g hg, hactive, if_neg hid, add_zero]

theorem Joined.exact (hj : Joined groupId userIds new T T') (h : Exact T) : Exact T' := by
  apply h.recount hj.counted (hj.shared h.shared)
  intro g
  rw [hj.countP_active g]
  split <;> push_cast <;> ring

theorem Departed.exact (hd : Departed groupId userIds updated T T') (h : Exact T) : Exact T' := by
  apply h.recount hd.counted (hd.shared h.shared)
  intro g
  rw [hd.countP_active g]
  split <;> push_cast <;> ring

/-- A new group without members has the count 0. -/
theorem Exact.newGroup {row : GroupRow} (h : Exact T)
    (hrow : T'.imGroup = T.imGroup ++ [row]) (hrel : T'.imGroupRelation = T.imGroupRelation)
    (hcnt : row.memberCnt = 0) (hnew : row.groupId ∉ T.imGroup.map (·.groupId))
    (hunused : ∀ r ∈ T.imGroupRelation, r.groupId ≠ row.groupId) : Exact T' := by
  refine ⟨?_, ?_, hrel ▸ h.shared⟩
  · rw [hrow, List.map_append, List.nodup_append']
    refine ⟨h.ids, List.nodup_singleton _, ?_⟩
    intro x hx hx'
    rw [List.map_singleton, List.mem_singleton] at hx'
    exact hnew (hx' ▸ hx)
  · intro g hg
    rw [hrow, List.mem_append] at hg
    rw [hrel]
    rcases hg with hold | hrow'
    · exact h.counted g hold
    · obtain rfl := List.mem_singleton.mp hrow'
      have hzero : T.imGroupRelation.countP (RelationRow.isActive g.groupId) = 0 :=
        List.countP_eq_zero.mpr fun r hr hactive => hunused r hr (of_decide_eq_true hactive).1
      rw [hcnt, hzero]
      rfl

end Keep

/-! ## Runs of calls -/

/-- `t₁` is `t` with the group `row`, which is new. -/
structure NewGroup (row : GroupRow) (t t₁ : GroupTables) : Prop where
  imGroup : t₁.imGroup = t.imGroup ++ [row]
  relations : t₁.imGroupRelation = t.imGroupRelation
  memberCnt : row.memberCnt = 0
  fresh : row.groupId ∉ t.imGroup.map (·.groupId)
  unused : ∀ r ∈ t.imGroupRelation, r.groupId ≠ row.groupId

theorem Recounted.groupIds {groupId n : Int} {t t' : List GroupRow} (h : Recounted groupId n t t') :
    t'.map (·.groupId) = t.map (·.groupId) := by
  obtain ⟨f, k, hf, m, htouch, -⟩ := h
  exact htouch.map_eq fun g => (hf g).1

/-- Below 2^31, the id that is read back from the INSERT is printed as it is. -/
theorem percentD_toUInt32_ofInt {key : Int} (hpos : 0 < key) (hlt : key < 2 ^ 31) :
    percentD (UInt64.ofInt key).toUInt32 = key ∧ UInt64.ofInt key > 0 := by
  have hmod : key % 2 ^ 64 = key := Int.emod_eq_of_lt hpos.le (by omega)
  have hnat : (UInt64.ofInt key).toNat = key.toNat := by
    rw [UInt64.ofInt, hmod, UInt64.toNat_ofNat', Nat.mod_eq_of_lt (by omega)]
  have hnat32 : (UInt64.ofInt key).toUInt32.toNat = key.toNat := by
    rw [UInt64.toNat_toUInt32, hnat, Nat.mod_eq_of_lt (by omega)]
  constructor
  · rw [percentD_eq (by omega), hnat32]
    omega
  · show (0 : UInt64) < UInt64.ofInt key
    rw [UInt64.lt_iff_toNat_lt, hnat]
    show 0 < key.toNat
    omega

namespace GroupOp

/-- What a call can do: nothing, join, remove, or make a group and then nothing or join. -/
theorem step_cases {w w' : World} {op : GroupOp} {ok : Bool}
    (hs : Shared w.db.groups.imGroupRelation) (h : GroupOp.Step w (op, ok) w') :
    (¬op.Accepts ∧ w' = w) ∨
    (∃ us g group new t', op = joinGroup us g group ∧ op.Accepts ∧ w' = w.setGroups t' ∧
      Joined (percentD g) (us.map uintToString) new w.db.groups t') ∨
    (∃ r us g group updated t', op = quitGroup r us g group ∧ w' = w.setGroups t' ∧
      Departed (percentD g) (us.map uintToString) updated w.db.groups t') ∨
    (∃ creator name type avatar adesc us group row t₁,
      op = createGroup creator name type avatar adesc us group ∧
      op.Accepts ∧ NewGroup row w.db.groups t₁ ∧
      ((us = [] ∧ w' = w.setGroups t₁) ∨ ∃ new t', w' = w.setGroups t' ∧
        Joined row.groupId (us.map uintToString) new t₁ t')) := by
  obtain ⟨hids, hfresh, tr, hrun⟩ := h
  cases op with
  | joinGroup us g group =>
    rcases ZAresGroupManagerImpl.joinGroup_runs hs hids hrun with
      ⟨-, hrejects, rfl⟩ | ⟨-, haccepts, new, t', rfl, hj⟩
    · exact Or.inl ⟨hrejects, rfl⟩
    · exact Or.inr (Or.inl ⟨us, g, group, new, t', rfl, haccepts, rfl, hj⟩)
  | quitGroup r us g group =>
    rcases ZAresGroupManagerImpl.quitGroup_runs hs hrun with
      ⟨-, hrejects, rfl⟩ | ⟨-, -, updated, t', rfl, hd⟩
    · exact Or.inl ⟨hrejects, rfl⟩
    · exact Or.inr (Or.inr (Or.inl ⟨r, us, g, group, updated, t', rfl, rfl, hd⟩))
  | createGroup creator name type avatar adesc us group =>
    -- the call returns the answer of a pair
    have hpair : ∃ group', Runs StepOk w
        (ZAresGroupManagerImpl.createGroup creator name type avatar adesc us group) tr (ok, group')
        w' := by
      have hbind : Runs StepOk w (ZAresGroupManagerImpl.createGroup creator name type avatar adesc us
          group >>= fun p => pure p.1) tr ok w' := by
        rw [bind_pure_comp]
        exact hrun
      obtain ⟨tr₁, ⟨ok', group'⟩, w₁, tr₂, hcreate, hpure, rfl⟩ := runs_bind.mp hbind
      obtain ⟨rfl, rfl, rfl⟩ := runs_pure.mp hpure
      exact ⟨group', by rw [List.append_nil]; exact hcreate⟩
    obtain ⟨group', hcreate⟩ := hpair
    rcases ZAresGroupManagerImpl.createGroup_runs hcreate with
      ⟨hguard, rfl⟩ | ⟨row, t₁, hguard, himGroup, hrel, hpos, hcnt, hnew, hrest⟩
    · exact Or.inl ⟨not_not_intro hguard, rfl⟩
    -- whatever comes of the join, the new row is there afterwards, so its id is a fresh one
    have hmade : row.groupId < 2 ^ 31 ∧ ∀ r ∈ w.db.groups.imGroupRelation, r.groupId ≠ row.groupId := by
      have hmem : row.groupId ∈ w'.db.groups.imGroup.map (·.groupId) := by
        have hmem₁ : row.groupId ∈ t₁.imGroup.map (·.groupId) := by
          rw [himGroup]
          simp
        rcases hrest with ⟨-, rfl⟩ | ⟨info, tr', -, hjoin⟩
        · exact hmem₁
        · have hs₁ : Shared t₁.imGroupRelation := hrel ▸ hs
          rcases ZAresGroupManagerImpl.joinGroup_runs hs₁ hids hjoin with
            ⟨-, -, rfl⟩ | ⟨-, -, new, t', rfl, hj⟩
          · exact hmem₁
          · show row.groupId ∈ t'.imGroup.map (·.groupId)
            rw [hj.counted.groupIds]
            exact hmem₁
      obtain ⟨row', hrow', heq⟩ := List.mem_map.mp hmem
      rw [← heq] at hnew ⊢
      exact hfresh row' hrow' hnew
    have hgroup : NewGroup row w.db.groups t₁ := ⟨himGroup, hrel, hcnt, hnew, hmade.2⟩
    have hs₁ : Shared t₁.imGroupRelation := hrel ▸ hs
    obtain ⟨hkey, hgt⟩ := percentD_toUInt32_ofInt hpos hmade.1
    refine Or.inr (Or.inr (Or.inr
      ⟨creator, name, type, avatar, adesc, us, group, row, t₁, rfl, hguard, hgroup, ?_⟩))
    rcases hrest with ⟨hnot, -⟩ | ⟨info, tr', hinfo, hjoin⟩
    · exact absurd hgt hnot
    rcases ZAresGroupManagerImpl.joinGroup_runs hs₁ hids hjoin with
      ⟨-, hrejects, rfl⟩ | ⟨-, -, new, t', rfl, hj⟩
    · -- a join to the new group is rejected only for an empty list
      refine Or.inl ⟨?_, rfl⟩
      by_contra hne
      have hid : (UInt64.ofInt row.groupId).toUInt32 ≠ 0 := by
        intro h0
        rw [h0] at hkey
        have hzero : percentD 0 = 0 := rfl
        omega
      exact hrejects ⟨hne, hid, hinfo.symm⟩
    · rw [hkey] at hj
      exact Or.inr ⟨new, t', rfl, hj⟩

/-- Every call keeps the counts exact. -/
theorem Step.exact {w w' : World} {l : GroupOp × Bool} (hexact : Exact w.db.groups)
    (h : GroupOp.Step w l w') : Exact w'.db.groups := by
  rcases step_cases hexact.shared h with ⟨-, rfl⟩ | ⟨us, g, group, new, t', -, -, rfl, hj⟩ |
    ⟨r, us, g, group, updated, t', -, rfl, hd⟩ |
    ⟨creator, name, type, avatar, adesc, us, group, row, t₁, -, -, hgroup, hrest⟩
  · exact hexact
  · exact hj.exact hexact
  · exact hd.exact hexact
  · have hexact₁ : Exact t₁ := hexact.newGroup hgroup.imGroup hgroup.relations hgroup.memberCnt
      hgroup.fresh hgroup.unused
    rcases hrest with ⟨-, rfl⟩ | ⟨new, t', rfl, hj⟩
    · exact hexact₁
    · exact hj.exact hexact₁

end GroupOp

/-- **`memberCnt` is exact**, and stays so: every call keeps it, so it is in every state that a run of
    calls can reach from empty tables. -/
theorem memberCnt_exact :
    (∀ w l w', Exact w.db.groups → GroupOp.Step w l w' → Exact w'.db.groups) ∧
      ∀ w₀ ls w, w₀.db.groups = { imGroup := [], imGroupRelation := [] } →
        Run GroupOp.Step w₀ ls w → Exact w.db.groups := by
  have hkeep : ∀ w l w', Exact w.db.groups → GroupOp.Step w l w' → Exact w'.db.groups :=
    fun w l w' hexact h => h.exact hexact
  refine ⟨hkeep, fun w₀ ls w h₀ hrun => ?_⟩
  exact hrun.invariant (fun w => Exact w.db.groups) hkeep (by rw [h₀]; exact exact_empty)

/-! ## A group is made -/

/-- User 1 makes a group. -/
def makeGroup (userIds : List UInt32) : GroupOp := .createGroup 1 [103] 1 [] [] userIds .new

/-- The world after it. -/
def madeGroup (userIds : List UInt32) : World := ((makeGroup userIds).run.play emptyWorld).2.2

theorem makeGroup_step {userIds : List UInt32} (hids : ∀ u ∈ userIds, u.toNat < 2 ^ 31)
    (hfresh : FreshGroups emptyWorld.db.groups (madeGroup userIds).db.groups) :
    ∃ ok, GroupOp.Step emptyWorld (makeGroup userIds, ok) (madeGroup userIds) :=
  ⟨_, hids, hfresh, _, Prog.play_runs (makeGroup userIds).run emptyWorld⟩

/-- A group made with 2, listed twice, and 3 has three rows, and says so. -/
theorem memberCnt_exact_madeGroup : Exact (madeGroup [2, 2, 3]).db.groups ∧
    (madeGroup [2, 2, 3]).db.groups.imGroup.map (·.memberCnt) = [3] := by
  have hfresh : FreshGroups emptyWorld.db.groups (madeGroup [2, 2, 3]).db.groups := by
    unfold FreshGroups
    decide
  obtain ⟨ok, hstep⟩ := makeGroup_step (by simp) hfresh
  exact ⟨memberCnt_exact.2 emptyWorld _ _ rfl (.one hstep), by decide⟩

end Zattd
