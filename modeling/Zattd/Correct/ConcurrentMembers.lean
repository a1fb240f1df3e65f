/-
  Joins and departures AT ONCE, on several handler threads.

  Nothing encloses the statements of a call: between the query of a join and its INSERT another join
  may add the same user, and he has two rows; between the query of a departure and its UPDATE another
  departure may take the same user out, and `memberCnt` goes down twice.  Nothing else goes wrong.
  The counts are moved by what the statements answer, not by what was read, so every call settles its
  account with the table whenever its statements run: `memberCnt` and the active rows agree when all
  calls have ended, in any interleaving in which no INSERT meets a row of a user it is for and no
  departure writes a row that is inactive already.
-/
import Zattd.Correct.MemberCnt
import Zattd.Correct.OneRow
import Zattd.Lib.Threads

set_option linter.unusedVariables false

namespace Zattd

open Prog Threads ZAresGroupManagerImpl

/-! ## The condition -/

/-- A statement runs undisturbed if no user it inserts a row for has one in the group, and it
    deactivates no row that is inactive. -/
def Undisturbed (t : GroupTables) : Cmd → Prop
  | .group (.insertRelations rows) =>
      ∀ v ∈ rows, ∀ r ∈ t.imGroupRelation, r.pair ≠ (v.groupId, v.userId)
  | .group (.updateDeactivate updated groupId userIds) =>
      ∀ r ∈ t.imGroupRelation, r.isIn groupId userIds = true → r.status = 0 →
        r.deactivate updated = r
  | _ => True

/-- A command succeeds, undisturbed. -/
def StepUndisturbed (w : World) (c : Cmd) (a : c.Answer) (w' : World) : Prop :=
  StepOk w c a w' ∧ Undisturbed w.db.groups c

/-- A call with what is known of the group. -/
abbrev MemberCall : Type := GroupCall × GroupInfo

/-- The program of the call. -/
def MemberCall.run (c : MemberCall) : Server Bool := c.1.run c.2

/-! ## The accounts -/

/-- By how much the active rows of a group are more than its `memberCnt`. -/
def surplus (groupId : Int) (w : World) : Int :=
  w.db.groups.imGroupRelation.countP (RelationRow.isActive groupId) -
    totalCnt (w.db.groups.imGroup.filter fun g => decide (g.groupId = groupId))

/-- What a statement of a call adds to the surplus of a group, according to its answer. -/
def surplusEntry (groupId : Int) : (c : Cmd) → c.Answer → Int
  | .group (.insertRelations rows), n => if ∀ v ∈ rows, v.groupId = groupId then n else 0
  | .group (.updateActivate g _), n => if g = groupId then n else 0
  | .group (.updateDeactivate _ g _), n => if g = groupId then -n else 0
  | .group (.updateMemberCntAdd n g), _ => if g = groupId then -n else 0
  | .group (.updateMemberCntSub n _ g), _ => if g = groupId then n else 0
  | _, _ => 0

/-- The commands that calls issue.  An INSERT is for some users, each listed once, of one group. -/
def OfMembers : Cmd → Prop
  | .nowMSTime => True
  | .group (.insertRelations rows) => rows ≠ [] ∧ (rows.map (·.userId)).Nodup ∧
      ∃ g, ∀ v ∈ rows, v.groupId = g
  | .group (.selectStatuses _ _) | .group (.updateActivate _ _) | .group (.updateDeactivate _ _ _)
  | .group (.updateMemberCntAdd _ _) | .group (.updateMemberCntSub _ _ _) => True
  | _ => False

section Settle

variable {g : Int}

/-- A write that is left out when there is nothing to write is entered as 0. -/
theorem optional_accounts {c : Prop} [Decidable c] {p : Server Int} {e : Int → Int} {d : Int}
    (he : e 0 = 0)
    (hp : ¬c → Accounts OfMembers (surplusEntry g) (fun n d' => d' = d + e n) p d) :
    Accounts OfMembers (surplusEntry g) (fun n d' => d' = d + e n) (if c then pure 0 else p) d := by
  by_cases hc : c
  · rw [if_pos hc]
    exact accounts_pure (by rw [he, add_zero])
  · rw [if_neg hc]
    exact hp hc

/-- The rows of `JoinGroup` are for some users, each listed once, of one group. -/
theorem ofMembers_newRelations {statuss : Map UInt32} {userIds : List UInt32} {groupId now : UInt32}
    {group : GroupInfo} (hnodup : userIds.Nodup)
    (hne : newRelations statuss userIds groupId group now ≠ []) :
    OfMembers (.group (.insertRelations (newRelations statuss userIds groupId group now))) := by
  refine ⟨hne, ?_, percentD groupId, ?_⟩
  · have hmap : (newRelations statuss userIds groupId group now).map (·.userId) =
        (userIds.filter fun u => !statuss.contains u).map percentD := by
      rw [newRelations, List.map_map]
      rfl
    rw [hmap]
    apply (hnodup.filter _).map
    intro u u' heq
    have hcolumn := congrArg getColumn heq
    rwa [getColumn_percentD, getColumn_percentD] at hcolumn
  · intro v hv
    obtain ⟨u, -, rfl⟩ := List.mem_map.mp hv
    rfl

/-- The INSERT of `JoinGroup` is entered for its group. -/
theorem insertRelations_accounts {statuss : Map UInt32} {userIds : List UInt32}
    {groupId now : UInt32} {group : GroupInfo} {d : Int} (hnodup : userIds.Nodup)
    (hne : newRelations statuss userIds groupId group now ≠ []) :
    Accounts OfMembers (surplusEntry g) (fun n d' => d' = d + if percentD groupId = g then n else 0)
      (issue (.group (.insertRelations (newRelations statuss userIds groupId group now))) : Server Int)
      d := by
  have hgroup : (∀ v ∈ newRelations statuss userIds groupId group now, v.groupId = g) ↔
      percentD groupId = g := by
    have hall : ∀ v ∈ newRelations statuss userIds groupId group now, v.groupId = percentD groupId := by
      intro v hv
      obtain ⟨u, -, rfl⟩ := List.mem_map.mp hv
      rfl
    constructor
    · intro hg
      obtain ⟨v, hv⟩ := List.exists_mem_of_ne_nil _ hne
      rw [← hall v hv, hg v hv]
    · rintro rfl
      exact hall
  apply accounts_issue (ofMembers_newRelations hnodup hne)
  intro n
  simp only [surplusEntry, hgroup]

theorem joinGroup_settles {userIds : List UInt32} {groupId : UInt32} {group : GroupInfo}
    (hnodup : userIds.Nodup) : Settles OfMembers (surplusEntry g)
      (joinGroup userIds groupId group) 0 := by
  unfold joinGroup
  by_cases hnone : userIds = [] ∨ groupId = 0
  · rw [if_pos hnone]
    exact accounts_pure rfl
  by_cases hother : groupId ≠ group.groupId
  · rw [if_neg hnone, if_pos hother]
    exact accounts_pure rfl
  rw [if_neg hnone, if_neg hother]
  refine .bind (accounts_issue trivial fun now => ?_)
  refine .bind (accounts_issue trivial fun answ => ?_)
  refine .bind ((optional_accounts (e := fun n => if percentD groupId = g then n else 0) (ite_self 0)
    fun hne => insertRelations_accounts hnodup hne).mono ?_)
  rintro n _ rfl
  refine .bind ((optional_accounts (e := fun m => if percentD groupId = g then m else 0) (ite_self 0)
    fun hne => accounts_issue trivial fun m => rfl).mono ?_)
  rintro m _ rfl
  refine .bind (accounts_issue trivial fun k => accounts_pure ?_)
  simp only [surplusEntry]
  split <;> omega

theorem quitGroup_settles {requestUserId groupId : UInt32} {userIds : List UInt32}
    {group : GroupInfo} : Settles OfMembers (surplusEntry g)
      (quitGroup requestUserId userIds groupId group) 0 := by
  unfold quitGroup
  by_cases hnone : userIds = [] ∨ groupId = 0 ∨ requestUserId = 0 ∨ groupId = 0
  · rw [if_pos hnone]
    exact accounts_pure rfl
  by_cases hother : requestUserId ≠ group.groupCreatorId ∨ groupId ≠ group.groupId
  · rw [if_neg hnone, if_pos hother]
    exact accounts_pure rfl
  rw [if_neg hnone, if_neg hother]
  refine .bind (accounts_issue trivial fun now => ?_)
  refine .bind (accounts_issue trivial fun answ => ?_)
  refine .bind ((optional_accounts (e := fun m => if percentD groupId = g then -m else 0) ?_
    fun hne => accounts_issue trivial fun m => rfl).mono ?_)
  · split <;> rfl
  rintro m _ rfl
  refine .bind (accounts_issue trivial fun k => accounts_pure ?_)
  simp only [surplusEntry]
  split <;> omega

theorem MemberCall.settles {c : MemberCall} (hnodup : c.1.userIds.Nodup) :
    Settles OfMembers (surplusEntry g) c.run 0 := by
  obtain ⟨c, group⟩ := c
  cases c with
  | joinGroup us groupId => exact joinGroup_settles hnodup
  | quitGroup r us groupId => exact quitGroup_settles

end Settle

/-! ## What a statement does -/

/-- What statements keep while calls run: which groups there are, the statuses, and one row for each
    member. -/
structure Sound (ids : List Int) (w : World) : Prop where
  groups : w.db.groups.imGroup.map (·.groupId) = ids
  status : ∀ r ∈ w.db.groups.imGroupRelation, r.status = 0 ∨ r.status = 1
  one : OnePer w.db.groups.imGroupRelation

section Statements

variable {ids : List Int} {groupId : Int} {w w' : World}

/-- Counts are counted in the surplus. -/
theorem totalCnt_recounted {g n : Int} {t t' : List GroupRow} (h : Recounted g n t t')
    (hmem : g ∈ t.map (·.groupId)) :
    totalCnt (t'.filter fun row => decide (row.groupId = groupId)) =
      totalCnt (t.filter fun row => decide (row.groupId = groupId)) + if g = groupId then n else 0 := by
  by_cases hg : g = groupId
  · subst hg
    have htotal := h.totalCnt hmem
    have hframe := h.frame
    have hsplit := totalCnt_split g t
    have hsplit' := totalCnt_split g t'
    rw [hframe] at hsplit'
    rw [if_pos rfl]
    omega
  · rw [if_neg hg, add_zero, h.others hg]

/-- An UPDATE of the rows of one group leaves the active rows of the others. -/
theorem countP_isActive_other {g : Int} {userIds : List Int} {f : RelationRow → RelationRow}
    (hf : ∀ r, (f r).groupId = r.groupId) (hne : g ≠ groupId) (t : List RelationRow) :
    (Table.updateAll (RelationRow.isIn g userIds) f t).countP (RelationRow.isActive groupId) =
      t.countP (RelationRow.isActive groupId) := by
  rw [Table.countP_updateAll]
  apply List.countP_congr
  intro r _
  by_cases hin : r.isIn g userIds = true
  · have hrg := (RelationRow.isIn_iff.mp hin).1
    have hother : r.groupId ≠ groupId := fun heq => hne (hrg.symm.trans heq)
    have hother' : (f r).groupId ≠ groupId := by rwa [hf]
    rw [if_pos hin]
    simp [RelationRow.isActive, hother, hother']
  · rw [if_neg hin]

/-- An UPDATE that sets the status to 0 or 1 keeps the statuses, and whose rows they are. -/
theorem Sound.update {t' : GroupTables} {p : RelationRow → Bool} {f : RelationRow → RelationRow}
    (h : Sound ids w) (hgroups : t'.imGroup = w.db.groups.imGroup)
    (hrel : t'.imGroupRelation = Table.updateAll p f w.db.groups.imGroupRelation)
    (hf : ∀ r, (f r).pair = r.pair ∧ ((f r).status = 0 ∨ (f r).status = 1)) :
    Sound ids (w.setGroups t') := by
  refine ⟨?_, ?_, ?_⟩
  · show t'.imGroup.map (·.groupId) = ids
    rw [hgroups]
    exact h.groups
  · show ∀ r ∈ t'.imGroupRelation, r.status = 0 ∨ r.status = 1
    intro r' hr'
    rw [hrel] at hr'
    obtain ⟨r, hr, rfl⟩ := Table.mem_updateAll.mp hr'
    split
    · exact (hf r).2
    · exact h.status r hr
  · show (t'.imGroupRelation.map (·.pair)).Nodup
    rw [hrel, Table.map_updateAll fun r => (hf r).1]
    exact h.one

/-- An UPDATE of the counts leaves the relations, and which groups there are. -/
theorem Sound.recount {t' : GroupTables} {g n : Int} (h : Sound ids w)
    (hrel : t'.imGroupRelation = w.db.groups.imGroupRelation)
    (hcount : Recounted g n w.db.groups.imGroup t'.imGroup) : Sound ids (w.setGroups t') := by
  refine ⟨?_, ?_, ?_⟩
  · exact hcount.groupIds.trans h.groups
  · show ∀ r ∈ t'.imGroupRelation, r.status = 0 ∨ r.status = 1
    rw [hrel]
    exact h.status
  · show OnePer t'.imGroupRelation
    rw [hrel]
    exact h.one

theorem Sound.surplus_recount {t' : GroupTables} {g n : Int} (h : Sound ids w)
    (hrel : t'.imGroupRelation = w.db.groups.imGroupRelation)
    (hcount : Recounted g n w.db.groups.imGroup t'.imGroup) (hmem : groupId ∈ ids) :
    surplus groupId (w.setGroups t') = surplus groupId w + if g = groupId then -n else 0 := by
  show (t'.imGroupRelation.countP (RelationRow.isActive groupId) : Int) -
    totalCnt (t'.imGroup.filter fun row => decide (row.groupId = groupId)) = _
  rw [hrel, surplus]
  by_cases hg : g = groupId
  · subst hg
    rw [totalCnt_recounted hcount (h.groups ▸ hmem), if_pos rfl, if_pos rfl]
    omega
  · rw [hcount.others hg, if_neg hg, add_zero]

/-- The new rows of an INSERT are active rows of one group. -/
theorem insertRelations_rows {T t' : GroupTables} {rows : List RelationValues} {n : Int}
    (hs : (GroupStmt.insertRelations rows).Ok T n t') :
    ∃ new, t'.imGroup = T.imGroup ∧ t'.imGroupRelation = T.imGroupRelation ++ new ∧
      n = new.length ∧ new.map (·.pair) = (rows.map fun v => (v.groupId, v.userId)) ∧
      ∀ r ∈ new, r.status = 1 ∧ ∃ v ∈ rows, r.groupId = v.groupId := by
  obtain ⟨hgroups, keys, hins, rfl⟩ := hs
  obtain ⟨new, hnew, hrows⟩ := hins.newRows fun _ _ => rfl
  refine ⟨new, hgroups, hnew, ?_, hrows.map_eq fun _ _ => rfl, ?_⟩
  · rw [hrows.rows.length_eq]
  · intro r hr
    have hmap : new.map (fun r => (r.groupId, r.status)) = rows.map fun v => (v.groupId, 1) :=
      hrows.map_eq fun _ _ => rfl
    have hmem : (r.groupId, r.status) ∈ rows.map fun v => (v.groupId, (1 : Int)) := by
      rw [← hmap]
      exact List.mem_map.mpr ⟨r, hr, rfl⟩
    obtain ⟨v, hv, heq⟩ := List.mem_map.mp hmem
    obtain ⟨hgroup, hstatus⟩ := Prod.mk.inj heq
    exact ⟨hstatus.symm, v, hv, hgroup.symm⟩

/-- **The INSERT.**  It adds no second row, if it runs undisturbed. -/
theorem Sound.insert {t' : GroupTables} {rows : List RelationValues} {n : Int} (h : Sound ids w)
    (hc : OfMembers (.group (.insertRelations rows)))
    (hfree : Undisturbed w.db.groups (.group (.insertRelations rows)))
    (hs : (GroupStmt.insertRelations rows).Ok w.db.groups n t') : Sound ids (w.setGroups t') := by
  obtain ⟨-, hnodup, -⟩ := hc
  obtain ⟨new, hgroups, hnew, -, hpairs, hactive⟩ := insertRelations_rows hs
  refine ⟨?_, ?_, ?_⟩
  · show t'.imGroup.map (·.groupId) = ids
    rw [hgroups]
    exact h.groups
  · show ∀ r ∈ t'.imGroupRelation, r.status = 0 ∨ r.status = 1
    intro r hr
    rw [hnew, List.mem_append] at hr
    rcases hr with hold | hadded
    · exact h.status r hold
    · exact Or.inr (hactive r hadded).1
  · show (t'.imGroupRelation.map (·.pair)).Nodup
    rw [hnew, List.map_append, List.nodup_append', hpairs]
    refine ⟨h.one, ?_, ?_⟩
    · apply List.Nodup.of_map Prod.snd
      rw [List.map_map]
      exact hnodup
    · intro pair hold hadded
      obtain ⟨r, hr, rfl⟩ := List.mem_map.mp hold
      obtain ⟨v, hv, heq⟩ := List.mem_map.mp hadded
      exact hfree v hv r hr heq.symm

theorem surplus_insert {t' : GroupTables} {rows : List RelationValues} {n : Int}
    (hc : OfMembers (.group (.insertRelations rows)))
    (hs : (GroupStmt.insertRelations rows).Ok w.db.groups n t') :
    surplus groupId (w.setGroups t') =
      surplus groupId w + if ∀ v ∈ rows, v.groupId = groupId then n else 0 := by
  obtain ⟨hne, -, g, hg⟩ := hc
  obtain ⟨new, hgroups, hnew, rfl, -, hactive⟩ := insertRelations_rows hs
  have hown : (∀ v ∈ rows, v.groupId = groupId) ↔ g = groupId := by
    obtain ⟨v, hv⟩ := List.exists_mem_of_ne_nil _ hne
    constructor
    · intro hall
      rw [← hg v hv, hall v hv]
    · rintro rfl
      exact hg
  have hgroup : ∀ r ∈ new, r.groupId = g := by
    intro r hr
    obtain ⟨-, v, hv, heq⟩ := hactive r hr
    rw [heq, hg v hv]
  show (t'.imGroupRelation.countP (RelationRow.isActive groupId) : Int) -
    totalCnt (t'.imGroup.filter fun row => decide (row.groupId = groupId)) = _
  rw [hgroups, hnew, List.countP_append, surplus]
  by_cases heq : g = groupId
  · have hall : new.countP (RelationRow.isActive groupId) = new.length := by
      refine List.countP_eq_length.mpr fun r hr => decide_eq_true ?_
      obtain ⟨hstatus, -⟩ := hactive r hr
      exact ⟨(hgroup r hr).trans heq, by omega⟩
    rw [hall, if_pos (hown.mpr heq)]
    push_cast
    omega
  · have hnone : new.countP (RelationRow.isActive groupId) = 0 := by
      apply List.countP_eq_zero.mpr
      intro r hr hr'
      exact heq ((hgroup r hr).symm.trans (of_decide_eq_true hr').1)
    rw [hnone, if_neg fun hall => heq (hown.mp hall)]
    omega

/-- **The UPDATE of a join.**  The rows it changes were inactive. -/
theorem Sound.surplus_activate {t' : GroupTables} {g n : Int} {userIds : List Int} (h : Sound ids w)
    (hs : (GroupStmt.updateActivate g userIds).Ok w.db.groups n t') :
    surplus groupId (w.setGroups t') = surplus groupId w + if g = groupId then n else 0 := by
  obtain ⟨hgroups, hrel, rfl⟩ := hs
  show (t'.imGroupRelation.countP (RelationRow.isActive groupId) : Int) -
    totalCnt (t'.imGroup.filter fun row => decide (row.groupId = groupId)) = _
  rw [hgroups, hrel, surplus]
  by_cases hg : g = groupId
  · subst hg
    rw [Table.countP_updateAll_enter, if_pos rfl]
    · push_cast
      omega
    · intro r hr hin hchanged
      have hgroup := (RelationRow.isIn_iff.mp hin).1
      have hstatus : r.status = 0 := by
        rcases h.status r hr with hstatus | hstatus
        · exact hstatus
        · exact absurd (by rw [← hstatus]) hchanged
      exact ⟨by simp [RelationRow.isActive, hstatus], by simp [RelationRow.isActive, hgroup]⟩
  · rw [if_neg hg, countP_isActive_other _ hg, add_zero]
    exact fun _ => rfl

/-- **The UPDATE of a departure.**  The rows it changes were active, if it runs undisturbed. -/
theorem Sound.surplus_deactivate {t' : GroupTables} {updated g n : Int} {userIds : List Int}
    (h : Sound ids w)
    (hactive : Undisturbed w.db.groups (.group (.updateDeactivate updated g userIds)))
    (hs : (GroupStmt.updateDeactivate updated g userIds).Ok w.db.groups n t') :
    surplus groupId (w.setGroups t') = surplus groupId w + if g = groupId then -n else 0 := by
  obtain ⟨hgroups, hrel, rfl⟩ := hs
  show (t'.imGroupRelation.countP (RelationRow.isActive groupId) : Int) -
    totalCnt (t'.imGroup.filter fun row => decide (row.groupId = groupId)) = _
  rw [hgroups, hrel, surplus]
  by_cases hg : g = groupId
  · subst hg
    have hleave : ∀ r ∈ w.db.groups.imGroupRelation, r.isIn g userIds = true →
        r.deactivate updated ≠ r →
        RelationRow.isActive g r = true ∧ RelationRow.isActive g (r.deactivate updated) = false := by
      intro r hr hin hchanged
      have hgroup := (RelationRow.isIn_iff.mp hin).1
      have hstatus : r.status = 1 := by
        rcases h.status r hr with hstatus | hstatus
        · exact absurd (hactive r hr hin hstatus) hchanged
        · exact hstatus
      exact ⟨by simp [RelationRow.isActive, hgroup, hstatus],
        by simp [RelationRow.isActive, RelationRow.deactivate]⟩
    have hcount := Table.countP_updateAll_leave hleave
    rw [if_pos rfl, hcount]
    push_cast
    show _ = _ + -(Table.changed (RelationRow.isIn g userIds) (RelationRow.deactivate updated)
      w.db.groups.imGroupRelation : Int)
    unfold RelationRow.deactivate
    omega
  · rw [if_neg hg, countP_isActive_other _ hg, add_zero]
    exact fun _ => rfl

/-- The surplus of a group is that of its one row. -/
theorem surplus_eq {w : World} {row : GroupRow} (hids : (w.db.groups.imGroup.map (·.groupId)).Nodup)
    (hrow : row ∈ w.db.groups.imGroup) : surplus row.groupId w =
      w.db.groups.imGroupRelation.countP (RelationRow.isActive row.groupId) - row.memberCnt := by
  have hfilter : w.db.groups.imGroup.filter (fun g => decide (g.groupId = row.groupId)) = [row] := by
    have hmem : row ∈ w.db.groups.imGroup.filter fun g => decide (g.groupId = row.groupId) :=
      List.mem_filter.mpr ⟨hrow, decide_eq_true rfl⟩
    have hone := Table.countP_unique hids row.groupId
    rw [List.countP_eq_length_filter] at hone
    have hpos := List.length_pos_of_mem hmem
    obtain ⟨x, hx⟩ := List.length_eq_one_iff.mp (Nat.le_antisymm hone hpos)
    rw [hx, List.mem_singleton] at hmem
    rw [hx, hmem]
  rw [surplus, hfilter]
  simp [totalCnt]

/-- **One statement.**  A statement of a call that runs undisturbed keeps what is sound. -/
theorem StepUndisturbed.sound {c : Cmd} {a : c.Answer} (h : Sound ids w) (hc : OfMembers c)
    (hstep : StepUndisturbed w c a w') : Sound ids w' := by
  obtain ⟨hok, hundisturbed⟩ := hstep
  cases c with
  | nowMSTime =>
    obtain rfl : w' = w := hok
    exact h
  | group s =>
    obtain ⟨t', hs, rfl⟩ := hok
    cases s with
    | selectStatuses g us =>
      obtain ⟨rfl, -⟩ := hs
      exact h
    | insertRelations rows => exact h.insert hc hundisturbed hs
    | updateActivate g us => exact h.update hs.1 hs.2.1 fun r => ⟨rfl, Or.inr rfl⟩
    | updateDeactivate updated g us => exact h.update hs.1 hs.2.1 fun r => ⟨rfl, Or.inl rfl⟩
    | updateMemberCntAdd n g =>
      obtain ⟨hrel, k, hupdate, -⟩ := hs
      exact h.recount hrel (recounted_add rfl hupdate)
    | updateMemberCntSub n updated g =>
      obtain ⟨hrel, k, hupdate, -⟩ := hs
      exact h.recount hrel (recounted_sub rfl hupdate)
    | _ => exact absurd hc id
  | _ => exact absurd hc id

/-- And it changes the surplus of a group by what is entered for it. -/
theorem StepUndisturbed.surplus_eq {c : Cmd} {a : c.Answer} (h : Sound ids w) (hmem : groupId ∈ ids)
    (hc : OfMembers c) (hstep : StepUndisturbed w c a w') :
    surplus groupId w' = surplus groupId w + surplusEntry groupId c a := by
  obtain ⟨hok, hundisturbed⟩ := hstep
  cases c with
  | nowMSTime =>
    obtain rfl : w' = w := hok
    exact (add_zero _).symm
  | group s =>
    obtain ⟨t', hs, rfl⟩ := hok
    cases s with
    | selectStatuses g us =>
      obtain ⟨rfl, -⟩ := hs
      exact (add_zero _).symm
    | insertRelations rows => exact surplus_insert hc hs
    | updateActivate g us => exact h.surplus_activate hs
    | updateDeactivate updated g us => exact h.surplus_deactivate hundisturbed hs
    | updateMemberCntAdd n g =>
      obtain ⟨hrel, k, hupdate, -⟩ := hs
      exact h.surplus_recount hrel (recounted_add rfl hupdate) hmem
    | updateMemberCntSub n updated g =>
      obtain ⟨hrel, k, hupdate, -⟩ := hs
      have hcount := h.surplus_recount hrel (recounted_sub rfl hupdate) hmem
      rwa [neg_neg] at hcount
    | _ => exact absurd hc id
  | _ => exact absurd hc id

end Statements

/-- A table with one row for each member has one status for each. -/
theorem Sound.shared {ids : List Int} {w : World} (h : Sound ids w) :
    Shared w.db.groups.imGroupRelation := by
  refine ⟨h.status, fun r hr r' hr' hgroup huser => ?_⟩
  have hpair : r.pair = r'.pair := Prod.ext hgroup huser
  rw [List.inj_on_of_nodup_map h.one hr hr' hpair]

/-- **Membership survives undisturbed workers.**  For any calls, each user listed once, and any
    interleaving of their statements in which every statement runs undisturbed: each member has one
    row all the time, and when all calls have ended every `memberCnt` is exact again. -/
theorem membership_survives {calls : List MemberCall} {w₀ w : World} {tr : List Event}
    {ps : List (Server Bool)} (honce : ∀ c ∈ calls, c.1.userIds.Nodup) (hexact : Exact w₀.db.groups)
    (hone : OnePer w₀.db.groups.imGroupRelation)
    (hrun : Run (Threads.Step StepUndisturbed) (w₀, calls.map MemberCall.run) tr (w, ps)) :
    OnePer w.db.groups.imGroupRelation ∧ (Done ps → Exact w.db.groups) := by
  have hsound₀ : Sound (w₀.db.groups.imGroup.map (·.groupId)) w₀ := ⟨rfl, hexact.shared.status, hone⟩
  have hsettles : ∀ groupId, ∀ p ∈ calls.map MemberCall.run,
      Settles OfMembers (surplusEntry groupId) p 0 := by
    intro groupId p hp
    obtain ⟨c, hc, rfl⟩ := List.mem_map.mp hp
    exact MemberCall.settles (honce c hc)
  have hsound := Threads.keeps (fun w c a w' h hc hstep => hstep.sound h hc) hrun hsound₀ (hsettles 0)
  refine ⟨hsound.one, fun hdone => ⟨?_, fun row hrow => ?_, hsound.shared⟩⟩
  · rw [hsound.groups]
    exact hexact.ids
  · have hids : (w.db.groups.imGroup.map (·.groupId)).Nodup := by
      rw [hsound.groups]
      exact hexact.ids
    have hmem : row.groupId ∈ w₀.db.groups.imGroup.map (·.groupId) := by
      rw [← hsound.groups]
      exact List.mem_map_of_mem hrow
    have hvalue := (Threads.conserved (fun w c a w' h hc hstep =>
      ⟨hstep.sound h hc, hstep.surplus_eq h hmem hc⟩) hrun hsound₀ (hsettles row.groupId)).2 hdone
    -- nothing was owed at the start
    obtain ⟨row₀, hrow₀, hid⟩ := List.mem_map.mp hmem
    have hstart := surplus_eq hexact.ids hrow₀
    have hend := surplus_eq hids hrow
    rw [hid, hexact.counted row₀ hrow₀, hid] at hstart
    omega

/-! ## Two calls at once -/

instance (t : GroupTables) : (c : Cmd) → Decidable (Undisturbed t c)
  | .group (.insertRelations rows) => inferInstanceAs (Decidable (∀ v ∈ rows,
      ∀ r ∈ t.imGroupRelation, r.pair ≠ (v.groupId, v.userId)))
  | .group (.updateDeactivate updated groupId userIds) => inferInstanceAs (Decidable (∀ r ∈
      t.imGroupRelation, r.isIn groupId userIds = true → r.status = 0 → r.deactivate updated = r))
  | .group (.selectGroupsOf _ _ _) | .group (.selectGroupIdsOf _ _ _) | .group (.selectMembersIn _)
  | .group (.selectMembers _) | .group (.selectGroup _) | .group (.selectRecentGroups _)
  | .group (.insertGroup _) | .group (.selectStatuses _ _) | .group (.updateActivate _ _)
  | .group (.updateMemberCntAdd _ _) | .group (.updateMemberCntSub _ _ _) | .nowMSTime | .user _
  | .department _ | .contact _ | .message _ | .file _ | .counter _ | .sendSessionData _ _ =>
      isTrue trivial

/-- User 1 is the creator of group 1. -/
def groupOne : GroupInfo := { GroupInfo.new with groupId := 1, groupCreatorId := 1 }

/-- 7 joins while 2 is removed. -/
def joinAndQuit : List MemberCall :=
  [(.joinGroup [7] 1, groupOne), (.quitGroup 1 [2] 1, groupOne)]

/-- 7 joins, twice at once. -/
def joinTwice : List MemberCall :=
  [(.joinGroup [7] 1, groupOne), (.joinGroup [7] 1, groupOne)]

/-- The calls in group 1, which user 1 has made with 2, taking turns. -/
def takeTurns (allowed : World → Cmd → Bool) (calls : List MemberCall) :
    List Event × World × List (Server Bool) :=
  Threads.exec respond allowed [0, 1, 0, 1, 0, 1, 0, 1] (madeGroup [2], calls.map MemberCall.run)

/-- The times that were read. -/
def clockTimes (tr : List Event) : List UInt64 :=
  tr.filterMap fun
    | ⟨.nowMSTime, t⟩ => some t
    | _ => none

theorem madeGroup_exact : Exact (madeGroup [2]).db.groups := by
  have hfresh : FreshGroups emptyWorld.db.groups (madeGroup [2]).db.groups := by
    unfold FreshGroups
    decide
  obtain ⟨ok, hstep⟩ := makeGroup_step (by simp) hfresh
  exact hstep.exact exact_empty

theorem madeGroup_onePer : OnePer (madeGroup [2]).db.groups.imGroupRelation := by
  unfold OnePer
  decide

/-- Calls that may only go on undisturbed. -/
def undisturbed (w : World) (c : Cmd) : Bool := decide (Undisturbed w.db.groups c)

/-- A join and a departure of different users do not disturb each other. -/
theorem membership_survives_joinAndQuit :
    Exact (takeTurns undisturbed joinAndQuit).2.1.db.groups ∧
      (takeTurns undisturbed joinAndQuit).2.1.db.groups.imGroup.map (·.memberCnt) = [1] := by
  have hrun : Run (Threads.Step StepUndisturbed) (madeGroup [2], joinAndQuit.map MemberCall.run)
      (takeTurns undisturbed joinAndQuit).1 (takeTurns undisturbed joinAndQuit).2 :=
    Threads.exec_run (fun w c hc => ⟨respond_ok w c, of_decide_eq_true hc⟩) _ _
  have honce : ∀ c ∈ joinAndQuit, c.1.userIds.Nodup := by decide
  have hdone : Done (takeTurns undisturbed joinAndQuit).2.2 := done_of_ended (by decide)
  exact ⟨(membership_survives honce madeGroup_exact madeGroup_onePer hrun).2 hdone, by decide⟩

/-- Two joins of one user that take turns give him two rows, though the clock never goes back. -/
theorem not_forall_membership_survives :
    ¬∀ (calls : List MemberCall) (w₀ w : World) (tr : List Event) (ps : List (Server Bool)),
      (∀ c ∈ calls, c.1.userIds.Nodup) →
      (∀ c ∈ calls, c.1.groupId.toNat < 2 ^ 31 ∧ ∀ u ∈ c.1.userIds, u.toNat < 2 ^ 31) →
      Exact w₀.db.groups → OnePer w₀.db.groups.imGroupRelation →
      Run (Threads.Step StepOk) (w₀, calls.map MemberCall.run) tr (w, ps) → Done ps →
      (clockTimes tr).Pairwise (· ≤ ·) → OnePer w.db.groups.imGroupRelation ∧ Exact w.db.groups := by
  intro h
  have hrun : Run (Threads.Step StepOk) (madeGroup [2], joinTwice.map MemberCall.run)
      (takeTurns (fun _ _ => true) joinTwice).1 (takeTurns (fun _ _ => true) joinTwice).2 :=
    Threads.exec_run (fun w c _ => respond_ok w c) _ _
  have hdone : Done (takeTurns (fun _ _ => true) joinTwice).2.2 := done_of_ended (by decide)
  have hclock : (clockTimes (takeTurns (fun _ _ => true) joinTwice).1).Pairwise (· ≤ ·) := by decide
  have honce : ∀ c ∈ joinTwice, c.1.userIds.Nodup := by decide
  have hsmall : ∀ c ∈ joinTwice, c.1.groupId.toNat < 2 ^ 31 ∧ ∀ u ∈ c.1.userIds, u.toNat < 2 ^ 31 := by
    simp [joinTwice, GroupCall.groupId, GroupCall.userIds]
  have htwice : ¬OnePer (takeTurns (fun _ _ => true) joinTwice).2.1.db.groups.imGroupRelation := by
    unfold OnePer
    decide
  exact htwice (h _ _ _ _ _ honce hsmall madeGroup_exact madeGroup_onePer hrun hdone hclock).1

end Zattd
