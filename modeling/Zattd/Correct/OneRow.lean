/-
  One row for each member, and what breaks it: a list that names a newcomer twice.

  `JoinGroup` asks ONCE which of the listed users have rows, and then goes through the list.  A user
  without a row gets one each time the list comes to him; the rows the loop has added itself it does
  not see.  As long as no call names a newcomer twice there is one row for each member, no user is
  listed twice, and `memberCnt` counts users.
-/
import Zattd.Correct.GroupMembership
import Zattd.Correct.MemberCnt

set_option linter.unusedVariables false

namespace Zattd

open Prog

/-! ## The property -/

/-- Whose row it is, and in which group. -/
def RelationRow.pair (r : RelationRow) : Int × Int := (r.groupId, r.userId)

/-- No user has two rows in a group. -/
def OnePer (t : List RelationRow) : Prop := (t.map (·.pair)).Nodup

/-- The rows of users are those of ids. -/
def OfIds (t : List RelationRow) : Prop := ∀ r ∈ t, ∃ u : UInt32, r.userId = uintToString u

/-- An accepted call lists no user twice who has no row in the group. -/
def ListsOnce (t : GroupTables) (op : GroupOp) : Prop :=
  op.Accepts → match op with
  | .createGroup _ _ _ _ _ memberUserIds _ => memberUserIds.Nodup
  | .joinGroup userIds groupId _ =>
      (userIds.filter fun u =>
        decide (¬HasRow t.imGroupRelation (percentD groupId) (uintToString u))).Nodup
  | .quitGroup _ _ _ _ => True

/-! ## What the writes make of it -/

section Keep

variable {groupId updated : Int} {userIds : List Int} {new : List RelationRow} {T T' : GroupTables}

theorem Joined.pairs (h : Joined groupId userIds new T T') : T'.imGroupRelation.map (·.pair) =
    T.imGroupRelation.map (·.pair) ++ new.map (·.pair) := by
  rw [h.relations, List.map_append]
  congr 1
  exact Table.map_updateAll (by intro r; rfl) T.imGroupRelation

theorem Departed.pairs (h : Departed groupId userIds updated T T') :
    T'.imGroupRelation.map (·.pair) = T.imGroupRelation.map (·.pair) := by
  rw [h.relations]
  exact Table.map_updateAll (by intro r; rfl) T.imGroupRelation

/-- **The crux.**  A join leaves one row for each member if and only if the newcomers among the
    listed users are listed once. -/
theorem Joined.onePer_iff (h : Joined groupId userIds new T T') (hone : OnePer T.imGroupRelation) :
    OnePer T'.imGroupRelation ↔
      (userIds.filter fun u => decide (¬HasRow T.imGroupRelation groupId u)).Nodup := by
  have hnew : new.map (·.pair) = (new.map (·.userId)).map fun u => (groupId, u) := by
    rw [List.map_map]
    apply List.map_congr_left
    intro r hr
    exact Prod.ext (h.newcomers.mem hr).1 rfl
  have hapart : ∀ x ∈ T.imGroupRelation.map (·.pair), x ∉ new.map (·.pair) := by
    intro x hx hx'
    obtain ⟨r, hr, rfl⟩ := List.mem_map.mp hx
    obtain ⟨r', hr', heq⟩ := List.mem_map.mp hx'
    obtain ⟨hg, -, -, hnone⟩ := h.newcomers.mem hr'
    obtain ⟨hgroup, huser⟩ := Prod.mk.inj heq
    exact hnone ⟨r, hr, hgroup.symm.trans hg, huser.symm⟩
  have hinj : Function.Injective fun u : Int => (groupId, u) := fun u v huv => (Prod.mk.inj huv).2
  have hnodup : (new.map (·.pair)).Nodup ↔
      (userIds.filter fun u => decide (¬HasRow T.imGroupRelation groupId u)).Nodup := by
    rw [hnew, List.nodup_map_iff hinj, h.newcomers.users]
  rw [← hnodup, OnePer, h.pairs, List.nodup_append']
  constructor
  · intro hall
    exact hall.2.1
  · intro hall
    exact ⟨hone, hall, fun x hx hx' => hapart x hx hx'⟩

theorem Joined.ofIds {us : List UInt32} (h : Joined groupId (us.map uintToString) new T T')
    (hids : OfIds T.imGroupRelation) : OfIds T'.imGroupRelation := by
  intro r' hr'
  rw [h.relations] at hr'
  rcases List.mem_append.mp hr' with hold | hnew
  · obtain ⟨r, hr, rfl⟩ := Table.mem_updateAll.mp hold
    obtain ⟨u, hu⟩ := hids r hr
    refine ⟨u, ?_⟩
    split <;> exact hu
  · obtain ⟨u, -, hu⟩ := List.mem_map.mp (h.newcomers.mem hnew).2.1
    exact ⟨u, hu.symm⟩

theorem Departed.ofIds (h : Departed groupId userIds updated T T')
    (hids : OfIds T.imGroupRelation) : OfIds T'.imGroupRelation := by
  intro r' hr'
  rw [h.relations] at hr'
  obtain ⟨r, hr, rfl⟩ := Table.mem_updateAll.mp hr'
  obtain ⟨u, hu⟩ := hids r hr
  refine ⟨u, ?_⟩
  split <;> exact hu

end Keep

/-- Ids are printed one-to-one, so a list of them repeats one if its printed form does. -/
theorem nodup_filter_uintToString (us : List UInt32) (p : Int → Bool) :
    ((us.map uintToString).filter p).Nodup ↔ (us.filter fun u => p (uintToString u)).Nodup := by
  rw [List.filter_map, List.nodup_map_iff fun u v huv => uintToString_inj.mp huv]
  rfl

/-! ## Runs of calls -/

/-- The invariant of a run in which no call lists a newcomer twice. -/
structure OneRow (t : GroupTables) : Prop where
  exact : Exact t
  one : OnePer t.imGroupRelation
  ids : OfIds t.imGroupRelation

/-- The state after a call has one row for each member if and only if the call lists its newcomers
    once; counts and ids are kept in any case. -/
theorem GroupOp.Step.onePer_iff {w w' : World} {l : GroupOp × Bool} (h : OneRow w.db.groups)
    (hstep : GroupOp.Step w l w') : OfIds w'.db.groups.imGroupRelation ∧
      (OnePer w'.db.groups.imGroupRelation ↔ ListsOnce w.db.groups l.1) := by
  obtain ⟨op, ok⟩ := l
  rcases GroupOp.step_cases h.exact.shared hstep with ⟨hrejects, rfl⟩ |
    ⟨us, g, group, new, t', rfl, haccepts, rfl, hj⟩ | ⟨r, us, g, group, updated, t', rfl, rfl, hd⟩ |
    ⟨creator, name, type, avatar, adesc, us, group, row, t₁, rfl, haccepts, hgroup, hrest⟩
  · exact ⟨h.ids, iff_of_true h.one fun haccepts => absurd haccepts hrejects⟩
  · refine ⟨hj.ofIds h.ids, (hj.onePer_iff h.one).trans ?_⟩
    rw [nodup_filter_uintToString]
    exact ⟨fun hnodup _ => hnodup, fun hlists => hlists haccepts⟩
  · refine ⟨hd.ofIds h.ids, iff_of_true ?_ fun _ => trivial⟩
    show (t'.imGroupRelation.map (·.pair)).Nodup
    rw [hd.pairs]
    exact h.one
  · have hone₁ : OnePer t₁.imGroupRelation := hgroup.relations ▸ h.one
    have hids₁ : OfIds t₁.imGroupRelation := hgroup.relations ▸ h.ids
    rcases hrest with ⟨rfl, rfl⟩ | ⟨new, t', rfl, hj⟩
    · exact ⟨hids₁, iff_of_true hone₁ fun _ => List.nodup_nil⟩
    · -- nobody has a row in a group that has just been made
      have hnobody : ∀ u, ¬HasRow t₁.imGroupRelation row.groupId u := by
        rintro u ⟨r, hr, hg, -⟩
        rw [hgroup.relations] at hr
        exact hgroup.unused r hr hg
      refine ⟨hj.ofIds hids₁, (hj.onePer_iff hone₁).trans ?_⟩
      rw [nodup_filter_uintToString]
      have hall : (us.filter fun u => decide (¬HasRow t₁.imGroupRelation row.groupId
          (uintToString u))) = us :=
        List.filter_eq_self.mpr fun u _ => decide_eq_true (hnobody _)
      rw [hall]
      exact ⟨fun hnodup _ => hnodup, fun hlists => hlists haccepts⟩

theorem GroupOp.Step.oneRow {w w' : World} {l : GroupOp × Bool} (h : OneRow w.db.groups)
    (hlists : ListsOnce w.db.groups l.1) (hstep : GroupOp.Step w l w') : OneRow w'.db.groups := by
  obtain ⟨hids, hiff⟩ := hstep.onePer_iff h
  exact ⟨hstep.exact h.exact, hiff.mpr hlists, hids⟩

theorem oneRow_empty : OneRow { imGroup := [], imGroupRelation := [] } :=
  ⟨exact_empty, List.nodup_nil, by simp [OfIds]⟩

/-! ## What the members look like -/

/-- The users of one group's rows are distinct. -/
theorem OnePer.users_nodup {t rows : List RelationRow} {g : Int} (h : OnePer t)
    (hrows : rows.Sublist t) (hgroup : ∀ r ∈ rows, r.groupId = g) : (rows.map (·.userId)).Nodup := by
  have hpairs : (rows.map (·.pair)).Nodup := h.sublist (hrows.map _)
  have heq : rows.map (·.pair) = (rows.map (·.userId)).map fun u => (g, u) := by
    rw [List.map_map]
    apply List.map_congr_left
    intro r hr
    exact Prod.ext (hgroup r hr) rfl
  rw [heq] at hpairs
  exact hpairs.of_map _

/-- `GetGroupMembers` lists nobody twice. -/
theorem OneRow.getGroupMembers_nodup {w w' : World} {tr : List Event} {g : UInt32} {n : Nat}
    {relations : List GroupRelationInfo} (h : OneRow w.db.groups)
    (hrun : Runs StepOk w (ZAresGroupManagerImpl.getGroupMembers g []) tr (n, relations) w') :
    (relations.map (·.userId)).Nodup := by
  unfold ZAresGroupManagerImpl.getGroupMembers at hrun
  by_cases h0 : g = 0
  · rw [if_pos h0] at hrun
    obtain ⟨-, heq, -⟩ := runs_pure.mp hrun
    rw [(Prod.mk.inj heq).2]
    exact List.nodup_nil
  simp only [if_neg h0, runs_bind, runs_issue] at hrun
  obtain ⟨_, _, _, _, ⟨⟨_, ⟨rfl, rows, ⟨all, hall, rfl⟩, rfl⟩, rfl⟩, _⟩, hrun, _⟩ := hrun
  obtain ⟨-, heq, -⟩ := runs_pure.mp hrun
  have hfilter : ∀ r ∈ w.db.groups.imGroupRelation.filter
      (fun r => decide (r.groupId = percentD g ∧ 1 ≤ r.status)), r.groupId = percentD g :=
    fun r hr => (of_decide_eq_true (List.mem_filter.mp hr).2).1
  have hall' : (all.map (·.userId)).Nodup :=
    ((hall.1.map (·.userId)).nodup_iff).mpr (h.one.users_nodup List.filter_sublist hfilter)
  have hread : (relations.map (·.userId)) =
      (((all.drop 0).take 10000).map (·.userId)).map getColumn := by
    rw [(Prod.mk.inj heq).2, List.map_map]
    show (([] ++ ((all.drop 0).take 10000).map ZAresGroupManagerImpl.relationInfo).map
      GroupRelationInfo.userId) = _
    rw [List.nil_append, List.map_map]
    rfl
  rw [hread, List.drop_zero]
  have htaken : ((all.take 10000).map (·.userId)).Nodup :=
    hall'.sublist ((List.take_sublist _ _).map _)
  apply htaken.map_on
  intro u hu v hv huv
  -- what is read back is what was printed
  have hprinted : ∀ x ∈ (all.take 10000).map (·.userId), uintToString (getColumn x) = x := by
    intro x hx
    obtain ⟨r, hr, rfl⟩ := List.mem_map.mp hx
    obtain ⟨u, hu⟩ := h.ids r ((hall.mem_iff r).mp (List.mem_of_mem_take hr)).1
    rw [hu, getColumn_uintToString]
  rw [← hprinted u hu, ← hprinted v hv, huv]

/-- The active rows are as many as the members. -/
theorem OneRow.countP_active (t : GroupTables) (h : OneRow t) (g : Int) :
    t.imGroupRelation.countP (RelationRow.isActive g) = (members t g).ncard := by
  have hgroup : ∀ r ∈ t.imGroupRelation.filter (RelationRow.isActive g), r.groupId = g :=
    fun r hr => (of_decide_eq_true (List.mem_filter.mp hr).2).1
  have hnodup := h.one.users_nodup List.filter_sublist hgroup
  have hset : members t g =
      (((t.imGroupRelation.filter (RelationRow.isActive g)).map (·.userId)).toFinset : Set Int) := by
    ext u
    simp only [members, Set.mem_ofPred_eq, List.coe_toFinset, List.mem_map, List.mem_filter,
      RelationRow.isActive, decide_eq_true_iff]
    constructor
    · rintro ⟨r, hr, hg, hu, hactive⟩
      exact ⟨r, ⟨hr, hg, hactive⟩, hu⟩
    · rintro ⟨r, ⟨hr, hg, hactive⟩, hu⟩
      exact ⟨r, hr, hg, hu, hactive⟩
  rw [hset, Set.ncard_coe_finset, List.toFinset_card_of_nodup hnodup, List.length_map,
    List.countP_eq_length_filter]

/-- **One row for each member.**  In every run from empty tables whose calls list their newcomers
    once, no user has two rows in a group, `GetGroupMembers` lists nobody twice, and `memberCnt`
    counts the members; and the next call keeps this if and only if it lists its newcomers once. -/
theorem oneRow_of_listsOnce {w₀ w : World} {ls : List (GroupOp × Bool)}
    (h₀ : w₀.db.groups = { imGroup := [], imGroupRelation := [] })
    (h : Run (fun w l w' => GroupOp.Step w l w' ∧ ListsOnce w.db.groups l.1) w₀ ls w) :
    OnePer w.db.groups.imGroupRelation ∧
      (∀ g tr n relations w',
        Runs StepOk w (ZAresGroupManagerImpl.getGroupMembers g []) tr (n, relations) w' →
          (relations.map (·.userId)).Nodup) ∧
      (∀ row ∈ w.db.groups.imGroup, row.memberCnt = (members w.db.groups row.groupId).ncard) ∧
      ∀ l w', GroupOp.Step w l w' →
        (OnePer w'.db.groups.imGroupRelation ↔ ListsOnce w.db.groups l.1) := by
  have hrow : OneRow w.db.groups := by
    refine h.invariant (fun w => OneRow w.db.groups) ?_ (by rw [h₀]; exact oneRow_empty)
    intro w l w' hrow hl
    exact hl.1.oneRow hrow hl.2
  refine ⟨hrow.one, ?_, ?_, ?_⟩
  · intro g tr n relations w' hrun
    exact hrow.getGroupMembers_nodup hrun
  · intro row hmem
    rw [hrow.exact.counted row hmem, hrow.countP_active]
  · intro l w' hl
    exact (hl.onePer_iff hrow).2

/-! ## A newcomer listed twice -/

theorem oneRow_of_listsOnce_madeGroup : OnePer (madeGroup [2, 3]).db.groups.imGroupRelation := by
  have hfresh : FreshGroups emptyWorld.db.groups (madeGroup [2, 3]).db.groups := by
    unfold FreshGroups
    decide
  obtain ⟨ok, hstep⟩ := makeGroup_step (by simp) hfresh
  have hlists : ListsOnce emptyWorld.db.groups (makeGroup [2, 3]) :=
    fun _ => show [2, 3].Nodup by decide
  exact (oneRow_of_listsOnce rfl (.one ⟨hstep, hlists⟩)).1

/-- User 2, listed twice when the group is made, has two rows in it. -/
theorem not_forall_oneRow :
    ¬∀ (w₀ w : World) (ls : List (GroupOp × Bool)),
      w₀.db.groups = { imGroup := [], imGroupRelation := [] } → Run GroupOp.Step w₀ ls w →
        OnePer w.db.groups.imGroupRelation := by
  intro h
  have hfresh : FreshGroups emptyWorld.db.groups (madeGroup [2, 2]).db.groups := by
    unfold FreshGroups
    decide
  obtain ⟨ok, hstep⟩ := makeGroup_step (by simp) hfresh
  have htwice : ¬OnePer (madeGroup [2, 2]).db.groups.imGroupRelation := by
    unfold OnePer
    decide
  exact htwice (h emptyWorld _ _ rfl (.one hstep))

end Zattd
