/-
  The group store as a store of SETS of members.

  What the store is for is simple: each group has a set of members, a join unites it with the users
  listed, a departure, which only the group's creator may ask for, takes them out of it.  The tables
  do this with rows that stay for ever and a status that says whether they count, several rows for a
  user who was listed several times, and a status map between the question and the writes.  The
  refinement below says that none of this shows: along every run of calls, the set of users with an
  active row moves the way the set does.
-/
import Zattd.Correct.GroupWrites
import Zattd.Lib.Run

set_option linter.unusedVariables false

namespace Zattd

open Prog

/-! ## The sets -/

/-- A call that changes the members of a group. -/
inductive GroupCall
  | joinGroup (userIds : List UInt32) (groupId : UInt32)
  | quitGroup (requestUserId : UInt32) (quitUserIds : List UInt32) (groupId : UInt32)

namespace GroupCall

/-- The group it is about. -/
def groupId : GroupCall → UInt32
  | joinGroup _ groupId => groupId
  | quitGroup _ _ groupId => groupId

/-- The users it lists. -/
def userIds : GroupCall → List UInt32
  | joinGroup userIds _ => userIds
  | quitGroup _ quitUserIds _ => quitUserIds

/-- The users it lists, as the table has them. -/
def users (c : GroupCall) : List Int := c.userIds.map uintToString

end GroupCall

/-- The members of each group. -/
abbrev GroupMembers : Type := Int → Set Int

/-- The store as it is meant: what a call, accepted or not, makes of the members. -/
def GroupMembers.next (m : GroupMembers) : GroupCall × Bool → GroupMembers
  | (.joinGroup userIds groupId, true) =>
      Function.update m (uintToString groupId)
        (m (uintToString groupId) ∪ {u | u ∈ userIds.map uintToString})
  | (.quitGroup _ quitUserIds groupId, true) =>
      Function.update m (uintToString groupId)
        (m (uintToString groupId) \ {u | u ∈ quitUserIds.map uintToString})
  | (_, false) => m

/-- The store as it is: a member has a row with a status of at least 1. -/
def members (t : GroupTables) : GroupMembers := fun groupId =>
  {u | ∃ r ∈ t.imGroupRelation, r.groupId = groupId ∧ r.userId = u ∧ 1 ≤ r.status}

/-! ## A call -/

/-- The user whom a row of the group names as its creator. -/
def IsCreator (t : GroupTables) (groupId : Int) (userId : UInt32) : Prop :=
  ∃ row ∈ t.imGroup, row.groupId = groupId ∧ 1 ≤ row.status ∧ getColumn row.createUserId = userId

namespace GroupCall

/-- The program of the call, `group` being what is known of the group. -/
def run (group : GroupInfo) : GroupCall → Server Bool
  | joinGroup userIds groupId => ZAresGroupManagerImpl.joinGroup userIds groupId group
  | quitGroup requestUserId quitUserIds groupId =>
      ZAresGroupManagerImpl.quitGroup requestUserId quitUserIds groupId group

/-- Its guards let the call pass, `group` being what is known of the group. -/
def Accepts (group : GroupInfo) : GroupCall → Prop
  | joinGroup userIds groupId => ZAresGroupManagerImpl.JoinAccepts userIds groupId group
  | quitGroup requestUserId quitUserIds groupId =>
      ZAresGroupManagerImpl.QuitAccepts requestUserId quitUserIds groupId group

/-- The ids of a call are below 2^31. -/
def Small (c : GroupCall) : Prop :=
  c.groupId.toNat < 2 ^ 31 ∧ ∀ u ∈ c.userIds, u.toNat < 2 ^ 31

/-- `Step w (c, ok) w'`: `GetGroupInfo` answers a group for the call `c`, and the call, given that
    group, answers `ok`.  Every statement succeeds. -/
def Step (w : World) (l : GroupCall × Bool) (w' : World) : Prop :=
  l.1.Small ∧ ∃ object group tr₀ w₀ tr,
    Runs StepOk w (ZAresGroupManagerImpl.getGroupInfo l.1.groupId object) tr₀ (some group) w₀ ∧
      Runs StepOk w₀ (l.1.run group) tr l.2 w'

/-- What a call does besides moving the members. -/
structure Effect (c : GroupCall) (ok : Bool) (w w' : World) : Prop where
  /-- A call is accepted exactly when its guards let it pass, for the row that is read of the group. -/
  accepted : ∃ row ∈ w.db.groups.imGroup, row.groupId = uintToString c.groupId ∧ 1 ≤ row.status ∧
    (ok = true ↔ c.Accepts (ZAresGroupManagerImpl.parseFromDatabase .new row))
  /-- A rejected call changes nothing. -/
  rejected : ok = false → w' = w
  /-- Only the group's creator may remove members. -/
  creator : ∀ r us g, c = quitGroup r us g → ok = true →
    IsCreator w.db.groups (uintToString g) r
  /-- Rows of other groups and of users outside the list stay as they are. -/
  relations : w'.db.groups.imGroupRelation.filter
      (fun r => !r.isIn (uintToString c.groupId) c.users) =
    w.db.groups.imGroupRelation.filter fun r => !r.isIn (uintToString c.groupId) c.users
  /-- The rows of other groups in `IMGroup` stay as they are. -/
  groups : w'.db.groups.imGroup.filter (fun g => decide (g.groupId ≠ uintToString c.groupId)) =
    w.db.groups.imGroup.filter fun g => decide (g.groupId ≠ uintToString c.groupId)
  /-- Nothing but the two tables is written. -/
  others : w' = w.setGroups w'.db.groups

end GroupCall

/-- `GetGroupInfo` reads a row of the group and writes nothing. -/
theorem ZAresGroupManagerImpl.getGroupInfo_runs {w w' : World} {tr : List Event} {g : UInt32}
    {object group : GroupInfo} (h : Runs StepOk w (getGroupInfo g object) tr (some group) w') :
    w' = w ∧ ∃ row ∈ w.db.groups.imGroup, row.groupId = percentD g ∧ 1 ≤ row.status ∧
      group = parseFromDatabase object row := by
  unfold getGroupInfo at h
  by_cases h0 : g = 0
  · rw [if_pos h0] at h
    obtain ⟨-, hnone, -⟩ := runs_pure.mp h
    cases hnone
  simp only [if_neg h0, runs_bind, runs_issue] at h
  obtain ⟨_, answ, _, _, ⟨⟨t, ⟨rfl, rows, hrows, rfl⟩, rfl⟩, _⟩, h, _⟩ := h
  rcases rows with _ | ⟨row, rest⟩
  · obtain ⟨-, hnone, -⟩ := runs_pure.mp h
    cases hnone
  · obtain ⟨-, hsome, rfl⟩ := runs_pure.mp h
    obtain ⟨hrow, hmatch⟩ := (hrows.mem_iff row).mp List.mem_cons_self
    obtain ⟨hid, hstatus⟩ := of_decide_eq_true hmatch
    exact ⟨rfl, row, hrow, hid, hstatus, Option.some.inj hsome⟩

/-- What a call can do: nothing, join, or, asked by the creator, remove. -/
theorem GroupCall.step_cases {w w' : World} {c : GroupCall} {ok : Bool}
    (hs : Shared w.db.groups.imGroupRelation) (h : GroupCall.Step w (c, ok) w') :
    (ok = false ∧ w' = w) ∨
    (∃ us g new t', c = .joinGroup us g ∧ ok = true ∧ w' = w.setGroups t' ∧
      Joined (uintToString g) (us.map uintToString) new w.db.groups t') ∨
    (∃ r us g updated t', c = .quitGroup r us g ∧ ok = true ∧ w' = w.setGroups t' ∧
      IsCreator w.db.groups (uintToString g) r ∧
      Departed (uintToString g) (us.map uintToString) updated w.db.groups t') := by
  obtain ⟨⟨hgroup, hids⟩, object, group, tr₀, w₀, tr, hinfo, hrun⟩ := h
  obtain ⟨rfl, row, hrow, hid, hstatus, rfl⟩ := ZAresGroupManagerImpl.getGroupInfo_runs hinfo
  have hkey : percentD c.groupId = uintToString c.groupId := percentD_eq hgroup
  cases c with
  | joinGroup us g =>
    rcases ZAresGroupManagerImpl.joinGroup_runs hs hids hrun with
      ⟨hok, -, rfl⟩ | ⟨hok, -, new, t', rfl, hj⟩
    · exact Or.inl ⟨hok, rfl⟩
    · rw [show percentD g = uintToString g from hkey] at hj
      exact Or.inr (Or.inl ⟨us, g, new, t', rfl, hok, rfl, hj⟩)
  | quitGroup r us g =>
    rcases ZAresGroupManagerImpl.quitGroup_runs hs hrun with
      ⟨hok, -, rfl⟩ | ⟨hok, ⟨-, -, -, hcreator, -⟩, updated, t', rfl, hd⟩
    · exact Or.inl ⟨hok, rfl⟩
    · rw [show percentD g = uintToString g from hkey] at hd
      have hrow' : IsCreator w₀.db.groups (uintToString g) r :=
        ⟨row, hrow, hid.trans hkey, hstatus, hcreator.symm⟩
      exact Or.inr (Or.inr ⟨r, us, g, updated, t', rfl, hok, rfl, hrow', hd⟩)

/-! ## The members after a call -/

section Members

variable {g updated : Int} {us : List Int} {new : List RelationRow} {T T' : GroupTables}

/-- A join unites. -/
theorem Joined.members_eq (hs : Shared T.imGroupRelation) (h : Joined g us new T T') :
    members T' = Function.update (members T) g (members T g ∪ {u | u ∈ us}) := by
  -- an active row is not among those that the UPDATE matches
  have hstays : ∀ r ∈ T.imGroupRelation, 1 ≤ r.status → r ∈ T'.imGroupRelation := by
    intro r hr hactive
    rw [h.relations]
    refine List.mem_append_left _ (Table.mem_updateAll.mpr ⟨r, hr, if_neg fun hin => ?_⟩)
    have hstatus := RelationRow.status_of_isInWith hin
    omega
  have hcomes : ∀ r' ∈ T'.imGroupRelation, 1 ≤ r'.status →
      (∃ r ∈ T.imGroupRelation, r.groupId = r'.groupId ∧ r.userId = r'.userId ∧ 1 ≤ r.status) ∨
        (r'.groupId = g ∧ r'.userId ∈ us) := by
    intro r' hr' hactive
    rw [h.relations] at hr'
    rcases List.mem_append.mp hr' with hold | hnew
    · obtain ⟨r, hr, rfl⟩ := Table.mem_updateAll.mp hold
      by_cases hin : r.isInWith 0 g us = true
      · rw [if_pos hin]
        exact Or.inr (RelationRow.isInWith_iff.mp hin).1
      · rw [if_neg hin] at hactive ⊢
        exact Or.inl ⟨r, hr, rfl, rfl, hactive⟩
    · obtain ⟨hg, hu, -⟩ := h.newcomers.mem hnew
      exact Or.inr ⟨hg, hu⟩
  have hlisted : ∀ u ∈ us, u ∈ members T' g := by
    intro u hu
    by_cases hrow : HasRow T.imGroupRelation g u
    · obtain ⟨r, hr, hg, hru⟩ := hrow
      rcases hs.status r hr with h0 | h1
      · have hin : r.isInWith 0 g us = true := RelationRow.isInWith_iff.mpr ⟨⟨hg, hru ▸ hu⟩, h0⟩
        refine ⟨r.activate, ?_, hg, hru, le_refl 1⟩
        rw [h.relations]
        exact List.mem_append_left _ (Table.mem_updateAll.mpr ⟨r, hr, if_pos hin⟩)
      · exact ⟨r, hstays r hr (by omega), hg, hru, by omega⟩
    · have huser : u ∈ new.map (·.userId) := by
        rw [h.newcomers.users, List.mem_filter, decide_eq_true_iff]
        exact ⟨hu, hrow⟩
      obtain ⟨r, hr, hru⟩ := List.mem_map.mp huser
      obtain ⟨hg, -, hstatus, -⟩ := h.newcomers.mem hr
      refine ⟨r, ?_, hg, hru, by omega⟩
      rw [h.relations]
      exact List.mem_append_right _ hr
  funext g'
  ext u
  constructor
  · rintro ⟨r', hr', rfl, rfl, hactive⟩
    by_cases hg : r'.groupId = g
    · rw [hg, Function.update_self]
      rcases hcomes r' hr' hactive with ⟨r, hr, hrg, hru, hra⟩ | ⟨-, hu⟩
      · exact Or.inl ⟨r, hr, hrg.trans hg, hru, hra⟩
      · exact Or.inr hu
    · rw [Function.update_of_ne hg]
      rcases hcomes r' hr' hactive with hold | ⟨hg', -⟩
      · exact hold
      · exact absurd hg' hg
  · intro hu
    have hkept : ∀ g'', u ∈ members T g'' → u ∈ members T' g'' := by
      rintro g'' ⟨r, hr, hg, hru, hactive⟩
      exact ⟨r, hstays r hr hactive, hg, hru, hactive⟩
    by_cases hg : g' = g
    · subst hg
      rw [Function.update_self] at hu
      rcases hu with hold | hnew
      · exact hkept g' hold
      · exact hlisted u hnew
    · rw [Function.update_of_ne hg] at hu
      exact hkept g' hu

/-- A departure takes out. -/
theorem Departed.members_eq (hs : Shared T.imGroupRelation) (h : Departed g us updated T T') :
    members T' = Function.update (members T) g (members T g \ {u | u ∈ us}) := by
  -- with statuses 0 and 1, an active row is left if and only if its user is not listed
  have hrow : ∀ r ∈ T.imGroupRelation,
      1 ≤ (if r.isInWith 1 g us then r.deactivate updated else r).status ↔
        1 ≤ r.status ∧ ¬(r.groupId = g ∧ r.userId ∈ us) := by
    intro r hr
    by_cases hin : r.isInWith 1 g us = true
    · rw [if_pos hin]
      have hlisted := (RelationRow.isInWith_iff.mp hin).1
      constructor
      · intro hactive
        exact absurd hactive (by show ¬(1 : Int) ≤ 0; omega)
      · intro hactive
        exact absurd hlisted hactive.2
    · rw [if_neg hin]
      refine ⟨fun hactive => ⟨hactive, fun hlisted => hin ?_⟩, fun hactive => hactive.1⟩
      rcases hs.status r hr with h0 | h1
      · omega
      · exact RelationRow.isInWith_iff.mpr ⟨hlisted, h1⟩
  have hkey : ∀ r : RelationRow,
      (if r.isInWith 1 g us then r.deactivate updated else r).groupId = r.groupId ∧
        (if r.isInWith 1 g us then r.deactivate updated else r).userId = r.userId := by
    intro r
    split <;> exact ⟨rfl, rfl⟩
  have hmem : ∀ g' u, u ∈ members T' g' ↔ u ∈ members T g' ∧ ¬(g' = g ∧ u ∈ us) := by
    intro g' u
    constructor
    · rintro ⟨r', hr', rfl, rfl, hactive⟩
      rw [h.relations] at hr'
      obtain ⟨r, hr, rfl⟩ := Table.mem_updateAll.mp hr'
      rw [hrow r hr] at hactive
      rw [(hkey r).1, (hkey r).2]
      exact ⟨⟨r, hr, rfl, rfl, hactive.1⟩, hactive.2⟩
    · rintro ⟨⟨r, hr, rfl, rfl, hactive⟩, hout⟩
      refine ⟨_, ?_, (hkey r).1, (hkey r).2, (hrow r hr).mpr ⟨hactive, hout⟩⟩
      rw [h.relations]
      exact Table.mem_updateAll.mpr ⟨r, hr, rfl⟩
  funext g'
  ext u
  rw [hmem]
  by_cases hg : g' = g
  · subst hg
    rw [Function.update_self]
    simp
  · rw [Function.update_of_ne hg]
    exact ⟨fun hu => hu.1, fun hu => ⟨hu, fun hlisted => hg hlisted.1⟩⟩

end Members

/-! ## Runs of calls -/

namespace GroupCall

variable {w w' : World} {c : GroupCall} {ok : Bool}

/-- A call keeps the invariant of the relations. -/
theorem Step.shared (hs : Shared w.db.groups.imGroupRelation) (h : GroupCall.Step w (c, ok) w') :
    Shared w'.db.groups.imGroupRelation := by
  rcases step_cases hs h with ⟨-, rfl⟩ | ⟨us, g, new, t', -, -, rfl, hj⟩ |
    ⟨r, us, g, updated, t', -, -, rfl, -, hd⟩
  · exact hs
  · exact hj.shared hs
  · exact hd.shared hs

/-- A call moves the members the way the store of sets does. -/
theorem Step.members_eq (hs : Shared w.db.groups.imGroupRelation)
    (h : GroupCall.Step w (c, ok) w') :
    members w'.db.groups = GroupMembers.next (members w.db.groups) (c, ok) := by
  rcases step_cases hs h with ⟨rfl, rfl⟩ | ⟨us, g, new, t', rfl, rfl, rfl, hj⟩ |
    ⟨r, us, g, updated, t', rfl, rfl, rfl, -, hd⟩
  · cases c <;> rfl
  · exact hj.members_eq hs
  · exact hd.members_eq hs

/-- A call is accepted if and only if the row that is read of the group lets it pass. -/
theorem Step.accepted (hs : Shared w.db.groups.imGroupRelation) (h : GroupCall.Step w (c, ok) w') :
    ∃ row ∈ w.db.groups.imGroup, row.groupId = uintToString c.groupId ∧ 1 ≤ row.status ∧
      (ok = true ↔ c.Accepts (ZAresGroupManagerImpl.parseFromDatabase .new row)) := by
  obtain ⟨⟨hgroup, hids⟩, object, group, tr₀, w₀, tr, hinfo, hrun⟩ := h
  obtain ⟨rfl, row, hrow, hid, hstatus, rfl⟩ := ZAresGroupManagerImpl.getGroupInfo_runs hinfo
  refine ⟨row, hrow, hid.trans (percentD_eq hgroup), hstatus, ?_⟩
  cases c with
  | joinGroup us g =>
    rcases ZAresGroupManagerImpl.joinGroup_runs hs hids hrun with ⟨rfl, hnot, -⟩ | ⟨rfl, haccepts, -⟩
    · exact iff_of_false Bool.false_ne_true hnot
    · exact iff_of_true rfl haccepts
  | quitGroup r us g =>
    rcases ZAresGroupManagerImpl.quitGroup_runs hs hrun with ⟨rfl, hnot, -⟩ | ⟨rfl, haccepts, -⟩
    · exact iff_of_false Bool.false_ne_true hnot
    · exact iff_of_true rfl haccepts

theorem Step.effect (hs : Shared w.db.groups.imGroupRelation)
    (h : GroupCall.Step w (c, ok) w') : Effect c ok w w' := by
  have haccepted := h.accepted hs
  rcases step_cases hs h with ⟨rfl, rfl⟩ | ⟨us, g, new, t', rfl, rfl, rfl, hj⟩ |
    ⟨r, us, g, updated, t', rfl, rfl, rfl, hcreator, hd⟩
  · exact
      { accepted := haccepted
        rejected := fun _ => rfl
        creator := nofun
        relations := rfl
        groups := rfl
        others := rfl }
  · exact
      { accepted := haccepted
        rejected := nofun
        creator := nofun
        relations := hj.frame
        groups := hj.counted.frame
        others := rfl }
  · refine
      { accepted := haccepted
        rejected := nofun
        creator := ?_
        relations := hd.frame
        groups := hd.counted.frame
        others := rfl }
    intro r' us' g' heq _
    injection heq with hr _ hg
    rw [← hr, ← hg]
    exact hcreator

end GroupCall

/-- Uniting with the same users, or taking out the same users, a second time does nothing. -/
theorem GroupMembers.next_idem (m : GroupMembers) (c : GroupCall) (ok : Bool) :
    (m.next (c, true)).next (c, ok) = m.next (c, true) := by
  cases ok with
  | false => cases c <;> rfl
  | true =>
    cases c with
    | joinGroup us g =>
      simp only [GroupMembers.next, Function.update_self, Function.update_idem, Set.union_assoc,
        Set.union_self]
    | quitGroup r us g =>
      simp only [GroupMembers.next, Function.update_self, Function.update_idem, Set.sdiff_sdiff,
        Set.union_self]

/-- A member leaves only by an accepted request to remove him from this group. -/
theorem GroupMembers.left {m : GroupMembers} {l : GroupCall × Bool} {g u : Int} (hu : u ∈ m g)
    (hout : u ∉ m.next l g) : ∃ r us g', l = (.quitGroup r us g', true) ∧ uintToString g' = g ∧
      u ∈ us.map uintToString := by
  obtain ⟨c, ok⟩ := l
  cases ok with
  | false =>
    have hsame : m.next (c, false) = m := by cases c <;> rfl
    rw [hsame] at hout
    exact absurd hu hout
  | true =>
    cases c with
    | joinGroup us g' =>
      exfalso
      apply hout
      show u ∈ Function.update m _ _ g
      by_cases hg : g = uintToString g'
      · subst hg
        rw [Function.update_self]
        exact Or.inl hu
      · rw [Function.update_of_ne hg]
        exact hu
    | quitGroup r us g' =>
      have hout' : u ∉ Function.update m (uintToString g')
          (m (uintToString g') \ {u | u ∈ us.map uintToString}) g := hout
      by_cases hg : g = uintToString g'
      · subst hg
        rw [Function.update_self] at hout'
        refine ⟨r, us, g', rfl, rfl, ?_⟩
        by_contra hlisted
        exact hout' ⟨hu, hlisted⟩
      · rw [Function.update_of_ne hg] at hout'
        exact absurd hu hout'

/-- **The group store refines a set of members.**  Along every run the users with an active row
    move as the sets do; each further call has the effect it should and, once accepted, does nothing
    when it is repeated; and a member who is gone was taken out by the creator of the group. -/
theorem groupStore_refines {w₀ w : World} {calls : List (GroupCall × Bool)}
    (h₀ : Shared w₀.db.groups.imGroupRelation) (h : Run GroupCall.Step w₀ calls w) :
    members w.db.groups = calls.foldl GroupMembers.next (members w₀.db.groups) ∧
      (∀ c ok w', GroupCall.Step w (c, ok) w' → GroupCall.Effect c ok w w' ∧
        (ok = true → ∀ ok' w'', GroupCall.Step w' (c, ok') w'' →
          members w''.db.groups = members w'.db.groups)) ∧
      ∀ g u, u ∈ members w₀.db.groups g → u ∉ members w.db.groups g →
        ∃ pre r us g' post w₁, calls = pre ++ (.quitGroup r us g', true) :: post ∧
          Run GroupCall.Step w₀ pre w₁ ∧ uintToString g' = g ∧ u ∈ us.map uintToString ∧
            IsCreator w₁.db.groups g r := by
  have hkeep : ∀ w l w', Shared w.db.groups.imGroupRelation → GroupCall.Step w l w' →
      Shared w'.db.groups.imGroupRelation := fun w l w' hs hl => hl.shared hs
  have hs : Shared w.db.groups.imGroupRelation :=
    h.invariant (fun w => Shared w.db.groups.imGroupRelation) hkeep h₀
  refine ⟨?_, ?_, ?_⟩
  · exact h.refines (fun w => Shared w.db.groups.imGroupRelation) (fun w => members w.db.groups)
      GroupMembers.next hkeep (fun w l w' hs hl => hl.members_eq hs) h₀
  · intro c ok w' hc
    refine ⟨hc.effect hs, ?_⟩
    rintro rfl ok' w'' hc'
    rw [hc'.members_eq (hc.shared hs), hc.members_eq hs, GroupMembers.next_idem]
  · intro g u hu hout
    obtain ⟨pre, ⟨c, ok⟩, post, w₁, w₂, rfl, hpre, hl, hin, hout'⟩ :=
      h.lost_at (fun w => u ∈ members w.db.groups g) hu hout
    have hs₁ := hpre.invariant (fun w => Shared w.db.groups.imGroupRelation) hkeep h₀
    rw [hl.members_eq hs₁] at hout'
    obtain ⟨r, us, g', heq, rfl, hlisted⟩ := GroupMembers.left hin hout'
    obtain ⟨rfl, rfl⟩ := Prod.mk.inj heq
    exact ⟨pre, r, us, g', post, w₁, rfl, hpre, rfl, hlisted,
      (hl.effect hs₁).creator r us g' rfl rfl⟩

/-! ## A user comes and goes -/

/-- Group 1, made by user 1, without members. -/
def oneGroup : World := emptyWorld.setGroups
  { imGroup := [⟨1, [], [], [], 1, 1, 0, 1, 0, 0⟩], imGroupRelation := [] }

/-- What `GetGroupInfo` tells of it. -/
def oneGroupInfo : GroupInfo :=
  { GroupInfo.new with groupId := 1, groupCreatorId := 1, groupType := 1 }

/-- What the reference world makes of a call on group 1. -/
def playCall (c : GroupCall) (w : World) : Bool × World := ((c.run oneGroupInfo).play w).2

theorem playCall_step {w : World} {c : GroupCall} {ok : Bool} (hsmall : c.Small)
    (hinfo : ((ZAresGroupManagerImpl.getGroupInfo c.groupId .new).play w).2.1 =
      some oneGroupInfo)
    (hok : (playCall c w).1 = ok) : GroupCall.Step w (c, ok) (playCall c w).2 := by
  have hrun := Prog.play_runs (ZAresGroupManagerImpl.getGroupInfo c.groupId .new) w
  rw [hinfo] at hrun
  obtain ⟨hsame, -⟩ := ZAresGroupManagerImpl.getGroupInfo_runs hrun
  rw [hsame] at hrun
  subst hok
  exact ⟨hsmall, _, _, _, _, _, hrun, Prog.play_runs (c.run oneGroupInfo) w⟩

/-- User 2 has joined, listed twice. -/
def afterJoin : World := (playCall (.joinGroup [2, 2] 1) oneGroup).2

/-- User 1 has taken him out again. -/
def afterQuit : World := (playCall (.quitGroup 1 [2] 1) afterJoin).2

/-- He is the one member, and then there is none. -/
theorem groupStore_refines_comesAndGoes :
    members oneGroup.db.groups 1 = ∅ ∧ members afterJoin.db.groups 1 = {2} ∧
      members afterQuit.db.groups 1 = ∅ := by
  have hjoin : GroupCall.Step oneGroup (.joinGroup [2, 2] 1, true) afterJoin :=
    playCall_step ⟨by decide, by simp [GroupCall.userIds]⟩ (by decide) (by decide)
  have hquit : GroupCall.Step afterJoin (.quitGroup 1 [2] 1, true) afterQuit :=
    playCall_step ⟨by decide, by simp [GroupCall.userIds]⟩ (by decide) (by decide)
  have hempty : members oneGroup.db.groups 1 = ∅ := by
    refine Set.eq_empty_of_forall_notMem fun u hu => ?_
    obtain ⟨r, hr, -⟩ := hu
    cases hr
  have hshared : Shared oneGroup.db.groups.imGroupRelation := ⟨by decide, by decide⟩
  have hone : members afterJoin.db.groups 1 = {2} := by
    rw [(groupStore_refines hshared (.one hjoin)).1]
    show Function.update (members oneGroup.db.groups) 1
      (members oneGroup.db.groups 1 ∪ {u | u ∈ [2, 2].map uintToString}) 1 = {2}
    rw [Function.update_self, hempty, Set.empty_union]
    ext u
    simp [uintToString]
  refine ⟨hempty, hone, ?_⟩
  rw [(groupStore_refines hshared (.snoc (.one hjoin) hquit)).1, List.foldl_append,
    ← (groupStore_refines hshared (.one hjoin)).1]
  show Function.update (members afterJoin.db.groups) 1
    (members afterJoin.db.groups 1 \ {u | u ∈ [2].map uintToString}) 1 = ∅
  rw [Function.update_self, hone]
  ext u
  simp [uintToString]

end Zattd
