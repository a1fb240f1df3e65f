/-
  Do the TIMESTAMPS of groups and memberships come in the order of time?

  `CreateGroup` stores seconds in `IMGroup`.  The `group_updated` that it returns, and what `JoinGroup`
  and `QuitGroup` store, are the low 32 bits of the same clock in MILLISECONDS, and `%d` prints these as
  a signed number: it goes from the largest to the smallest every 49.7 days.
-/
import Zattd.Correct.MemberCnt
import Zattd.Correct.OfflineFiles

set_option linter.unusedVariables false

namespace Zattd

open Prog

/-! ## What a call stamps -/

/-- The call with all that it returns: its result, and the `group_updated` of the group that
    `CreateGroup` fills in. -/
def GroupOp.call : GroupOp → Server (Bool × Option UInt32)
  | createGroup createUserId groupName groupType avatar adesc memberUserIds group => do
      let (ok, group) ← ZAresGroupManagerImpl.createGroup createUserId groupName groupType avatar adesc
        memberUserIds group
      return (ok, some group.groupUpdated)
  | joinGroup userIds groupId group => do
      let ok ← ZAresGroupManagerImpl.joinGroup userIds groupId group
      return (ok, none)
  | quitGroup requestUserId quitUserIds groupId group => do
      let ok ← ZAresGroupManagerImpl.quitGroup requestUserId quitUserIds groupId group
      return (ok, none)

/-- A call that has been made, with its commands and what it has returned. -/
structure MadeCall where
  op : GroupOp
  tr : List Event
  result : Bool × Option UInt32

/-- The call can be made so, under any outcome of its statements. -/
def MadeCall.Step (w : World) (m : MadeCall) (w' : World) : Prop :=
  Runs Zattd.Step w m.op.call m.tr m.result w'

/-- What the clock shows. -/
def Event.clock : Event → Option Nat
  | ⟨.nowMSTime, t⟩ => some (UInt64.toNat t)
  | _ => none

/-- A group is inserted, by the test that `CreateGroup` makes: the statement answers a number above 0.
    A -1 is above 0 without its sign, and passes for an id here as it does there. -/
def Event.insertsGroup : Event → Bool
  | ⟨.group (.insertGroup _), id⟩ => decide (id > (0 : UInt64))
  | _ => false

/-- The values for `created` and `updated` that a statement writes, if its answer says that it has
    written a row (for the row of a group, if it passes for the id). -/
def Event.stamps : Event → List Int
  | ⟨.group (.insertGroup values), id⟩ =>
      if id > (0 : UInt64) then [values.created, values.updated] else []
  | ⟨.group (.insertRelations rows), n⟩ =>
      if n > (0 : Int) then rows.flatMap fun row => [row.created, row.updated] else []
  | ⟨.group (.updateDeactivate updated _ _), n⟩ => if n > (0 : Int) then [updated] else []
  | ⟨.group (.updateMemberCntSub _ updated _), n⟩ => if n > (0 : Int) then [updated] else []
  | _ => []

namespace MadeCall

/-- The clock values of the call. -/
def clocks (m : MadeCall) : List Nat := m.tr.filterMap Event.clock

/-- The call has inserted a group. -/
def inserts (m : MadeCall) : Bool := m.tr.any Event.insertsGroup

/-- What it has written, and the `group_updated` of the group that it has inserted. -/
def stamps (m : MadeCall) : List Int :=
  m.tr.flatMap Event.stamps ++
    if m.inserts then m.result.2.toList.map fun v => (v.toNat : Int) else []

end MadeCall

/-- All stamps are those of one unit, seconds or milliseconds, in 32 bits; and no call has a stamp below
    one of an earlier call. -/
structure StampsOrdered (made : List MadeCall) : Prop where
  unit : ∃ ms : Nat, (ms = 1 ∨ ms = 1000) ∧ ∀ m ∈ made, ∀ v ∈ m.stamps,
    ∃ t ∈ m.clocks, v % 2 ^ 32 = ((t / ms % 2 ^ 32 : Nat) : Int)
  order : made.Pairwise fun a b => ∀ v ∈ a.stamps, ∀ v' ∈ b.stamps, v ≤ v'

/-- Where both calls stamp: the low 32 bits of the clock, as a signed number, have not wrapped between
    them. -/
def MadeCall.Precedes (a b : MadeCall) : Prop :=
  a.stamps ≠ [] → b.stamps ≠ [] → ∀ t ∈ a.clocks, ∀ t' ∈ b.clocks,
    (t + 2 ^ 31) % 2 ^ 32 ≤ (t' + 2 ^ 31) % 2 ^ 32

/-- Two clock values of the call, one in seconds and one in milliseconds, happen to have the same low 32
    bits. -/
def MadeCall.Coincides (m : MadeCall) : Prop :=
  ∃ t ∈ m.clocks, ∃ t' ∈ m.clocks, t / 1000 % 2 ^ 32 = t' % 2 ^ 32

/-! ## The three calls -/

/-- The low 32 bits of the clock as a signed number. -/
theorem percentD_toUInt32 (t : UInt64) :
    percentD t.toUInt32 = ((t.toNat + 2 ^ 31) % 2 ^ 32 : Nat) - (2 ^ 31 : Int) := by
  have hlow : t.toUInt32.toNat = t.toNat % 2 ^ 32 := UInt64.toNat_toUInt32 t
  rw [percentD, ← Int32.toInt_toBitVec, UInt32.toBitVec_toInt32, BitVec.toInt_eq_toNat_cond]
  simp only [UInt32.toNat_toBitVec, hlow]
  omega

namespace ZAresGroupManagerImpl

section Calls

variable {step : World → (c : Cmd) → c.Answer → World → Prop} {w w' : World} {tr : List Event}
  {ok : Bool} {g : UInt32} {group : GroupInfo}

/-- A rejected call issues nothing. -/
theorem joinGroup_rejected {userIds : List UInt32} (hrejects : ¬JoinAccepts userIds g group)
    (h : Runs step w (joinGroup userIds g group) tr ok w') : tr = [] := by
  unfold joinGroup at h
  by_cases hnone : userIds = [] ∨ g = 0
  · rw [if_pos hnone] at h
    exact (runs_pure.mp h).1
  by_cases hother : g ≠ group.groupId
  · rw [if_neg hnone, if_pos hother] at h
    exact (runs_pure.mp h).1
  · obtain ⟨hlist, hid⟩ := not_or.mp hnone
    exact absurd ⟨hlist, hid, not_not.mp hother⟩ hrejects

theorem quitGroup_rejected {requestUserId : UInt32} {userIds : List UInt32}
    (hrejects : ¬QuitAccepts requestUserId userIds g group)
    (h : Runs step w (quitGroup requestUserId userIds g group) tr ok w') : tr = [] := by
  unfold quitGroup at h
  by_cases hnone : userIds = [] ∨ g = 0 ∨ requestUserId = 0 ∨ g = 0
  · rw [if_pos hnone] at h
    exact (runs_pure.mp h).1
  by_cases hother : requestUserId ≠ group.groupCreatorId ∨ g ≠ group.groupId
  · rw [if_neg hnone, if_pos hother] at h
    exact (runs_pure.mp h).1
  · simp only [not_or, not_not] at hnone hother
    exact absurd ⟨hnone.1, hnone.2.1, hnone.2.2.1, hother⟩ hrejects

end Calls

end ZAresGroupManagerImpl

/-- The event does not read the clock and inserts no group, and what it stamps is the clock value `now`
    in the low 32 bits of its milliseconds. -/
structure Event.StampsWith (now : UInt64) (e : Event) : Prop where
  clock : e.clock = none
  inserts : e.insertsGroup = false
  stamps : ∀ v ∈ e.stamps, v = percentD now.toUInt32

/-- The commands of a call read the clock once, and stamp with that value. -/
structure StampsAt (tr : List Event) (now : UInt64) : Prop where
  clocks : tr.filterMap Event.clock = [now.toNat]
  inserts : tr.any Event.insertsGroup = false
  stamps : ∀ v ∈ tr.flatMap Event.stamps, v = percentD now.toUInt32

theorem StampsAt.of_tail {now : UInt64} {tr : List Event} (h : ∀ e ∈ tr, e.StampsWith now) :
    StampsAt (⟨.nowMSTime, now⟩ :: tr) now where
  clocks := by
    have hnone : tr.filterMap Event.clock = [] :=
      List.filterMap_eq_nil_iff.mpr fun e he => (h e he).clock
    exact congrArg (now.toNat :: ·) hnone
  inserts := by
    show (false || tr.any Event.insertsGroup) = false
    rw [Bool.false_or, List.any_eq_false]
    intro e he
    rw [(h e he).inserts]
    exact Bool.false_ne_true
  stamps := by
    intro v hv
    obtain ⟨e, he, hv⟩ := List.mem_flatMap.mp hv
    rcases List.mem_cons.mp he with rfl | he
    · exact absurd hv List.not_mem_nil
    · exact (h e he).stamps v hv

/-- A statement that is left out under a condition is the only command there can be. -/
theorem optional_events {step : World → (c : Cmd) → c.Answer → World → Prop} {w w' : World}
    {tr : List Event} {p : Prop} [Decidable p] {c : Cmd} {a ans : c.Answer}
    (h : Runs step w (if p then pure a else issue c) tr ans w') : ∀ e ∈ tr, ∃ ans, e = ⟨c, ans⟩ := by
  rcases runs_optional.mp h with ⟨-, rfl, -⟩ | ⟨-, hissue⟩
  · exact fun e he => absurd he List.not_mem_nil
  · obtain ⟨-, rfl⟩ := runs_issue.mp hissue
    intro e he
    exact ⟨ans, List.mem_singleton.mp he⟩

namespace ZAresGroupManagerImpl

section Calls

variable {step : World → (c : Cmd) → c.Answer → World → Prop} {w w' : World} {tr : List Event}
  {ok : Bool} {g : UInt32} {group : GroupInfo}

/-- The rows of a join have the clock in both columns. -/
theorem insertRelations_stamps {statuss : Map UInt32} {userIds : List UInt32} {now : UInt64} (n : Int) :
    Event.StampsWith now
      ⟨.group (.insertRelations (newRelations statuss userIds g group now.toUInt32)), n⟩ where
  clock := rfl
  inserts := rfl
  stamps := by
    intro v hv
    by_cases hn : n > 0
    · have hrows : v ∈ (newRelations statuss userIds g group now.toUInt32).flatMap fun row =>
          [row.created, row.updated] := by
        simpa only [Event.stamps, if_pos hn] using hv
      obtain ⟨row, hrow, hv⟩ := List.mem_flatMap.mp hrows
      obtain ⟨u, -, rfl⟩ := List.mem_map.mp hrow
      simpa using hv
    · simp only [Event.stamps, if_neg hn] at hv
      exact absurd hv List.not_mem_nil

theorem joinGroup_stamps {userIds : List UInt32}
    (h : Runs step w (joinGroup userIds g group) tr ok w') : tr = [] ∨ ∃ now, StampsAt tr now := by
  rcases joinGroup_commands h with ⟨-, hrejects, -⟩ | ⟨-, -, now, answ, n, m, k, w₁, w₂, w₃, w₄, tr₁,
    tr₂, relations, inactive, rfl, -, -, -, hinsert, hupdate, -, rfl⟩
  · exact Or.inl (joinGroup_rejected hrejects h)
  refine Or.inr ⟨now, StampsAt.of_tail fun e he => ?_⟩
  rcases List.mem_cons.mp he with rfl | he
  · exact ⟨rfl, rfl, nofun⟩
  rcases List.mem_append.mp he with he | he
  · obtain ⟨n', rfl⟩ := optional_events hinsert e he
    exact insertRelations_stamps n'
  rcases List.mem_append.mp he with he | he
  · obtain ⟨m', rfl⟩ := optional_events hupdate e he
    exact ⟨rfl, rfl, nofun⟩
  · obtain rfl := List.mem_singleton.mp he
    exact ⟨rfl, rfl, nofun⟩

theorem quitGroup_stamps {requestUserId : UInt32} {userIds : List UInt32}
    (h : Runs step w (quitGroup requestUserId userIds g group) tr ok w') :
    tr = [] ∨ ∃ now, StampsAt tr now := by
  rcases quitGroup_commands h with ⟨-, hrejects, -⟩ | ⟨-, -, now, answ, m, k, w₁, w₂, w₃, tr₁, active,
    updated, -, rfl, -, -, hupdate, -, rfl⟩
  · exact Or.inl (quitGroup_rejected hrejects h)
  have hstamp : ∀ n : Int, ∀ v ∈ (if n > 0 then [percentD now.toUInt32] else []),
      v = percentD now.toUInt32 := by
    intro n v hv
    split at hv
    · exact List.mem_singleton.mp hv
    · exact absurd hv List.not_mem_nil
  refine Or.inr ⟨now, StampsAt.of_tail fun e he => ?_⟩
  rcases List.mem_cons.mp he with rfl | he
  · exact ⟨rfl, rfl, nofun⟩
  rcases List.mem_append.mp he with he | he
  · obtain ⟨m', rfl⟩ := optional_events hupdate e he
    exact ⟨rfl, rfl, hstamp m'⟩
  · obtain rfl := List.mem_singleton.mp he
    exact ⟨rfl, rfl, hstamp k⟩

/-- `CreateGroup` inserts no group and stamps nothing, or it stamps one clock value in seconds and fills
    in another one in milliseconds. -/
theorem createGroup_stamps {createUserId groupType : UInt32} {groupName avatar adesc : Bytes}
    {memberUserIds : List UInt32} {group' : GroupInfo}
    (h : Runs step w (createGroup createUserId groupName groupType avatar adesc memberUserIds group)
      tr (ok, group') w') :
    (tr.any Event.insertsGroup = false ∧ tr.flatMap Event.stamps = []) ∨
      ∃ now now' : UInt64, now.toNat ∈ tr.filterMap Event.clock ∧
        now'.toNat ∈ tr.filterMap Event.clock ∧ tr.any Event.insertsGroup = true ∧
        addParam (now / 1000).toUInt32 ∈ tr.flatMap Event.stamps ∧
        group'.groupUpdated = now'.toUInt32 := by
  rcases createGroup_commands h with ⟨-, -, -, rfl⟩ | ⟨-, now, now', id, w₁, w₂, w₃, tr₁, -, -, -, rfl,
    ⟨-, hno, -, rfl⟩ | ⟨hyes, now'', w₄, info, tr', -, -, -, rfl, hupdated⟩⟩
  · exact Or.inl ⟨rfl, rfl⟩
  · left
    constructor
    · simp [Event.insertsGroup, hno]
    · simp [Event.stamps, hno]
  · refine Or.inr ⟨now', now'', ?_, ?_, ?_, ?_, hupdated⟩
    · simp [Event.clock]
    · simp [Event.clock]
    · simp [Event.insertsGroup, hyes]
    · simp [Event.stamps, hyes, createValues]

end Calls

end ZAresGroupManagerImpl

/-! ## One call -/

section Call

variable {w w' : World} {m : MadeCall}

/-- A call that inserts no group stamps nothing, or the low 32 bits of its one clock value. -/
theorem MadeCall.stamps_plain (h : MadeCall.Step w m w') (hno : m.inserts = false) : m.stamps = [] ∨
    ∃ now : UInt64, m.clocks = [now.toNat] ∧ ∀ v ∈ m.stamps, v = percentD now.toUInt32 := by
  have hplain : m.stamps = m.tr.flatMap Event.stamps := by
    rw [MadeCall.stamps, if_neg (by simp [hno]), List.append_nil]
  rw [hplain, MadeCall.clocks]
  obtain ⟨op, tr, result⟩ := m
  have hstamped : tr = [] ∨ (∃ now, StampsAt tr now) → tr.flatMap Event.stamps = [] ∨
      ∃ now : UInt64, tr.filterMap Event.clock = [now.toNat] ∧
        ∀ v ∈ tr.flatMap Event.stamps, v = percentD now.toUInt32 := by
    rintro (rfl | ⟨now, hstamps⟩)
    · exact Or.inl rfl
    · exact Or.inr ⟨now, hstamps.clocks, hstamps.stamps⟩
  cases op with
  | createGroup createUserId groupName groupType avatar adesc memberUserIds group =>
    obtain ⟨tr₁, ⟨ok, group'⟩, w₁, tr₂, hcreate, hret, rfl⟩ := runs_bind.mp h
    obtain ⟨rfl, -, -⟩ := runs_pure.mp hret
    rw [List.append_nil] at hno ⊢
    rcases ZAresGroupManagerImpl.createGroup_stamps hcreate with ⟨-, hnone⟩ | ⟨_, _, -, -, hyes, -⟩
    · exact Or.inl hnone
    · exact absurd (hno.symm.trans hyes) Bool.false_ne_true
  | joinGroup userIds groupId group =>
    obtain ⟨tr₁, ok, w₁, tr₂, hjoin, hret, rfl⟩ := runs_bind.mp h
    obtain ⟨rfl, -, -⟩ := runs_pure.mp hret
    rw [List.append_nil] at hstamped ⊢
    exact hstamped (ZAresGroupManagerImpl.joinGroup_stamps hjoin)
  | quitGroup requestUserId quitUserIds groupId group =>
    obtain ⟨tr₁, ok, w₁, tr₂, hquit, hret, rfl⟩ := runs_bind.mp h
    obtain ⟨rfl, -, -⟩ := runs_pure.mp hret
    rw [List.append_nil] at hstamped ⊢
    exact hstamped (ZAresGroupManagerImpl.quitGroup_stamps hquit)

/-- A call that inserts a group stamps a clock value in seconds and another one in milliseconds. -/
theorem MadeCall.stamps_inserts (h : MadeCall.Step w m w') (hyes : m.inserts = true) :
    ∃ now now' : UInt64, now.toNat ∈ m.clocks ∧ now'.toNat ∈ m.clocks ∧
      ((now.toNat / 1000 % 2 ^ 32 : Nat) : Int) ∈ m.stamps ∧
      ((now'.toNat % 2 ^ 32 : Nat) : Int) ∈ m.stamps := by
  have hall : m.stamps = m.tr.flatMap Event.stamps ++ m.result.2.toList.map fun v => (v.toNat : Int) := by
    rw [MadeCall.stamps, if_pos hyes]
  rw [hall, MadeCall.clocks]
  obtain ⟨op, tr, result⟩ := m
  have hplain : tr = [] ∨ (∃ now, StampsAt tr now) → tr.any Event.insertsGroup = false := by
    rintro (rfl | ⟨now, hstamps⟩)
    · rfl
    · exact hstamps.inserts
  cases op with
  | createGroup createUserId groupName groupType avatar adesc memberUserIds group =>
    obtain ⟨tr₁, ⟨ok, group'⟩, w₁, tr₂, hcreate, hret, rfl⟩ := runs_bind.mp h
    obtain ⟨rfl, rfl, -⟩ := runs_pure.mp hret
    have hinserts : tr₁.any Event.insertsGroup = true := by rw [← List.append_nil tr₁]; exact hyes
    rw [List.append_nil]
    rcases ZAresGroupManagerImpl.createGroup_stamps hcreate with
      ⟨hno, -⟩ | ⟨now, now', hnow, hnow', -, hseconds, hupdated⟩
    · exact absurd (hno.symm.trans hinserts) Bool.false_ne_true
    refine ⟨now, now', hnow, hnow', List.mem_append_left _ ?_, List.mem_append_right _ ?_⟩
    · have hprinted : addParam (now / 1000).toUInt32 = ((now.toNat / 1000 % 2 ^ 32 : Nat) : Int) := by
        rw [addParam, UInt64.toNat_toUInt32, UInt64.toNat_div]
        rfl
      rw [← hprinted]
      exact hseconds
    · rw [hupdated, Option.toList_some, List.map_singleton, UInt64.toNat_toUInt32]
      exact List.mem_singleton_self _
  | joinGroup userIds groupId group =>
    obtain ⟨tr₁, ok, w₁, tr₂, hjoin, hret, rfl⟩ := runs_bind.mp h
    obtain ⟨rfl, -, -⟩ := runs_pure.mp hret
    rw [List.append_nil] at hplain
    have hno := hplain (ZAresGroupManagerImpl.joinGroup_stamps hjoin)
    exact absurd (hno.symm.trans (List.append_nil tr₁ ▸ hyes)) Bool.false_ne_true
  | quitGroup requestUserId quitUserIds groupId group =>
    obtain ⟨tr₁, ok, w₁, tr₂, hquit, hret, rfl⟩ := runs_bind.mp h
    obtain ⟨rfl, -, -⟩ := runs_pure.mp hret
    rw [List.append_nil] at hplain
    have hno := hplain (ZAresGroupManagerImpl.quitGroup_stamps hquit)
    exact absurd (hno.symm.trans (List.append_nil tr₁ ▸ hyes)) Bool.false_ne_true

end Call

/-! ## A run of calls -/

section Made

variable {w w' : World} {made : List MadeCall}

/-- A call that inserts a group stamps in one unit only by coincidence. -/
theorem StampsOrdered.coincides (h : Run MadeCall.Step w made w') (hordered : StampsOrdered made)
    {m : MadeCall} (hm : m ∈ made) (hyes : m.inserts = true) : m.Coincides := by
  obtain ⟨w₁, w₂, hstep⟩ := h.of_mem hm
  obtain ⟨now, now', hnow, hnow', hseconds, hms⟩ := MadeCall.stamps_inserts hstep hyes
  obtain ⟨unit, rfl | rfl, hunit⟩ := hordered.unit
  · obtain ⟨t, ht, heq⟩ := hunit m hm _ hseconds
    refine ⟨now.toNat, hnow, t, ht, ?_⟩
    rw [Nat.div_one] at heq
    omega
  · obtain ⟨t, ht, heq⟩ := hunit m hm _ hms
    refine ⟨t, ht, now'.toNat, hnow', ?_⟩
    omega

/-- Where no group is inserted, all stamps are in milliseconds, and they are in order exactly if these do
    not wrap. -/
theorem stampsOrdered_plain (h : Run MadeCall.Step w made w')
    (hno : ∀ m ∈ made, m.inserts = false) :
    StampsOrdered made ↔ made.Pairwise MadeCall.Precedes := by
  have hplain : ∀ m ∈ made, m.stamps = [] ∨
      ∃ now : UInt64, m.clocks = [now.toNat] ∧ ∀ v ∈ m.stamps, v = percentD now.toUInt32 := by
    intro m hm
    obtain ⟨w₁, w₂, hstep⟩ := h.of_mem hm
    exact MadeCall.stamps_plain hstep (hno m hm)
  have hpair : ∀ a ∈ made, ∀ b ∈ made,
      (∀ v ∈ a.stamps, ∀ v' ∈ b.stamps, v ≤ v') ↔ a.Precedes b := by
    intro a ha b hb
    unfold MadeCall.Precedes
    rcases hplain a ha with hnone | ⟨now, hclocks, hstamps⟩
    · simp [hnone]
    rcases hplain b hb with hnone' | ⟨now', hclocks', hstamps'⟩
    · simp [hnone']
    have hle : percentD now.toUInt32 ≤ percentD now'.toUInt32 ↔
        (now.toNat + 2 ^ 31) % 2 ^ 32 ≤ (now'.toNat + 2 ^ 31) % 2 ^ 32 := by
      rw [percentD_toUInt32, percentD_toUInt32]
      omega
    rw [hclocks, hclocks']
    simp only [List.mem_singleton, forall_eq]
    rw [← hle]
    constructor
    · intro hordered hsome hsome'
      obtain ⟨v, hv⟩ := List.exists_mem_of_ne_nil _ hsome
      obtain ⟨v', hv'⟩ := List.exists_mem_of_ne_nil _ hsome'
      rw [← hstamps v hv, ← hstamps' v' hv']
      exact hordered v hv v' hv'
    · intro hordered v hv v' hv'
      rw [hstamps v hv, hstamps' v' hv']
      exact hordered (List.ne_nil_of_mem hv) (List.ne_nil_of_mem hv')
  constructor
  · intro hordered
    exact hordered.order.imp_of_mem fun ha hb hle => (hpair _ ha _ hb).mp hle
  · intro hprecedes
    refine ⟨⟨1, Or.inl rfl, ?_⟩, hprecedes.imp_of_mem fun ha hb hlt => (hpair _ ha _ hb).mpr hlt⟩
    intro m hm v hv
    rcases hplain m hm with hnone | ⟨now, hclocks, hstamps⟩
    · rw [hnone] at hv
      exact absurd hv List.not_mem_nil
    · refine ⟨now.toNat, by rw [hclocks]; exact List.mem_singleton_self _, ?_⟩
      rw [hstamps v hv, percentD_toUInt32, Nat.div_one]
      omega

/-- **Timestamps.**  In every run of calls that insert no group, the stamps are in order exactly if the
    low 32 bits of the clock, as a signed number, do not wrap between two calls that stamp; and a call
    that inserts a group mixes seconds with milliseconds, but for a coincidence of the two. -/
theorem stampsOrdered_iff (h : Run MadeCall.Step w made w') :
    ((∀ m ∈ made, m.inserts = false) →
      (StampsOrdered made ↔ made.Pairwise MadeCall.Precedes)) ∧
    (StampsOrdered made → ∀ m ∈ made, m.inserts = true → m.Coincides) := by
  constructor
  · exact stampsOrdered_plain h
  · intro hordered m hm hyes
    exact hordered.coincides h hm hyes

end Made

/-- The call made with the clock stopped at `t`. -/
def madeAt (t : UInt64) (op : GroupOp) (w : World) : MadeCall where
  op := op
  tr := (op.call.exec (respondAt t) w).1
  result := (op.call.exec (respondAt t) w).2.1

theorem madeAt_run (t : UInt64) (op : GroupOp) (w : World) : Run MadeCall.Step w [madeAt t op w]
    (op.call.exec (respondAt t) w).2.2 :=
  .one (Prog.exec_runs (fun w c => (respondAt_ok t w c).step) op.call w)

/-- A group made in November 2023. -/
theorem madeAt_clocks : (madeAt 1700000000000 (makeGroup [1]) emptyWorld).clocks =
    [1700000000000, 1700000000000, 1700000000000, 1700000000000] := by
  decide

theorem not_forall_stampsOrdered : ¬∀ (w w' : World) (made : List MadeCall),
    Run MadeCall.Step w made w' → (made.flatMap MadeCall.clocks).Pairwise (· ≤ ·) →
    (∀ t ∈ made.flatMap MadeCall.clocks, t / 1000 < 2 ^ 32) → StampsOrdered made := by
  intro hall
  have hrun := madeAt_run 1700000000000 (makeGroup [1]) emptyWorld
  have hclocks : [madeAt 1700000000000 (makeGroup [1]) emptyWorld].flatMap MadeCall.clocks =
      [1700000000000, 1700000000000, 1700000000000, 1700000000000] := by
    rw [List.flatMap_singleton, madeAt_clocks]
  have hordered := hall _ _ _ hrun (by rw [hclocks]; decide) (by rw [hclocks]; decide)
  obtain ⟨t, ht, t', ht', heq⟩ := hordered.coincides hrun (List.mem_singleton_self _) (by decide)
  rw [madeAt_clocks] at ht ht'
  simp only [List.mem_cons, List.not_mem_nil, or_false, or_self] at ht ht'
  subst ht ht'
  exact absurd heq (by decide)

/-- A user joins group 1. -/
def joinOne (userId : UInt32) : GroupOp := .joinGroup [userId] 1 { GroupInfo.new with groupId := 1 }

/-- The world after user 2 has joined. -/
def joinedWorld : World := ((joinOne 2).call.exec (respondAt 1000) emptyWorld).2.2

/-- Two users join within a second. -/
theorem stampsOrdered_joinOne : StampsOrdered
    [madeAt 1000 (joinOne 2) emptyWorld, madeAt 2000 (joinOne 3) joinedWorld] := by
  have hrun : Run MadeCall.Step emptyWorld
      ([madeAt 1000 (joinOne 2) emptyWorld] ++ [madeAt 2000 (joinOne 3) joinedWorld]) _ :=
    (madeAt_run 1000 (joinOne 2) emptyWorld).append (madeAt_run 2000 (joinOne 3) joinedWorld)
  refine ((stampsOrdered_iff hrun).1 (by decide)).mpr (List.pairwise_pair.mpr fun _ _ => ?_)
  show ∀ t ∈ (madeAt 1000 (joinOne 2) emptyWorld).clocks,
    ∀ t' ∈ (madeAt 2000 (joinOne 3) joinedWorld).clocks, _
  decide

end Zattd
