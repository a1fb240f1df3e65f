/-
  The unread counts of GROUPS.

  A group has a total, and for each class of client types a read count for each user; what is unread
  is the difference, capped at 150.  The counters live in memory, and two calls work on them: one
  reads the difference, the other is the acknowledgement that should make it 0.

  Neither does.  `CounterManager` declares `GetUserGroupCount(user, group, client_type)` and
  `ZAresCounterManagerImpl` implements it as `(user, client_type, group)`: all three are `uint32`, so
  the override compiles and every caller has the group and the client type CROSSED.  And the
  acknowledgement sets the read count to 0, where "nothing unread" is the total.
-/
import Zattd.Correct.Ledger

set_option linter.unusedVariables false

namespace Zattd

open Prog
open OrderedMap (getElem?_insert_eq)

/-! ## What is unread -/

/-- The read counts of a class. -/
def GroupCounterInfo.ofClass (c : GroupCounterInfo) : ClientClass → Map ReadCountAndLastID
  | .ios => c.userGroupCountIos
  | .android => c.userGroupCountAndroid
  | .other => c.userGroupCountOther

theorem GroupCounterInfo.getReadCountAndLastIDMap_eq (c : GroupCounterInfo) (t : UInt32) :
    c.getReadCountAndLastIDMap t = c.ofClass (clientClass t) := by
  unfold getReadCountAndLastIDMap clientClass
  by_cases h17 : t = 17
  · rw [if_pos h17, if_pos h17]; rfl
  · by_cases h18 : t = 18
    · rw [if_neg h17, if_neg h17, if_pos h18, if_pos h18]; rfl
    · rw [if_neg h17, if_neg h17, if_neg h18, if_neg h18]; rfl

theorem GroupCounterInfo.ofClass_set (c : GroupCounterInfo) (t : UInt32)
    (m : Map ReadCountAndLastID) (k : ClientClass) : (c.setReadCountAndLastIDMap t m).ofClass k =
      if k = clientClass t then m else c.ofClass k := by
  unfold setReadCountAndLastIDMap clientClass
  by_cases h17 : t = 17
  · rw [if_pos h17, if_pos h17]; cases k <;> rfl
  · by_cases h18 : t = 18
    · rw [if_neg h17, if_neg h17, if_pos h18, if_pos h18]; cases k <;> rfl
    · rw [if_neg h17, if_neg h17, if_neg h18, if_neg h18]; cases k <;> rfl

theorem GroupCounterInfo.groupTotalCount_set (c : GroupCounterInfo) (t : UInt32)
    (m : Map ReadCountAndLastID) :
    (c.setReadCountAndLastIDMap t m).groupTotalCount = c.groupTotalCount := by
  unfold setReadCountAndLastIDMap
  split
  · rfl
  · split <;> rfl

namespace CacheManager

/-- What a user has read of a group, in a class of client types, when there is an entry. -/
def readEntry (c : CacheManager) (groupId : UInt32) (k : ClientClass) (userId : UInt32) :
    Option ReadCountAndLastID :=
  c.groupCounterInstance[groupId]?.bind fun info => (info.ofClass k)[userId]?

theorem findCounterAndLastIDs_eq (c : CacheManager) (u g t : UInt32) :
    c.findCounterAndLastIDs u g t = c.readEntry g (clientClass t) u := by
  show (c.groupCounterInstance[g]?.bind fun info => (info.getReadCountAndLastIDMap t)[u]?) = _
  unfold readEntry
  cases c.groupCounterInstance[g]? with
  | none => rfl
  | some info => rw [Option.bind_some, Option.bind_some, info.getReadCountAndLastIDMap_eq]

/-- **What is unread**: the group's total less what the user has read of it, at most 150; 0 where
    the group or the entry is not there or more has been read than there is. -/
def groupUnread (c : CacheManager) (userId groupId clientType : UInt32) : Nat :=
  if groupId = 0 then 0
  else
    match c.readEntry groupId (clientClass clientType) userId with
    | none => 0
    | some e => min 150 ((c.getGroupTotalCount groupId).toNat - e.readCount.toNat)

/-- Nothing of the group is unread. -/
def NothingUnread (c : CacheManager) (u g t : UInt32) : Prop :=
  g = 0 ∨ ∀ e, c.readEntry g (clientClass t) u = some e → c.getGroupTotalCount g ≤ e.readCount

/-- The group `t` has no total, or the user's entry there for the class of `g` has read all of it. -/
def NothingCrossed (c : CacheManager) (u g t : UInt32) : Prop :=
  t = 0 ∨ c.getGroupTotalCount t = 0 ∨
    ∀ e, c.readEntry t (clientClass g) u = some e → e.readCount = c.getGroupTotalCount t

/-- The user's entry in the group `t` for the class of `g` has as much left, modulo 2^32 and at most
    150, as the one in the group `g` for the class of `t`. -/
def SameCrossed (c : CacheManager) (u g t : UInt32) : Prop :=
  g ≠ 0 ∧ t ≠ 0 ∧ c.getGroupTotalCount t ≠ 0 ∧
    ∃ e e', c.readEntry g (clientClass t) u = some e ∧
      c.readEntry t (clientClass g) u = some e' ∧
      min 150 ((c.getGroupTotalCount g).toNat - e.readCount.toNat) =
        min 150 (c.getGroupTotalCount t - e'.readCount).toNat

end CacheManager

/-! ## What is reported -/

namespace ZAresCounterManagerImpl

/-- The count that the implementation reports, its arguments in the implementation's order. -/
theorem getUserGroupCount_userUnreadCount (c : CacheManager) (u t g : UInt32)
    (item : GroupCounterItem) : (getUserGroupCount u t g item c).userUnreadCount.toNat =
      if u = 0 ∨ g = 0 ∨ c.getGroupTotalCount g = 0 then 0
      else
        match c.readEntry g (clientClass t) u with
        | none => 0
        | some e => min 150 (c.getGroupTotalCount g - e.readCount).toNat := by
  unfold getUserGroupCount
  by_cases h0 : u = 0 ∨ g = 0
  · rw [if_pos h0, if_pos (h0.imp_right Or.inl)]
    rfl
  rw [if_neg h0]
  by_cases htotal : c.getGroupTotalCount g = 0
  · simp only [if_pos htotal]
    rw [if_pos (Or.inr (Or.inr htotal))]
    rfl
  have hall : ¬(u = 0 ∨ g = 0 ∨ c.getGroupTotalCount g = 0) := by
    rintro (hu | hg | ht)
    · exact h0 (Or.inl hu)
    · exact h0 (Or.inr hg)
    · exact htotal ht
  simp only [if_neg htotal]
  rw [if_neg hall, c.findCounterAndLastIDs_eq]
  cases c.readEntry g (clientClass t) u with
  | none => rfl
  | some e =>
    show UInt32.toNat (if c.getGroupTotalCount g - e.readCount > groupUnreadMaxCounter then _ else _)
      = min 150 _
    have hmax : groupUnreadMaxCounter.toNat = 150 := rfl
    by_cases hcap : c.getGroupTotalCount g - e.readCount > groupUnreadMaxCounter
    · rw [if_pos hcap]
      have hlt := UInt32.lt_iff_toNat_lt.mp hcap
      omega
    · rw [if_neg hcap]
      have hle := UInt32.le_iff_toNat_le.mp (UInt32.not_lt.mp hcap)
      omega

/-- The map is filled with what is reported for each group, the client type taken for the group. -/
theorem getUserGroupUnreadCount_getElem? {u : UInt32} {groupIds : List UInt32} (hu : u ≠ 0)
    (hgroups : groupIds ≠ []) (t : UInt32) (c : CacheManager) (g : UInt32) :
    (getUserGroupUnreadCount u groupIds t ∅ c).2[g]? =
      if g ∈ groupIds then some (getUserGroupCount u g t ⟨0, 0, 0, 0, 0⟩ c).userUnreadCount
      else none := by
  have hfold : ∀ (unreads : Map UInt32) (gs : List UInt32),
      (gs.foldl (fun unreads groupId => unreads.insertIfNew groupId
        (getUserGroupCount u groupId t ⟨0, 0, 0, 0, 0⟩ c).userUnreadCount) unreads)[g]? =
      unreads[g]?.or (if g ∈ gs then
        some (getUserGroupCount u g t ⟨0, 0, 0, 0, 0⟩ c).userUnreadCount else none) := by
    intro unreads gs
    induction gs generalizing unreads with
    | nil => simp
    | cons x gs ih =>
      rw [List.foldl_cons, ih, Std.TreeMap.getElem?_insertIfNew]
      by_cases hx : x = g
      · subst hx
        -- the first entry of a group stays, and every entry of a group is the same
        by_cases hold : x ∈ unreads
        · have hsome := Std.TreeMap.getElem?_eq_some_getElem hold
          rw [if_neg fun h => h.2 hold, hsome]
          rfl
        · rw [if_pos ⟨Std.ReflCmp.compare_self, hold⟩, Std.TreeMap.getElem?_eq_none hold]
          simp
      · have hne : ¬(compare x g = .eq ∧ x ∉ unreads) := by
          intro h
          exact hx (Std.LawfulEqCmp.eq_of_compare h.1)
        rw [if_neg hne]
        simp [Ne.symm hx]
  unfold getUserGroupUnreadCount
  rw [if_neg (not_or.mpr ⟨hu, hgroups⟩)]
  show (groupIds.foldl _ _)[g]? = _
  rw [hfold]
  simp

/-- **Clearing** sets the read count and the last id of one entry to 0, and nothing else. -/
theorem readEntry_clearUserGroupCounter (u g t : UInt32) (c : CacheManager) (g' : UInt32)
    (k : ClientClass) (u' : UInt32) : (clearUserGroupCounter u g t c).2.readEntry g' k u' =
      if g = g' ∧ clientClass t = k ∧ u = u' then (c.readEntry g' k u').map fun _ => ⟨0, 0⟩
      else c.readEntry g' k u' := by
  unfold clearUserGroupCounter
  rw [c.findCounterAndLastIDs_eq]
  cases hentry : c.readEntry g (clientClass t) u with
  | none =>
    by_cases hown : g = g' ∧ clientClass t = k ∧ u = u'
    · obtain ⟨rfl, rfl, rfl⟩ := hown
      rw [if_pos ⟨rfl, rfl, rfl⟩]
      simp only [hentry, Option.map_none]
    · rw [if_neg hown]
  | some e =>
    unfold CacheManager.readEntry at hentry ⊢
    obtain ⟨info, hinfo, he⟩ := Option.bind_eq_some_iff.mp hentry
    simp only [CacheManager.writeCounterAndLastIDs, hinfo]
    rw [getElem?_insert_eq]
    by_cases hg : g = g'
    · subst hg
      rw [if_pos rfl, hinfo, Option.bind_some, Option.bind_some, GroupCounterInfo.ofClass_set,
        GroupCounterInfo.getReadCountAndLastIDMap_eq]
      by_cases hk : k = clientClass t
      · subst hk
        rw [if_pos rfl, getElem?_insert_eq]
        by_cases hu : u = u'
        · subst hu
          rw [if_pos rfl, if_pos ⟨rfl, rfl, rfl⟩, he]
          rfl
        · rw [if_neg hu, if_neg fun h => hu h.2.2]
      · rw [if_neg hk, if_neg fun h => hk h.2.1.symm]
    · rw [if_neg hg, if_neg fun h => hg h.1]

theorem getGroupTotalCount_clearUserGroupCounter (u g t : UInt32) (c : CacheManager) (g' : UInt32) :
    (clearUserGroupCounter u g t c).2.getGroupTotalCount g' = c.getGroupTotalCount g' := by
  unfold clearUserGroupCounter
  cases c.findCounterAndLastIDs u g t with
  | none => rfl
  | some e =>
    unfold CacheManager.writeCounterAndLastIDs
    cases hinfo : c.groupCounterInstance[g]? with
    | none => rfl
    | some info =>
      unfold CacheManager.getGroupTotalCount
      rw [getElem?_insert_eq]
      by_cases hg : g = g'
      · subst hg
        rw [if_pos rfl, hinfo]
        exact info.groupTotalCount_set t _
      · rw [if_neg hg]

end ZAresCounterManagerImpl

namespace CacheManager

theorem groupUnread_eq_zero_iff (c : CacheManager) (u g t : UInt32) :
    c.groupUnread u g t = 0 ↔ c.NothingUnread u g t := by
  unfold groupUnread NothingUnread
  by_cases hg : g = 0
  · rw [if_pos hg]
    exact iff_of_true rfl (Or.inl hg)
  rw [if_neg hg, or_iff_right hg]
  cases c.readEntry g (clientClass t) u with
  | none => simp
  | some e =>
    have hmin : min 150 ((c.getGroupTotalCount g).toNat - e.readCount.toNat) = 0 ↔
        (c.getGroupTotalCount g).toNat ≤ e.readCount.toNat := by omega
    simp [hmin, UInt32.le_iff_toNat_le]

/-- A caller that follows the interface is told 0 where nothing is crossed. -/
theorem reported_eq_zero_iff (c : CacheManager) {u : UInt32} (g t : UInt32)
    (item : GroupCounterItem) :
    (ZAresCounterManagerImpl.getUserGroupCount u g t item c).userUnreadCount = 0 ↔
      u = 0 ∨ c.NothingCrossed u g t := by
  have hreported := ZAresCounterManagerImpl.getUserGroupCount_userUnreadCount c u g t item
  rw [← UInt32.toNat_inj, hreported]
  unfold NothingCrossed
  by_cases h0 : u = 0 ∨ t = 0 ∨ c.getGroupTotalCount t = 0
  · rw [if_pos h0]
    apply iff_of_true rfl
    rcases h0 with hu | ht | htotal
    · exact Or.inl hu
    · exact Or.inr (Or.inl ht)
    · exact Or.inr (Or.inr (Or.inl htotal))
  · rw [if_neg h0]
    obtain ⟨hu, ht, htotal⟩ : u ≠ 0 ∧ t ≠ 0 ∧ c.getGroupTotalCount t ≠ 0 := by
      simpa [not_or] using h0
    rw [or_iff_right hu, or_iff_right ht, or_iff_right htotal]
    cases c.readEntry t (clientClass g) u with
    | none => simp
    | some e =>
      have hsub : (c.getGroupTotalCount t - e.readCount).toNat = 0 ↔
          e.readCount = c.getGroupTotalCount t := by
        rw [← UInt32.toNat_zero, UInt32.toNat_inj]
        grind
      have hmin : min 150 (c.getGroupTotalCount t - e.readCount).toNat = 0 ↔
          (c.getGroupTotalCount t - e.readCount).toNat = 0 := by omega
      simp [hmin, hsub]

/-- A caller that follows the interface is told what is unread in these cases only. -/
theorem reported_eq_groupUnread_iff (c : CacheManager) {u : UInt32} (hu : u ≠ 0) (g t : UInt32)
    (item : GroupCounterItem) :
    (ZAresCounterManagerImpl.getUserGroupCount u g t item c).userUnreadCount.toNat =
        c.groupUnread u g t ↔
      (c.NothingUnread u g t ∧ c.NothingCrossed u g t) ∨ c.SameCrossed u g t := by
  have hzero := c.reported_eq_zero_iff (u := u) g t item
  rw [or_iff_right hu] at hzero
  have hreported := ZAresCounterManagerImpl.getUserGroupCount_userUnreadCount c u g t item
  constructor
  · intro heq
    by_cases hnothing : c.NothingUnread u g t
    · refine Or.inl ⟨hnothing, hzero.mp (UInt32.toNat_inj.mp ?_)⟩
      rw [heq]
      exact (c.groupUnread_eq_zero_iff u g t).mpr hnothing
    · -- something is unread, so something is reported, and both come from an entry
      apply Or.inr
      have hcrossed : ¬c.NothingCrossed u g t := by
        intro hcrossed
        rw [hzero.mpr hcrossed] at heq
        exact hnothing ((c.groupUnread_eq_zero_iff u g t).mp heq.symm)
      unfold NothingUnread at hnothing
      unfold NothingCrossed at hcrossed
      push Not at hnothing hcrossed
      obtain ⟨hg, e, he, -⟩ := hnothing
      obtain ⟨ht, htotal, e', he', -⟩ := hcrossed
      refine ⟨hg, ht, htotal, e, e', he, he', ?_⟩
      rw [hreported, if_neg (by simp [hu, ht, htotal]), he', groupUnread, if_neg hg, he] at heq
      exact heq.symm
  · rintro (⟨hnothing, hcrossed⟩ | ⟨hg, ht, htotal, e, e', he, he', hsame⟩)
    · rw [hzero.mpr hcrossed, (c.groupUnread_eq_zero_iff u g t).mpr hnothing]
      rfl
    · rw [hreported, if_neg (by simp [hu, ht, htotal]), he', groupUnread, if_neg hg, he]
      exact hsame.symm

end CacheManager

/-! ## The counts of a user's groups -/

/-- The two calls answer what is unread: the map has the groups of the list and no others, each with
    its count, and so has the item of each group. -/
def GroupCountsRight (w : World) (u : UInt32) (groupIds : List UInt32) (t : UInt32) : Prop :=
  (∀ tr n unreads w', Runs Step w
      (zAresModelModule.counterManager.getUserGroupUnreadCount u groupIds t ∅) tr (n, unreads) w' →
    ∀ g, unreads[g]?.map UInt32.toNat =
      if g ∈ groupIds then some (w.cache.groupUnread u g t) else none) ∧
  ∀ g ∈ groupIds, ∀ item tr item' w',
    Runs Step w (zAresModelModule.counterManager.getUserGroupCount u g t item) tr item' w' →
    item'.userUnreadCount.toNat = w.cache.groupUnread u g t

/-- **Group unread counts.**  They are those of the asked groups exactly when, for each group of the
    list, the group and the client type can be crossed without changing the count. -/
theorem groupCountsRight_iff (w : World) {u : UInt32} (hu : u ≠ 0) {groupIds : List UInt32}
    (hgroups : groupIds ≠ []) (t : UInt32) :
    GroupCountsRight w u groupIds t ↔
      ∀ g ∈ groupIds, (w.cache.NothingUnread u g t ∧ w.cache.NothingCrossed u g t) ∨
        w.cache.SameCrossed u g t := by
  have hmap := ZAresCounterManagerImpl.getUserGroupUnreadCount_getElem? hu hgroups t w.cache
  constructor
  · rintro ⟨hcounts, -⟩ g hg
    have hcount := hcounts _ _ (ZAresCounterManagerImpl.getUserGroupUnreadCount u groupIds t ∅
      w.cache).2 _ (runs_counter.mpr ⟨⟨rfl, rfl⟩, rfl⟩) g
    rw [hmap, if_pos hg, if_pos hg] at hcount
    exact (w.cache.reported_eq_groupUnread_iff hu g t _).mp (Option.some.inj hcount)
  · intro huncrossed
    constructor
    · intro tr n unreads w' hrun g
      obtain ⟨⟨hanswer, -⟩, -⟩ := runs_counter.mp hrun
      obtain rfl : unreads = _ := congrArg Prod.snd hanswer
      show Option.map UInt32.toNat
        (ZAresCounterManagerImpl.getUserGroupUnreadCount u groupIds t ∅ w.cache).2[g]? = _
      rw [hmap]
      by_cases hg : g ∈ groupIds
      · rw [if_pos hg, if_pos hg, Option.map_some,
          (w.cache.reported_eq_groupUnread_iff hu g t _).mpr (huncrossed g hg)]
      · rw [if_neg hg, if_neg hg, Option.map_none]
    · intro g hg item tr item' w' hrun
      obtain ⟨⟨rfl, -⟩, -⟩ := runs_counter.mp hrun
      exact (w.cache.reported_eq_groupUnread_iff hu g t item).mpr (huncrossed g hg)

/-- One message in group 7, of which user 5 has read none on a client of type 18. -/
def unreadGroup : World :=
  { emptyWorld with
    cache :=
      { groupCounterInstance := (∅ : Map GroupCounterInfo).insert 7
          { groupTotalCount := 1
            userGroupCountAndroid := (∅ : Map ReadCountAndLastID).insert 5 ⟨0, 0⟩ } } }

/-- The user is told that nothing is unread. -/
theorem not_groupCountsRight : ¬GroupCountsRight unreadGroup 5 [7] 18 := by
  rintro ⟨-, hitem⟩
  have hrun : Runs Step unreadGroup
      (zAresModelModule.counterManager.getUserGroupCount 5 7 18 ⟨0, 0, 0, 0, 0⟩) _ _ unreadGroup :=
    runs_counter.mpr ⟨⟨rfl, rfl⟩, rfl⟩
  have hcount := hitem 7 (by decide) _ _ _ _ hrun
  exact absurd hcount (by decide)

/-- Three messages in group 18, of which user 5 has read one on a client of type 18. -/
def sameIdGroup : World :=
  { emptyWorld with
    cache :=
      { groupCounterInstance := (∅ : Map GroupCounterInfo).insert 18
          { groupTotalCount := 3
            userGroupCountAndroid := (∅ : Map ReadCountAndLastID).insert 5 ⟨1, 0⟩ } } }

/-- The group and the client type have one number, and the user is told that two are unread. -/
theorem groupCountsRight_sameId :
    sameIdGroup.cache.groupUnread 5 18 18 = 2 ∧ GroupCountsRight sameIdGroup 5 [18] 18 := by
  refine ⟨by decide, (groupCountsRight_iff sameIdGroup (by decide) (by decide) 18).mpr fun g hg => ?_⟩
  obtain rfl := List.mem_singleton.mp hg
  exact Or.inr ⟨by decide, by decide, by decide, ⟨1, 0⟩, ⟨1, 0⟩, rfl, rfl, by decide⟩

/-! ## The acknowledgement -/

/-- An acknowledgement makes what is unread 0, as it is and as it is reported, and changes no entry
    of another user, group or class. -/
structure GroupCleared (w : World) (u g t : UInt32) (w' : World) : Prop where
  own : ∀ e, w'.cache.readEntry g (clientClass t) u = some e →
    w'.cache.getGroupTotalCount g - e.readCount = 0
  reported : ∀ item tr item' w'',
    Runs Step w' (zAresModelModule.counterManager.getUserGroupCount u g t item) tr item' w'' →
    item'.userUnreadCount = 0
  others : ∀ g' k u', ¬(g = g' ∧ clientClass t = k ∧ u = u') →
    w'.cache.readEntry g' k u' = w.cache.readEntry g' k u'

/-- **Clearing a group.**  The acknowledgement clears the group exactly when there is nothing to
    clear, the group having no total or the user no entry in it, and the group that is reported in
    its place has nothing unread either. -/
theorem groupCleared_iff (w : World) (u g t : UInt32) :
    (∀ tr cleared w', Runs Step w
        (zAresModelModule.counterManager.clearUserGroupCounter u g t) tr cleared w' →
      GroupCleared w u g t w') ↔
      (w.cache.readEntry g (clientClass t) u = none ∨ w.cache.getGroupTotalCount g = 0) ∧
        (u = 0 ∨ w.cache.NothingCrossed u g t) := by
  have hentry := ZAresCounterManagerImpl.readEntry_clearUserGroupCounter u g t w.cache
  have htotal := ZAresCounterManagerImpl.getGroupTotalCount_clearUserGroupCounter u g t w.cache
  -- where there is nothing to clear, the group reported is told by the counters as they were
  have hcrossed : w.cache.readEntry g (clientClass t) u = none ∨ w.cache.getGroupTotalCount g = 0 →
      ((ZAresCounterManagerImpl.clearUserGroupCounter u g t w.cache).2.NothingCrossed u g t ↔
        w.cache.NothingCrossed u g t) := by
    intro hnone
    unfold CacheManager.NothingCrossed
    rw [htotal, hentry]
    by_cases hsame : g = t ∧ clientClass t = clientClass g ∧ u = u
    · obtain ⟨rfl, -, -⟩ := hsame
      rcases hnone with hnone | hzero
      · rw [hnone]
        simp
      · simp [hzero]
    · rw [if_neg hsame]
  constructor
  · intro hall
    have hrun : Runs Step w (zAresModelModule.counterManager.clearUserGroupCounter u g t) _ _
        (w.setCache (ZAresCounterManagerImpl.clearUserGroupCounter u g t w.cache).2) :=
      runs_counter.mpr ⟨⟨rfl, rfl⟩, rfl⟩
    have hcleared := hall _ _ _ hrun
    have hnone : w.cache.readEntry g (clientClass t) u = none ∨
        w.cache.getGroupTotalCount g = 0 := by
      rcases Option.eq_none_or_eq_some (w.cache.readEntry g (clientClass t) u) with hno | ⟨e, he⟩
      · exact Or.inl hno
      · -- the cleared entry has read 0 of the total
        have hzero := hcleared.own ⟨0, 0⟩ (by
          show (ZAresCounterManagerImpl.clearUserGroupCounter u g t w.cache).2.readEntry _ _ _ = _
          rw [hentry, if_pos ⟨rfl, rfl, rfl⟩, he]
          rfl)
        have hread : (0 : UInt32) = w.cache.getGroupTotalCount g := by
          rw [← htotal g]
          exact (hzero.symm.trans (UInt32.sub_zero _))
        exact Or.inr hread.symm
    refine ⟨hnone, ?_⟩
    have hreported := hcleared.reported ⟨0, 0, 0, 0, 0⟩ _ _ _
      (runs_counter.mpr ⟨⟨rfl, rfl⟩, rfl⟩)
    have hnothing := (CacheManager.reported_eq_zero_iff _ g t ⟨0, 0, 0, 0, 0⟩).mp hreported
    exact hnothing.imp_right (hcrossed hnone).mp
  · rintro ⟨hnone, hnothing⟩ tr cleared w' hrun
    obtain ⟨⟨-, rfl⟩, -⟩ := runs_counter.mp hrun
    refine ⟨fun e he => ?_, fun item tr item' w'' hrun => ?_, fun g' k u' hother => ?_⟩
    · change (ZAresCounterManagerImpl.clearUserGroupCounter u g t w.cache).2.readEntry _ _ _ = _ at he
      show (ZAresCounterManagerImpl.clearUserGroupCounter u g t w.cache).2.getGroupTotalCount g - _ = 0
      rw [hentry, if_pos ⟨rfl, rfl, rfl⟩] at he
      rcases hnone with hnone | hzero
      · rw [hnone] at he
        cases he
      · obtain ⟨_, -, rfl⟩ := Option.map_eq_some_iff.mp he
        rw [htotal, hzero]
        rfl
    · obtain ⟨hstep, -⟩ := runs_issue.mp hrun
      obtain ⟨rfl, -⟩ := hstep.resolve_right id
      apply (CacheManager.reported_eq_zero_iff _ g t item).mpr
      exact hnothing.imp_right (hcrossed hnone).mpr
    · show (ZAresCounterManagerImpl.clearUserGroupCounter u g t w.cache).2.readEntry g' k u' = _
      rw [hentry, if_neg hother]

/-- The user acknowledges the message of the group, and it is unread all the same. -/
theorem not_forall_groupCleared : ¬∀ (w : World) (u g t : UInt32) tr cleared w',
    Runs Step w (zAresModelModule.counterManager.clearUserGroupCounter u g t) tr cleared w' →
    GroupCleared w u g t w' := by
  intro hall
  have hrun : Runs Step unreadGroup
      (zAresModelModule.counterManager.clearUserGroupCounter 5 7 18) _ _ _ :=
    runs_counter.mpr ⟨⟨rfl, rfl⟩, rfl⟩
  have hzero := (hall unreadGroup 5 7 18 _ _ _ hrun).own ⟨0, 0⟩ rfl
  exact absurd hzero (by decide)

end Zattd
