/-
  Recent contacts: what a message does to the two rows of its sender and its recipient.

  `CheckAndUpdateRelation` is meant to put a removed contact back for BOTH: its query has four
  parameters, for the row of `a` about `b` and for the row of `b` about `a`.  But they are added in
  the order a, b, a, b, so the query asks twice for the first row, and the second row stays removed.

  The invariant of a run (`Paired`): the keys are distinct, a pair of users has at most one row, and
  with the row of one side there is the row of the other.
-/
import Zattd.Correct.SendMessage
import Zattd.Handler.UserHandlers
import Zattd.Lib.Run

set_option linter.unusedVariables false

namespace Zattd

open Prog

/-! ## The table -/

/-- Whose row it is, and about whom. -/
def ContactRow.pair (r : ContactRow) : Int × Int := (r.userId, r.friendUserId)

theorem ContactRow.isOf_eq (u f : Int) :
    ContactRow.isOf u f = fun r : ContactRow => decide (r.pair = (u, f)) := by
  funext r
  simp [ContactRow.isOf, ContactRow.pair]

/-- The keys and ids of the tables are below `2^31`. -/
def InRange (t : List ContactRow) : Prop := ∀ k ∈ t.map (·.relateId), k < 2 ^ 31

/-- The invariant of the table. -/
structure Paired (t : List ContactRow) : Prop where
  keys : (t.map (·.relateId)).Nodup
  pos : ∀ k ∈ t.map (·.relateId), 0 < k
  pairs : (t.map (·.pair)).Nodup
  swap : ∀ x ∈ t.map (·.pair), x.swap ∈ t.map (·.pair)
  status : ∀ r ∈ t, r.status = 0 ∨ r.status = 1

theorem paired_nil : Paired [] :=
  ⟨List.nodup_nil, by simp, List.nodup_nil, by simp, by simp⟩

/-- An update of the status alone keeps the invariant, and the keys. -/
theorem Paired.updateStatus {t : List ContactRow} (h : Paired t) (p : ContactRow → Bool) {v : Int}
    (hv : v = 0 ∨ v = 1) : Paired (Table.updateAll p (fun r => { r with status := v }) t) := by
  have hkeys : (Table.updateAll p (fun r => { r with status := v }) t).map (·.relateId) =
      t.map (·.relateId) := Table.map_updateAll (by intro r; rfl) t
  have hpairs : (Table.updateAll p (fun r => { r with status := v }) t).map (·.pair) =
      t.map (·.pair) := Table.map_updateAll (by intro r; rfl) t
  refine ⟨?_, ?_, ?_, ?_, ?_⟩
  · rw [hkeys]; exact h.keys
  · rw [hkeys]; exact h.pos
  · rw [hpairs]; exact h.pairs
  · rw [hpairs]; exact h.swap
  · intro r' hr'
    obtain ⟨r, hr, rfl⟩ := Table.mem_updateAll.mp hr'
    split
    · exact hv
    · exact h.status r hr

theorem InRange.updateStatus {t : List ContactRow} (h : InRange t) (p : ContactRow → Bool) (v : Int) :
    InRange (Table.updateAll p (fun r => { r with status := v }) t) := by
  unfold InRange
  rw [Table.map_updateAll (by intro r; rfl)]
  exact h

/-- Rows for a pair of users that has none keep the invariant. -/
theorem Paired.insert {t new : List ContactRow} {vs : List ContactValues} (h : Paired t)
    (hrows : Table.NewRows (·.relateId) ContactValues.row vs t new)
    (hpairs : (new.map (·.pair)).Nodup) (hnew : ∀ x ∈ new.map (·.pair), x ∉ t.map (·.pair))
    (hswap : ∀ x ∈ new.map (·.pair), x.swap ∈ new.map (·.pair))
    (hstatus : ∀ r ∈ new, r.status = 0) : Paired (t ++ new) := by
  refine ⟨?_, ?_, ?_, ?_, ?_⟩
  · rw [List.map_append, List.nodup_append']
    refine ⟨h.keys, hrows.nodup, fun k hk hk' => ?_⟩
    obtain ⟨r, hr, rfl⟩ := List.mem_map.mp hk
    obtain ⟨r', hr', heq⟩ := List.mem_map.mp hk'
    exact (hrows.fresh r' hr').2 r hr heq.symm
  · intro k hk
    rw [List.map_append, List.mem_append] at hk
    rcases hk with hk | hk
    · exact h.pos k hk
    · obtain ⟨r, hr, rfl⟩ := List.mem_map.mp hk
      exact (hrows.fresh r hr).1
  · rw [List.map_append, List.nodup_append']
    exact ⟨h.pairs, hpairs, fun x hx hx' => hnew x hx' hx⟩
  · intro x hx
    rw [List.map_append, List.mem_append] at hx ⊢
    exact hx.imp (h.swap x) (hswap x)
  · intro r hr
    rcases List.mem_append.mp hr with hr | hr
    · exact h.status r hr
    · exact Or.inl (hstatus r hr)

/-! ## The conversation id -/

/-- The pair of the row whose key is the conversation id of `a` and `b`: the smaller id first. -/
def conversationPair (a b : UInt32) : Int × Int :=
  (min (addParam a) (addParam b), max (addParam a) (addParam b))

/-- The conversation id of `a` and `b`: the key of that row, if it is there. -/
def conversationId (t : List ContactRow) (a b : UInt32) : UInt32 :=
  match t.find? fun r => decide (r.pair = conversationPair a b) with
  | some r => getColumn r.relateId
  | none => kInvalidID

theorem conversationPair_comm (a b : UInt32) : conversationPair a b = conversationPair b a := by
  rw [conversationPair, conversationPair, min_comm, max_comm]

theorem conversationId_comm (t : List ContactRow) (a b : UInt32) :
    conversationId t a b = conversationId t b a := by
  rw [conversationId, conversationId, conversationPair_comm]

/-- A search for a pair finds the one row of the pair. -/
theorem Paired.find?_pair {t : List ContactRow} (hp : Paired t) {r : ContactRow} (hr : r ∈ t)
    {x : Int × Int} (hpair : r.pair = x) : t.find? (fun r => decide (r.pair = x)) = some r := by
  have hsome : (t.find? fun r => decide (r.pair = x)).isSome :=
    List.find?_isSome.mpr ⟨r, hr, decide_eq_true hpair⟩
  obtain ⟨r', hfind⟩ := Option.isSome_iff_exists.mp hsome
  have hr' : r'.pair = x := by simpa using List.find?_some hfind
  rw [hfind, List.inj_on_of_nodup_map hp.pairs (List.mem_of_find?_eq_some hfind) hr
    (hr'.trans hpair.symm)]

/-! ## The statements of `SendIMMessage` -/

/-- An id: not 0, and below `2^31`. -/
structure IsId (v : UInt32) : Prop where
  ne_zero : v ≠ 0
  lt : v.toNat < 2 ^ 31

theorem IsId.percentD_eq {v : UInt32} (h : IsId v) : percentD v = addParam v := Zattd.percentD_eq h.lt

namespace ZAresRelationshipManagerImpl

/-- Read back and printed again, a key in range is itself. -/
theorem uintToString_getColumn {k : Int} (hpos : 0 < k) (hlt : k < 2 ^ 31) :
    uintToString (getColumn k) = k := by
  have hmod : k % 2 ^ 32 = k := Int.emod_eq_of_lt hpos.le (by omega)
  rw [uintToString, getColumn, UInt32.ofInt, hmod, UInt32.toNat_ofNat', Nat.mod_eq_of_lt (by omega)]
  exact Int.toNat_of_nonneg hpos.le

theorem getColumn_ne_kInvalidID {k : Int} (hpos : 0 < k) (hlt : k < 2 ^ 31) :
    getColumn k ≠ kInvalidID := by
  intro h
  have hk := uintToString_getColumn hpos hlt
  rw [h, show uintToString kInvalidID = 4294967295 from rfl] at hk
  omega

theorem getColumn_status {v : Int} (hv : v = 0 ∨ v = 1) : getColumn v ≠ 0 ↔ v ≠ 0 := by
  rcases hv with rfl | rfl <;> decide

/-- There is an id if and only if there is the row. -/
theorem conversationId_ne_iff {t : List ContactRow} (hp : Paired t) (hrange : InRange t)
    {a b : UInt32} : conversationId t a b ≠ kInvalidID ↔ conversationPair a b ∈ t.map (·.pair) := by
  unfold conversationId
  constructor
  · intro hne
    split at hne
    · next r hfind =>
      have hpair : r.pair = conversationPair a b := by simpa using List.find?_some hfind
      exact List.mem_map.mpr ⟨r, List.mem_of_find?_eq_some hfind, hpair⟩
    · exact absurd rfl hne
  · intro hmem
    obtain ⟨r, hr, hpair⟩ := List.mem_map.mp hmem
    have hkey : r.relateId ∈ t.map (·.relateId) := List.mem_map.mpr ⟨r, hr, rfl⟩
    rw [hp.find?_pair hr hpair]
    exact getColumn_ne_kInvalidID (hp.pos _ hkey) (hrange _ hkey)

/-- **The re-activation.**  What `CheckAndUpdateRelation` does is to put back the contact of `a`, and
    only that one. -/
theorem checkAndUpdateRelation_runs {a b : UInt32} {w w' : World} {tr : List Event} {result : Bool}
    (ha : IsId a) (hb : IsId b) (hp : Paired w.db.imRecentContact)
    (hrange : InRange w.db.imRecentContact)
    (h : Runs StepOk w (checkAndUpdateRelation a b) tr result w') :
    w' = w.setContacts (Table.updateAll (ContactRow.isOf (addParam a) (addParam b))
      (fun r => { r with status := 0 }) w.db.imRecentContact) := by
  have hguard : ¬(a = 0 ∨ b = 0) := not_or.mpr ⟨ha.ne_zero, hb.ne_zero⟩
  simp only [checkAndUpdateRelation, if_neg hguard, runs_bind, runs_issue] at h
  obtain ⟨_, answ, w₁, _, ⟨⟨t, ⟨rfl, rows, hrows, rfl⟩, rfl⟩, _⟩, hrest, _⟩ := h
  -- the two conditions of the query are one and the same
  simp only [Bool.or_self, ContactRow.isOf_eq] at hrows
  have hone := Table.countP_unique hp.pairs (addParam a, addParam b)
  have hcases := (hrows.of_le (hone.trans (by omega))).unique hp.pairs
  rw [ContactRow.isOf_eq]
  rcases hcases with ⟨rfl, hnone⟩ | ⟨r, hr, hpair, rfl⟩
  · -- no row, nothing to put back
    obtain ⟨-, -, rfl⟩ := runs_pure.mp hrest
    rw [Table.updateAll_eq_self fun r hr hpr => absurd (of_decide_eq_true hpr) (hnone r hr)]
  have hunique : ∀ r' ∈ w.db.imRecentContact, r'.pair = (addParam a, addParam b) → r' = r :=
    fun r' hr' hpair' => List.inj_on_of_nodup_map hp.pairs hr' hr (hpair'.trans hpair.symm)
  have hstatus := getColumn_status (hp.status r hr)
  by_cases h0 : r.status = 0
  · -- the contact is in the list already
    have hids : removedRelateIds [r] = [] := by simp [removedRelateIds, h0, show getColumn 0 = 0 from rfl]
    simp only [Option.getD_some, hids, if_true, runs_pure] at hrest
    obtain ⟨-, -, rfl⟩ := hrest
    rw [Table.updateAll_eq_self fun r' hr' hpr => by
      obtain rfl := hunique r' hr' (of_decide_eq_true hpr)
      rw [← h0]]
  · have hkey : r.relateId ∈ w.db.imRecentContact.map (·.relateId) := List.mem_map.mpr ⟨r, hr, rfl⟩
    have hids : removedRelateIds [r] = [r.relateId] := by
      simp [removedRelateIds, hstatus.mpr h0, uintToString_getColumn (hp.pos _ hkey) (hrange _ hkey)]
    simp only [Option.getD_some, hids, List.cons_ne_nil, if_false, runs_bind, runs_issue,
      runs_pure] at hrest
    obtain ⟨_, n, w₂, _, ⟨⟨t', ⟨_, hupdate, _⟩, rfl⟩, _⟩, ⟨-, -, rfl⟩, _⟩ := hrest
    simp only [hids, List.mem_singleton] at hupdate
    have hle := (Table.countP_unique hp.keys r.relateId).trans (show 1 ≤ 4 by omega)
    obtain ⟨ht', -⟩ := hupdate.all hle
    -- the row with this key is the row of this pair
    rw [ht', Table.updateAll_congr fun r' hr' => ?_]
    · rfl
    · by_cases hr'' : r' = r
      · rw [hr'']; simp [hpair]
      · have hkey' : r'.relateId ≠ r.relateId := fun hk =>
          hr'' (List.inj_on_of_nodup_map hp.keys hr' hr hk)
        have hpair' : r'.pair ≠ (addParam a, addParam b) := fun hk => hr'' (hunique r' hr' hk)
        simp [hkey', hpair']

/-- The pair in the order in which `GetRelateId` asks for it, or the other one. -/
theorem ordered_mem_iff {t : List ContactRow} (hp : Paired t) (a b : UInt32) :
    (addParam (if a > b then b else a), addParam (if a > b then a else b)) ∈ t.map (·.pair) ↔
      (addParam a, addParam b) ∈ t.map (·.pair) := by
  split
  · exact ⟨hp.swap _, hp.swap _⟩
  · exact Iff.rfl

theorem ordered_eq (a b : UInt32) :
    (addParam (if a > b then b else a), addParam (if a > b then a else b)) = conversationPair a b := by
  unfold conversationPair addParam
  by_cases hab : a > b
  · have hlt : b.toNat < a.toNat := UInt32.lt_iff_toNat_lt.mp hab
    rw [if_pos hab, if_pos hab, min_eq_right (by omega), max_eq_left (by omega)]
  · have hle : a.toNat ≤ b.toNat := Nat.le_of_not_lt fun hlt => hab (UInt32.lt_iff_toNat_lt.mpr hlt)
    rw [if_neg hab, if_neg hab, min_eq_left (by omega), max_eq_right (by omega)]

/-- **The id.**  Whichever of the two is asked about first, `GetRelateId` finds the key of the row of
    the smaller id. -/
theorem getRelateId_eq {a b relateId : UInt32} {w w' : World} {tr : List Event}
    (ha : IsId a) (hb : IsId b) (hp : Paired w.db.imRecentContact)
    (h : Runs StepOk w (getRelateId a b) tr relateId w') :
    w' = w ∧ relateId = conversationId w.db.imRecentContact a b := by
  have hguard : ¬(a = 0 ∨ b = 0) := not_or.mpr ⟨ha.ne_zero, hb.ne_zero⟩
  have hsmall : IsId (if a > b then b else a) := by split; exacts [hb, ha]
  have hbig : IsId (if a > b then a else b) := by split; exacts [ha, hb]
  simp only [getRelateId, if_neg hguard, runs_bind, runs_issue] at h
  obtain ⟨_, answ, w₁, _, ⟨⟨t, ⟨rfl, rows, hrows, rfl⟩, rfl⟩, _⟩, hrest, _⟩ := h
  simp only [hsmall.percentD_eq, hbig.percentD_eq, ContactRow.isOf_eq, ordered_eq] at hrows
  have hone := Table.countP_unique hp.pairs (conversationPair a b)
  unfold conversationId
  rcases (hrows.of_le hone).unique hp.pairs with ⟨rfl, hnone⟩ | ⟨r, hr, hpair, rfl⟩
  · obtain ⟨-, rfl, rfl⟩ := runs_pure.mp hrest
    rw [List.find?_eq_none.mpr fun r hr => by simpa using hnone r hr]
    exact ⟨rfl, rfl⟩
  · obtain ⟨-, rfl, rfl⟩ := runs_pure.mp hrest
    rw [hp.find?_pair hr hpair]
    exact ⟨rfl, rfl⟩

/-- `GetRelateId` finds an id exactly if there are rows for the two. -/
theorem getRelateId_runs {a b relateId : UInt32} {w w' : World} {tr : List Event}
    (ha : IsId a) (hb : IsId b) (hp : Paired w.db.imRecentContact)
    (hrange : InRange w.db.imRecentContact)
    (h : Runs StepOk w (getRelateId a b) tr relateId w') :
    w' = w ∧ (relateId ≠ kInvalidID ↔
      (addParam a, addParam b) ∈ w.db.imRecentContact.map (·.pair)) := by
  obtain ⟨rfl, rfl⟩ := getRelateId_eq ha hb hp h
  rw [← ordered_mem_iff hp, ordered_eq]
  exact ⟨rfl, conversationId_ne_iff hp hrange⟩

/-- Whose row the values are for, and about whom. -/
def valuesPair (v : ContactValues) : Int × Int := (v.userId, v.friendUserId)

/-- The new rows are about the two users, and each other. -/
theorem friendshipRows_pairs (a b ctime : UInt32) :
    (friendshipRows a b ctime).map valuesPair =
      if a = b then [(addParam a, addParam b)]
      else [(addParam a, addParam b), (addParam b, addParam a)] := by
  unfold friendshipRows
  by_cases hab : a = b
  · simp [hab, valuesPair]
  · simp [hab, valuesPair]

theorem friendshipRows_status (a b ctime : UInt32) :
    ∀ s ∈ (friendshipRows a b ctime).map (·.status), s = 0 := by
  unfold friendshipRows
  by_cases hab : a = b
  · simp [hab]
  · simp [hab]

/-- The pairs of the new rows: each once, and with each the other way round. -/
theorem friendshipRows_pairs_mem (a b ctime : UInt32) (x : Int × Int) :
    x ∈ (friendshipRows a b ctime).map valuesPair ↔
      x = (addParam a, addParam b) ∨ x = (addParam b, addParam a) := by
  rw [friendshipRows_pairs]
  split
  · next hab => simp [hab]
  · simp

theorem friendshipRows_pairs_nodup (a b ctime : UInt32) :
    ((friendshipRows a b ctime).map valuesPair).Nodup := by
  rw [friendshipRows_pairs]
  split
  · exact List.nodup_singleton _
  · next hab => simp [hab]

/-- The new rows are about the two users in this order first. -/
theorem friendshipRows_head (a b ctime : UInt32) :
    ((friendshipRows a b ctime).map valuesPair).head? = some (addParam a, addParam b) := by
  rw [friendshipRows_pairs]
  split <;> rfl

/-- A key is the same after `ExecuteInsertID` and a cast as it is in the column. -/
theorem toUInt32_ofInt (k : Int) : (UInt64.ofInt k).toUInt32 = getColumn k := by
  apply UInt32.toNat_inj.mp
  rw [getColumn, UInt32.ofInt, UInt64.ofInt, UInt64.toNat_toUInt32, UInt64.toNat_ofNat',
    UInt32.toNat_ofNat']
  omega

/-- A friendship of two users that have no rows adds rows for them, and returns the key of the row of
    the smaller id. -/
theorem addFriendship_inserts {a b relateId : UInt32} {w w' : World} {tr : List Event}
    (ha : IsId a) (hb : IsId b) (hp : Paired w.db.imRecentContact)
    (hrange : InRange w.db.imRecentContact)
    (hnone : (addParam a, addParam b) ∉ w.db.imRecentContact.map (·.pair))
    (h : Runs StepOk w (addFriendship a b) tr relateId w') :
    ∃ new, w' = w.setContacts (w.db.imRecentContact ++ new) ∧
      Paired (w.db.imRecentContact ++ new) ∧ (∀ r ∈ new, r.status = 0) ∧
      (∀ x, x ∈ new.map (·.pair) ↔ x = (addParam a, addParam b) ∨ x = (addParam b, addParam a)) ∧
      relateId = conversationId (w.db.imRecentContact ++ new) a b := by
  have hguard : ¬(a = 0 ∨ b = 0) := not_or.mpr ⟨ha.ne_zero, hb.ne_zero⟩
  simp only [addFriendship, if_neg hguard, runs_bind] at h
  obtain ⟨_, found, w₁, _, hfound, hrest, _⟩ := h
  obtain ⟨rfl, hiff⟩ := getRelateId_runs ha hb hp hrange hfound
  have hinvalid : ¬found ≠ kInvalidID := fun hne => hnone (hiff.mp hne)
  simp only [if_neg hinvalid, runs_bind, runs_issue, runs_pure] at hrest
  obtain ⟨_, ctime, w₂, _, ⟨rfl, _⟩, ⟨_, id, w₃, _, ⟨⟨t, ⟨keys, hinsert, rfl⟩, rfl⟩, _⟩,
    ⟨_, rfl, rfl⟩, _⟩, _⟩ := hrest
  obtain ⟨new, rfl, hrows, hkeys⟩ := hinsert.newRows_keys fun _ _ => rfl
  have hpairs : new.map (·.pair) = _ := hrows.map_eq (show ∀ v k, _ = valuesPair v from fun _ _ => rfl)
  have hstatuses : new.map (·.status) = _ :=
    hrows.map_eq (show ∀ v k, _ = ContactValues.status v from fun _ _ => rfl)
  -- the pairs of the new rows, whichever of the two ids is the smaller
  have hmem : ∀ x, x ∈ new.map (·.pair) ↔
      x = (addParam a, addParam b) ∨ x = (addParam b, addParam a) := by
    intro x
    rw [hpairs, friendshipRows_pairs_mem]
    by_cases hab : a > b
    · simp only [hab, if_true]; exact or_comm
    · simp only [hab, if_false]
  have hnew : ∀ x ∈ new.map (·.pair), x ∉ w₂.db.imRecentContact.map (·.pair) := by
    intro x hx hx'
    rcases (hmem x).mp hx with rfl | rfl
    · exact hnone hx'
    · exact hnone (hp.swap _ hx')
  have hswap : ∀ x ∈ new.map (·.pair), x.swap ∈ new.map (·.pair) := by
    intro x hx
    rcases (hmem x).mp hx with rfl | rfl
    · exact (hmem _).mpr (Or.inr rfl)
    · exact (hmem _).mpr (Or.inl rfl)
  have hstatus : ∀ r ∈ new, r.status = 0 := by
    intro r hr
    have hr' : r.status ∈ new.map (·.status) := List.mem_map.mpr ⟨r, hr, rfl⟩
    rw [hstatuses] at hr'
    exact friendshipRows_status _ _ _ _ hr'
  have hnodup : (new.map (·.pair)).Nodup := by rw [hpairs]; exact friendshipRows_pairs_nodup _ _ _
  have hp' := hp.insert hrows hnodup hnew hswap hstatus
  refine ⟨new, rfl, hp', hstatus, hmem, ?_⟩
  -- the first of the new rows is the one of the smaller id
  have hhead : (new.map (·.pair)).head? = some (conversationPair a b) := by
    rw [hpairs, friendshipRows_head, ordered_eq]
  cases new with
  | nil => cases hhead
  | cons r rest =>
    have hpair : r.pair = conversationPair a b := Option.some.inj hhead
    rw [conversationId, hp'.find?_pair (List.mem_append_right _ List.mem_cons_self) hpair, ← hkeys]
    exact toUInt32_ofInt r.relateId

/-- A friendship of two users that have no rows adds rows for them, in the lists of both. -/
theorem addFriendship_runs {a b relateId : UInt32} {w w' : World} {tr : List Event}
    (ha : IsId a) (hb : IsId b) (hp : Paired w.db.imRecentContact)
    (hrange : InRange w.db.imRecentContact)
    (hnone : (addParam a, addParam b) ∉ w.db.imRecentContact.map (·.pair))
    (h : Runs StepOk w (addFriendship a b) tr relateId w') :
    ∃ new, w' = w.setContacts (w.db.imRecentContact ++ new) ∧
      Paired (w.db.imRecentContact ++ new) ∧ (∀ r ∈ new, r.status = 0) ∧
      (addParam a, addParam b) ∈ new.map (·.pair) ∧ (addParam b, addParam a) ∈ new.map (·.pair) := by
  obtain ⟨new, hw', hp', hstatus, hmem, -⟩ := addFriendship_inserts ha hb hp hrange hnone h
  exact ⟨new, hw', hp', hstatus, (hmem _).mpr (Or.inl rfl), (hmem _).mpr (Or.inr rfl)⟩

end ZAresRelationshipManagerImpl

/-! ## A message -/

/-- The contact of `u` with `f` is in the list of `u`: it satisfies the filter of
    `GetRecentContactByUserId`. -/
def Active (t : List ContactRow) (u f : UInt32) : Prop :=
  ∃ r ∈ t, r.pair = (addParam u, addParam f) ∧ r.status = 0

/-- `u` has removed his contact with `f`. -/
def Removed (t : List ContactRow) (u f : UInt32) : Prop :=
  ∃ r ∈ t, r.pair = (addParam u, addParam f) ∧ r.status ≠ 0

/-- What a message from `a` to `b` does to the contacts: it puts back the contact of `a`, or makes
    the contacts of both. -/
inductive Sent (a b : UInt32) (t t' : List ContactRow) : Prop
  | known : (addParam a, addParam b) ∈ t.map (·.pair) →
      t' = Table.updateAll (ContactRow.isOf (addParam a) (addParam b)) (fun r => { r with status := 0 }) t →
      Sent a b t t'
  | new {new : List ContactRow} : (addParam a, addParam b) ∉ t.map (·.pair) → t' = t ++ new →
      (∀ r ∈ new, r.status = 0) → (addParam a, addParam b) ∈ new.map (·.pair) →
      (addParam b, addParam a) ∈ new.map (·.pair) → Sent a b t t'

open ZAresRelationshipManagerImpl ZAresMessageManagerImpl

/-- After the rows are there, `SendIMMessage` stores the message under the id it has found or made. -/
theorem sendIMMessage_stores {a b k time : UInt32} {content : Bytes} {w w' : World}
    {tr : List Event} {isSucess : Bool} (hguard : ¬(a = 0 ∨ b = 0 ∨ content = []))
    (h : Runs StepOk w (sendIMMessage a b k content time) tr isSucess w') :
    ∃ (restored : Bool) (found relateId : UInt32) (w₁ w₂ w₃ : World) (tr₁ tr₂ tr₃ : List Event)
      (row : MessageRow),
      Runs StepOk w (checkAndUpdateRelation a b) tr₁ restored w₁ ∧
      Runs StepOk w₁ (getRelateId a b) tr₂ found w₂ ∧
      Runs StepOk w₂ (if found = kInvalidID then addFriendship a b else pure found) tr₃ relateId w₃ ∧
      isSucess = true ∧ w'.db.imRecentContact = w₃.db.imRecentContact ∧
      w'.db.imMessage = w₃.db.imMessage ++ [row] ∧ row.relateId = addParam relateId ∧
      Holds row a b content := by
  simp only [sendIMMessage, if_neg hguard, runs_bind, runs_issue] at h
  obtain ⟨tr₁, restored, w₁, _, hcheck, ⟨tr₂, found, w₂, _, hfound, ⟨tr₃, relateId, w₃, _, hadd,
    ⟨_, ctime, w₄, _, ⟨rfl, _⟩, ⟨_, n, w₅, _, ⟨⟨t, ⟨keys, hinsert, rfl⟩, rfl⟩, _⟩, hrest, _⟩, _⟩, _⟩, _⟩,
    _⟩ := h
  simp only [Int.one_pos, gt_iff_lt, if_true, runs_bind, runs_pure] at hrest
  obtain ⟨_, _, w₆, _, hcount, ⟨_, rfl, rfl⟩, _⟩ := hrest
  obtain rfl := incrCounterForNewMessage_runs (hcount.mono fun _ _ _ _ => StepOk.step)
  obtain ⟨hlen, -, -, rfl⟩ := hinsert
  obtain ⟨key, rfl⟩ := List.length_eq_one_iff.mp hlen
  exact ⟨restored, found, relateId, w₁, w₂, w₄, tr₁, tr₂, tr₃, _, hcheck, hfound, hadd, rfl, rfl, rfl,
    rfl, rfl, rfl, rfl⟩

/-- After the rows are there, `SendIMMessage` stores and counts, and does not come back to them. -/
theorem sendIMMessage_runs_ok {a b k time : UInt32} {content : Bytes} {w w' : World}
    {tr : List Event} {isSucess : Bool} (hguard : ¬(a = 0 ∨ b = 0 ∨ content = []))
    (h : Runs StepOk w (sendIMMessage a b k content time) tr isSucess w') :
    ∃ (restored : Bool) (found relateId : UInt32) (w₁ w₂ w₃ : World) (tr₁ tr₂ tr₃ : List Event),
      Runs StepOk w (checkAndUpdateRelation a b) tr₁ restored w₁ ∧
      Runs StepOk w₁ (getRelateId a b) tr₂ found w₂ ∧
      Runs StepOk w₂ (if found = kInvalidID then addFriendship a b else pure found) tr₃ relateId w₃ ∧
      isSucess = true ∧ w'.db.imRecentContact = w₃.db.imRecentContact := by
  obtain ⟨restored, found, relateId, w₁, w₂, w₃, tr₁, tr₂, tr₃, row, hcheck, hfound, hadd, hsucess,
    hcontacts, -⟩ := sendIMMessage_stores hguard h
  exact ⟨restored, found, relateId, w₁, w₂, w₃, tr₁, tr₂, tr₃, hcheck, hfound, hadd, hsucess, hcontacts⟩

/-- A message keeps the invariant, and does to the contacts what `Sent` says. -/
theorem sendIMMessage_sent {a b k time : UInt32} {content : Bytes} {w w' : World} {tr : List Event}
    {isSucess : Bool} (ha : IsId a) (hb : IsId b) (hp : Paired w.db.imRecentContact)
    (hrange : InRange w.db.imRecentContact)
    (h : Runs StepOk w (sendIMMessage a b k content time) tr isSucess w') :
    (isSucess = false ∧ w'.db.imRecentContact = w.db.imRecentContact) ∨
      (isSucess = true ∧ Paired w'.db.imRecentContact ∧
        Sent a b w.db.imRecentContact w'.db.imRecentContact) := by
  by_cases hguard : a = 0 ∨ b = 0 ∨ content = []
  · simp only [sendIMMessage, if_pos hguard, runs_pure] at h
    obtain ⟨-, rfl, rfl⟩ := h
    exact Or.inl ⟨rfl, rfl⟩
  obtain ⟨restored, found, relateId, w₁, w₂, w₃, tr₁, tr₂, tr₃, hcheck, hfound, hadd, rfl, hw'⟩ :=
    sendIMMessage_runs_ok hguard h
  rw [hw']
  -- the contact of `a` is back, the keys and the pairs are as they were
  have hw₁ := checkAndUpdateRelation_runs ha hb hp hrange hcheck
  have hp₁ : Paired w₁.db.imRecentContact := by rw [hw₁]; exact hp.updateStatus _ (Or.inl rfl)
  have hrange₁ : InRange w₁.db.imRecentContact := by rw [hw₁]; exact hrange.updateStatus _ _
  have hpairs : w₁.db.imRecentContact.map (·.pair) = w.db.imRecentContact.map (·.pair) := by
    rw [hw₁]; exact Table.map_updateAll (by intro r; rfl) _
  obtain ⟨rfl, hiff⟩ := getRelateId_runs ha hb hp₁ hrange₁ hfound
  rw [hpairs] at hiff
  by_cases hmem : (addParam a, addParam b) ∈ w.db.imRecentContact.map (·.pair)
  · rw [if_neg (hiff.mpr hmem)] at hadd
    obtain ⟨-, -, rfl⟩ := runs_pure.mp hadd
    exact Or.inr ⟨rfl, hp₁, .known hmem (by rw [hw₁]; rfl)⟩
  · have hinvalid : found = kInvalidID := by
      by_contra hne
      exact hmem (hiff.mp hne)
    rw [if_pos hinvalid] at hadd
    obtain ⟨new, rfl, hp₃, hstatus, hab, hba⟩ :=
      addFriendship_runs ha hb hp₁ hrange₁ (by rw [hpairs]; exact hmem) hadd
    -- with no row for the pair there was nothing to put back
    have hsame : w₂.db.imRecentContact = w.db.imRecentContact := by
      rw [hw₁, ContactRow.isOf_eq]
      refine Table.updateAll_eq_self fun r hr hpr => absurd ?_ hmem
      exact List.mem_map.mpr ⟨r, hr, of_decide_eq_true hpr⟩
    exact Or.inr ⟨rfl, hp₃, .new hmem (by rw [← hsame]; rfl) hstatus hab hba⟩

/-- **Who is put back.**  After a message between two different users the contacts of both are in
    their lists if and only if the recipient had not removed his. -/
theorem Sent.active_iff {a b : UInt32} {t t' : List ContactRow} (hab : a ≠ b) (hp : Paired t)
    (h : Sent a b t t') : Active t' a b ∧ Active t' b a ↔ ¬Removed t b a := by
  have hne : (addParam b, addParam a) ≠ (addParam a, addParam b) := by
    intro heq
    exact hab (addParam_inj.mp (Prod.mk.inj heq).2)
  cases h with
  | known hmem ht' =>
    subst ht'
    obtain ⟨r₁, hr₁, hpair₁⟩ := List.mem_map.mp hmem
    obtain ⟨r₂, hr₂, hpair₂⟩ := List.mem_map.mp (hp.swap _ hmem)
    -- the row of `b` is the only one of its pair, and the update does not match it
    have hunique : ∀ r ∈ t, r.pair = (addParam b, addParam a) → r = r₂ := fun r hr hpair =>
      List.inj_on_of_nodup_map hp.pairs hr hr₂ (hpair.trans hpair₂.symm)
    rw [ContactRow.isOf_eq]
    constructor
    · rintro ⟨-, r', hr', hpair', hstatus'⟩ ⟨r, hr, hpair, hstatus⟩
      obtain ⟨r'', hr'', rfl⟩ := Table.mem_updateAll.mp hr'
      obtain rfl := hunique r hr hpair
      by_cases hmatch : r''.pair = (addParam a, addParam b)
      · rw [if_pos (decide_eq_true hmatch)] at hpair'
        exact hne (hpair'.symm.trans hmatch)
      · rw [if_neg (by simpa using hmatch)] at hpair' hstatus'
        rw [hunique r'' hr'' hpair'] at hstatus'
        exact hstatus hstatus'
    · intro hactive
      have h₂ : r₂.status = 0 := by
        by_contra hstatus
        exact hactive ⟨r₂, hr₂, hpair₂, hstatus⟩
      refine ⟨⟨{ r₁ with status := 0 }, Table.mem_updateAll.mpr ⟨r₁, hr₁, ?_⟩, hpair₁, rfl⟩,
        ⟨r₂, Table.mem_updateAll.mpr ⟨r₂, hr₂, ?_⟩, hpair₂, h₂⟩⟩
      · rw [if_pos (decide_eq_true hpair₁)]
      · have hother : r₂.pair ≠ (addParam a, addParam b) := fun heq => hne (hpair₂.symm.trans heq)
        rw [if_neg (by simpa using hother)]
  | new hmem ht' hstatus h₁ h₂ =>
    subst ht'
    obtain ⟨r₁, hr₁, hpair₁⟩ := List.mem_map.mp h₁
    obtain ⟨r₂, hr₂, hpair₂⟩ := List.mem_map.mp h₂
    refine iff_of_true ⟨⟨r₁, List.mem_append_right _ hr₁, hpair₁, hstatus r₁ hr₁⟩,
      ⟨r₂, List.mem_append_right _ hr₂, hpair₂, hstatus r₂ hr₂⟩⟩ ?_
    rintro ⟨r, hr, hpair, -⟩
    exact hmem (hp.swap _ (List.mem_map.mpr ⟨r, hr, hpair⟩))

/-! ## Runs -/

/-- A call that concerns the contacts. -/
inductive ContactCall
  | sendIMMessage (fromUserId toUserId type : UInt32) (content : Bytes) (time : UInt32)
      (isSucess : Bool)
  | removeSession (reqUserId sessionId : UInt32)

/-- One call with ids in range, every statement of which succeeds, and after which the keys are in
    range.  A request to remove a session runs its handler, and its session type is 1. -/
inductive ContactStep : World → ContactCall → World → Prop
  | sendIMMessage {w w' : World} {a b k time : UInt32} {content : Bytes} {isSucess : Bool}
      {tr : List Event} : IsId a → IsId b → InRange w'.db.imRecentContact →
      Runs StepOk w (sendIMMessage a b k content time) tr isSucess w' →
      ContactStep w (.sendIMMessage a b k content time isSucess) w'
  | removeSession {w w' : World} {mem : Memory} {sessionId : UInt64}
      {request : Pdu RemoveSessionRequest} {tr : List Event} : IsId request.body.reqUserId →
      IsId request.body.sessionId → request.body.sessionType = 1 → InRange w'.db.imRecentContact →
      Runs StepOk w (removeSessionRequestHandler zAresModelModule mem sessionId request) tr () w' →
      ContactStep w (.removeSession request.body.reqUserId request.body.sessionId) w'

/-- A removal leaves the contacts as they are, or marks the contact of `u` with `f`. -/
theorem deleteRecentContactByUserId_runs {u f : UInt32} {w w' : World} {tr : List Event}
    {result : Bool} (hp : Paired w.db.imRecentContact) (hu : IsId u) (hf : IsId f)
    (h : Runs StepOk w (deleteRecentContactByUserId u f) tr result w') :
    w' = w.setContacts (Table.updateAll (ContactRow.isOf (addParam u) (addParam f))
      (fun r => { r with status := 1 }) w.db.imRecentContact) := by
  simp only [deleteRecentContactByUserId, runs_bind, runs_issue, runs_pure] at h
  obtain ⟨_, n, w₁, _, ⟨⟨t, ⟨_, hupdate, _⟩, rfl⟩, _⟩, ⟨_, _, rfl⟩, _⟩ := h
  rw [hu.percentD_eq, hf.percentD_eq, ContactRow.isOf_eq] at hupdate
  rw [ContactRow.isOf_eq]
  obtain ⟨rfl, -⟩ := hupdate.all (Table.countP_unique hp.pairs _)
  rfl

theorem removeSessionRequestHandler_paired {mem : Memory} {sessionId : UInt64}
    {request : Pdu RemoveSessionRequest} {w w' : World} {tr : List Event}
    (hp : Paired w.db.imRecentContact) (hu : IsId request.body.reqUserId)
    (hf : IsId request.body.sessionId) (htype : request.body.sessionType = 1)
    (h : Runs StepOk w (removeSessionRequestHandler zAresModelModule mem sessionId request) tr () w') :
    Paired w'.db.imRecentContact := by
  simp only [removeSessionRequestHandler, runs_bind] at h
  obtain ⟨_, result, w₁, _, hremove, hsend, _⟩ := h
  obtain ⟨rfl, -⟩ := sendSessionData_runs (hsend.mono fun _ _ _ _ => StepOk.step)
  unfold removeSession at hremove
  split at hremove
  · -- the data are taken for invalid
    obtain ⟨-, -, rfl⟩ := runs_pure.mp hremove
    exact hp
  · rw [deleteRecentContactByUserId_runs hp hu hf hremove]
    exact hp.updateStatus _ (Or.inr rfl)

/-- The invariant, with the keys in range. -/
theorem ContactStep.paired {w w' : World} {call : ContactCall} (h : ContactStep w call w')
    (hp : Paired w.db.imRecentContact ∧ InRange w.db.imRecentContact) :
    Paired w'.db.imRecentContact ∧ InRange w'.db.imRecentContact := by
  cases h with
  | sendIMMessage ha hb hrange hrun =>
    rcases sendIMMessage_sent ha hb hp.1 hp.2 hrun with ⟨-, hsame⟩ | ⟨-, hp', -⟩
    · exact ⟨hsame ▸ hp.1, hrange⟩
    · exact ⟨hp', hrange⟩
  | removeSession hu hf htype hrange hrun =>
    exact ⟨removeSessionRequestHandler_paired hp.1 hu hf htype hrun, hrange⟩

/-- Every state of a run that starts without contacts satisfies the invariant. -/
theorem run_paired {w₀ w : World} {calls : List ContactCall} (h₀ : w₀.db.imRecentContact = [])
    (hrun : Run ContactStep w₀ calls w) :
    Paired w.db.imRecentContact ∧ InRange w.db.imRecentContact := by
  refine hrun.invariant (fun w => Paired w.db.imRecentContact ∧ InRange w.db.imRecentContact)
    (fun _ _ _ hp hstep => hstep.paired hp) ?_
  rw [h₀]
  exact ⟨paired_nil, by simp [InRange]⟩

/-- What a successful message of a run does to the contacts. -/
theorem run_sent {w₀ w w' : World} {calls : List ContactCall} {a b k time : UInt32} {content : Bytes}
    (h₀ : w₀.db.imRecentContact = []) (hrun : Run ContactStep w₀ calls w)
    (hsend : ContactStep w (.sendIMMessage a b k content time true) w') :
    Paired w.db.imRecentContact ∧ Sent a b w.db.imRecentContact w'.db.imRecentContact := by
  obtain ⟨hp, hrange⟩ := run_paired h₀ hrun
  cases hsend with
  | sendIMMessage ha hb _ hrun' =>
    rcases sendIMMessage_sent ha hb hp hrange hrun' with ⟨hfalse, -⟩ | ⟨-, -, hsent⟩
    · cases hfalse
    · exact ⟨hp, hsent⟩

/-- **Contacts follow the conversation of those who stay in it.**  In every run from a database
    without contacts, a successful message leaves each of its two users in the other's list if and
    only if the recipient had not removed the sender from his. -/
theorem active_after_send_iff {w₀ w w' : World} {calls : List ContactCall} {a b k time : UInt32}
    {content : Bytes} (h₀ : w₀.db.imRecentContact = []) (hrun : Run ContactStep w₀ calls w)
    (hab : a ≠ b) (hsend : ContactStep w (.sendIMMessage a b k content time true) w') :
    Active w'.db.imRecentContact a b ∧ Active w'.db.imRecentContact b a ↔
      ¬Removed w.db.imRecentContact b a := by
  obtain ⟨hp, hsent⟩ := run_sent h₀ hrun hsend
  exact hsent.active_iff hab hp

/-! ## The recipient who had removed the sender -/

/-- 1 writes to 2. -/
def greet (w : World) : World := ((sendIMMessage 1 2 1 [104, 105] 0).play w).2.2

/-- 2 asks to remove 1 from his contacts. -/
def removeRequest : Pdu RemoveSessionRequest where
  attachData := []
  reserved := 0
  body := { reqUserId := 2, sessionId := 1, sessionType := 1 }

def removeSender (w : World) : World :=
  ((removeSessionRequestHandler zAresModelModule default 1 removeRequest).play w).2.2

theorem greet_step {w : World} (hrange : InRange (greet w).db.imRecentContact) :
    ContactStep w (.sendIMMessage 1 2 1 [104, 105] 0 true) (greet w) := by
  have hrun := Prog.play_runs (sendIMMessage 1 2 1 [104, 105] 0) w
  obtain ⟨_, _, _, _, _, _, _, _, _, _, _, _, hsucess, _⟩ := sendIMMessage_runs_ok (by decide) hrun
  rw [hsucess] at hrun
  exact .sendIMMessage ⟨by decide, by decide⟩ ⟨by decide, by decide⟩ hrange hrun

theorem removeSender_step {w : World} (hrange : InRange (removeSender w).db.imRecentContact) :
    ContactStep w (.removeSession removeRequest.body.reqUserId removeRequest.body.sessionId)
      (removeSender w) :=
  .removeSession ⟨by decide, by decide⟩ ⟨by decide, by decide⟩ rfl hrange (Prog.play_runs _ w)

/-- 1 writes to 2, and 2 removes 1. -/
theorem removed_run : ∃ calls, Run ContactStep emptyWorld calls (removeSender (greet emptyWorld)) :=
  ⟨_, .snoc (.one (greet_step (by unfold InRange; decide))) (removeSender_step (by unfold InRange; decide))⟩

theorem active_after_send_emptyWorld :
    Active (greet emptyWorld).db.imRecentContact 1 2 ∧ Active (greet emptyWorld).db.imRecentContact 2 1 ↔
      ¬Removed emptyWorld.db.imRecentContact 2 1 :=
  active_after_send_iff rfl .nil (by decide) (greet_step (by unfold InRange; decide))

/-- After 2 has removed 1, what 1 writes does not bring 1 back into the list of 2. -/
theorem not_forall_active_after_send :
    ¬∀ (w₀ w w' : World) (calls : List ContactCall) (a b k time : UInt32) (content : Bytes),
      w₀.db.imRecentContact = [] → Run ContactStep w₀ calls w → a ≠ b →
      ContactStep w (.sendIMMessage a b k content time true) w' →
      Active w'.db.imRecentContact a b ∧ Active w'.db.imRecentContact b a := by
  intro h
  obtain ⟨calls, hrun⟩ := removed_run
  have hsend := greet_step (w := removeSender (greet emptyWorld)) (by unfold InRange; decide)
  have hactive := h _ _ _ calls 1 2 1 0 [104, 105] rfl hrun (by decide) hsend
  obtain ⟨hp, hsent⟩ := run_sent rfl hrun hsend
  exact (hsent.active_iff (by decide) hp).mp hactive (by unfold Removed; decide)

end Zattd
