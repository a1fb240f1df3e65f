/-
  Where `SendIMMessage` puts a message: inside the conversation of its two users, or nowhere.

  The id under which the message is stored comes from a lookup, or from a second lookup inside
  `AddFriendship`, or from the INSERT there.  A lookup that fails looks like one that has found
  nothing; a failed INSERT answers 0 or -1, which the cast to `uint32` turns into 0 or into
  `kInvalidID`, and NOBODY looks at it again: the message is stored under that id.

  Whatever fails, what decides is the answers of the INSERTs and the keys of the rows there were.
-/
import Zattd.Correct.Conversations
import Zattd.Correct.Rendering

set_option linter.unusedVariables false

namespace Zattd

open Prog ZAresRelationshipManagerImpl ZAresMessageManagerImpl

/-! ## The INSERTs of a call -/

/-- An INSERT on the contacts or on the messages, with its answer. -/
inductive InsertAnswer
  | contacts (id : UInt64)
  | message (n : Int)

def Event.insertAnswer : Event → Option InsertAnswer
  | ⟨.contact (.insertContacts _), id⟩ => some (.contacts id)
  | ⟨.message (.insertMessage _), n⟩ => some (.message n)
  | _ => none

/-- The INSERTs of a run, in order. -/
def insertAnswers (tr : List Event) : List InsertAnswer := tr.filterMap Event.insertAnswer

@[simp] theorem insertAnswers_append (tr tr' : List Event) :
    insertAnswers (tr ++ tr') = insertAnswers tr ++ insertAnswers tr' := List.filterMap_append

/-! ## The property -/

/-- The query of `GetMessages` has a condition that the row satisfies. -/
def Event.selects (row : MessageRow) : Event → Bool
  | ⟨.message (.selectMessages relateId fromUserId toUserId _ _), _⟩ =>
      MessageStmt.isFrom relateId fromUserId toUserId row
  | _ => false

/-- `GetMessages` for the pair selects the row: if its statements succeed, it comes to a query that
    the row satisfies. -/
def Selected (w : World) (f t : UInt32) (row : MessageRow) : Prop :=
  ∀ offset count messages tr out w', Runs StepOk w (getMessages f t offset count messages) tr out w' →
    tr.any (Event.selects row) = true

/-- The message is stored, in one row, inside the conversation of its users. -/
structure StoredInside (f t : UInt32) (content : Bytes) (w w' : World) (row : MessageRow) : Prop where
  stored : w'.db.imMessage = w.db.imMessage ++ [row]
  holds : Holds row f t content
  inside : ∃ r ∈ w'.db.imRecentContact, r.pair = conversationPair f t ∧ row.relateId = r.relateId
  selected : Selected w' f t row

/-- No message is stored outside its conversation. -/
structure KeptInside (f t : UInt32) (content : Bytes) (w : World) (isSucess : Bool) (w' : World) :
    Prop where
  sent : isSucess = true → ∃ row, StoredInside f t content w w' row
  refused : (∀ r ∈ w'.db.imRecentContact, r.pair ≠ conversationPair f t) →
    isSucess = false ∧ w'.db.imMessage = w.db.imMessage

/-! ## The condition -/

/-- The keys of the rows of a pair. -/
def pairKeys (t : List ContactRow) (x : Int × Int) : List Int :=
  (t.filter fun r => decide (r.pair = x)).map (·.relateId)

/-- All these keys are read back as `v`, which is below 2^31. -/
def ReadAs (keys : List Int) (v : UInt32) : Prop := v.toNat < 2 ^ 31 ∧ ∀ k ∈ keys, getColumn k = v

/-- The answers of the INSERTs, and the keys that the pair has: the message's INSERT fails, or one of

    * no contacts are inserted, and the keys of the pair are one id;
    * contacts are inserted under a key that is such an id, and agrees with the keys there were. -/
def Placed (f t : UInt32) (keys : List Int) : List InsertAnswer → Prop
  | [.message n] => 0 < n → (f.toNat < 2 ^ 31 ∧ t.toNat < 2 ^ 31) ∧
      ∃ v, ReadAs keys v ∧ addParam v ∈ keys
  | [.contacts id, .message n] => 0 < n → (f.toNat < 2 ^ 31 ∧ t.toNat < 2 ^ 31) ∧
      ReadAs keys id.toUInt32 ∧ (0 < id.toNat ∧ id.toNat < 2 ^ 32 ∨ addParam id.toUInt32 ∈ keys)
  | _ => True

/-- The call establishes the conversation of the two, or stores nothing. -/
def Establishes (f t : UInt32) (w : World) (tr : List Event) : Prop :=
  Placed f t (pairKeys w.db.imRecentContact (conversationPair f t)) (insertAnswers tr)

/-! ## Keys -/

theorem mem_pairKeys {t : List ContactRow} {x : Int × Int} {k : Int} :
    k ∈ pairKeys t x ↔ ∃ r ∈ t, r.pair = x ∧ r.relateId = k := by
  simp only [pairKeys, List.mem_map, List.mem_filter, decide_eq_true_eq, and_assoc]

theorem pairKeys_append (t new : List ContactRow) (x : Int × Int) :
    pairKeys (t ++ new) x = pairKeys t x ++ pairKeys new x := by
  rw [pairKeys, List.filter_append, List.map_append]
  rfl

/-- The keys of a pair depend on what no update changes. -/
theorem pairKeys_congr {t t' : List ContactRow} (h : t'.map ContactRow.ident = t.map ContactRow.ident)
    (x : Int × Int) : pairKeys t' x = pairKeys t x := by
  have hkeys : ∀ t : List ContactRow, pairKeys t x =
      ((t.map ContactRow.ident).filter fun i => decide (i.1 = x)).map Prod.snd := by
    intro t
    rw [List.filter_map, List.map_map]
    rfl
  rw [hkeys, hkeys, h]

/-- No row, no key. -/
theorem pairKeys_eq_nil {t : List ContactRow} {x : Int × Int} (h : ∀ r ∈ t, r.pair ≠ x) :
    pairKeys t x = [] := by
  rw [pairKeys, List.filter_eq_nil_iff.mpr fun r hr => by simpa using h r hr]
  rfl

/-- A printed id is a bound one exactly if they are the same id, on the lower half. -/
theorem percentD_eq_iff {u v : UInt32} : percentD u = addParam v ↔ u = v ∧ v.toNat < 2 ^ 31 := by
  constructor
  · intro heq
    have hsame := congrArg getColumn heq
    rw [getColumn_percentD, getColumn_addParam] at hsame
    subst hsame
    exact ⟨rfl, (percentD_eq_addParam_iff u).mp heq⟩
  · rintro ⟨rfl, hlt⟩
    exact percentD_eq hlt

/-! ## The key of a call -/

/-- What the answers of the statements make of the keys of a pair and of the id that is returned:
    it is the key of a row found, the key of the row inserted, or what a failed INSERT answers. -/
inductive Obtained (found keys : List Int) : List InsertAnswer → UInt32 → List Int → Prop
  | found {k : Int} : k ∈ found → Obtained found keys [] (getColumn k) keys
  | added {k : Int} : 0 < k →
      Obtained found keys [.contacts (UInt64.ofInt k)] (UInt64.ofInt k).toUInt32 (keys ++ [k])
  | failed {id : UInt64} : InsertIdFails id →
      Obtained found keys [.contacts id] id.toUInt32 keys

namespace ZAresRelationshipManagerImpl

/-- Whatever its statements answer, the re-activation keeps whose the rows are, and their keys. -/
theorem checkAndUpdateRelation_keeps {a b : UInt32} {w w' : World} {tr : List Event} {result : Bool}
    (h : Runs Step w (checkAndUpdateRelation a b) tr result w') : insertAnswers tr = [] ∧
      w'.db.imRecentContact.map ContactRow.ident = w.db.imRecentContact.map ContactRow.ident := by
  by_cases hguard : a = 0 ∨ b = 0
  · simp only [checkAndUpdateRelation, if_pos hguard, runs_pure] at h
    obtain ⟨rfl, -, rfl⟩ := h
    exact ⟨rfl, rfl⟩
  simp only [checkAndUpdateRelation, if_neg hguard, runs_bind, runs_issue, runs_optional,
    runs_pure] at h
  obtain ⟨_, answ, w₁, _, ⟨hquery, rfl⟩, hrest, rfl⟩ := h
  obtain rfl : w₁ = w := by
    rcases hquery with ⟨t, ⟨rfl, -⟩, rfl⟩ | ⟨-, rfl⟩
    · rfl
    · rfl
  rcases hrest with ⟨-, rfl, -, rfl⟩ | ⟨-, _, n, w₂, _, ⟨hupdate, rfl⟩, ⟨rfl, -, rfl⟩, rfl⟩
  · exact ⟨rfl, rfl⟩
  · refine ⟨rfl, ?_⟩
    rcases hupdate with ⟨t, ⟨_, ⟨_, htouch, _⟩, _⟩, rfl⟩ | ⟨-, rfl⟩
    · exact htouch.map_eq (by intro r; rfl)
    · rfl

/-- Whatever its statement answers, `GetRelateId` changes nothing, and an id it answers is the key of
    a row of the pair it asks for. -/
theorem getRelateId_answers {a b relateId : UInt32} {w w' : World} {tr : List Event}
    (h : Runs Step w (getRelateId a b) tr relateId w') : w' = w ∧ insertAnswers tr = [] ∧
      (relateId ≠ kInvalidID →
        ∃ k ∈ pairKeys w.db.imRecentContact (asked a b), relateId = getColumn k) := by
  by_cases hguard : a = 0 ∨ b = 0
  · simp only [getRelateId, if_pos hguard, runs_pure] at h
    obtain ⟨rfl, rfl, rfl⟩ := h
    exact ⟨rfl, rfl, fun hne => absurd rfl hne⟩
  simp only [getRelateId, if_neg hguard, runs_bind, runs_issue] at h
  obtain ⟨_, answ, w₁, _, ⟨hquery, rfl⟩, hrest, rfl⟩ := h
  rcases hquery with ⟨t, ⟨rfl, rows, hrows, rfl⟩, rfl⟩ | ⟨rfl, rfl⟩
  · rw [ContactRow.isOf_eq] at hrows
    cases rows with
    | nil =>
      obtain ⟨rfl, rfl, rfl⟩ := runs_pure.mp hrest
      exact ⟨rfl, rfl, fun hne => absurd rfl hne⟩
    | cons r rows =>
      obtain ⟨rfl, rfl, rfl⟩ := runs_pure.mp hrest
      obtain ⟨hr, hpair⟩ := hrows.mem List.mem_cons_self
      exact ⟨rfl, rfl, fun _ => ⟨_, mem_pairKeys.mpr ⟨r, hr, of_decide_eq_true hpair, rfl⟩, rfl⟩⟩
  · obtain ⟨rfl, rfl, rfl⟩ := runs_pure.mp hrest
    exact ⟨rfl, rfl, fun hne => absurd rfl hne⟩

/-- The new rows have one of the pair, the smaller id first, and it comes first. -/
theorem pairKeys_friendshipRows {a b ctime : UInt32} {t new : List ContactRow} {keys : List Int}
    (hrows : Table.NewRows (·.relateId) ContactValues.row
      (friendshipRows (if a > b then b else a) (if a > b then a else b) ctime) t new)
    (hkeys : new.map (·.relateId) = keys) :
    ∃ k, 0 < k ∧ keys.headD 0 = k ∧ pairKeys new (conversationPair a b) = [k] := by
  have hpairs : new.map (·.pair) = _ := hrows.map_eq (show ∀ v k, _ = valuesPair v from fun _ _ => rfl)
  have hnodup : (new.map (·.pair)).Nodup := by rw [hpairs]; exact friendshipRows_pairs_nodup _ _ _
  have hhead : (new.map (·.pair)).head? = some (conversationPair a b) := by
    rw [hpairs, friendshipRows_head, ordered_eq]
  cases new with
  | nil => cases hhead
  | cons r rest =>
    have hpair : r.pair = conversationPair a b := Option.some.inj hhead
    have hrest : ∀ r' ∈ rest, r'.pair ≠ conversationPair a b := by
      intro r' hr' hpair'
      exact (List.nodup_cons.mp hnodup).1 (List.mem_map.mpr ⟨r', hr', hpair'.trans hpair.symm⟩)
    refine ⟨r.relateId, (hrows.fresh r List.mem_cons_self).1, by rw [← hkeys]; rfl, ?_⟩
    have hcons : pairKeys (r :: rest) (conversationPair a b) =
        pairKeys [r] (conversationPair a b) ++ pairKeys rest (conversationPair a b) :=
      pairKeys_append [r] rest _
    rw [hcons, pairKeys_eq_nil hrest]
    simp [pairKeys, hpair]

/-- Whatever its statements answer, `AddFriendship` returns an id that it has found, the key of a row
    that it has inserted, or what its INSERT has failed with. -/
theorem addFriendship_obtains {a b relateId : UInt32} {w w' : World} {tr : List Event} (ha : a ≠ 0)
    (hb : b ≠ 0) (h : Runs Step w (addFriendship a b) tr relateId w') :
    Obtained (pairKeys w.db.imRecentContact (asked a b))
      (pairKeys w.db.imRecentContact (conversationPair a b)) (insertAnswers tr) relateId
      (pairKeys w'.db.imRecentContact (conversationPair a b)) := by
  have hguard : ¬(a = 0 ∨ b = 0) := not_or.mpr ⟨ha, hb⟩
  simp only [addFriendship, if_neg hguard, runs_bind] at h
  obtain ⟨_, found, w₁, _, hfound, hrest, rfl⟩ := h
  obtain ⟨rfl, htr, hkey⟩ := getRelateId_answers hfound
  rw [insertAnswers_append, htr, List.nil_append]
  by_cases hvalid : found ≠ kInvalidID
  · rw [if_pos hvalid] at hrest
    obtain ⟨rfl, rfl, rfl⟩ := runs_pure.mp hrest
    obtain ⟨k, hk, rfl⟩ := hkey hvalid
    exact .found hk
  simp only [if_neg hvalid, runs_bind, runs_issue, runs_pure] at hrest
  obtain ⟨_, ctime, w₂, _, ⟨hclock, rfl⟩, ⟨_, id, w₃, _, ⟨hinsert, rfl⟩, ⟨rfl, rfl, rfl⟩, rfl⟩,
    rfl⟩ := hrest
  obtain rfl : w₂ = w₁ := hclock.resolve_right fun h => h
  rcases hinsert with ⟨t, ⟨keys, hkeys, rfl⟩, rfl⟩ | ⟨hfail, rfl⟩
  · obtain ⟨new, rfl, hrows, hnew⟩ := hkeys.newRows_keys fun _ _ => rfl
    obtain ⟨k, hpos, rfl, hpair⟩ := pairKeys_friendshipRows hrows hnew
    show Obtained _ _ _ _ (pairKeys (w₂.db.imRecentContact ++ new) _)
    rw [pairKeys_append, hpair]
    exact .added hpos
  · exact .failed hfail

end ZAresRelationshipManagerImpl

section Obtained

variable {keys keys' : List Int} {v : UInt32} {answers : List InsertAnswer}

/-- **The condition is the exact one.**  The id is a key of the pair that every lookup reads back
    exactly if the answers say so. -/
theorem Obtained.inside_iff {f t : UInt32} {n : Int} (h : Obtained keys keys answers v keys')
    (hfit : ∀ k ∈ keys', k < 2 ^ 64) (hn : 0 < n) (hf : f.toNat < 2 ^ 31) (ht : t.toNat < 2 ^ 31) :
    ReadAs keys' v ∧ addParam v ∈ keys' ↔ Placed f t keys (answers ++ [.message n]) := by
  cases h with
  | @found k hk =>
    constructor
    · intro hinside _
      exact ⟨⟨hf, ht⟩, _, hinside⟩
    · intro hplaced
      obtain ⟨-, v, hread, hmem⟩ := hplaced hn
      rw [hread.2 k hk]
      exact ⟨hread, hmem⟩
  | @added k hpos =>
    have hread : ReadAs (keys ++ [k]) (UInt64.ofInt k).toUInt32 ↔
        ReadAs keys (UInt64.ofInt k).toUInt32 := by
      unfold ReadAs
      refine and_congr_right fun _ => ⟨fun hall k' hk' => hall k' (List.mem_append_left _ hk'), ?_⟩
      intro hall k' hk'
      rcases List.mem_append.mp hk' with hk' | hk'
      · exact hall k' hk'
      · obtain rfl := List.mem_singleton.mp hk'
        exact (toUInt32_ofInt k').symm
    -- the new key is the id exactly if it has 32 bits
    have hlt := hfit k (List.mem_append_right _ (List.mem_singleton_self k))
    have hid : (UInt64.ofInt k).toNat = k.toNat := by
      rw [UInt64.ofInt, UInt64.toNat_ofNat']
      omega
    have hexact : addParam (UInt64.ofInt k).toUInt32 = k ↔
        0 < (UInt64.ofInt k).toNat ∧ (UInt64.ofInt k).toNat < 2 ^ 32 := by
      rw [addParam, UInt64.toNat_toUInt32, hid]
      omega
    rw [hread, List.mem_append, List.mem_singleton, hexact, or_comm]
    constructor
    · intro hinside _
      exact ⟨⟨hf, ht⟩, hinside⟩
    · intro hplaced
      exact (hplaced hn).2
  | @failed id hfail =>
    have hnone : ¬(0 < id.toNat ∧ id.toNat < 2 ^ 32) := by
      rcases hfail with rfl | rfl
      · decide
      · decide
    constructor
    · rintro ⟨hread, hmem⟩ _
      exact ⟨⟨hf, ht⟩, hread, Or.inr hmem⟩
    · intro hplaced
      obtain ⟨-, hread, hmem⟩ := hplaced hn
      exact ⟨hread, hmem.resolve_left hnone⟩

/-- If a message is stored, the ids are on the lower half. -/
theorem Obtained.small {f t : UInt32} {found : List Int} {n : Int}
    (h : Obtained found keys answers v keys') (hn : 0 < n)
    (hplaced : Placed f t keys (answers ++ [.message n])) : f.toNat < 2 ^ 31 ∧ t.toNat < 2 ^ 31 := by
  cases h with
  | found _ => exact (hplaced hn).1
  | added _ => exact (hplaced hn).1
  | failed _ => exact (hplaced hn).1

/-- If no message is stored, there is nothing to establish. -/
theorem Obtained.placed_of_le {f t : UInt32} {found : List Int} {n : Int}
    (h : Obtained found keys answers v keys') (hn : n ≤ 0) :
    Placed f t keys (answers ++ [.message n]) := by
  cases h with
  | found _ => exact fun hpos => absurd hpos hn.not_gt
  | added _ => exact fun hpos => absurd hpos hn.not_gt
  | failed _ => exact fun hpos => absurd hpos hn.not_gt

end Obtained

/-! ## Reading back -/

namespace ZAresMessageManagerImpl

/-- The lookup may find any row of the pair it asks for, and none if there is none. -/
theorem exists_getRelateId {f t found : UInt32} {w : World} (hf : f ≠ 0) (ht : t ≠ 0)
    (hfound : found ∈ (pairKeys w.db.imRecentContact (asked f t)).map getColumn ∨
      pairKeys w.db.imRecentContact (asked f t) = [] ∧ found = kInvalidID) :
    ∃ tr, Runs StepOk w (getRelateId f t) tr found w ∧ ∀ row, tr.any (Event.selects row) = false := by
  have hguard : ¬(f = 0 ∨ t = 0) := not_or.mpr ⟨hf, ht⟩
  simp only [getRelateId, if_neg hguard]
  rcases hfound with hfound | ⟨hnone, rfl⟩
  · obtain ⟨k, hk, rfl⟩ := List.mem_map.mp hfound
    obtain ⟨r, hr, hpair, rfl⟩ := mem_pairKeys.mp hk
    have hmatch : ContactRow.isOf (asked f t).1 (asked f t).2 r = true := by
      rw [ContactRow.isOf_eq]
      exact decide_eq_true hpair
    -- without an ORDER BY every row may be the first
    obtain ⟨rows, hrows, hmem⟩ : ∃ rows, Table.SelectsLimit
        (ContactRow.isOf (asked f t).1 (asked f t).2) (fun _ => ()) 0 1 w.db.imRecentContact rows ∧
        r ∈ rows := Table.exists_selectsLimit hr hmatch (by simp)
    obtain ⟨r', rfl⟩ := List.length_eq_one_iff.mp
      (le_antisymm hrows.length_le_limit (List.length_pos_of_mem hmem))
    obtain rfl := List.mem_singleton.mp hmem
    exact ⟨_, .call ⟨_, ⟨rfl, _, hrows, rfl⟩, rfl⟩ (.ret _ _), fun row => rfl⟩
  · have hempty : w.db.imRecentContact.filter (ContactRow.isOf (asked f t).1 (asked f t).2) = [] := by
      rw [ContactRow.isOf_eq]
      exact List.map_eq_nil_iff.mp hnone
    have hrows : Table.SelectsLimit (ContactRow.isOf (asked f t).1 (asked f t).2) (fun _ => ()) 0 1
        w.db.imRecentContact [] := ⟨[], ⟨hempty ▸ .nil, .nil⟩, rfl⟩
    exact ⟨_, .call ⟨_, ⟨rfl, _, hrows, rfl⟩, rfl⟩ (.ret _ _), fun row => rfl⟩

/-- After the lookup, `GetMessages` asks for the messages under the id found, if one was. -/
theorem exists_getMessages {f t found : UInt32} {w : World} {tr : List Event}
    (hrun : Runs StepOk w (getRelateId f t) tr found w) : ∃ tr' out,
      Runs StepOk w (getMessages f t 0 0 []) (tr ++ tr') out w ∧ ∀ row,
        tr'.any (Event.selects row) =
          (decide (found ≠ kInvalidID) && MessageStmt.isFrom (percentD found) (percentD f) (percentD t) row) := by
  unfold getMessages
  by_cases hinvalid : found = kInvalidID
  · subst hinvalid
    exact ⟨[], _, runs_bind.mpr ⟨_, _, _, _, hrun, .ret _ _, rfl⟩, fun row => rfl⟩
  · let query : Cmd :=
      .message (.selectMessages (percentD found) (percentD f) (percentD t) (percentD 0) 0)
    have hquery : StepOk w query (respond w query).1 w := respond_ok w query
    refine ⟨[⟨query, (respond w query).1⟩], (0, []), runs_bind.mpr ⟨_, _, _, _, hrun, ?_, rfl⟩, ?_⟩
    · rw [if_neg hinvalid]
      exact .call hquery (.ret _ _)
    · intro row
      simp [hinvalid, query, Event.selects]

/-- A row under the id `v`, as `SendIMMessage` makes it, is selected exactly if all keys that the
    lookup may find are read back as `v`, there is one, and the ids are on the lower half. -/
theorem selected_iff {f t v : UInt32} {w : World} (row : MessageRow) (hf : f ≠ 0) (ht : t ≠ 0)
    (hrelate : row.relateId = addParam v) (hfrom : row.fromUserId = addParam f)
    (hto : row.toUserId = addParam t) (hstatus : row.status = 0) :
    Selected w f t row ↔ (f.toNat < 2 ^ 31 ∧ t.toNat < 2 ^ 31) ∧
      pairKeys w.db.imRecentContact (asked f t) ≠ [] ∧
      ReadAs (pairKeys w.db.imRecentContact (asked f t)) v := by
  have hguard : ¬(f = 0 ∨ t = 0) := not_or.mpr ⟨hf, ht⟩
  -- the condition of the query under the id that was found
  have hquery : ∀ found : UInt32,
      MessageStmt.isFrom (percentD found) (percentD f) (percentD t) row = true ↔
        (found = v ∧ v.toNat < 2 ^ 31) ∧ f.toNat < 2 ^ 31 ∧ t.toNat < 2 ^ 31 := by
    intro found
    rw [MessageStmt.isFrom, decide_eq_true_iff, hrelate, hfrom, hto, eq_comm, percentD_eq_iff,
      @eq_comm _ (addParam f), @eq_comm _ (addParam t), percentD_eq_addParam_iff,
      percentD_eq_addParam_iff]
    simp [hstatus]
  constructor
  · intro hselected
    -- every run of the lookup leads to a query that the row satisfies
    have hfound : ∀ found, (found ∈ (pairKeys w.db.imRecentContact (asked f t)).map getColumn ∨
        pairKeys w.db.imRecentContact (asked f t) = [] ∧ found = kInvalidID) →
        found ≠ kInvalidID ∧ (found = v ∧ v.toNat < 2 ^ 31) ∧ f.toNat < 2 ^ 31 ∧ t.toNat < 2 ^ 31 := by
      intro found hcase
      obtain ⟨tr, hrun, hquiet⟩ := exists_getRelateId hf ht hcase
      obtain ⟨tr', out, hrun', hselects⟩ := exists_getMessages hrun
      have hany := hselected _ _ _ _ _ _ hrun'
      rw [List.any_append, hquiet, hselects, Bool.false_or, Bool.and_eq_true] at hany
      exact ⟨of_decide_eq_true hany.1, (hquery found).mp hany.2⟩
    have hne : pairKeys w.db.imRecentContact (asked f t) ≠ [] := fun hnone =>
      (hfound kInvalidID (Or.inr ⟨hnone, rfl⟩)).1 rfl
    have hkeys : ∀ k ∈ pairKeys w.db.imRecentContact (asked f t), _ := fun k hk =>
      hfound (getColumn k) (Or.inl (List.mem_map_of_mem hk))
    obtain ⟨k, hk⟩ := List.exists_mem_of_ne_nil _ hne
    obtain ⟨-, ⟨-, hv⟩, hsmall⟩ := hkeys k hk
    exact ⟨hsmall, hne, hv, fun k hk => (hkeys k hk).2.1.1⟩
  · rintro ⟨hsmall, hne, hv, hread⟩ offset count messages tr out w' hrun
    simp only [getMessages, runs_bind] at hrun
    obtain ⟨tr₁, found, w₁, _, hget, hrest, rfl⟩ := hrun
    obtain ⟨rfl, rows, -, hrows⟩ := getRelateId_asks hf ht hget
    obtain ⟨r, hr, hpair, hfound⟩ : ∃ r ∈ w₁.db.imRecentContact, r.pair = asked f t ∧
        found = getColumn r.relateId := by
      rcases hrows with ⟨-, -, hnone⟩ | ⟨r, hr, hpair, -, hfound⟩
      · exact absurd (pairKeys_eq_nil hnone) hne
      · exact ⟨r, hr, hpair, hfound⟩
    obtain rfl : found = v := hfound.trans (hread _ (mem_pairKeys.mpr ⟨r, hr, hpair, rfl⟩))
    have hvalid : found ≠ kInvalidID := by
      rintro rfl
      exact absurd hv (by decide)
    simp only [if_neg hvalid, runs_bind, runs_issue, runs_pure] at hrest
    obtain ⟨_, answ, w₂, _, ⟨-, rfl⟩, -, rfl⟩ := hrest
    refine List.any_eq_true.mpr ⟨_, List.mem_append_right _ List.mem_cons_self, ?_⟩
    exact (hquery found).mpr ⟨⟨rfl, hv⟩, hsmall⟩

/-! ## The call -/

/-- Whatever its statements answer, a message is stored, in one row, under the id obtained, if and
    only if its INSERT answers a row; and the contacts are left as the id was obtained. -/
theorem sendIMMessage_obtains {f t k time : UInt32} {content : Bytes} {w w' : World} {tr : List Event}
    {isSucess : Bool} (hguard : ¬(f = 0 ∨ t = 0 ∨ content = []))
    (h : Runs Step w (sendIMMessage f t k content time) tr isSucess w') :
    ∃ answers v n, insertAnswers tr = answers ++ [.message n] ∧
      Obtained (pairKeys w.db.imRecentContact (asked f t))
        (pairKeys w.db.imRecentContact (conversationPair f t)) answers v
        (pairKeys w'.db.imRecentContact (conversationPair f t)) ∧
      (isSucess = false ∧ n ≤ 0 ∧ w'.db.imMessage = w.db.imMessage ∨
        isSucess = true ∧ 0 < n ∧ ∃ id ctime, w'.db.imMessage = w.db.imMessage ++
          [(messageValues v f t k content ctime).row id]) := by
  simp only [sendIMMessage, if_neg hguard, runs_bind, runs_issue] at h
  obtain ⟨tr₁, _, w₁, _, hcheck, ⟨tr₂, found, w₂, _, hfound, ⟨tr₃, v, w₃, _, hadd,
    ⟨_, ctime, w₄, _, ⟨hclock, rfl⟩, ⟨_, n, w₅, tr₅, ⟨hinsert, rfl⟩, hrest, rfl⟩, rfl⟩, rfl⟩, rfl⟩,
    rfl⟩ := h
  have hquiet := sendIMMessage_quiet hcheck hfound hadd
  obtain ⟨htr₁, hident⟩ := checkAndUpdateRelation_keeps hcheck
  obtain ⟨rfl, htr₂, hkey⟩ := getRelateId_answers hfound
  obtain rfl : w₄ = w₃ := hclock.resolve_right fun h => h
  simp only [not_or] at hguard
  -- the keys of the pair when the id is there
  have hobtained : Obtained (pairKeys w.db.imRecentContact (asked f t))
      (pairKeys w.db.imRecentContact (conversationPair f t)) (insertAnswers tr₃) v
      (pairKeys w₄.db.imRecentContact (conversationPair f t)) := by
    rw [← pairKeys_congr hident, ← pairKeys_congr hident]
    by_cases hinvalid : found = kInvalidID
    · rw [if_pos hinvalid] at hadd
      exact addFriendship_obtains hguard.1 hguard.2.1 hadd
    · rw [if_neg hinvalid] at hadd
      obtain ⟨rfl, rfl, rfl⟩ := runs_pure.mp hadd
      obtain ⟨k, hk, rfl⟩ := hkey hinvalid
      exact .found hk
  rcases hinsert with ⟨t', ⟨keys, hkeys, rfl⟩, rfl⟩ | ⟨hfail, rfl⟩
  · simp only [Int.one_pos, gt_iff_lt, if_true, runs_bind, runs_pure, incrCounterForNewMessage,
      runs_issue] at hrest
    obtain ⟨_, _, w₆, _, ⟨_, _, w₇, _, ⟨hincr, rfl⟩, ⟨hincrease, rfl⟩, rfl⟩, ⟨rfl, rfl, rfl⟩,
      rfl⟩ := hrest
    obtain ⟨-, rfl⟩ := hincr.resolve_right fun h => h
    obtain ⟨-, rfl⟩ := hincrease.resolve_right fun h => h
    obtain ⟨hlen, -, -, rfl⟩ := hkeys
    obtain ⟨id, rfl⟩ := List.length_eq_one_iff.mp hlen
    refine ⟨insertAnswers tr₃, v, 1, ?_, hobtained,
      Or.inr ⟨rfl, one_pos, id, UInt64.toUInt32 (ctime / 1000), ?_⟩⟩
    · simp only [insertAnswers_append, htr₁, htr₂]
      rfl
    · show w₄.db.imMessage ++ _ = w.db.imMessage ++ _
      rw [hquiet.messages]
      rfl
  · have hle : ¬(n > (0 : Int)) := not_lt.mpr hfail
    simp only [if_neg hle, runs_pure] at hrest
    obtain ⟨rfl, rfl, rfl⟩ := hrest
    refine ⟨insertAnswers tr₃, v, n, ?_, hobtained, Or.inl ⟨rfl, hfail, hquiet.messages⟩⟩
    simp only [insertAnswers_append, htr₁, htr₂]
    rfl

end ZAresMessageManagerImpl

/-- **Inside, or nowhere.**  Whatever fails, a call keeps its message inside the conversation of its
    users exactly if it establishes the conversation before it stores. -/
theorem keptInside_iff {f t k time : UInt32} {content : Bytes} {w w' : World} {tr : List Event}
    {isSucess : Bool} (hfit : ∀ r ∈ w'.db.imRecentContact, r.relateId < 2 ^ 64)
    (h : Runs Step w (sendIMMessage f t k content time) tr isSucess w') :
    KeptInside f t content w isSucess w' ↔ Establishes f t w tr := by
  by_cases hguard : f = 0 ∨ t = 0 ∨ content = []
  · simp only [sendIMMessage, if_pos hguard, runs_pure] at h
    obtain ⟨rfl, rfl, rfl⟩ := h
    exact iff_of_true ⟨nofun, fun _ => ⟨rfl, rfl⟩⟩ trivial
  obtain ⟨answers, v, n, htr, hobtained, hstored⟩ := sendIMMessage_obtains hguard h
  rw [Establishes, htr]
  rcases hstored with ⟨rfl, hn, hsame⟩ | ⟨rfl, hn, id, ctime, hmessages⟩
  · exact iff_of_true ⟨nofun, fun _ => ⟨rfl, hsame⟩⟩ (hobtained.placed_of_le hn)
  simp only [not_or] at hguard
  -- on the lower half the lookup asks for the pair whose rows are inserted
  have hinside : (f.toNat < 2 ^ 31 ∧ t.toNat < 2 ^ 31) →
      (ReadAs (pairKeys w'.db.imRecentContact (conversationPair f t)) v ∧
        addParam v ∈ pairKeys w'.db.imRecentContact (conversationPair f t) ↔
      Placed f t (pairKeys w.db.imRecentContact (conversationPair f t)) (answers ++ [.message n])) := by
    intro hsmall
    rw [(asked_eq_iff f t).mpr hsmall] at hobtained
    refine hobtained.inside_iff (fun k hk => ?_) hn hsmall.1 hsmall.2
    obtain ⟨r, hr, -, rfl⟩ := mem_pairKeys.mp hk
    exact hfit r hr
  have hselected := selected_iff (w := w') ((messageValues v f t k content ctime).row id)
    hguard.1 hguard.2.1 rfl rfl rfl rfl
  constructor
  · intro hkept
    obtain ⟨row, hrow, hholds, ⟨r, hr, hpair, hkey⟩, hsel⟩ := hkept.sent rfl
    obtain rfl : (messageValues v f t k content ctime).row id = row := by
      simpa using List.append_cancel_left (hmessages.symm.trans hrow)
    obtain ⟨hsmall, -, hread⟩ := hselected.mp hsel
    rw [(asked_eq_iff f t).mpr hsmall] at hread
    exact (hinside hsmall).mp ⟨hread, mem_pairKeys.mpr ⟨r, hr, hpair, hkey.symm⟩⟩
  · intro hplaced
    have hsmall := hobtained.small hn hplaced
    obtain ⟨hread, hmem⟩ := (hinside hsmall).mpr hplaced
    obtain ⟨r, hr, hpair, hkey⟩ := mem_pairKeys.mp hmem
    refine ⟨fun _ => ⟨_, hmessages, ⟨rfl, rfl, rfl⟩, ⟨r, hr, hpair, hkey.symm⟩, ?_⟩, ?_⟩
    · rw [hselected, (asked_eq_iff f t).mpr hsmall]
      exact ⟨hsmall, List.ne_nil_of_mem hmem, hread⟩
    · intro hnone
      exact absurd hpair (hnone r hr)

/-- The first message of 1 to 2, of which every statement succeeds. -/
theorem keptInside_greet :
    KeptInside 1 2 [104, 105] emptyWorld ((sendIMMessage 1 2 1 [104, 105] 0).play emptyWorld).2.1
      (greet emptyWorld) := by
  have hrun := (Prog.play_runs (sendIMMessage 1 2 1 [104, 105] 0) emptyWorld).mono
    fun _ _ _ _ => StepOk.step
  refine (keptInside_iff (by decide) hrun).mpr ?_
  show Placed 1 2 [] [.contacts 1, .message 1]
  exact fun _ => ⟨by decide, ⟨by decide, nofun⟩, Or.inl (by decide)⟩

/-- A world in which no contacts can be inserted. -/
def respondLost (w : World) : (c : Cmd) → c.Answer × World
  | .contact (.insertContacts _) => ((0 : UInt64), w)
  | c => respond w c

theorem respondLost_step (w : World) (c : Cmd) : Step w c (respondLost w c).1 (respondLost w c).2 := by
  unfold respondLost
  split
  · exact Or.inr ⟨Or.inl rfl, rfl⟩
  · exact Or.inl (respond_ok w _)

/-- If the INSERT of their contacts fails, the first message of 1 to 2 is stored under no contact. -/
theorem not_forall_keptInside :
    ¬∀ (f t k time : UInt32) (content : Bytes) (w w' : World) (tr : List Event) (isSucess : Bool),
      (∀ r ∈ w'.db.imRecentContact, r.relateId < 2 ^ 64) →
      Runs Step w (sendIMMessage f t k content time) tr isSucess w' →
      KeptInside f t content w isSucess w' := by
  intro h
  have hrun := exec_runs respondLost_step (sendIMMessage 1 2 1 [104, 105] 0) emptyWorld
  have hnone : ((sendIMMessage 1 2 1 [104, 105] 0).exec respondLost emptyWorld).2.2.db.imRecentContact =
      [] := rfl
  have hkept := h _ _ _ _ _ _ _ _ _ (by rw [hnone]; exact nofun) hrun
  obtain ⟨row, -, -, ⟨r, hr, -⟩, -⟩ := hkept.sent rfl
  rw [hnone] at hr
  cases hr

end Zattd
