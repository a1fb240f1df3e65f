/-
  Messages between two users AT ONCE, on several handler threads.

  `AddFriendship` looks once more before it inserts, but the other side may insert after that look:
  then each of the two has two rows, and the first messages go under two ids.  This is all that can
  happen.  In any interleaving in which no INSERT meets rows of the two users, there is one id, the
  first that is given, and every message has it: rows are never removed, and a thread that has learned
  the id of the two from the table, or given it itself, may keep it for as long as it likes.
-/
import Zattd.Correct.Conversations
import Zattd.Lib.Threads

set_option linter.unusedVariables false

namespace Zattd

open Prog Threads ZAresRelationshipManagerImpl ZAresMessageManagerImpl

/-! ## The condition -/

/-- An INSERT of contacts meets no row of the users it is for. -/
def Alone (t : List ContactRow) : Cmd → Prop
  | .contact (.insertContacts rows) => ∀ v ∈ rows, ∀ r ∈ t, r.pair ≠ valuesPair v
  | _ => True

/-- A command succeeds, alone. -/
def StepAlone (w : World) (c : Cmd) (a : c.Answer) (w' : World) : Prop :=
  StepOk w c a w' ∧ Alone w.db.imRecentContact c

/-- A call of `SendIMMessage`. -/
structure SendCall where
  fromUserId : UInt32
  toUserId : UInt32
  type : UInt32
  content : Bytes
  time : UInt32

/-- Its program. -/
def SendCall.run (c : SendCall) : Server Bool :=
  sendIMMessage c.fromUserId c.toUserId c.type c.content c.time

/-- It is a message from one of the two to the other. -/
def SendCall.Between (x y : UInt32) (c : SendCall) : Prop :=
  c.fromUserId = x ∧ c.toUserId = y ∨ c.fromUserId = y ∧ c.toUserId = x

/-! ## The id of the two -/

/-- The pair that `GetRelateId` asks for.  It is printed with a sign, and the pair of the row that is
    inserted (`conversationPair`) without. -/
def askedPair (x y : UInt32) : Int × Int :=
  (percentD (if x > y then y else x), percentD (if x > y then x else y))

theorem askedPair_comm (x y : UInt32) : askedPair x y = askedPair y x := by
  unfold askedPair
  by_cases hxy : x > y
  · have hyx : ¬y > x := fun hyx => UInt32.lt_asymm hxy hyx
    rw [if_pos hxy, if_pos hxy, if_neg hyx, if_neg hyx]
  · by_cases hyx : y > x
    · rw [if_neg hxy, if_neg hxy, if_pos hyx, if_pos hyx]
    · have heq : x = y := UInt32.le_antisymm (UInt32.not_lt.mp hxy) (UInt32.not_lt.mp hyx)
      rw [heq]

/-- If it is asked for as it is inserted by the other side, the two are one and the same. -/
theorem eq_of_askedPair_eq_swap {x y : UInt32} (h : askedPair x y = (conversationPair x y).swap) :
    askedPair x y = conversationPair x y := by
  have hcolumns : ∀ small big : UInt32, (percentD small, percentD big) = (addParam big, addParam small) →
      (percentD small, percentD big) = (addParam small, addParam big) := by
    intro small big heq
    have hsame := congrArg (fun p => getColumn p.1) heq
    rw [getColumn_percentD, getColumn_addParam] at hsame
    rw [heq, hsame]
  rw [← ordered_eq] at h ⊢
  exact hcolumns _ _ h

/-- The key of the row that is asked for, if it can be told from `kInvalidID`. -/
def isAsked (x y : UInt32) (i : (Int × Int) × Int) : Bool :=
  decide (i.1 = askedPair x y) && decide (getColumn i.2 ≠ kInvalidID)

/-- The key of the row that is inserted. -/
def isInserted (x y : UInt32) (i : (Int × Int) × Int) : Bool := decide (i.1 = conversationPair x y)

/-- The id of the two, if they have one: the key of the row that is asked for, or else of the row that
    is inserted. -/
def relatedId (t : List ContactRow) (x y : UInt32) : Option UInt32 :=
  (((t.map ContactRow.ident).find? (isAsked x y)).or
    ((t.map ContactRow.ident).find? (isInserted x y))).map fun i => getColumn i.2

/-- `t'` is `t` with more rows for the two, of pairs that had none. -/
def Extends (x y : UInt32) (t t' : List ContactRow) : Prop :=
  ∃ new, t'.map ContactRow.ident = t.map ContactRow.ident ++ new ∧
    ∀ i ∈ new, (i.1 = conversationPair x y ∨ i.1 = (conversationPair x y).swap) ∧
      i.1 ∉ t.map (·.pair)

section Table

variable {x y : UInt32} {t t' t'' : List ContactRow} {v : UInt32}

theorem map_pair (t : List ContactRow) : t.map (·.pair) = (t.map ContactRow.ident).map Prod.fst := by
  rw [List.map_map]
  rfl

theorem Extends.refl (x y : UInt32) (t : List ContactRow) : Extends x y t t :=
  ⟨[], (List.append_nil _).symm, nofun⟩

/-- An update of the status alone. -/
theorem Extends.ofIdent (h : t'.map ContactRow.ident = t.map ContactRow.ident) : Extends x y t t' :=
  ⟨[], by rw [h, List.append_nil], nofun⟩

theorem Extends.trans (h : Extends x y t t') (h' : Extends x y t' t'') : Extends x y t t'' := by
  obtain ⟨new, hnew, hfresh⟩ := h
  obtain ⟨new', hnew', hfresh'⟩ := h'
  refine ⟨new ++ new', by rw [hnew', hnew, List.append_assoc], fun i hi => ?_⟩
  rcases List.mem_append.mp hi with hi | hi
  · exact hfresh i hi
  · obtain ⟨hpair, hnot⟩ := hfresh' i hi
    refine ⟨hpair, fun hmem => hnot ?_⟩
    rw [map_pair, hnew, List.map_append, List.mem_append, ← map_pair]
    exact Or.inl hmem

/-- If no row that is asked for could be told, none is added that is, unless it is the row that is
    inserted. -/
theorem Extends.find?_isAsked (h : Extends x y t t') (hne : askedPair x y ≠ conversationPair x y)
    (hnone : (t.map ContactRow.ident).find? (isAsked x y) = none) :
    (t'.map ContactRow.ident).find? (isAsked x y) = none := by
  obtain ⟨new, hnew, hfresh⟩ := h
  rw [hnew, List.find?_append, hnone, Option.none_or, List.find?_eq_none]
  intro i hi hasked
  have hpair : i.1 = askedPair x y := of_decide_eq_true (Bool.and_eq_true_iff.mp hasked).1
  rcases (hfresh i hi).1 with heq | heq
  · exact hne (hpair.symm.trans heq)
  · exact hne (eq_of_askedPair_eq_swap (hpair.symm.trans heq))

/-- **Stability.**  An id that has been given stays. -/
theorem Extends.relatedId_eq (h : Extends x y t t') (hid : relatedId t x y = some v) :
    relatedId t' x y = some v := by
  obtain ⟨new, hnew, hfresh⟩ := h
  unfold relatedId at hid ⊢
  rw [hnew, List.find?_append, List.find?_append]
  cases hasked : (t.map ContactRow.ident).find? (isAsked x y) with
  | some i =>
    rw [hasked] at hid
    exact hid
  | none =>
    rw [hasked, Option.none_or] at hid
    obtain ⟨i, hfind, rfl⟩ := Option.map_eq_some_iff.mp hid
    have hinserted : isInserted x y i = true := List.find?_some hfind
    have hpair : i.1 = conversationPair x y := of_decide_eq_true hinserted
    -- the row that is inserted is there, so it is not inserted again
    have hmem : conversationPair x y ∈ t.map (·.pair) := by
      rw [map_pair, ← hpair]
      exact List.mem_map_of_mem (List.mem_of_find?_eq_some hfind)
    have hnone : new.find? (isAsked x y) = none := by
      refine List.find?_eq_none.mpr fun i' hi' hasked' => ?_
      have hpair' : i'.1 = askedPair x y := of_decide_eq_true (Bool.and_eq_true_iff.mp hasked').1
      obtain ⟨heq | heq, hnot⟩ := hfresh i' hi'
      · rw [heq] at hnot
        exact hnot hmem
      · have hsame := eq_of_askedPair_eq_swap (hpair'.symm.trans heq)
        rw [hpair', hsame] at hnot
        exact hnot hmem
    rw [hnone, hfind, Option.none_or, Option.none_or, Option.some_or]
    rfl

/-- A row of the pair that is asked for gives the id, if there is one row for each pair. -/
theorem relatedId_of_asked (hone : (t.map (·.pair)).Nodup) {r : ContactRow} (hr : r ∈ t)
    (hpair : r.pair = askedPair x y) (hid : getColumn r.relateId ≠ kInvalidID) :
    relatedId t x y = some (getColumn r.relateId) := by
  have hsome : ((t.map ContactRow.ident).find? (isAsked x y)).isSome := by
    refine List.find?_isSome.mpr ⟨r.ident, List.mem_map_of_mem hr, ?_⟩
    exact Bool.and_eq_true_iff.mpr ⟨decide_eq_true hpair, decide_eq_true hid⟩
  obtain ⟨i, hfind⟩ := Option.isSome_iff_exists.mp hsome
  obtain ⟨r', hr', rfl⟩ := List.mem_map.mp (List.mem_of_find?_eq_some hfind)
  have hasked : isAsked x y r'.ident = true := List.find?_some hfind
  have hpair' : r'.pair = askedPair x y := of_decide_eq_true (Bool.and_eq_true_iff.mp hasked).1
  obtain rfl := List.inj_on_of_nodup_map hone hr hr' (hpair.trans hpair'.symm)
  unfold relatedId
  rw [hfind]
  rfl

/-- Rows for the two, who have none that can be told: the key of the first one is the id. -/
theorem relatedId_insert {r : ContactRow} {rest : List ContactRow}
    (hunknown : (t.map ContactRow.ident).find? (isAsked x y) = none)
    (hfree : conversationPair x y ∉ t.map (·.pair)) (hhead : r.pair = conversationPair x y)
    (hpairs : ∀ p ∈ (r :: rest).map (·.pair), p = conversationPair x y ∨ p = (conversationPair x y).swap)
    (hone : ((r :: rest).map (·.pair)).Nodup) :
    relatedId (t ++ r :: rest) x y = some (getColumn r.relateId) := by
  -- whatever new row is asked for, it is the first
  have hasked : ((r :: rest).map ContactRow.ident).find? (isAsked x y) = none ∨
      ((r :: rest).map ContactRow.ident).find? (isAsked x y) = some r.ident := by
    cases hfind : ((r :: rest).map ContactRow.ident).find? (isAsked x y) with
    | none => exact Or.inl rfl
    | some i =>
      have hi : isAsked x y i = true := List.find?_some hfind
      obtain ⟨r', hr', rfl⟩ := List.mem_map.mp (List.mem_of_find?_eq_some hfind)
      have hpair : r'.pair = askedPair x y := of_decide_eq_true (Bool.and_eq_true_iff.mp hi).1
      have hfirst : r'.pair = conversationPair x y := by
        rcases hpairs _ (List.mem_map_of_mem hr') with heq | heq
        · exact heq
        · rw [hpair] at heq ⊢
          exact eq_of_askedPair_eq_swap heq
      rw [List.inj_on_of_nodup_map hone hr' (List.mem_cons_self ..) (hfirst.trans hhead.symm)]
      exact Or.inr rfl
  have hinserted : (t.map ContactRow.ident).find? (isInserted x y) = none := by
    refine List.find?_eq_none.mpr fun i hi hpair => hfree ?_
    have hconversation : i.1 = conversationPair x y := of_decide_eq_true hpair
    rw [map_pair, ← hconversation]
    exact List.mem_map_of_mem hi
  have hfirst : ((r :: rest).map ContactRow.ident).find? (isInserted x y) = some r.ident :=
    List.find?_cons_of_pos (decide_eq_true hhead)
  unfold relatedId
  rw [List.map_append, List.find?_append, List.find?_append, hunknown, hinserted, hfirst]
  rcases hasked with hnone | hsome
  · rw [hnone]
    rfl
  · rw [hsome]
    rfl

end Table

/-! ## What the threads keep -/

/-- There is one row for each pair, and the messages stored since the start have the id of the two. -/
structure Kept (x y : UInt32) (start : List MessageRow) (w : World) : Prop where
  one : (w.db.imRecentContact.map (·.pair)).Nodup
  stored : ∃ rows, w.db.imMessage = start ++ rows ∧ ∀ row ∈ rows,
    ∃ v, relatedId w.db.imRecentContact x y = some v ∧ row.relateId = addParam v

/-- How the world moves: the contacts are extended for the two. -/
def Moves (x y : UInt32) (w w' : World) : Prop :=
  Extends x y w.db.imRecentContact w'.db.imRecentContact

section Threads

variable {x y : UInt32} {start : List MessageRow} {w w' : World}

/-- A step that adds no message. -/
theorem Kept.move (h : Kept x y start w) (hmove : Moves x y w w')
    (hone : (w'.db.imRecentContact.map (·.pair)).Nodup) (hquiet : w'.db.imMessage = w.db.imMessage) :
    Kept x y start w' := by
  obtain ⟨rows, hrows, hall⟩ := h.stored
  refine ⟨hone, rows, hquiet.trans hrows, fun row hrow => ?_⟩
  obtain ⟨v, hid, hrelate⟩ := hall row hrow
  exact ⟨v, hmove.relatedId_eq hid, hrelate⟩

/-- A step that changes no key and no pair, and adds no message. -/
theorem Kept.quiet (h : Kept x y start w)
    (hident : w'.db.imRecentContact.map ContactRow.ident = w.db.imRecentContact.map ContactRow.ident)
    (hquiet : w'.db.imMessage = w.db.imMessage) : Kept x y start w' ∧ Moves x y w w' := by
  have hmove : Moves x y w w' := .ofIdent hident
  have hone : (w'.db.imRecentContact.map (·.pair)).Nodup := by
    rw [map_pair, hident, ← map_pair]
    exact h.one
  exact ⟨h.move hmove hone hquiet, hmove⟩

/-- A message under the id of the two. -/
theorem Kept.store {t' : List MessageRow} {row : MessageRow} {v : UInt32} (h : Kept x y start w)
    (ht' : t' = w.db.imMessage ++ [row]) (hid : relatedId w.db.imRecentContact x y = some v)
    (hrelate : row.relateId = addParam v) : Kept x y start (w.setMessages t') := by
  obtain ⟨rows, hrows, hall⟩ := h.stored
  refine ⟨h.one, rows ++ [row], ?_, fun row' hrow' => ?_⟩
  · show t' = start ++ (rows ++ [row])
    rw [ht', hrows, List.append_assoc]
  · rcases List.mem_append.mp hrow' with hold | hnew
    · exact hall row' hold
    · obtain rfl := List.mem_singleton.mp hnew
      exact ⟨v, hid, hrelate⟩

/-- A program that is secure for the two. -/
abbrev SecurePair (x y : UInt32) (start : List MessageRow) {α : Type} (Q : α → World → Prop)
    (p : Server α) (w : World) : Prop :=
  Secure StepAlone (Kept x y start) (Moves x y) Q p w

/-- Reading the clock. -/
theorem securePair_nowMSTime : SecurePair x y start (fun _ w' => Moves x y w w')
    (issue .nowMSTime) w := by
  apply secure_issue
  intro w₁ hmove hkept t w₂ hstep
  obtain rfl : w₂ = w₁ := hstep.1
  exact ⟨hkept, .refl _ _ _, hmove⟩

/-- What `GetRelateId` has learned: the id of the two, or that no row that is asked for can be told. -/
structure Learned (x y found : UInt32) (w : World) : Prop where
  known : found ≠ kInvalidID → relatedId w.db.imRecentContact x y = some found
  unknown : found = kInvalidID → (w.db.imRecentContact.map ContactRow.ident).find? (isAsked x y) = none

/-- That there is no id may be kept, for as long as there is no row that is inserted. -/
theorem Learned.unknown_later (h : Learned x y kInvalidID w) (hmove : Moves x y w w')
    (hfree : conversationPair x y ∉ w'.db.imRecentContact.map (·.pair)) :
    (w'.db.imRecentContact.map ContactRow.ident).find? (isAsked x y) = none := by
  by_cases heq : askedPair x y = conversationPair x y
  · refine List.find?_eq_none.mpr fun i hi hasked => hfree ?_
    have hpair : i.1 = askedPair x y := of_decide_eq_true (Bool.and_eq_true_iff.mp hasked).1
    rw [map_pair, ← heq, ← hpair]
    exact List.mem_map_of_mem hi
  · exact hmove.find?_isAsked heq (h.unknown rfl)

theorem securePair_getRelateId (hx : x ≠ 0) (hy : y ≠ 0) :
    SecurePair x y start (Learned x y) (getRelateId x y) w := by
  have hguard : ¬(x = 0 ∨ y = 0) := not_or.mpr ⟨hx, hy⟩
  rw [getRelateId, if_neg hguard]
  refine .bind (secure_issue fun w₁ hmove hkept answ w₂ hstep => ?_)
  obtain ⟨t, ⟨rfl, rows, hrows, rfl⟩, rfl⟩ := hstep.1
  refine ⟨hkept, .refl _ _ _, ?_⟩
  simp only [ContactRow.isOf_eq] at hrows
  have hone := Table.countP_unique hkept.one (askedPair x y)
  rcases (hrows.of_le hone).unique hkept.one with ⟨rfl, hnone⟩ | ⟨r, hr, hpair, rfl⟩
  · refine secure_pure ⟨fun hne => absurd rfl hne, fun _ => List.find?_eq_none.mpr ?_⟩
    intro i hi hasked
    obtain ⟨r, hr, rfl⟩ := List.mem_map.mp hi
    exact hnone r hr (of_decide_eq_true (Bool.and_eq_true_iff.mp hasked).1)
  · refine secure_pure ⟨relatedId_of_asked hkept.one hr hpair, fun hinvalid => ?_⟩
    refine List.find?_eq_none.mpr fun i hi hasked => ?_
    obtain ⟨r', hr', rfl⟩ := List.mem_map.mp hi
    obtain ⟨hpair', htold⟩ := Bool.and_eq_true_iff.mp hasked
    obtain rfl := List.inj_on_of_nodup_map hkept.one hr' hr ((of_decide_eq_true hpair').trans hpair.symm)
    exact of_decide_eq_true htold hinvalid

/-- The re-activation changes the status of rows, and nothing else. -/
theorem securePair_checkAndUpdateRelation :
    SecurePair x y start (fun _ _ => True) (checkAndUpdateRelation x y) w := by
  rw [checkAndUpdateRelation]
  split
  · exact secure_pure trivial
  refine .bind (secure_issue fun w₁ hmove hkept answ w₂ hstep => ?_)
  obtain ⟨t, ⟨rfl, rows, -, rfl⟩, rfl⟩ := hstep.1
  refine ⟨hkept, .refl _ _ _, ?_⟩
  show Secure _ _ _ _ (if removedRelateIds rows = [] then _ else _) _
  split
  · exact secure_pure trivial
  refine .bind (secure_issue fun w₃ hmove' hkept' n w₄ hstep' => ?_)
  obtain ⟨t', ⟨_, ⟨m, htouch, -⟩, rfl⟩, rfl⟩ := hstep'.1
  have hident : t'.map ContactRow.ident = w₃.db.imRecentContact.map ContactRow.ident :=
    htouch.map_eq fun r => rfl
  have hquiet : Kept x y start (w₃.setContacts t') ∧ Moves x y w₃ (w₃.setContacts t') :=
    hkept'.quiet hident rfl
  exact ⟨hquiet.1, hquiet.2, secure_pure trivial⟩

/-- **The INSERT.**  If it runs alone, its first key is the id of the two. -/
theorem Learned.insert {t' : List ContactRow} {keys : List Int} {ctime : UInt32}
    (h : Learned x y kInvalidID w) (hkept : Kept x y start w') (hmove : Moves x y w w')
    (halone : ∀ v ∈ friendshipRows (if x > y then y else x) (if x > y then x else y) ctime,
      ∀ r ∈ w'.db.imRecentContact, r.pair ≠ valuesPair v)
    (hinsert : Table.Inserts (·.relateId)
      ((friendshipRows (if x > y then y else x) (if x > y then x else y) ctime).map ContactValues.row)
      w'.db.imRecentContact keys t') :
    Kept x y start (w'.setContacts t') ∧ Moves x y w' (w'.setContacts t') ∧
      relatedId t' x y = some (getColumn (keys.headD 0)) := by
  obtain ⟨new, rfl, hrows, rfl⟩ := hinsert.newRows_keys fun _ _ => rfl
  have hpairs : new.map (·.pair) = _ := hrows.map_eq (show ∀ v k, _ = valuesPair v from fun _ _ => rfl)
  have hmem : ∀ p ∈ new.map (·.pair), p = conversationPair x y ∨ p = (conversationPair x y).swap := by
    intro p hp
    rw [hpairs, friendshipRows_pairs_mem] at hp
    rw [← ordered_eq]
    exact hp
  have hfree : ∀ p ∈ new.map (·.pair), p ∉ w'.db.imRecentContact.map (·.pair) := by
    intro p hp hold
    rw [hpairs] at hp
    obtain ⟨v, hv, rfl⟩ := List.mem_map.mp hp
    obtain ⟨r, hr, hpair⟩ := List.mem_map.mp hold
    exact halone v hv r hr hpair
  have hone : (new.map (·.pair)).Nodup := by
    rw [hpairs]
    exact friendshipRows_pairs_nodup _ _ _
  have hextends : Extends x y w'.db.imRecentContact (w'.db.imRecentContact ++ new) := by
    refine ⟨new.map ContactRow.ident, List.map_append .., fun i hi => ?_⟩
    have hi' : i.1 ∈ new.map (·.pair) := by
      rw [map_pair]
      exact List.mem_map_of_mem hi
    exact ⟨hmem _ hi', hfree _ hi'⟩
  have hone' : ((w'.db.imRecentContact ++ new).map (·.pair)).Nodup := by
    rw [List.map_append, List.nodup_append']
    exact ⟨hkept.one, hone, fun p hold hnew => hfree p hnew hold⟩
  refine ⟨hkept.move hextends hone' rfl, hextends, ?_⟩
  have hhead : (new.map (·.pair)).head? = some (conversationPair x y) := by
    rw [hpairs, friendshipRows_head, ordered_eq]
  cases new with
  | nil => cases hhead
  | cons r rest =>
    have hpair : r.pair = conversationPair x y := Option.some.inj hhead
    have hfirst : conversationPair x y ∉ w'.db.imRecentContact.map (·.pair) :=
      hpair ▸ hfree r.pair (List.mem_cons_self ..)
    exact relatedId_insert (h.unknown_later hmove hfirst) hfirst hpair hmem hone

/-- `AddFriendship` returns the id of the two. -/
theorem securePair_addFriendship (hx : x ≠ 0) (hy : y ≠ 0) :
    SecurePair x y start (fun v w' => relatedId w'.db.imRecentContact x y = some v)
      (addFriendship x y) w := by
  have hguard : ¬(x = 0 ∨ y = 0) := not_or.mpr ⟨hx, hy⟩
  rw [addFriendship, if_neg hguard]
  refine .bind ((securePair_getRelateId hx hy).mono fun found w₁ hlearned => ?_)
  by_cases hne : found ≠ kInvalidID
  · rw [if_pos hne]
    exact secure_pure (hlearned.known hne)
  rw [if_neg hne]
  obtain rfl : found = kInvalidID := not_not.mp hne
  refine .bind (securePair_nowMSTime.mono fun now w₂ hmove => ?_)
  refine .bind (secure_issue fun w₃ hmove' hkept id w₄ hstep => ?_)
  obtain ⟨⟨t', ⟨keys, hinsert, rfl⟩, rfl⟩, halone⟩ := hstep
  obtain ⟨hkept₄, hmove₄, hid⟩ := hlearned.insert hkept (hmove.trans hmove') halone hinsert
  refine ⟨hkept₄, hmove₄, secure_pure ?_⟩
  rw [toUInt32_ofInt]
  exact hid

/-- The counters. -/
theorem securePair_incrCounterForNewMessage {count : UInt32} :
    SecurePair x y start (fun _ _ => True) (incrCounterForNewMessage x y count) w := by
  have hquiet : ∀ (w : World) c, Kept x y start w →
      Kept x y start (w.setCache c) ∧ Moves x y w (w.setCache c) :=
    fun w c hkept => hkept.quiet rfl rfl
  refine .bind (secure_issue fun w₁ _ hkept _ w₂ hstep => ?_)
  obtain ⟨-, rfl⟩ := hstep.1
  refine ⟨(hquiet _ _ hkept).1, (hquiet _ _ hkept).2, ?_⟩
  apply secure_issue
  intro w₃ _ hkept' _ w₄ hstep'
  obtain ⟨-, rfl⟩ := hstep'.1
  exact ⟨(hquiet _ _ hkept').1, (hquiet _ _ hkept').2, trivial⟩

/-- **A message from `x` to `y`.** -/
theorem securePair_sendIMMessage {type time : UInt32} {content : Bytes} :
    SecurePair x y start (fun _ _ => True) (sendIMMessage x y type content time) w := by
  rw [sendIMMessage]
  by_cases hguard : x = 0 ∨ y = 0 ∨ content = []
  · rw [if_pos hguard]
    exact secure_pure trivial
  rw [if_neg hguard]
  simp only [not_or] at hguard
  obtain ⟨hx, hy, -⟩ := hguard
  refine .bind (securePair_checkAndUpdateRelation.mono fun restored w₁ _ => ?_)
  refine .bind ((securePair_getRelateId hx hy).mono fun found w₂ hlearned => ?_)
  have hadd : SecurePair x y start (fun v w' => relatedId w'.db.imRecentContact x y = some v)
      (if found = kInvalidID then addFriendship x y else pure found) w₂ := by
    by_cases hinvalid : found = kInvalidID
    · rw [if_pos hinvalid]
      exact securePair_addFriendship hx hy
    · rw [if_neg hinvalid]
      exact secure_pure (hlearned.known hinvalid)
  refine .bind (hadd.mono fun relateId w₃ hid => ?_)
  refine .bind (securePair_nowMSTime.mono fun now w₄ hmove => ?_)
  refine .bind (secure_issue fun w₅ hmove' hkept n w₆ hstep => ?_)
  obtain ⟨t', ⟨keys, ⟨hlen, -, -, rfl⟩, rfl⟩, rfl⟩ := hstep.1
  obtain ⟨key, rfl⟩ := List.length_eq_one_iff.mp hlen
  -- the id has been stable since it was learned
  have hid' := (hmove.trans hmove').relatedId_eq hid
  refine ⟨hkept.store rfl hid' rfl, .refl _ _ _, ?_⟩
  exact .bind (securePair_incrCounterForNewMessage.mono fun _ _ _ => secure_pure trivial)

end Threads

/-! ## The two directions -/

theorem relatedId_comm (t : List ContactRow) (x y : UInt32) : relatedId t x y = relatedId t y x := by
  unfold relatedId isAsked isInserted
  rw [askedPair_comm x y, conversationPair_comm x y]

theorem moves_comm (x y : UInt32) : Moves x y = Moves y x := by
  unfold Moves Extends
  rw [conversationPair_comm x y]

theorem kept_comm (x y : UInt32) (start : List MessageRow) : Kept x y start = Kept y x start := by
  funext w
  refine propext ⟨fun h => ⟨h.one, ?_⟩, fun h => ⟨h.one, ?_⟩⟩
  · rw [relatedId_comm]
    exact h.stored
  · rw [relatedId_comm]
    exact h.stored

/-- A call between the two is secure for them, whoever writes. -/
theorem SendCall.secure {x y : UInt32} {c : SendCall} (hc : c.Between x y) (start : List MessageRow)
    (w : World) : SecurePair x y start (fun _ _ => True) c.run w := by
  rcases hc with ⟨rfl, rfl⟩ | ⟨rfl, rfl⟩
  · exact securePair_sendIMMessage
  · rw [SecurePair, kept_comm, moves_comm]
    exact securePair_sendIMMessage

/-- **One id, if the INSERTs run alone.**  For any calls between two users, in both directions, and
    any interleaving of their statements in which no INSERT meets rows of the two: in every state that
    is reached each ordered pair has at most one row, and all messages stored since the start have one
    and the same id. -/
theorem oneRelateId {x y : UInt32} {calls : List SendCall} {w₀ w : World} {tr : List Event}
    {ps : List (Server Bool)} (hcalls : ∀ c ∈ calls, c.Between x y)
    (hone : (w₀.db.imRecentContact.map (·.pair)).Nodup)
    (hrun : Run (Threads.Step StepAlone) (w₀, calls.map SendCall.run) tr (w, ps)) :
    (w.db.imRecentContact.map (·.pair)).Nodup ∧
      ∃ rows relateId, w.db.imMessage = w₀.db.imMessage ++ rows ∧
        ∀ row ∈ rows, row.relateId = relateId := by
  have hkept₀ : Kept x y w₀.db.imMessage w₀ := ⟨hone, [], (List.append_nil _).symm, nofun⟩
  have hsecure : ∀ p ∈ calls.map SendCall.run,
      SecurePair x y w₀.db.imMessage (fun _ _ => True) p w₀ := by
    intro p hp
    obtain ⟨c, hc, rfl⟩ := List.mem_map.mp hp
    exact SendCall.secure (hcalls c hc) _ _
  obtain ⟨hkept, -⟩ := Threads.secured (fun w => .refl _ _ _) (fun _ _ _ h h' => h.trans h') hrun
    hkept₀ hsecure
  obtain ⟨rows, hrows, hall⟩ := hkept.stored
  refine ⟨hkept.one, rows, ((relatedId w.db.imRecentContact x y).map addParam).getD 0, hrows, ?_⟩
  intro row hrow
  obtain ⟨v, hid, hrelate⟩ := hall row hrow
  rw [hrelate, hid]
  rfl

/-! ## Two first messages at once -/

instance (t : List ContactRow) : (c : Cmd) → Decidable (Alone t c)
  | .contact (.insertContacts rows) =>
      inferInstanceAs (Decidable (∀ v ∈ rows, ∀ r ∈ t, r.pair ≠ valuesPair v))
  | .contact (.selectRecent _) | .contact (.updateRemove _ _) | .contact (.selectRelateId _ _)
  | .contact (.selectRelation _ _ _ _) | .contact (.updateRestore _) | .nowMSTime | .user _
  | .department _ | .message _ | .group _ | .file _ | .counter _ | .sendSessionData _ _ =>
      isTrue trivial

/-- Calls that may only go on if they insert alone. -/
def alone (w : World) (c : Cmd) : Bool := decide (Alone w.db.imRecentContact c)

/-- 1 and 2 write to each other, for the first time. -/
def firstMessages : List SendCall := [⟨1, 2, 1, [104, 105], 0⟩, ⟨2, 1, 1, [104, 105], 0⟩]

/-- The calls, from no contacts, in the order of a schedule. -/
def sendInTurn (allowed : World → Cmd → Bool) (schedule : List Nat) :
    List Event × World × List (Server Bool) :=
  Threads.exec respond allowed schedule (emptyWorld, firstMessages.map SendCall.run)

/-- 2 looks for the id when the rows are there already. -/
def insertFirst : List Nat := [1, 0, 0, 0, 0, 0, 1, 0, 1, 0, 1, 0, 1, 0, 1]

/-- Each has looked twice before one of them inserts. -/
def insertTwice : List Nat := [0, 1, 0, 1, 0, 1, 0, 1, 0, 1, 0, 1, 0, 1, 0, 1, 0, 1]

theorem firstMessages_between : ∀ c ∈ firstMessages, c.Between 1 2 := by
  intro c hc
  rcases List.mem_cons.mp hc with rfl | hc
  · exact Or.inl ⟨rfl, rfl⟩
  · obtain rfl := List.mem_singleton.mp hc
    exact Or.inr ⟨rfl, rfl⟩

/-- The first messages of both are under one id. -/
theorem oneRelateId_firstMessages :
    ((sendInTurn alone insertFirst).2.1.db.imRecentContact.map (·.pair)).Nodup ∧
      Done (sendInTurn alone insertFirst).2.2 ∧
      (sendInTurn alone insertFirst).2.1.db.imMessage.map (·.relateId) = [1, 1] := by
  have hrun : Run (Threads.Step StepAlone) (emptyWorld, firstMessages.map SendCall.run)
      (sendInTurn alone insertFirst).1 (sendInTurn alone insertFirst).2 :=
    Threads.exec_run (fun w c hc => ⟨respond_ok w c, of_decide_eq_true hc⟩) _ _
  have hnone : (emptyWorld.db.imRecentContact.map (·.pair)).Nodup := List.nodup_nil
  have hone := (oneRelateId firstMessages_between hnone hrun).1
  exact ⟨hone, done_of_ended (by decide), by decide⟩

/-- Two first messages that take turns make two rows for each pair. -/
theorem not_forall_oneRelateId :
    ¬∀ (x y : UInt32) (calls : List SendCall) (w₀ w : World) (tr : List Event)
        (ps : List (Server Bool)),
      (∀ c ∈ calls, c.Between x y) → (w₀.db.imRecentContact.map (·.pair)).Nodup →
      Run (Threads.Step StepOk) (w₀, calls.map SendCall.run) tr (w, ps) → Done ps →
      (w.db.imRecentContact.map (·.pair)).Nodup ∧
        ∃ rows relateId, w.db.imMessage = w₀.db.imMessage ++ rows ∧
          ∀ row ∈ rows, row.relateId = relateId := by
  intro h
  have hrun : Run (Threads.Step StepOk) (emptyWorld, firstMessages.map SendCall.run)
      (sendInTurn (fun _ _ => true) insertTwice).1 (sendInTurn (fun _ _ => true) insertTwice).2 :=
    Threads.exec_run (fun w c _ => respond_ok w c) _ _
  have hdone : Done (sendInTurn (fun _ _ => true) insertTwice).2.2 := done_of_ended (by decide)
  have htwice : ¬((sendInTurn (fun _ _ => true) insertTwice).2.1.db.imRecentContact.map
      (·.pair)).Nodup := by decide
  have hnone : (emptyWorld.db.imRecentContact.map (·.pair)).Nodup := List.nodup_nil
  exact htwice (h 1 2 _ _ _ _ _ firstMessages_between hnone hrun hdone).1

end Zattd
