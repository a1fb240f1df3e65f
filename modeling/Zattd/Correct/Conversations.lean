/-
  One conversation id for each PAIR of users.

  The id of two users is the key of the row of the smaller id about the other.  `GetRelateId` sorts
  the two before it looks, `AddFriendship` sorts them before it inserts, and the key that an insert
  returns is that of its first row: so both speak of the same row, whoever writes first.  No
  statement deletes a row or changes its key, so an id that has been given stays.
-/
import Zattd.Correct.Contacts

set_option linter.unusedVariables false

namespace Zattd

open Prog ZAresRelationshipManagerImpl ZAresMessageManagerImpl

/-! ## Rows stay -/

/-- What nothing changes in a row: whose it is, about whom, and its key. -/
def ContactRow.ident (r : ContactRow) : (Int × Int) × Int := (r.pair, r.relateId)

/-- The rows are there as they were, but for what may change in them; there may be new ones. -/
def Grown (t t' : List ContactRow) : Prop := t.map ContactRow.ident <+: t'.map ContactRow.ident

theorem Grown.refl (t : List ContactRow) : Grown t t := List.prefix_refl _

theorem Grown.trans {t t' t'' : List ContactRow} (h : Grown t t') (h' : Grown t' t'') : Grown t t'' :=
  List.IsPrefix.trans h h'

theorem grown_append (t new : List ContactRow) : Grown t (t ++ new) := by
  rw [Grown, List.map_append]
  exact List.prefix_append _ _

/-- An update of the status alone. -/
theorem grown_updateStatus (t : List ContactRow) (p : ContactRow → Bool) (v : Int) :
    Grown t (Table.updateAll p (fun r => { r with status := v }) t) := by
  rw [Grown, Table.map_updateAll (by intro r; rfl)]

theorem conversationId_eq (t : List ContactRow) (a b : UInt32) :
    conversationId t a b =
      (((t.map ContactRow.ident).find? fun x => decide (x.1 = conversationPair a b)).map
        fun x => getColumn x.2).getD kInvalidID := by
  rw [conversationId, List.find?_map]
  show _ = ((Option.map _ (t.find? fun r => decide (r.pair = conversationPair a b))).map _).getD _
  cases t.find? fun r => decide (r.pair = conversationPair a b) with
  | none => rfl
  | some r => rfl

/-- **Stability.**  An id that has been given is never another. -/
theorem Grown.conversationId_eq {t t' : List ContactRow} (h : Grown t t') {a b : UInt32}
    (hne : conversationId t a b ≠ kInvalidID) : conversationId t' a b = conversationId t a b := by
  obtain ⟨rest, hrest⟩ := h
  rw [Zattd.conversationId_eq] at hne ⊢
  rw [Zattd.conversationId_eq t, ← hrest, List.find?_append]
  cases hfind : (t.map ContactRow.ident).find? fun x => decide (x.1 = conversationPair a b) with
  | none =>
    rw [hfind] at hne
    exact absurd rfl hne
  | some x => rfl

/-! ## The functions -/

/-- In both cases, `AddFriendship` returns the id of the two. -/
theorem addFriendship_returns {a b relateId : UInt32} {w w' : World} {tr : List Event}
    (ha : IsId a) (hb : IsId b) (hp : Paired w.db.imRecentContact)
    (hrange : InRange w.db.imRecentContact)
    (h : Runs StepOk w (addFriendship a b) tr relateId w') :
    ∃ t, w' = w.setContacts t ∧ Paired t ∧ Grown w.db.imRecentContact t ∧
      relateId = conversationId t a b ∧ (addParam a, addParam b) ∈ t.map (·.pair) := by
  by_cases hmem : (addParam a, addParam b) ∈ w.db.imRecentContact.map (·.pair)
  · have hguard : ¬(a = 0 ∨ b = 0) := not_or.mpr ⟨ha.ne_zero, hb.ne_zero⟩
    simp only [addFriendship, if_neg hguard, runs_bind] at h
    obtain ⟨_, found, w₁, _, hfound, hrest, _⟩ := h
    obtain ⟨-, hiff⟩ := getRelateId_runs ha hb hp hrange hfound
    obtain ⟨rfl, hid⟩ := getRelateId_eq ha hb hp hfound
    rw [if_pos (hiff.mpr hmem)] at hrest
    obtain ⟨-, rfl, rfl⟩ := runs_pure.mp hrest
    exact ⟨_, rfl, hp, .refl _, hid, hmem⟩
  · obtain ⟨new, rfl, hp', -, hnew, hid⟩ := addFriendship_inserts ha hb hp hrange hmem h
    refine ⟨_, rfl, hp', grown_append _ _, hid, ?_⟩
    rw [List.map_append]
    exact List.mem_append_right _ ((hnew _).mpr (Or.inl rfl))

/-- The id under which `SendIMMessage` stores is the id of the two. -/
theorem relateId_runs {a b found relateId : UInt32} {restored : Bool} {w w₁ w₂ w₃ : World}
    {tr₁ tr₂ tr₃ : List Event} (ha : IsId a) (hb : IsId b) (hp : Paired w.db.imRecentContact)
    (hrange : InRange w.db.imRecentContact)
    (hcheck : Runs StepOk w (checkAndUpdateRelation a b) tr₁ restored w₁)
    (hfound : Runs StepOk w₁ (getRelateId a b) tr₂ found w₂)
    (hadd : Runs StepOk w₂ (if found = kInvalidID then addFriendship a b else pure found) tr₃ relateId
      w₃) :
    ∃ t, w₃ = w.setContacts t ∧ Paired t ∧ Grown w.db.imRecentContact t ∧
      relateId = conversationId t a b ∧ (addParam a, addParam b) ∈ t.map (·.pair) := by
  have hw₁ := checkAndUpdateRelation_runs ha hb hp hrange hcheck
  have hp₁ : Paired w₁.db.imRecentContact := by rw [hw₁]; exact hp.updateStatus _ (Or.inl rfl)
  have hgrown : Grown w.db.imRecentContact w₁.db.imRecentContact := by
    rw [hw₁]; exact grown_updateStatus _ _ _
  have hrange₁ : InRange w₁.db.imRecentContact := by rw [hw₁]; exact hrange.updateStatus _ _
  obtain ⟨-, hiff⟩ := getRelateId_runs ha hb hp₁ hrange₁ hfound
  obtain ⟨rfl, hid⟩ := getRelateId_eq ha hb hp₁ hfound
  have hset : ∀ t, w₂.setContacts t = w.setContacts t := by
    intro t
    rw [hw₁]
    rfl
  by_cases hinvalid : found = kInvalidID
  · rw [if_pos hinvalid] at hadd
    obtain ⟨t, hw₃, hp₃, hgrown₃, hid₃, hmem⟩ := addFriendship_returns ha hb hp₁ hrange₁ hadd
    exact ⟨t, hw₃.trans (hset t), hp₃, hgrown.trans hgrown₃, hid₃, hmem⟩
  · rw [if_neg hinvalid] at hadd
    obtain ⟨-, rfl, rfl⟩ := runs_pure.mp hadd
    exact ⟨w₃.db.imRecentContact, hset _, hp₁, hgrown, hid, hiff.mp hinvalid⟩

/-! ## Runs -/

/-- A call that concerns the conversation of two users. -/
inductive PairCall
  | sendIMMessage (fromUserId toUserId type : UInt32) (content : Bytes) (time : UInt32)
  | addFriendship (useraId userbId relateId : UInt32)
  | checkAndUpdateRelation (useraId userbId : UInt32)
  | deleteRecentContactByUserId (userId friendUserId : UInt32)

/-- The two users. -/
def PairCall.users : PairCall → UInt32 × UInt32
  | sendIMMessage f t _ _ _ => (f, t)
  | addFriendship a b _ => (a, b)
  | checkAndUpdateRelation a b => (a, b)
  | deleteRecentContactByUserId u f => (u, f)

/-- One call, every statement of which succeeds.  A friendship is labelled with what it returns. -/
inductive PairCall.Runs (w : World) : PairCall → World → Prop
  | sendIMMessage {f t k time : UInt32} {content : Bytes} {tr : List Event} {isSucess : Bool}
      {w' : World} :
      Prog.Runs StepOk w (ZAresMessageManagerImpl.sendIMMessage f t k content time) tr isSucess w' →
      Runs w (.sendIMMessage f t k content time) w'
  | addFriendship {a b relateId : UInt32} {tr : List Event} {w' : World} :
      Prog.Runs StepOk w (ZAresRelationshipManagerImpl.addFriendship a b) tr relateId w' →
      Runs w (.addFriendship a b relateId) w'
  | checkAndUpdateRelation {a b : UInt32} {tr : List Event} {restored : Bool} {w' : World} :
      Prog.Runs StepOk w (ZAresRelationshipManagerImpl.checkAndUpdateRelation a b) tr restored w' →
      Runs w (.checkAndUpdateRelation a b) w'
  | deleteRecentContactByUserId {u f : UInt32} {tr : List Event} {removed : Bool} {w' : World} :
      Prog.Runs StepOk w (ZAresRelationshipManagerImpl.deleteRecentContactByUserId u f) tr removed w' →
      Runs w (.deleteRecentContactByUserId u f) w'

/-- Such a call for ids in range, after which the keys are in range. -/
structure PairStep (w : World) (call : PairCall) (w' : World) : Prop where
  fst : IsId call.users.1
  snd : IsId call.users.2
  range : InRange w'.db.imRecentContact
  run : call.Runs w w'

/-- The stored message has the id of its two users. -/
def Carries (t : List ContactRow) (row : MessageRow) : Prop :=
  ∃ a b, row.fromUserId = addParam a ∧ row.toUserId = addParam b ∧
    conversationId t a b ≠ kInvalidID ∧ row.relateId = addParam (conversationId t a b)

theorem Carries.grown {t t' : List ContactRow} {row : MessageRow} (h : Carries t row)
    (hgrown : Grown t t') : Carries t' row := by
  obtain ⟨a, b, hfrom, hto, hne, hid⟩ := h
  have heq := hgrown.conversationId_eq hne
  exact ⟨a, b, hfrom, hto, by rwa [heq], by rwa [heq]⟩

/-- **One step.**  The invariant is kept, the rows stay, and what is stored has the id. -/
theorem PairStep.keeps {w w' : World} {call : PairCall} (h : PairStep w call w')
    (hp : Paired w.db.imRecentContact) (hrange : InRange w.db.imRecentContact) :
    Paired w'.db.imRecentContact ∧ Grown w.db.imRecentContact w'.db.imRecentContact ∧
      ∃ rows, w'.db.imMessage = w.db.imMessage ++ rows ∧
        ∀ row ∈ rows, Carries w'.db.imRecentContact row := by
  obtain ⟨ha, hb, hrange', hrun⟩ := h
  have hnothing : ∀ t, ∃ rows, (w.setContacts t).db.imMessage = w.db.imMessage ++ rows ∧
      ∀ row ∈ rows, Carries (w.setContacts t).db.imRecentContact row :=
    fun t => ⟨[], (List.append_nil _).symm, nofun⟩
  cases hrun with
  | @sendIMMessage a b k time content tr isSucess w' hrun =>
    by_cases hguard : a = 0 ∨ b = 0 ∨ content = []
    · simp only [sendIMMessage, if_pos hguard, runs_pure] at hrun
      obtain ⟨-, -, rfl⟩ := hrun
      exact ⟨hp, .refl _, [], (List.append_nil _).symm, nofun⟩
    obtain ⟨restored, found, relateId, w₁, w₂, w₃, tr₁, tr₂, tr₃, row, hcheck, hfound, hadd, -,
      hcontacts, hmessages, hid, hholds⟩ := sendIMMessage_stores hguard hrun
    obtain ⟨t, rfl, hp', hgrown, rfl, hmem⟩ := relateId_runs ha hb hp hrange hcheck hfound hadd
    have hcontacts' : w'.db.imRecentContact = t := hcontacts
    rw [hcontacts'] at hrange' ⊢
    refine ⟨hp', hgrown, [row], hmessages, fun row' hrow' => ?_⟩
    obtain rfl := List.mem_singleton.mp hrow'
    have hne : conversationId t a b ≠ kInvalidID := by
      rw [conversationId_ne_iff hp' hrange', ← ordered_eq]
      exact (ordered_mem_iff hp' a b).mpr hmem
    exact ⟨a, b, hholds.fromUserId, hholds.toUserId, hne, hid⟩
  | addFriendship hrun =>
    obtain ⟨t, rfl, hp', hgrown, -, -⟩ := addFriendship_returns ha hb hp hrange hrun
    exact ⟨hp', hgrown, hnothing t⟩
  | checkAndUpdateRelation hrun =>
    obtain rfl := checkAndUpdateRelation_runs ha hb hp hrange hrun
    exact ⟨hp.updateStatus _ (Or.inl rfl), grown_updateStatus _ _ _, hnothing _⟩
  | deleteRecentContactByUserId hrun =>
    obtain rfl := deleteRecentContactByUserId_runs hp ha hb hrun
    exact ⟨hp.updateStatus _ (Or.inr rfl), grown_updateStatus _ _ _, hnothing _⟩

/-- A run keeps the invariant and the rows, and what it stores has the id. -/
theorem run_keeps {w w' : World} {calls : List PairCall} (hrun : Run PairStep w calls w')
    (hp : Paired w.db.imRecentContact) (hrange : InRange w.db.imRecentContact) :
    Paired w'.db.imRecentContact ∧ InRange w'.db.imRecentContact ∧
      Grown w.db.imRecentContact w'.db.imRecentContact ∧
      ∃ rows, w'.db.imMessage = w.db.imMessage ++ rows ∧
        ∀ row ∈ rows, Carries w'.db.imRecentContact row := by
  induction hrun with
  | nil => exact ⟨hp, hrange, .refl _, [], (List.append_nil _).symm, nofun⟩
  | @snoc calls call w₁ w₂ _ hstep ih =>
    obtain ⟨hp₁, hrange₁, hgrown₁, rows₁, hmessages₁, hcarries₁⟩ := ih
    obtain ⟨hp₂, hgrown₂, rows₂, hmessages₂, hcarries₂⟩ := hstep.keeps hp₁ hrange₁
    refine ⟨hp₂, hstep.range, hgrown₁.trans hgrown₂, rows₁ ++ rows₂, ?_, fun row hrow => ?_⟩
    · rw [hmessages₂, hmessages₁, List.append_assoc]
    · rcases List.mem_append.mp hrow with hrow | hrow
      · exact (hcarries₁ row hrow).grown hgrown₂
      · exact hcarries₂ row hrow

/-! ## One id -/

/-- A run of `GetRelateId` can answer `v`. -/
def Finds (w : World) (a b v : UInt32) : Prop :=
  ∃ tr w', Runs StepOk w (getRelateId a b) tr v w'

/-- The conversation ids of a state, where `rows` are the messages stored on the way to it. -/
structure OneConversation (w : World) (rows : List MessageRow) : Prop where
  /-- An ordered pair has at most one row. -/
  one : ∀ a b, w.db.imRecentContact.countP (ContactRow.isOf (addParam a) (addParam b)) ≤ 1
  /-- The rows of the two sides are there together. -/
  both : ∀ a b, (∃ r ∈ w.db.imRecentContact, r.isOf (addParam a) (addParam b)) ↔
    ∃ r ∈ w.db.imRecentContact, r.isOf (addParam b) (addParam a)
  /-- `GetRelateId` finds the key of the row of the smaller id, in both orders. -/
  found : ∀ a b v, IsId a → IsId b →
    (Finds w a b v ↔ v = conversationId w.db.imRecentContact a b) ∧
    (Finds w b a v ↔ v = conversationId w.db.imRecentContact a b)
  /-- Every message between the two has their id, whoever has written it. -/
  carried : ∀ row ∈ rows, ∀ a b,
    row.fromUserId = addParam a ∧ row.toUserId = addParam b ∨
      row.fromUserId = addParam b ∧ row.toUserId = addParam a →
    conversationId w.db.imRecentContact a b ≠ kInvalidID ∧
      row.relateId = addParam (conversationId w.db.imRecentContact a b)

theorem finds_iff {w : World} (hp : Paired w.db.imRecentContact) {a b v : UInt32} (ha : IsId a)
    (hb : IsId b) : Finds w a b v ↔ v = conversationId w.db.imRecentContact a b := by
  constructor
  · rintro ⟨tr, w', hrun⟩
    exact (getRelateId_eq ha hb hp hrun).2
  · rintro rfl
    have hplay := Prog.play_runs (getRelateId a b) w
    rw [(getRelateId_eq ha hb hp hplay).2] at hplay
    exact ⟨_, _, hplay⟩

theorem Paired.oneId {w : World} {rows : List MessageRow} (hp : Paired w.db.imRecentContact)
    (hcarries : ∀ row ∈ rows, Carries w.db.imRecentContact row) : OneConversation w rows where
  one a b := by
    rw [ContactRow.isOf_eq]
    exact Table.countP_unique hp.pairs _
  both a b := by
    have hiff : ∀ x : Int × Int, (∃ r ∈ w.db.imRecentContact, r.isOf x.1 x.2) ↔
        x ∈ w.db.imRecentContact.map (·.pair) := by
      intro x
      simp [ContactRow.isOf_eq]
    rw [hiff (addParam a, addParam b), hiff (addParam b, addParam a)]
    exact ⟨hp.swap _, hp.swap _⟩
  found a b v ha hb := by
    rw [finds_iff hp ha hb, finds_iff hp hb ha, conversationId_comm _ b a]
    exact ⟨Iff.rfl, Iff.rfl⟩
  carried row hrow a b hbetween := by
    obtain ⟨f, t, hfrom, hto, hne, hid⟩ := hcarries row hrow
    rw [hfrom, hto, addParam_inj, addParam_inj, addParam_inj, addParam_inj] at hbetween
    rcases hbetween with ⟨rfl, rfl⟩ | ⟨rfl, rfl⟩
    · exact ⟨hne, hid⟩
    · rw [conversationId_comm]
      exact ⟨hne, hid⟩

/-- **One stable id for each pair.**  Every state that a run from no contacts reaches has one id for
    each pair (`OneConversation`); an id that has been given stays whatever is called afterwards; and
    what `AddFriendship` returns is the id of its two users. -/
theorem oneConversation {w₀ w : World} {calls : List PairCall} (h₀ : w₀.db.imRecentContact = [])
    (hrun : Run PairStep w₀ calls w) :
    (∃ rows, w.db.imMessage = w₀.db.imMessage ++ rows ∧ OneConversation w rows) ∧
    (∀ calls' w', Run PairStep w calls' w' → ∀ a b,
      conversationId w.db.imRecentContact a b ≠ kInvalidID →
      conversationId w'.db.imRecentContact a b = conversationId w.db.imRecentContact a b) ∧
    ∀ a b relateId w', PairStep w (.addFriendship a b relateId) w' →
      relateId ≠ kInvalidID ∧ relateId = conversationId w'.db.imRecentContact a b := by
  have hnil : InRange w₀.db.imRecentContact := by
    rw [h₀]
    simp [InRange]
  obtain ⟨hp, hrange, -, rows, hrows, hcarries⟩ := run_keeps hrun (by rw [h₀]; exact paired_nil) hnil
  refine ⟨⟨rows, hrows, hp.oneId hcarries⟩, ?_, ?_⟩
  · intro calls' w' hrun' a b hne
    obtain ⟨-, -, hgrown, -⟩ := run_keeps hrun' hp hrange
    exact hgrown.conversationId_eq hne
  · rintro a b relateId w' ⟨ha, hb, hrange', hrun'⟩
    cases hrun' with
    | addFriendship hadd =>
      obtain ⟨t, rfl, hp', -, hreturned, hmem⟩ := addFriendship_returns ha hb hp hrange hadd
      have hid : relateId = conversationId t a b := hreturned
      refine ⟨?_, hid⟩
      rw [hid, conversationId_ne_iff hp' hrange', ← ordered_eq]
      exact (ordered_mem_iff hp' a b).mpr hmem

/-- 1 writes to 2, and then 2 makes friends with 1: the id is 1, the key of the row of 1, and the message
    has it. -/
theorem oneConversation_greet :
    (greet emptyWorld).db.imMessage.map (fun r => (r.fromUserId, r.toUserId, r.relateId)) = [(1, 2, 1)] ∧
      conversationId (greet emptyWorld).db.imRecentContact 2 1 = 1 ∧
      OneConversation (greet emptyWorld) (greet emptyWorld).db.imMessage ∧
      ∃ w', PairStep (greet emptyWorld) (.addFriendship 2 1 1) w' ∧ (1 : UInt32) ≠ kInvalidID ∧
        1 = conversationId w'.db.imRecentContact 2 1 := by
  have hids : IsId 1 ∧ IsId 2 := ⟨⟨by decide, by decide⟩, ⟨by decide, by decide⟩⟩
  have hgreet : PairStep emptyWorld (.sendIMMessage 1 2 1 [104, 105] 0) (greet emptyWorld) :=
    ⟨hids.1, hids.2, by unfold InRange; decide, .sendIMMessage (Prog.play_runs _ _)⟩
  have hplay := Prog.play_runs (addFriendship 2 1) (greet emptyWorld)
  have hvalue : ((addFriendship 2 1).play (greet emptyWorld)).2.1 = 1 := by decide
  rw [hvalue] at hplay
  have hstep : PairStep (greet emptyWorld) (.addFriendship 2 1 1)
      ((addFriendship 2 1).play (greet emptyWorld)).2.2 :=
    ⟨hids.2, hids.1, by unfold InRange; decide, .addFriendship hplay⟩
  obtain ⟨⟨rows, hrows, hone⟩, -, hreturns⟩ := oneConversation rfl (.one hgreet)
  obtain rfl : (greet emptyWorld).db.imMessage = rows := hrows
  exact ⟨by decide, by decide, hone, _, hstep, hreturns 2 1 1 _ hstep⟩

end Zattd
