/-
  The table `IMRecentContact` and the server's statements on it.

  A pair of users that have talked has TWO rows, one from the point of view of each; `status` is 0
  for a contact in the list and 1 for one its user has removed.  `relateId` is the AUTO_INCREMENT
  key.
-/
import Zattd.Store.Sql

set_option linter.unusedVariables false

namespace Zattd

/-- A row of `IMRecentContact`. -/
structure ContactRow where
  relateId : Int
  userId : Int
  friendUserId : Int
  status : Int
  created : Int
  updated : Int
  deriving DecidableEq

/-- The columns an INSERT gives; it leaves the key to the server. -/
structure ContactValues where
  userId : Int
  friendUserId : Int
  status : Int
  created : Int
  updated : Int

def ContactValues.row (v : ContactValues) (relateId : Int) : ContactRow where
  relateId := relateId
  userId := v.userId
  friendUserId := v.friendUserId
  status := v.status
  created := v.created
  updated := v.updated

/-- The row is the one of `userId` about `friendUserId`. -/
def ContactRow.isOf (userId friendUserId : Int) (r : ContactRow) : Bool :=
  decide (r.userId = userId ∧ r.friendUserId = friendUserId)

@[simp] theorem ContactRow.isOf_iff {userId friendUserId : Int} {r : ContactRow} :
    r.isOf userId friendUserId = true ↔ r.userId = userId ∧ r.friendUserId = friendUserId :=
  decide_eq_true_iff

/-- The statements on `IMRecentContact`. -/
inductive ContactStmt
  /-- `SELECT relateId,friendUserId,status,created,updated FROM IMRecentContact WHERE userId = %d AND
      status = 0 ORDER BY updated DESC, relateId DESC LIMIT 100` -/
  | selectRecent (userId : Int)
  /-- `UPDATE IMRecentContact SET status = 1 WHERE userId = %d AND friendUserId = %d LIMIT 1` -/
  | updateRemove (userId friendUserId : Int)
  /-- `SELECT relateId FROM IMRecentContact WHERE userId = %i and friendUserId = %i limit 1` -/
  | selectRelateId (userId friendUserId : Int)
  /-- `SELECT relateId,status FROM IMRecentContact WHERE (userId=:1 AND friendUserId=:2) OR
      (userId=:3 AND friendUserId=:4) LIMIT 2` -/
  | selectRelation (p₁ p₂ p₃ p₄ : Int)
  /-- `UPDATE IMRecentContact SET status = 0 WHERE relateId in (%s) LIMIT 4` -/
  | updateRestore (relateIds : List Int)
  /-- ``INSERT INTO IMRecentContact(`userId`,`friendUserId`,`status`,`created`,`updated`) VALUES …`` -/
  | insertContacts (rows : List ContactValues)

namespace ContactStmt

/-- Rows or NULL; the number of rows changed; the key of the first row inserted. -/
abbrev Answer : ContactStmt → Type
  | selectRecent _ | selectRelateId _ _ | selectRelation _ _ _ _ => Option (List ContactRow)
  | updateRemove _ _ | updateRestore _ => Int
  | insertContacts _ => UInt64

/-- `Ok t s a t'`: on the table `t`, statement `s` succeeds with the answer `a` and leaves `t'`. -/
def Ok (t : List ContactRow) : (s : ContactStmt) → s.Answer → List ContactRow → Prop
  | selectRecent userId, a, t' => t' = t ∧
      ∃ rows, Table.SelectsLimit (fun r => decide (r.userId = userId ∧ r.status = 0))
        (fun r => toLex (-r.updated, -r.relateId)) 0 100 t rows ∧ a = some rows
  | updateRemove userId friendUserId, a, t' =>
      ∃ n, Table.UpdatesLimit (ContactRow.isOf userId friendUserId)
        (fun r => { r with status := 1 }) 1 t n t' ∧ a = (n : Int)
  | selectRelateId userId friendUserId, a, t' => t' = t ∧
      ∃ rows, Table.SelectsLimit (ContactRow.isOf userId friendUserId) (fun _ => ()) 0 1 t rows ∧
        a = some rows
  | selectRelation p₁ p₂ p₃ p₄, a, t' => t' = t ∧
      ∃ rows, Table.SelectsLimit (fun r => r.isOf p₁ p₂ || r.isOf p₃ p₄) (fun _ => ()) 0 2 t rows ∧
        a = some rows
  | updateRestore relateIds, a, t' =>
      ∃ n, Table.UpdatesLimit (fun r => decide (r.relateId ∈ relateIds))
        (fun r => { r with status := 0 }) 4 t n t' ∧ a = (n : Int)
  | insertContacts rows, a, t' =>
      ∃ keys, Table.Inserts (·.relateId) (rows.map ContactValues.row) t keys t' ∧
        a = UInt64.ofInt (keys.headD 0)

/-- What a statement that fails may answer; it leaves the table as it is. -/
def Fail : (s : ContactStmt) → s.Answer → Prop
  | selectRecent _, a | selectRelateId _ _, a | selectRelation _ _ _ _, a => QueryFails a
  | updateRemove _ _, a | updateRestore _, a => ExecuteFails a
  | insertContacts _, a => InsertIdFails a

/-- One way to succeed. -/
def respond (t : List ContactRow) : (s : ContactStmt) → s.Answer × List ContactRow
  | selectRecent userId =>
      (some ((Table.select (fun r => decide (r.userId = userId ∧ r.status = 0))
        (fun r => toLex (-r.updated, -r.relateId)) t).take 100), t)
  | updateRemove userId friendUserId =>
      let res := Table.updateFirst (ContactRow.isOf userId friendUserId)
        (fun r => { r with status := 1 }) 1 t
      ((res.1 : Int), res.2)
  | selectRelateId userId friendUserId =>
      (some ((Table.select (ContactRow.isOf userId friendUserId) (fun _ => ()) t).take 1), t)
  | selectRelation p₁ p₂ p₃ p₄ =>
      (some ((Table.select (fun r => r.isOf p₁ p₂ || r.isOf p₃ p₄) (fun _ => ()) t).take 2), t)
  | updateRestore relateIds =>
      let res := Table.updateFirst (fun r => decide (r.relateId ∈ relateIds))
        (fun r => { r with status := 0 }) 4 t
      ((res.1 : Int), res.2)
  | insertContacts rows =>
      (UInt64.ofInt ((Table.nextKeys (·.relateId) (rows.map ContactValues.row).length t).headD 0),
        Table.insert (·.relateId) (rows.map ContactValues.row) t)

/-- The answer of the reference database is one that the statement may have. -/
theorem respond_ok (t : List ContactRow) (s : ContactStmt) :
    Ok t s (respond t s).1 (respond t s).2 := by
  cases s with
  | selectRecent userId => exact ⟨rfl, _, ⟨_, Table.select_selects _ _ _, rfl⟩, rfl⟩
  | updateRemove userId friendUserId => exact ⟨_, Table.updateFirst_updates _ _ _ _, rfl⟩
  | selectRelateId userId friendUserId => exact ⟨rfl, _, ⟨_, Table.select_selects _ _ _, rfl⟩, rfl⟩
  | selectRelation p₁ p₂ p₃ p₄ => exact ⟨rfl, _, ⟨_, Table.select_selects _ _ _, rfl⟩, rfl⟩
  | updateRestore relateIds => exact ⟨_, Table.updateFirst_updates _ _ _ _, rfl⟩
  | insertContacts rows => exact ⟨_, Table.insert_inserts _ _ _, rfl⟩

end ContactStmt

end Zattd
