/-
  The table `IMMessage` and the server's statements on it.
-/
import Zattd.Store.Sql

set_option linter.unusedVariables false

namespace Zattd

/-- A row of `IMMessage`. -/
structure MessageRow where
  id : Int
  relateId : Int
  fromUserId : Int
  toUserId : Int
  content : Bytes
  type : Int
  status : Int
  created : Int
  updated : Int
  deriving DecidableEq

/-- The columns an INSERT gives. -/
structure MessageValues where
  relateId : Int
  fromUserId : Int
  toUserId : Int
  content : Bytes
  type : Int
  created : Int
  updated : Int

/-- The key comes from the server, and `status` from the column's default. -/
def MessageValues.row (v : MessageValues) (id : Int) : MessageRow where
  id := id
  relateId := v.relateId
  fromUserId := v.fromUserId
  toUserId := v.toUserId
  content := v.content
  type := v.type
  status := 0
  created := v.created
  updated := v.updated

/-- The statements on `IMMessage`. -/
inductive MessageStmt
  /-- `SELECT id,relateId,type,content,status,created,updated FROM IMMessage WHERE relateId=%d AND
      fromUserId = %d AND toUserId = %d AND status = 0 ORDER BY created DESC, id DESC
      LIMIT %d, %d` -/
  | selectMessages (relateId fromUserId toUserId offset count : Int)
  /-- ``INSERT INTO IMMessage(`relateId`,`fromUserId`,`toUserId`,`content`,`type`,`created`,
      `updated`) VALUES(:1,:2,:3,:4,:5,:6,:7)`` -/
  | insertMessage (values : MessageValues)

namespace MessageStmt

/-- Rows or NULL; the number of rows inserted. -/
abbrev Answer : MessageStmt → Type
  | selectMessages _ _ _ _ _ => Option (List MessageRow)
  | insertMessage _ => Int

/-- The condition of the query. -/
def isFrom (relateId fromUserId toUserId : Int) (r : MessageRow) : Bool :=
  decide (r.relateId = relateId ∧ r.fromUserId = fromUserId ∧ r.toUserId = toUserId ∧ r.status = 0)

/-- `Ok t s a t'`: on the table `t`, statement `s` succeeds with the answer `a` and leaves `t'`.
    A negative limit is a syntax error. -/
def Ok (t : List MessageRow) : (s : MessageStmt) → s.Answer → List MessageRow → Prop
  | selectMessages relateId fromUserId toUserId offset count, a, t' => t' = t ∧
      if offset < 0 ∨ count < 0 then QueryFails a
      else ∃ rows, Table.SelectsLimit (isFrom relateId fromUserId toUserId)
        (fun r => toLex (-r.created, -r.id)) offset.toNat count.toNat t rows ∧ a = some rows
  | insertMessage values, a, t' =>
      ∃ keys, Table.Inserts (·.id) [values.row] t keys t' ∧ a = (1 : Int)

/-- What a statement that fails may answer; it leaves the table as it is. -/
def Fail : (s : MessageStmt) → s.Answer → Prop
  | selectMessages _ _ _ _ _, a => QueryFails a
  | insertMessage _, a => ExecuteFails a

/-- One way to succeed. -/
def respond (t : List MessageRow) : (s : MessageStmt) → s.Answer × List MessageRow
  | selectMessages relateId fromUserId toUserId offset count =>
      (if offset < 0 ∨ count < 0 then none
        else some (((Table.select (isFrom relateId fromUserId toUserId)
          (fun r => toLex (-r.created, -r.id)) t).drop offset.toNat).take count.toNat), t)
  | insertMessage values => ((1 : Int), Table.insert (·.id) [values.row] t)

/-- The answer of the reference database is one that the statement may have. -/
theorem respond_ok (t : List MessageRow) (s : MessageStmt) :
    Ok t s (respond t s).1 (respond t s).2 := by
  cases s with
  | selectMessages relateId fromUserId toUserId offset count =>
    refine ⟨rfl, ?_⟩
    by_cases h : offset < 0 ∨ count < 0
    · rw [if_pos h]; exact if_pos h
    · rw [if_neg h]; exact ⟨_, ⟨_, Table.select_selects _ _ _, rfl⟩, if_neg h⟩
  | insertMessage values => exact ⟨_, Table.insert_inserts _ _ _, rfl⟩

end MessageStmt

end Zattd
