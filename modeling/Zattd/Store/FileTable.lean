/-
  The table `IMTransmitFile` and the server's statements on it.
-/
import Zattd.Store.Sql

set_option linter.unusedVariables false

namespace Zattd

/-- A row of `IMTransmitFile`; `status` is 1 for a file that is waiting for its receiver. -/
structure FileRow where
  id : Int
  userId : Int
  toUserId : Int
  taskId : Bytes
  filePath : Bytes
  status : Int
  created : Int
  updated : Int
  fsize : Int
  deriving DecidableEq

/-- The columns an INSERT gives. -/
structure FileValues where
  userId : Int
  toUserId : Int
  taskId : Bytes
  filePath : Bytes
  created : Int
  updated : Int
  fsize : Int

/-- The key comes from the server, and `status` from the column's default. -/
def FileValues.row (v : FileValues) (id : Int) : FileRow where
  id := id
  userId := v.userId
  toUserId := v.toUserId
  taskId := v.taskId
  filePath := v.filePath
  status := 1
  created := v.created
  updated := v.updated
  fsize := v.fsize

/-- A parameter of `MakeQueryString`. -/
inductive QueryParam
  | uint32 (v : UInt32)
  | text (s : Bytes)

/-- `MakeQueryString` on a list of VALUES: the parameters take the place of the placeholders, in
    order.  The template is given by the number of placeholders between each two commas.  A
    statement that has not exactly one parameter in each place is no statement: `none`. -/
def makeQueryString : List Nat → List QueryParam → Option (List QueryParam)
  | [], [] => some []
  | 1 :: cells, p :: ps => (makeQueryString cells ps).map (p :: ·)
  | _, _ => none

/-- The seven values of an INSERT into `IMTransmitFile`, if they are of the columns' types. -/
def FileValues.ofParams : List QueryParam → Option FileValues
  | [.uint32 userId, .uint32 toUserId, .text taskId, .text filePath, .uint32 created,
      .uint32 updated, .uint32 fsize] =>
    some ⟨addParam userId, addParam toUserId, taskId, filePath, addParam created, addParam updated,
      addParam fsize⟩
  | _ => none

/-- The statements on `IMTransmitFile`. -/
inductive FileStmt
  /-- `SELECT id,userId,toUserId,taskId,filePath,status,created,updated,fsize FROM IMTransmitFile
      WHERE toUserId = %d AND created > %d AND status = 1 ORDER BY created DESC LIMIT 50` -/
  | selectUserFiles (toUserId created : Int)
  /-- `INSERT INTO IMTransmitFile (userId, toUserId, taskId, filePath, created, updated,fsize)
      VALUES (…)` -/
  | insertFile (values : Option FileValues)
  /-- `UPDATE IMTransmitFile SET status = 0, updated = %d WHERE taskId = '%s' LIMIT 1` -/
  | updateDeleted (updated : Int) (taskId : Bytes)
  /-- `SELECT id,userId,toUserId,taskId,filePath,status,created,updated,fsize FROM IMTransmitFile
      WHERE taskId = '%s'` -/
  | selectFile (taskId : Bytes)

namespace FileStmt

/-- Rows or NULL; the number of rows changed or inserted. -/
abbrev Answer : FileStmt → Type
  | selectUserFiles _ _ | selectFile _ => Option (List FileRow)
  | insertFile _ | updateDeleted _ _ => Int

/-- `Ok t s a t'`: on the table `t`, statement `s` succeeds with the answer `a` and leaves `t'`.
    What is not a statement is answered like one that fails; what is done with a task id that is
    not plain is for its sender to say, and it may be answered with what it reads in any other table.
    So what is said of who looks at what asks for plain task ids. -/
def Ok (t : List FileRow) : (s : FileStmt) → s.Answer → List FileRow → Prop
  | selectUserFiles toUserId created, a, t' => t' = t ∧
      ∃ rows, Table.SelectsLimit
        (fun r => decide (r.toUserId = toUserId ∧ created < r.created ∧ r.status = 1))
        (fun r => -r.created) 0 50 t rows ∧ a = some rows
  | insertFile none, a, t' => t' = t ∧ ExecuteFails a
  | insertFile (some values), a, t' =>
      ∃ keys, Table.Inserts (·.id) [values.row] t keys t' ∧ a = (1 : Int)
  | updateDeleted updated taskId, a, t' => isPlain taskId = true →
      ∃ n, Table.UpdatesLimit (fun r => decide (r.taskId = taskId))
        (fun r => { r with status := 0, updated := updated }) 1 t n t' ∧ a = (n : Int)
  | selectFile taskId, a, t' => t' = t ∧ (isPlain taskId = true →
      ∃ rows, Table.Selects (fun r => decide (r.taskId = taskId)) (fun _ => ()) t rows ∧
        a = some rows)

/-- What a statement that fails may answer; it leaves the table as it is. -/
def Fail : (s : FileStmt) → s.Answer → Prop
  | selectUserFiles _ _, a | selectFile _, a => QueryFails a
  | insertFile _, a | updateDeleted _ _, a => ExecuteFails a

/-- One way to succeed. -/
def respond (t : List FileRow) : (s : FileStmt) → s.Answer × List FileRow
  | selectUserFiles toUserId created =>
      (some ((Table.select
        (fun r => decide (r.toUserId = toUserId ∧ created < r.created ∧ r.status = 1))
        (fun r => -r.created) t).take 50), t)
  | insertFile none => ((-1 : Int), t)
  | insertFile (some values) => ((1 : Int), Table.insert (·.id) [values.row] t)
  | updateDeleted updated taskId =>
      let res := Table.updateFirst (fun r => decide (r.taskId = taskId))
        (fun r => { r with status := 0, updated := updated }) 1 t
      ((res.1 : Int), res.2)
  | selectFile taskId =>
      (some (Table.select (fun r => decide (r.taskId = taskId)) (fun _ => ()) t), t)

/-- The answer of the reference database is one that the statement may have. -/
theorem respond_ok (t : List FileRow) (s : FileStmt) : Ok t s (respond t s).1 (respond t s).2 := by
  rcases s with ⟨toUserId, created⟩ | ⟨_ | values⟩ | ⟨updated, taskId⟩ | ⟨taskId⟩
  · exact ⟨rfl, _, ⟨_, Table.select_selects _ _ _, rfl⟩, rfl⟩
  · exact ⟨rfl, show (-1 : Int) ≤ 0 by decide⟩
  · exact ⟨_, Table.insert_inserts _ _ _, rfl⟩
  · exact fun _ => ⟨_, Table.updateFirst_updates _ _ _ _, rfl⟩
  · exact ⟨rfl, fun _ => ⟨_, Table.select_selects _ _ _, rfl⟩⟩

end FileStmt

end Zattd
