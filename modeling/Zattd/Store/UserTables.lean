/-
  The tables `IMUsers` and `IMDepartment`, which the server only reads, and its statements on them.
-/
import Zattd.Store.Sql

set_option linter.unusedVariables false

namespace Zattd

/-! ## `IMUsers` -/

/-- A row of `IMUsers`. -/
structure UserRow where
  uname : Bytes
  pwd : Bytes
  id : Int
  status : Int
  title : Bytes
  departId : Int
  sex : Int
  jobNumber : Int
  telphone : Bytes
  mail : Bytes
  position : Bytes
  avatar : Bytes
  nickName : Bytes
  deriving DecidableEq

/-- The statements on `IMUsers`. -/
inductive UserStmt
  /-- `SELECT pwd FROM imusers WHERE uname='%s'` -/
  | selectPwd (uname : Bytes)
  /-- `SELECT uname,id,… FROM imusers WHERE id=%d` -/
  | selectById (id : Int)
  /-- `SELECT uname,id,… FROM IMUsers WHERE id IN (%s)` -/
  | selectByIds (ids : List Int)
  /-- `SELECT uname,id,… FROM imusers WHERE uname in('%s')` -/
  | selectByName (uname : Bytes)
  /-- `SELECT uname,id,… FROM imusers WHERE status = 0 LIMIT 5000` -/
  | selectAll

namespace UserStmt

/-- What a query for rows is answered: NULL, or the rows. -/
abbrev Answer : UserStmt → Type
  | selectPwd _ => Option (List Bytes)
  | selectById _ | selectByIds _ | selectByName _ | selectAll => Option (List UserRow)

/-- `Ok t s a`: on the table `t`, statement `s` succeeds with the answer `a`.  A name that is not
    plain ends its literal early or changes it; what such a statement means is for its sender to
    say, so it may be answered anything, and with what it reads in any other table.  The answer is
    not tied to those tables here: what is said of who looks at what, and when, asks for plain
    names. -/
def Ok (t : List UserRow) : (s : UserStmt) → s.Answer → Prop
  | selectPwd uname, a => isPlain uname = true →
      ∃ rows, Table.Selects (fun r => decide (r.uname = uname)) (fun _ => ()) t rows ∧
        a = some (rows.map (·.pwd))
  | selectById id, a =>
      ∃ rows, Table.Selects (fun r => decide (r.id = id)) (fun _ => ()) t rows ∧ a = some rows
  | selectByIds ids, a =>
      ∃ rows, Table.Selects (fun r => decide (r.id ∈ ids)) (fun _ => ()) t rows ∧ a = some rows
  | selectByName uname, a => isPlain uname = true →
      ∃ rows, Table.Selects (fun r => decide (r.uname = uname)) (fun _ => ()) t rows ∧ a = some rows
  | selectAll, a =>
      ∃ rows, Table.SelectsLimit (fun r => decide (r.status = 0)) (fun _ => ()) 0 5000 t rows ∧
        a = some rows

/-- What a statement that fails may answer. -/
def Fail : (s : UserStmt) → s.Answer → Prop
  | selectPwd _, a => QueryFails a
  | selectById _, a | selectByIds _, a | selectByName _, a | selectAll, a => QueryFails a

/-- The answer in table order. -/
def respond (t : List UserRow) : (s : UserStmt) → s.Answer
  | selectPwd uname =>
      some ((Table.select (fun r => decide (r.uname = uname)) (fun _ => ()) t).map (·.pwd))
  | selectById id => some (Table.select (fun r => decide (r.id = id)) (fun _ => ()) t)
  | selectByIds ids => some (Table.select (fun r => decide (r.id ∈ ids)) (fun _ => ()) t)
  | selectByName uname => some (Table.select (fun r => decide (r.uname = uname)) (fun _ => ()) t)
  | selectAll => some ((Table.select (fun r => decide (r.status = 0)) (fun _ => ()) t).take 5000)

/-- The answer of the reference database is one that the statement may have. -/
theorem respond_ok (t : List UserRow) (s : UserStmt) : Ok t s (respond t s) := by
  cases s with
  | selectPwd uname => exact fun _ => ⟨_, Table.select_selects _ _ _, rfl⟩
  | selectById id => exact ⟨_, Table.select_selects _ _ _, rfl⟩
  | selectByIds ids => exact ⟨_, Table.select_selects _ _ _, rfl⟩
  | selectByName uname => exact fun _ => ⟨_, Table.select_selects _ _ _, rfl⟩
  | selectAll => exact ⟨_, ⟨_, Table.select_selects _ _ _, rfl⟩, rfl⟩

end UserStmt

/-! ## `IMDepartment` -/

/-- A row of `IMDepartment`. -/
structure DepartmentRow where
  id : Int
  title : Bytes
  leader : Int
  pid : Int
  status : Int
  desc : Bytes
  deriving DecidableEq

/-- The statement on `IMDepartment`. -/
inductive DepartmentStmt
  /-- ``SELECT `id`,`title`,`leader`,`pid`,`status`,`desc` FROM IMDepartment WHERE status = 0`` -/
  | selectAll

namespace DepartmentStmt

/-- NULL, or the rows. -/
abbrev Answer (_ : DepartmentStmt) : Type := Option (List DepartmentRow)

/-- `Ok t s a`: on the table `t`, the statement succeeds with the answer `a`. -/
def Ok (t : List DepartmentRow) (s : DepartmentStmt) (a : s.Answer) : Prop :=
  ∃ rows, Table.Selects (fun r => decide (r.status = 0)) (fun _ => ()) t rows ∧ a = some rows

/-- What it may answer when it fails. -/
def Fail (s : DepartmentStmt) (a : s.Answer) : Prop := QueryFails a

/-- The answer in table order. -/
def respond (t : List DepartmentRow) (s : DepartmentStmt) : s.Answer :=
  some (Table.select (fun r => decide (r.status = 0)) (fun _ => ()) t)

theorem respond_ok (t : List DepartmentRow) (s : DepartmentStmt) : Ok t s (respond t s) :=
  ⟨_, Table.select_selects _ _ _, rfl⟩

end DepartmentStmt

end Zattd
