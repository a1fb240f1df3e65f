/-
  The TEXTS of the statements that print a string between quotes.

  `StringPrintf("… '%s' …", s.c_str())` copies the bytes of the string as they are.  The statements
  of the model have `s.c_str()` already; here is what they are in.
-/
import Zattd.Lib.Literal
import Zattd.Store.FileTable
import Zattd.Store.UserTables

set_option linter.unusedVariables false

namespace Zattd

/-- The bytes of a text in ASCII. -/
def ascii (s : String) : Bytes := s.toList.map fun c => c.toNat.toUInt8

/-- The digits of a number. -/
def digits (n : Nat) : Bytes := (Nat.toDigits 10 n).map fun c => c.toNat.toUInt8

/-- `%d`. -/
def decimal : Int → Bytes
  | .ofNat n => digits n
  | .negSucc n => ascii "-" ++ digits (n + 1)

/-- The text of a statement on `imusers` that prints a string between quotes. -/
def UserStmt.text : UserStmt → Option Bytes
  | selectPwd uname => some (ascii "SELECT pwd FROM imusers WHERE uname='" ++ uname ++ ascii "'")
  | selectByName uname =>
      some (ascii "SELECT uname,id,status,title,departid,sex,jobnumber,telphone,mail,position," ++
        ascii "avatar,nickname FROM imusers WHERE uname in('" ++ uname ++ ascii "')")
  | selectById _ | selectByIds _ | selectAll => none

/-- The text of a statement on `IMTransmitFile` that prints a string between quotes by `%s`. -/
def FileStmt.text : FileStmt → Option Bytes
  | selectFile taskId =>
      some (ascii "SELECT id,userId,toUserId,taskId,filePath,status,created,updated,fsize FROM " ++
        ascii "IMTransmitFile WHERE taskId = '" ++ taskId ++ ascii "'")
  | updateDeleted updated taskId =>
      some (ascii "UPDATE IMTransmitFile SET status = 0, updated = " ++ decimal updated ++
        ascii " WHERE taskId = '" ++ taskId ++ ascii "' LIMIT 1")
  | selectUserFiles _ _ | insertFile _ => none

/-! ## Around the string -/

theorem UserStmt.selectPwd_text (uname : Bytes) : (selectPwd uname).text =
    some (ascii "SELECT pwd FROM imusers WHERE uname=" ++
      Literal.quote :: (uname ++ Literal.quote :: [])) := by
  simp [UserStmt.text, ascii, Literal.quote]

theorem UserStmt.selectByName_text (uname : Bytes) : (selectByName uname).text =
    some (ascii "SELECT uname,id,status,title,departid,sex,jobnumber,telphone,mail,position," ++
        ascii "avatar,nickname FROM imusers WHERE uname in(" ++
      Literal.quote :: (uname ++ Literal.quote :: ascii ")")) := by
  simp [UserStmt.text, ascii, Literal.quote]

theorem FileStmt.selectFile_text (taskId : Bytes) : (selectFile taskId).text =
    some (ascii "SELECT id,userId,toUserId,taskId,filePath,status,created,updated,fsize FROM " ++
        ascii "IMTransmitFile WHERE taskId = " ++
      Literal.quote :: (taskId ++ Literal.quote :: [])) := by
  simp [FileStmt.text, ascii, Literal.quote]

theorem FileStmt.updateDeleted_text (updated : Int) (taskId : Bytes) :
    (updateDeleted updated taskId).text =
      some (ascii "UPDATE IMTransmitFile SET status = 0, updated = " ++ decimal updated ++
        ascii " WHERE taskId = " ++ Literal.quote :: (taskId ++ Literal.quote :: ascii " LIMIT 1")) := by
  simp [FileStmt.text, ascii, Literal.quote]

/-- No digit is a quote. -/
theorem quote_notMem_digits (n : Nat) : Literal.quote ∉ digits n := by
  intro h
  obtain ⟨c, hc, heq⟩ := List.mem_map.mp h
  have hdigit := Nat.isDigit_of_mem_toDigits (by decide) (by decide) hc
  have hrange : 48 ≤ c.toNat ∧ c.toNat ≤ 57 := by
    simpa [Char.isDigit, UInt32.le_iff_toNat_le] using hdigit
  have hnat := congrArg UInt8.toNat heq
  rw [UInt8.toNat_ofNat', show Literal.quote.toNat = 39 from rfl] at hnat
  omega

/-- No number has a quote in it. -/
theorem quote_notMem_decimal (n : Int) : Literal.quote ∉ decimal n := by
  cases n with
  | ofNat n => exact quote_notMem_digits n
  | negSucc n =>
    intro h
    rcases List.mem_append.mp h with h | h
    · exact absurd h (by decide)
    · exact quote_notMem_digits _ h

end Zattd
