/-
  What passes between the program and the database: how values are rendered into a statement, how
  columns are read back, and what a statement answers when it FAILS.

  The program prints the same `uint32` in two ways.  `StringPrintf("%d")` and `%i` print its 32 bits
  as a SIGNED number; `UintToString`, `JoinString` and `QueryParam::AddParam` print it unsigned.  A
  column holds the integer that was printed; `GetColumn` reads back the low 32 bits.
-/
import Zattd.Lib.Stream
import Zattd.Lib.Table

set_option linter.unusedVariables false

namespace Zattd

/-! ## Rendering -/

/-- `%d`, `%i`. -/
def percentD (v : UInt32) : Int := v.toInt32.toInt

/-- `UintToString`, and each element of `JoinString`. -/
def uintToString (v : UInt32) : Int := v.toNat

/-- `QueryParam::AddParam(uint32*)`. -/
def addParam (v : UInt32) : Int := v.toNat

/-- `QueryAnswer::GetColumn(i, uint32*)`. -/
def getColumn (v : Int) : UInt32 := .ofInt v

/-- `s.c_str()` where only the pointer is passed on: the bytes up to the first NUL. -/
def cStr (s : Bytes) : Bytes := s.takeWhile (· ≠ 0)

/-- No quote and no backslash: between single quotes, the string is a literal for itself. -/
def isPlain (s : Bytes) : Bool := s.all fun c => c ≠ 39 && c ≠ 92

/-- A string without NUL is not cut off. -/
theorem cStr_eq {s : Bytes} (h : 0 ∉ s) : cStr s = s := by
  apply List.takeWhile_eq_self_iff.mpr
  intro c hc
  have hne : c ≠ 0 := fun h0 => h (h0 ▸ hc)
  simpa using hne

/-- Reading a column back inverts both renderings. -/
@[simp] theorem getColumn_toNat (v : UInt32) : getColumn (v.toNat : Int) = v := by
  have hlt := v.toNat_lt
  have hmod : (v.toNat : Int) % 2 ^ 32 = v.toNat := by omega
  rw [getColumn, UInt32.ofInt, hmod, Int.toNat_natCast, UInt32.ofNat_toNat]

/-- A number that is printed with `%d` is read back from its column, whatever its sign. -/
@[simp] theorem getColumn_percentD (v : UInt32) : getColumn (percentD v) = v := by
  have hlt := v.toNat_lt
  have hv : percentD v = v.toNat ∨ percentD v = v.toNat - 4294967296 := by
    rw [percentD, ← Int32.toInt_toBitVec, UInt32.toBitVec_toInt32, BitVec.toInt_eq_toNat_cond]
    simp only [UInt32.toNat_toBitVec]
    omega
  -- the two values differ by 2^32, which the column read takes away
  have hmod : percentD v % 2 ^ 32 = v.toNat := by omega
  rw [getColumn, UInt32.ofInt, hmod, Int.toNat_natCast, UInt32.ofNat_toNat]

/-- Below 2^31 the two renderings agree. -/
theorem percentD_eq {v : UInt32} (h : v.toNat < 2 ^ 31) : percentD v = v.toNat := by
  rw [percentD, ← Int32.toInt_toBitVec, UInt32.toBitVec_toInt32, BitVec.toInt_eq_toNat_of_lt]
  · rfl
  · simp only [UInt32.toNat_toBitVec]; omega

/-- So is one that is printed without a sign. -/
@[simp] theorem getColumn_uintToString (v : UInt32) : getColumn (uintToString v) = v :=
  getColumn_toNat v

@[simp] theorem getColumn_addParam (v : UInt32) : getColumn (addParam v) = v := getColumn_toNat v

@[simp] theorem uintToString_inj {v w : UInt32} : uintToString v = uintToString w ↔ v = w := by
  simp [uintToString, UInt32.toNat_inj]

@[simp] theorem addParam_inj {v w : UInt32} : addParam v = addParam w ↔ v = w := uintToString_inj

/-! ## Failure -/

/-- A failed query answers NULL. -/
def QueryFails {α : Type} (a : Option α) : Prop := a = none

/-- A failed `Execute` has changed and inserted no row, and does not answer that it has. -/
def ExecuteFails (a : Int) : Prop := a ≤ 0

/-- A failed `ExecuteInsertID` has no key to answer: 0, or -1 as an unsigned number. -/
def InsertIdFails (a : UInt64) : Prop := a = 0 ∨ a = UInt64.ofInt (-1)

end Zattd
