/-
  Does a string of a request stay DATA in the statement it is printed into?

  `Auth`, `GetUserInfo`, `GetFileRecord` and `DeleteFileRecord` print the string between two quotes
  as it is.  Nothing is escaped: a quote in the string closes the literal, and what comes after it is
  read as SQL; a backslash changes the byte after it, which may be the closing quote; and a NUL ends
  the string early.
-/
import Zattd.Model.ZAresModelModule
import Zattd.Server
import Zattd.Store.SqlText

set_option linter.unusedVariables false

namespace Zattd

open Prog

/-- The text of a command that prints a string between quotes. -/
def Cmd.text : Cmd → Option Bytes
  | .user s => s.text
  | .file s => s.text
  | _ => none

/-- The texts of such statements in a run, in order. -/
def texts (tr : List Event) : List Bytes := tr.filterMap fun e => e.1.text

/-- A function that prints a string, with its other argument. -/
inductive QuotingCall
  | auth (password : Bytes)
  | getUserInfo (userInfo : UserInfo)
  | getFileRecord (file : TransmitFile)
  | deleteFileRecord

namespace QuotingCall

/-- A run of the function on the string `s`, with any outcome of its statement. -/
inductive Runs (s : Bytes) (w : World) : QuotingCall → List Event → World → Prop
  | auth {password : Bytes} {tr : List Event} {isAuthed : Bool} {w' : World} :
      Prog.Runs Step w (ZAresLoginManagerImpl.auth s password) tr isAuthed w' →
      Runs s w (.auth password) tr w'
  | getUserInfo {userInfo : UserInfo} {tr : List Event} {found : Option UserInfo} {w' : World} :
      Prog.Runs Step w (ZAresUserManagerImpl.getUserInfo s userInfo) tr found w' →
      Runs s w (.getUserInfo userInfo) tr w'
  | getFileRecord {file : TransmitFile} {tr : List Event} {found : Option TransmitFile} {w' : World} :
      Prog.Runs Step w (ZAresFileManagerImpl.getFileRecord s file) tr found w' →
      Runs s w (.getFileRecord file) tr w'
  | deleteFileRecord {tr : List Event} {isSucess : Bool} {w' : World} :
      Prog.Runs Step w (ZAresFileManagerImpl.deleteFileRecord s) tr isSucess w' →
      Runs s w .deleteFileRecord tr w'

/-- The template of the statement: what is before the literal, and what is behind it.  The one that
    deletes has the time in it. -/
inductive Template : QuotingCall → Bytes → Bytes → Prop
  | auth {password : Bytes} :
      Template (.auth password) (ascii "SELECT pwd FROM imusers WHERE uname=") []
  | getUserInfo {userInfo : UserInfo} :
      Template (.getUserInfo userInfo)
        (ascii "SELECT uname,id,status,title,departid,sex,jobnumber,telphone,mail,position," ++
        ascii "avatar,nickname FROM imusers WHERE uname in(") (ascii ")")
  | getFileRecord {file : TransmitFile} :
      Template (.getFileRecord file)
        (ascii "SELECT id,userId,toUserId,taskId,filePath,status,created,updated,fsize FROM " ++
        ascii "IMTransmitFile WHERE taskId = ") []
  | deleteFileRecord (updated : UInt32) :
      Template .deleteFileRecord (ascii "UPDATE IMTransmitFile SET status = 0, updated = " ++
        decimal (percentD updated) ++ ascii " WHERE taskId = ") (ascii " LIMIT 1")

end QuotingCall

/-- Each statement that the run prints the string into is the template, with one literal, which
    stands for the string. -/
def StaysData (call : QuotingCall) (s : Bytes) (tr : List Event) : Prop :=
  ∀ text ∈ texts tr, ∃ pre post, call.Template pre post ∧
    Literal.Lexes text (Literal.withLiteral pre s post)

/-- The string is printed as it is, up to a NUL, into one statement; or it is empty, and there is no
    statement. -/
theorem QuotingCall.Runs.texts_eq {call : QuotingCall} {s : Bytes} {w w' : World} {tr : List Event}
    (h : call.Runs s w tr w') : (s = [] ∧ texts tr = []) ∨
      ∃ pre post, call.Template pre post ∧ Literal.quote ∉ pre ∧ Literal.quote ∉ post ∧
        texts tr = [pre ++ Literal.quote :: (cStr s ++ Literal.quote :: post)] := by
  cases h with
  | auth hrun =>
    simp only [ZAresLoginManagerImpl.auth, runs_bind, runs_issue] at hrun
    obtain ⟨_, answ, w₁, tr₂, ⟨_, rfl⟩, hrest, rfl⟩ := hrun
    have hnil : tr₂ = [] := by
      split at hrest <;> exact (runs_pure.mp hrest).1
    subst hnil
    refine Or.inr ⟨_, _, .auth, by simp [ascii, Literal.quote], List.not_mem_nil, ?_⟩
    simp only [texts, List.append_nil, List.filterMap_cons, Cmd.text, UserStmt.selectPwd_text, List.filterMap_nil]
  | getUserInfo hrun =>
    by_cases hempty : s = []
    · rw [ZAresUserManagerImpl.getUserInfo, if_pos hempty] at hrun
      obtain ⟨rfl, -, -⟩ := runs_pure.mp hrun
      exact Or.inl ⟨hempty, rfl⟩
    simp only [ZAresUserManagerImpl.getUserInfo, if_neg hempty, runs_bind, runs_issue] at hrun
    obtain ⟨_, answ, w₁, tr₂, ⟨_, rfl⟩, hrest, rfl⟩ := hrun
    have hnil : tr₂ = [] := by
      split at hrest <;> exact (runs_pure.mp hrest).1
    subst hnil
    refine Or.inr ⟨_, _, .getUserInfo, by simp [ascii, Literal.quote], by simp [ascii, Literal.quote], ?_⟩
    simp only [texts, List.append_nil, List.filterMap_cons, Cmd.text, UserStmt.selectByName_text, List.filterMap_nil]
  | getFileRecord hrun =>
    by_cases hempty : s = []
    · rw [ZAresFileManagerImpl.getFileRecord, if_pos hempty] at hrun
      obtain ⟨rfl, -, -⟩ := runs_pure.mp hrun
      exact Or.inl ⟨hempty, rfl⟩
    simp only [ZAresFileManagerImpl.getFileRecord, if_neg hempty, runs_bind, runs_issue] at hrun
    obtain ⟨_, answ, w₁, tr₂, ⟨_, rfl⟩, hrest, rfl⟩ := hrun
    have hnil : tr₂ = [] := by
      split at hrest <;> exact (runs_pure.mp hrest).1
    subst hnil
    refine Or.inr ⟨_, _, .getFileRecord, by simp [ascii, Literal.quote], List.not_mem_nil, ?_⟩
    simp only [texts, List.append_nil, List.filterMap_cons, Cmd.text, FileStmt.selectFile_text, List.filterMap_nil]
  | deleteFileRecord hrun =>
    by_cases hempty : s = []
    · rw [ZAresFileManagerImpl.deleteFileRecord, if_pos hempty] at hrun
      obtain ⟨rfl, -, -⟩ := runs_pure.mp hrun
      exact Or.inl ⟨hempty, rfl⟩
    simp only [ZAresFileManagerImpl.deleteFileRecord, if_neg hempty, runs_bind, runs_issue,
      runs_pure] at hrun
    obtain ⟨_, now, w₁, _, ⟨_, rfl⟩, ⟨_, n, w₂, _, ⟨_, rfl⟩, ⟨rfl, -, -⟩, rfl⟩, rfl⟩ := hrun
    refine Or.inr ⟨_, _, .deleteFileRecord now.toUInt32, ?_, by simp [ascii, Literal.quote], ?_⟩
    · simp only [List.mem_append, not_or]
      exact ⟨⟨by simp [ascii, Literal.quote], quote_notMem_decimal _⟩, by simp [ascii, Literal.quote]⟩
    · simp only [texts, List.append_nil, List.singleton_append, List.filterMap_cons, Cmd.text,
        FileStmt.updateDeleted_text, List.filterMap_nil]

/-- A string that stays data is a literal for itself, and is printed whole. -/
theorem StaysData.verbatim {call : QuotingCall} {s : Bytes} {w w' : World} {tr : List Event}
    (hdata : StaysData call s tr) (h : call.Runs s w tr w') :
    0 ∉ s ∧ Literal.isVerbatim s = true := by
  rcases h.texts_eq with ⟨rfl, -⟩ | ⟨pre, post, htemplate, hpre, hpost, htexts⟩
  · exact ⟨List.not_mem_nil, rfl⟩
  have hhead : post.head? ≠ some Literal.quote := fun hq => hpost (List.mem_of_head? hq)
  unfold StaysData at hdata
  rw [htexts] at hdata
  obtain ⟨pre', post', htemplate', hlexes⟩ := hdata _ List.mem_cons_self
  have hpost' : post' = post := by
    cases htemplate <;> cases htemplate' <;> rfl
  rw [hpost', Literal.lexes_withLiteral_iff hpre hpost] at hlexes
  obtain ⟨hle, hsame⟩ := Literal.readBody_printed hhead hlexes.2
  -- what is printed is no longer than the string, so it is the string
  have hpart : cStr s <+: s := List.takeWhile_prefix _
  have hwhole : cStr s = s := hpart.eq_of_length (le_antisymm hpart.length_le hle)
  obtain ⟨-, hverbatim⟩ := hsame (by rw [hwhole])
  rw [hwhole] at hverbatim
  refine ⟨fun h0 => ?_, hverbatim⟩
  have hne := List.mem_takeWhile_imp (show (0 : UInt8) ∈ cStr s by rw [hwhole]; exact h0)
  simp at hne

/-- **Data stays data** if and only if the string has no NUL and is a literal for itself: it has no
    quote, and a backslash only before `%` and before `_`. -/
theorem staysData_iff {call : QuotingCall} {s : Bytes} {w w' : World} {tr : List Event}
    (h : call.Runs s w tr w') :
    StaysData call s tr ↔ 0 ∉ s ∧ Literal.isVerbatim s = true := by
  refine ⟨fun hdata => hdata.verbatim h, ?_⟩
  rintro ⟨h0, hverbatim⟩ text htext
  rcases h.texts_eq with ⟨-, htexts⟩ | ⟨pre, post, htemplate, hpre, hpost, htexts⟩
  · rw [htexts] at htext
    cases htext
  rw [htexts] at htext
  obtain rfl := List.mem_singleton.mp htext
  refine ⟨pre, post, htemplate, ?_⟩
  rw [Literal.lexes_withLiteral_iff hpre hpost, cStr_eq h0]
  exact ⟨rfl, (Literal.readBody_iff fun hq => hpost (List.mem_of_head? hq)).mpr hverbatim⟩

/-! ## A name with a quote in it -/

/-- What `Auth` does with a name. -/
def authTrace (s : Bytes) : List Event := ((ZAresLoginManagerImpl.auth s []).play emptyWorld).1

theorem auth_runs (s : Bytes) : ∃ w', QuotingCall.Runs s emptyWorld (.auth []) (authTrace s) w' :=
  ⟨_, .auth ((Prog.play_runs _ emptyWorld).mono fun _ _ _ _ => StepOk.step)⟩

/-- The name `joe`, and a statement with it. -/
theorem staysData_iff_joe : (authTrace [106, 111, 101]).length = 1 ∧
    StaysData (.auth []) [106, 111, 101] (authTrace [106, 111, 101]) := by
  obtain ⟨w', hrun⟩ := auth_runs [106, 111, 101]
  exact ⟨by decide, (staysData_iff hrun).mpr (by decide)⟩

/-- The name `x' OR '1'='1`. -/
def otherCondition : Bytes := [120, 39, 32, 79, 82, 32, 39, 49, 39, 61, 39, 49]

/-- It becomes part of the condition. -/
theorem not_forall_staysData :
    ¬∀ (call : QuotingCall) (s : Bytes) (w w' : World) (tr : List Event),
      call.Runs s w tr w' → StaysData call s tr := by
  intro h
  obtain ⟨w', hrun⟩ := auth_runs otherCondition
  exact absurd ((h _ _ _ _ _ hrun).verbatim hrun).2 (by decide)

end Zattd
