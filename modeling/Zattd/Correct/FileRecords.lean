/-
  Does `true` mean that an offline file has been SAVED, or deleted?

  Both functions reject what their guard rejects, and return `true` otherwise: what `Execute` answers is
  compared with 0 only to be logged.  The INSERT has two placeholders without a comma between them,
  `:4:5`, so it is no statement and inserts nothing, ever.  The UPDATE of a deletion is one, so there
  `true` is right exactly when the UPDATE has changed a row.
-/
import Zattd.Correct.FileTasks

set_option linter.unusedVariables false

namespace Zattd

open Prog ZAresFileManagerImpl

/-- A change of an offline file. -/
inductive FileChange
  | save (userId toUserId : UInt32) (taskId filePath : Bytes) (fileSize : UInt32)
  | delete (taskId : Bytes)

namespace FileChange

/-- The function that makes it. -/
def run : FileChange → Server Bool
  | save userId toUserId taskId filePath fileSize =>
      saveFileRecord userId toUserId taskId filePath fileSize
  | delete taskId => deleteFileRecord taskId

/-- `t'` is `t` with the change made: one more row, with the arguments in its columns; or the status of
    one row of the task set to 0. -/
def Stored (t t' : List FileRow) : FileChange → Prop
  | save userId toUserId taskId filePath fileSize => ∃ row : FileRow,
      row.userId = addParam userId ∧ row.toUserId = addParam toUserId ∧ row.taskId = taskId ∧
      row.filePath = filePath ∧ row.fsize = addParam fileSize ∧ t'.Perm (row :: t)
  | delete taskId => ∃ (i : Nat) (row : FileRow) (updated : Int), t[i]? = some row ∧
      row.taskId = taskId ∧ t' = t.set i (row.deleted updated) ∧ t' ≠ t

/-- The result `ok` tells the truth: true exactly if the change is made, and if it is false the table is
    as it was. -/
structure Truthful (change : FileChange) (t t' : List FileRow) (ok : Bool) : Prop where
  stored : ok = true ↔ change.Stored t t'
  unchanged : ok = false → t' = t

/-- The guards on the arguments. -/
def isRejected : FileChange → Bool
  | save userId toUserId _ filePath _ => userId = 0 || toUserId = 0 || filePath = []
  | delete taskId => taskId = []

/-- The UPDATE of a deletion has changed a row of the task.  With a plain id in its text, this is what
    its answer says, and the id is the task's if it is not cut off at a NUL.  With a quote or a backslash
    the text is another statement, which may answer for any other rows: nothing is known of it but the
    table that it leaves, and that must have the change. -/
def Updates (t t' : List FileRow) (tr : List Event) : FileChange → Prop
  | save .. => False
  | delete taskId =>
      if isPlain (cStr taskId) = true then
        0 ∉ taskId ∧ ∃ updated n : Int,
          ⟨.file (.updateDeleted updated (cStr taskId)), n⟩ ∈ tr ∧ 0 < n
      else (delete taskId).Stored t t'

end FileChange

/-- What a request to add a file asks for. -/
def FileAddOfflineReq.change (r : FileAddOfflineReq) : FileChange :=
  .save r.fromId r.toId r.taskId r.fileName r.fileSize

/-- What a request to delete a file asks for. -/
def FileDelOfflineReq.change (r : FileDelOfflineReq) : FileChange := .delete r.taskId

/-- The reply to an addition says that it has been made in the words of the reply to a deletion. -/
abbrev AdditionAccepted : List Event → Prop := DeletionAccepted

/-- The handler of a deletion finds a record of the task, and the record passes its test. -/
def LookupPasses (taskId : Bytes) (tr : List Event) : Prop :=
  ∃ t answ, StartsAt tr t ∧ ⟨.file (.selectFile (cStr taskId)), answ⟩ ∈ tr ∧ FirstPasses answ t

/-! ## What is stored -/

section Stored

variable {t : List FileRow}

/-- A table that is as it was has no change in it. -/
theorem FileChange.not_stored_self (change : FileChange) : ¬change.Stored t t := by
  cases change with
  | save userId toUserId taskId filePath fileSize =>
    rintro ⟨row, -, -, -, -, -, hperm⟩
    have hlen := hperm.length_eq
    rw [List.length_cons] at hlen
    omega
  | delete taskId =>
    rintro ⟨i, row, updated, -, -, -, hne⟩
    exact hne rfl

/-- A place whose row is replaced by another one changes the table. -/
theorem set_ne_self {i : Nat} {row row' : FileRow} (hrow : t[i]? = some row) (hne : row' ≠ row) :
    t.set i row' ≠ t := by
  intro heq
  obtain ⟨hi, -⟩ := List.getElem?_eq_some_iff.mp hrow
  have hat : (t.set i row')[i]? = some row' := List.getElem?_set_self hi
  rw [heq, hrow] at hat
  exact hne (Option.some.inj hat).symm

/-- Two ways to see one changed place see the same place. -/
theorem set_place_unique {i j : Nat} {row row' new : FileRow} (hrow : t[i]? = some row)
    (hne : row' ≠ row) (heq : t.set i row' = t.set j new) : j = i := by
  by_contra hother
  obtain ⟨hi, -⟩ := List.getElem?_eq_some_iff.mp hrow
  have hat : (t.set i row')[i]? = some row' := List.getElem?_set_self hi
  rw [heq, List.getElem?_set_ne hother, hrow] at hat
  exact hne (Option.some.inj hat).symm

/-- A string that is cut off at no NUL has none. -/
theorem zero_notMem_of_cStr {s : Bytes} (h : cStr s = s) : 0 ∉ s := by
  intro hzero
  rw [← h] at hzero
  exact absurd (List.mem_takeWhile_imp hzero) (by simp)

/-- The UPDATE with a plain id sets the status of a row of the task exactly if it answers that it has
    changed a row, and the id is not cut off. -/
theorem stored_delete_iff {w w' : World} {taskId : Bytes} {updated n : Int}
    (hplain : isPlain (cStr taskId) = true)
    (h : Step w (.file (.updateDeleted updated (cStr taskId))) n w') :
    (FileChange.delete taskId).Stored w.db.imTransmitFile w'.db.imTransmitFile ↔
      0 ∉ taskId ∧ 0 < n := by
  rcases h with ⟨t', hupdate, rfl⟩ | ⟨hfails, rfl⟩
  · obtain ⟨changed, hlimit, rfl⟩ := hupdate hplain
    rcases hlimit.one with ⟨rfl, rfl⟩ | ⟨rfl, i, row, hrow, htask, hne, rfl⟩
    · refine iff_of_false (FileChange.not_stored_self _) ?_
      rintro ⟨-, hpos⟩
      exact absurd hpos (by decide)
    · constructor
      · rintro ⟨j, row', updated', hrow', htask', hset, -⟩
        obtain rfl := set_place_unique hrow hne hset
        obtain rfl : row = row' := Option.some.inj (hrow.symm.trans hrow')
        have huncut : cStr taskId = taskId := (of_decide_eq_true htask).symm.trans htask'
        exact ⟨zero_notMem_of_cStr huncut, by decide⟩
      · rintro ⟨hnul, -⟩
        refine ⟨i, row, updated, hrow, ?_, rfl, set_ne_self hrow hne⟩
        rw [of_decide_eq_true htask, cStr_eq hnul]
  · refine iff_of_false (FileChange.not_stored_self _) ?_
    rintro ⟨-, hpos⟩
    have hle : n ≤ 0 := hfails
    omega

end Stored

/-! ## The two functions -/

section Runs

variable {w w' : World} {tr : List Event}

/-- `SaveFileRecord` stores nothing, whatever happens, and returns what its guard says. -/
theorem saveFileRecord_runs {userId toUserId : UInt32} {taskId filePath : Bytes} {fileSize : UInt32}
    {saved : Bool} (h : Runs Step w (saveFileRecord userId toUserId taskId filePath fileSize) tr saved
      w') : w' = w ∧ replies tr = [] ∧
      saved = !(FileChange.save userId toUserId taskId filePath fileSize).isRejected := by
  unfold saveFileRecord at h
  by_cases hguard : userId = 0 ∨ toUserId = 0 ∨ filePath = []
  · rw [if_pos hguard] at h
    obtain ⟨rfl, rfl, rfl⟩ := runs_pure.mp h
    have hrejected : (FileChange.save userId toUserId taskId filePath fileSize).isRejected = true := by
      simpa [FileChange.isRejected, or_assoc] using hguard
    rw [hrejected]
    exact ⟨rfl, rfl, rfl⟩
  · have hpassed : (FileChange.save userId toUserId taskId filePath fileSize).isRejected = false := by
      simpa [FileChange.isRejected, and_assoc] using hguard
    simp only [if_neg hguard, runs_bind, runs_issue] at h
    obtain ⟨_, now, w₁, _, ⟨hclock, rfl⟩, h, rfl⟩ := h
    obtain rfl : w₁ = w := hclock.resolve_right fun h => h
    obtain ⟨_, n, w₂, _, ⟨hinsert, rfl⟩, h, rfl⟩ := h
    obtain ⟨rfl, rfl, rfl⟩ := runs_pure.mp h
    rw [hpassed]
    refine ⟨?_, rfl, rfl⟩
    -- two parameters in the fourth place, so there is no statement
    rcases hinsert with ⟨_, ⟨rfl, -⟩, rfl⟩ | ⟨-, rfl⟩
    · rfl
    · rfl

/-- A file that the guard lets through is reported as saved, and is not. -/
theorem not_truthful_save {userId toUserId : UInt32} {taskId filePath : Bytes} {fileSize : UInt32}
    {saved : Bool}
    (hpassed : (FileChange.save userId toUserId taskId filePath fileSize).isRejected = false)
    (h : Runs Step w (FileChange.save userId toUserId taskId filePath fileSize).run tr saved w') :
    ¬(FileChange.save userId toUserId taskId filePath fileSize).Truthful w.db.imTransmitFile
      w'.db.imTransmitFile saved := by
  obtain ⟨rfl, -, hsaved⟩ := saveFileRecord_runs h
  rw [hpassed] at hsaved
  intro htruth
  exact FileChange.not_stored_self _ (htruth.stored.mp hsaved)

/-- A change that returns false and leaves the table as it is tells the truth. -/
theorem FileChange.truthful_rejected (change : FileChange) (t : List FileRow) :
    change.Truthful t t false :=
  ⟨iff_of_false Bool.false_ne_true change.not_stored_self, fun _ => rfl⟩

/-- After the UPDATE of a deletion, the condition is that the change is made. -/
theorem updates_delete_iff {taskId : Bytes} {updated n : Int}
    (hupdate : Step w (.file (.updateDeleted updated (cStr taskId))) n w')
    (honly : ∀ updated' n' : Int, ⟨.file (.updateDeleted updated' (cStr taskId)), n'⟩ ∈ tr ↔
      updated' = updated ∧ n' = n) :
    (FileChange.delete taskId).Updates w.db.imTransmitFile w'.db.imTransmitFile tr ↔
      (FileChange.delete taskId).Stored w.db.imTransmitFile w'.db.imTransmitFile := by
  show (if isPlain (cStr taskId) = true then 0 ∉ taskId ∧ _ else _) ↔ _
  by_cases hplain : isPlain (cStr taskId) = true
  · rw [if_pos hplain, stored_delete_iff hplain hupdate]
    apply and_congr_right
    intro _
    constructor
    · rintro ⟨updated', n', hmem, hpos⟩
      obtain ⟨-, rfl⟩ := (honly _ _).mp hmem
      exact hpos
    · intro hpos
      exact ⟨updated, n, (honly _ _).mpr ⟨rfl, rfl⟩, hpos⟩
  · rw [if_neg hplain]

/-- Each function tells the truth exactly if its guard rejects or its UPDATE changes a row. -/
theorem FileChange.truthful_iff_updates {change : FileChange} {ok : Bool}
    (h : Runs Step w change.run tr ok w') :
    change.Truthful w.db.imTransmitFile w'.db.imTransmitFile ok ↔
      change.isRejected = true ∨ change.Updates w.db.imTransmitFile w'.db.imTransmitFile tr := by
  cases change with
  | save userId toUserId taskId filePath fileSize =>
    cases hrejected : (FileChange.save userId toUserId taskId filePath fileSize).isRejected with
    | true =>
      obtain ⟨rfl, -, hsaved⟩ := saveFileRecord_runs h
      rw [hrejected] at hsaved
      obtain rfl := hsaved
      exact iff_of_true (FileChange.truthful_rejected _ _) (Or.inl rfl)
    | false =>
      refine iff_of_false (not_truthful_save hrejected h) ?_
      rintro (hfalse | hfalse)
      · exact Bool.false_ne_true hfalse
      · exact hfalse
  | delete taskId =>
    have hrun : Runs Step w (deleteFileRecord taskId) tr ok w' := h
    by_cases hempty : taskId = []
    · simp only [deleteFileRecord, if_pos hempty] at hrun
      obtain ⟨rfl, rfl, rfl⟩ := runs_pure.mp hrun
      exact iff_of_true (FileChange.truthful_rejected _ _) (Or.inl (decide_eq_true hempty))
    · obtain ⟨rfl, now, updated, n, rfl, hupdate⟩ :=
        deleteFileRecord_runs (fun _ _ _ _ h => h) hempty hrun
      have hpassed : ¬(FileChange.delete taskId).isRejected = true :=
        fun hrejected => hempty (of_decide_eq_true hrejected)
      rw [or_iff_right hpassed, updates_delete_iff hupdate (by simp)]
      constructor
      · intro htruth
        exact htruth.stored.mp rfl
      · intro hstored
        exact ⟨iff_of_true rfl hstored, fun hfalse => absurd hfalse (by decide)⟩

/-! ## The two handlers -/

/-- The handler of an addition accepts what the guard does not reject, and nothing is stored. -/
theorem fileAddOfflineReqHandler_runs {mem : Memory} {sessionId : UInt64}
    {request : Pdu FileAddOfflineReq}
    (h : Runs Step w (fileAddOfflineReqHandler zAresModelModule mem sessionId request) tr () w') :
    w' = w ∧ (AdditionAccepted tr ↔ request.body.change.isRejected = false) := by
  simp only [fileAddOfflineReqHandler, runs_bind] at h
  obtain ⟨tr₁, isSucess, w₁, tr₂, hsave, hsend, rfl⟩ := h
  obtain ⟨hsent, rfl⟩ := runs_issue.mp hsend
  obtain rfl : w' = w₁ := hsent.resolve_right fun h => h
  obtain ⟨rfl, hquiet, hsaved⟩ := saveFileRecord_runs hsave
  refine ⟨rfl, (deletionAccepted_send hquiet).trans ?_⟩
  show (if isSucess = true then (0 : UInt32) else 2) = 0 ↔ request.body.change.isRejected = false
  have hchange : isSucess = !request.body.change.isRejected := hsaved
  rw [hchange]
  cases request.body.change.isRejected <;> decide

/-- Result 0 of an addition means that the file is stored exactly if there is no result 0. -/
theorem additionStored_iff {mem : Memory} {sessionId : UInt64} {request : Pdu FileAddOfflineReq}
    (h : Runs Step w (fileAddOfflineReqHandler zAresModelModule mem sessionId request) tr () w') :
    (AdditionAccepted tr →
      request.body.change.Stored w.db.imTransmitFile w'.db.imTransmitFile) ↔
      request.body.change.isRejected = true := by
  obtain ⟨rfl, haccepted⟩ := fileAddOfflineReqHandler_runs h
  rw [haccepted]
  constructor
  · intro hstored
    by_contra hpassed
    exact FileChange.not_stored_self _ (hstored (Bool.not_eq_true _ ▸ hpassed))
  · intro hrejected hpassed
    rw [hrejected] at hpassed
    cases hpassed

/-- Result 0 of a deletion means that it is made exactly if, when the lookup lets it through, the UPDATE
    changes a row. -/
theorem deletionStored_iff {mem : Memory} {sessionId : UInt64} {request : Pdu FileDelOfflineReq}
    (h : Runs Step w (fileDelOfflineReqHandler zAresModelModule mem sessionId request) tr () w') :
    (DeletionAccepted tr →
      request.body.change.Stored w.db.imTransmitFile w'.db.imTransmitFile) ↔
      (LookupPasses request.body.taskId tr →
        request.body.change.Updates w.db.imTransmitFile w'.db.imTransmitFile tr) := by
  obtain ⟨t, tr₁, tr₂, reply, htr, hruns⟩ := fileDelOfflineReqHandler_runs (fun _ _ _ _ h => h) h
  have hstart : StartsAt tr t := by rw [htr]; rfl
  rcases hruns with ⟨-, rfl, rfl, hno, -⟩ | ⟨-, answ, rfl, -, hruns⟩
  · refine iff_of_true (fun haccepted => absurd haccepted hno) ?_
    rintro ⟨t', answ, -, hmem, -⟩
    rw [htr] at hmem
    simp at hmem
  have hlookup : LookupPasses request.body.taskId tr ↔ FirstPasses answ t := by
    constructor
    · rintro ⟨t', answ', hstart', hmem, hpasses⟩
      obtain rfl := hstart.unique hstart'
      rcases hruns with ⟨hfirst, -⟩ | ⟨-, rfl, -⟩
      · exact hfirst
      · rw [htr] at hmem
        obtain rfl : answ' = answ := by simpa using hmem
        exact hpasses
    · intro hpasses
      refine ⟨t, answ, hstart, ?_, hpasses⟩
      rw [htr]
      simp
  rcases hruns with ⟨hfirst, hyes, now, updated, n, rfl, hupdate⟩ | ⟨hfirst, rfl, hno, -⟩
  · have honly : ∀ updated' n' : Int,
        ⟨.file (.updateDeleted updated' (cStr request.body.taskId)), n'⟩ ∈ tr ↔
          updated' = updated ∧ n' = n := by
      intro updated' n'
      rw [htr]
      simp
    have hupdates := updates_delete_iff hupdate honly
    constructor
    · intro hstored _
      exact hupdates.mpr (hstored hyes)
    · intro hchanged _
      exact hupdates.mp (hchanged (hlookup.mpr hfirst))
  · exact iff_of_true (fun haccepted => absurd haccepted hno)
      fun hpasses => absurd (hlookup.mp hpasses) hfirst

end Runs

/-- **Saved and deleted.**  Under any outcome of the statements: `true` of a save is the truth only where
    the guard rejects, so never; `true` of a deletion is the truth where the UPDATE changes a row of the
    task; and the same is behind result 0 of the two handlers. -/
theorem recordsTruthful_iff (w w' : World) (tr : List Event) :
    (∀ (change : FileChange) (ok : Bool), Runs Step w change.run tr ok w' →
      (change.Truthful w.db.imTransmitFile w'.db.imTransmitFile ok ↔
        change.isRejected = true ∨ change.Updates w.db.imTransmitFile w'.db.imTransmitFile tr)) ∧
    (∀ (mem : Memory) (sessionId : UInt64) (request : Pdu FileAddOfflineReq),
      Runs Step w (fileAddOfflineReqHandler zAresModelModule mem sessionId request) tr () w' →
      ((AdditionAccepted tr →
        request.body.change.Stored w.db.imTransmitFile w'.db.imTransmitFile) ↔
        request.body.change.isRejected = true)) ∧
    ∀ (mem : Memory) (sessionId : UInt64) (request : Pdu FileDelOfflineReq),
      Runs Step w (fileDelOfflineReqHandler zAresModelModule mem sessionId request) tr () w' →
      ((DeletionAccepted tr →
        request.body.change.Stored w.db.imTransmitFile w'.db.imTransmitFile) ↔
        (LookupPasses request.body.taskId tr →
          request.body.change.Updates w.db.imTransmitFile w'.db.imTransmitFile tr)) := by
  refine ⟨?_, ?_, ?_⟩
  · intro change ok h
    exact change.truthful_iff_updates h
  · intro mem sessionId request h
    exact additionStored_iff h
  · intro mem sessionId request h
    exact deletionStored_iff h

/-- User 1 sends a file to user 2. -/
def saveOne : FileChange := .save 1 2 [49] [102] 10

theorem FileChange.play_runs (change : FileChange) (w : World) : Runs Step w change.run
    (change.run.play w).1 (change.run.play w).2.1 (change.run.play w).2.2 :=
  (Prog.play_runs _ _).mono fun _ _ _ _ => StepOk.step

theorem not_forall_recordsTruthful : ¬∀ (change : FileChange) (w w' : World) (tr : List Event)
    (ok : Bool), Runs Step w change.run tr ok w' →
    change.Truthful w.db.imTransmitFile w'.db.imTransmitFile ok := by
  intro hall
  have hpassed : saveOne.isRejected = false := by decide
  exact not_truthful_save hpassed (FileChange.play_runs _ emptyWorld) (hall saveOne _ _ _ _ (FileChange.play_runs _ emptyWorld))

/-- The deletion of the one file that there is. -/
def deletionOne : List Event × Bool × World := (FileChange.delete [49]).run.play (oneFile 1 [49])

/-- The save says that it has saved a file, and has not; the deletion says that it has deleted one, and
    has. -/
theorem recordsTruthful_one :
    ((saveOne.run.play emptyWorld).2.1 = true ∧
      ¬saveOne.Truthful emptyWorld.db.imTransmitFile
        (saveOne.run.play emptyWorld).2.2.db.imTransmitFile (saveOne.run.play emptyWorld).2.1) ∧
    deletionOne.2.1 = true ∧ deletionOne.2.2.db.imTransmitFile.map (·.status) = [0] ∧
      (FileChange.delete [49]).Truthful (oneFile 1 [49]).db.imTransmitFile
        deletionOne.2.2.db.imTransmitFile deletionOne.2.1 := by
  have hsave := (recordsTruthful_iff emptyWorld _ _).1 saveOne _ (FileChange.play_runs saveOne emptyWorld)
  have hdelete := (recordsTruthful_iff (oneFile 1 [49]) _ _).1 (.delete [49]) _
    (FileChange.play_runs (.delete [49]) (oneFile 1 [49]))
  refine ⟨⟨by decide, fun htruthful => ?_⟩, by decide, by decide, hdelete.mpr (Or.inr ?_)⟩
  · rcases hsave.mp htruthful with hrejected | hupdates
    · exact absurd hrejected (by decide)
    · exact hupdates
  · have hliteral : isPlain (cStr [49]) = true := by decide
    simp only [FileChange.Updates]
    rw [if_pos hliteral]
    exact ⟨by decide, _, 1, List.mem_cons_of_mem _ (List.mem_singleton_self _), by decide⟩

end Zattd
