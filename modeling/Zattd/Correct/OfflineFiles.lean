/-
  How long an OFFLINE FILE can be listed and deleted.

  A file that waits for its receiver is kept for seven days.  Three functions compute with that
  window, each in its own unit: `SaveFileRecord` stores the low 32 bits of a clock in milliseconds,
  `GetUserFiles` takes seven days of SECONDS off that clock and prints the rest with `%d`, and
  `FileDelOfflineReqHandler` compares the stored milliseconds with a clock in seconds.
-/
import Zattd.Correct.Replies

set_option linter.unusedVariables false

namespace Zattd

open Prog

/-- The clock at the start of a run. -/
def StartsAt (tr : List Event) (t : UInt64) : Prop := tr.head? = some ⟨.nowMSTime, t⟩

/-- The clock at the start of a run is one. -/
theorem StartsAt.unique {tr : List Event} {t t' : UInt64} (h : StartsAt tr t) (h' : StartsAt tr t') :
    t = t' :=
  eq_of_heq (Sigma.mk.inj (Option.some.inj (h.symm.trans h'))).2

theorem startsAt_cons (t : UInt64) (tr : List Event) : StartsAt (⟨.nowMSTime, t⟩ :: tr) t := rfl

/-- The reply to a deletion says that it has been made. -/
def DeletionAccepted (tr : List Event) : Prop :=
  ∃ (sessionId : UInt64) (reply : Pdu DBWriteResponse),
    (sessionId, ⟨.dbWriteResponse, reply⟩) ∈ replies tr ∧ reply.body.result = 0

/-- The handler's own test of a record, with the clock at `t`. -/
def FileRow.Passes (r : FileRow) (t : UInt64) : Prop :=
  getColumn r.status = 1 ∧ getColumn r.created > (t / 1000).toUInt32 - 7 * 86400

/-- The first record of an answer passes the test. -/
def FirstPasses (answ : Option (List FileRow)) (t : UInt64) : Prop :=
  ∃ row rest, answ = some (row :: rest) ∧ row.Passes t

/-! ## The two functions -/

section Runs

variable {step : World → (c : Cmd) → c.Answer → World → Prop} {w w' : World} {tr : List Event}

open ZAresFileManagerImpl

/-- `GetUserFiles` reads the clock, asks once, and makes a list of the answer. -/
theorem getUserFiles_runs {u : UInt32} (hu : u ≠ 0) {n : Nat} {files : List OfflineFile}
    (h : Runs StepOk w (getUserFiles u []) tr (n, files) w') : w' = w ∧ ∃ t rows,
      tr = [⟨.nowMSTime, t⟩, ⟨.file (.selectUserFiles (percentD u)
        (percentD (t - 7 * 24 * 3600).toUInt32)), some rows⟩] ∧
      Table.SelectsLimit (fun r => decide (r.toUserId = percentD u ∧
        percentD (t - 7 * 24 * 3600).toUInt32 < r.created ∧ r.status = 1)) (fun r => -r.created) 0 50
        w.db.imTransmitFile rows ∧
      files.length = rows.length ∧ files.map (·.taskId) = rows.map (·.taskId) := by
  simp only [getUserFiles, if_neg hu, runs_bind, runs_issue] at h
  obtain ⟨_, t, _, _, ⟨rfl, rfl⟩, h, rfl⟩ := h
  obtain ⟨_, _, _, _, ⟨⟨_, ⟨rfl, rows, hrows, rfl⟩, rfl⟩, rfl⟩, h, rfl⟩ := h
  obtain ⟨rfl, heq, rfl⟩ := runs_pure.mp h
  refine ⟨rfl, t, rows, rfl, hrows, ?_, ?_⟩
  · rw [(Prod.mk.inj heq).2, List.nil_append, List.length_map]
  · rw [(Prod.mk.inj heq).2, List.nil_append, List.map_map]
    rfl

/-- A lookup leaves everything as it is, whatever it answers. -/
theorem Step.selectFile_eq {taskId : Bytes} {answ : Option (List FileRow)}
    (h : Step w (.file (.selectFile taskId)) answ w') : w' = w := by
  rcases h with ⟨_, ⟨rfl, -⟩, rfl⟩ | ⟨-, rfl⟩
  · rfl
  · rfl

/-- `GetFileRecord` looks up the first record of a task, if the task has a name. -/
theorem getFileRecord_runs (hstep : ∀ w c a w', step w c a w' → Step w c a w') {taskId : Bytes}
    (file : TransmitFile) {found : Option TransmitFile}
    (h : Runs step w (getFileRecord taskId file) tr found w') : w' = w ∧
      ((taskId = [] ∧ tr = [] ∧ found = none) ∨
      (taskId ≠ [] ∧ ∃ answ, tr = [⟨.file (.selectFile (cStr taskId)), answ⟩] ∧
        step w (.file (.selectFile (cStr taskId))) answ w ∧
        ∀ t, FirstPasses answ t ↔ ∃ file', found = some file' ∧
          file'.status = 1 ∧ file'.created > (t / 1000).toUInt32 - 7 * 86400)) := by
  unfold getFileRecord at h
  by_cases hempty : taskId = []
  · rw [if_pos hempty] at h
    obtain ⟨rfl, rfl, rfl⟩ := runs_pure.mp h
    exact ⟨rfl, Or.inl ⟨hempty, rfl, rfl⟩⟩
  simp only [if_neg hempty, runs_bind, runs_issue] at h
  obtain ⟨_, answ, w₁, _, ⟨hselect, rfl⟩, h, rfl⟩ := h
  obtain rfl : w₁ = w := Step.selectFile_eq (hstep _ _ _ _ hselect)
  rcases answ with _ | _ | ⟨row, rest⟩
  · obtain ⟨rfl, rfl, rfl⟩ := runs_pure.mp h
    refine ⟨rfl, Or.inr ⟨hempty, none, rfl, hselect, fun t => ?_⟩⟩
    simp [FirstPasses]
  · obtain ⟨rfl, rfl, rfl⟩ := runs_pure.mp h
    refine ⟨rfl, Or.inr ⟨hempty, some [], rfl, hselect, fun t => ?_⟩⟩
    simp [FirstPasses]
  · obtain ⟨rfl, rfl, rfl⟩ := runs_pure.mp h
    refine ⟨rfl, Or.inr ⟨hempty, some (row :: rest), rfl, hselect, fun t => ?_⟩⟩
    simp [FirstPasses, FileRow.Passes]

/-- `DeleteFileRecord` updates, and says that it has whatever the statement answers. -/
theorem deleteFileRecord_runs (hstep : ∀ w c a w', step w c a w' → Step w c a w') {taskId : Bytes}
    (hempty : taskId ≠ []) {deleted : Bool}
    (h : Runs step w (deleteFileRecord taskId) tr deleted w') : deleted = true ∧
      ∃ (now : UInt64) (updated n : Int), tr = [⟨.nowMSTime, now⟩,
        ⟨.file (.updateDeleted updated (cStr taskId)), n⟩] ∧
      step w (.file (.updateDeleted updated (cStr taskId))) n w' := by
  simp only [deleteFileRecord, if_neg hempty, runs_bind, runs_issue] at h
  obtain ⟨_, now, w₁, _, ⟨hclock, rfl⟩, h, rfl⟩ := h
  obtain rfl : w₁ = w := (hstep _ _ _ _ hclock).resolve_right fun h => h
  obtain ⟨_, n, w₂, _, ⟨hupdate, rfl⟩, h, rfl⟩ := h
  obtain ⟨rfl, rfl, rfl⟩ := runs_pure.mp h
  exact ⟨rfl, now, _, n, rfl, hupdate⟩

/-- The one reply of a run that is silent up to its end tells the verdict. -/
theorem deletionAccepted_send {tr₁ : List Event} (h₁ : replies tr₁ = []) {sessionId : UInt64}
    {reply : Pdu DBWriteResponse} {a : Unit} :
    DeletionAccepted (tr₁ ++ [⟨.sendSessionData sessionId ⟨.dbWriteResponse, reply⟩, a⟩]) ↔
      reply.body.result = 0 := by
  have hone : replies (tr₁ ++ [⟨.sendSessionData sessionId ⟨.dbWriteResponse, reply⟩, a⟩]) =
      [(sessionId, ⟨.dbWriteResponse, reply⟩)] := by
    rw [replies_append, h₁]
    rfl
  constructor
  · rintro ⟨sessionId', reply', hmem, hresult⟩
    obtain rfl : reply' = reply := reply_of_mem hone hmem
    exact hresult
  · intro hresult
    exact ⟨sessionId, reply, by rw [hone]; exact List.mem_singleton_self _, hresult⟩

/-- `FileDelOfflineReqHandler` reads the clock, looks the first record of the task up, and, if that
    passes the test, updates and accepts; an empty task it does not look up. -/
theorem fileDelOfflineReqHandler_runs (hstep : ∀ w c a w', step w c a w' → Step w c a w')
    {mem : Memory} {sessionId : UInt64} {request : Pdu FileDelOfflineReq}
    (h : Runs step w (fileDelOfflineReqHandler zAresModelModule mem sessionId request) tr () w') :
    ∃ t tr₁ tr₂ reply, tr = ⟨.nowMSTime, t⟩ ::
        (tr₁ ++ (tr₂ ++ [⟨.sendSessionData sessionId ⟨.dbWriteResponse, reply⟩, ()⟩])) ∧
      ((request.body.taskId = [] ∧ tr₁ = [] ∧ tr₂ = [] ∧ ¬DeletionAccepted tr ∧ w' = w) ∨
      (request.body.taskId ≠ [] ∧ ∃ answ,
        tr₁ = [⟨.file (.selectFile (cStr request.body.taskId)), answ⟩] ∧
        step w (.file (.selectFile (cStr request.body.taskId))) answ w ∧
        ((FirstPasses answ t ∧ DeletionAccepted tr ∧ ∃ (now : UInt64) (updated n : Int),
          tr₂ = [⟨.nowMSTime, now⟩,
            ⟨.file (.updateDeleted updated (cStr request.body.taskId)), n⟩] ∧
          step w (.file (.updateDeleted updated (cStr request.body.taskId))) n w') ∨
        (¬FirstPasses answ t ∧ tr₂ = [] ∧ ¬DeletionAccepted tr ∧ w' = w)))) := by
  simp only [fileDelOfflineReqHandler, runs_bind, runs_issue] at h
  obtain ⟨_, t, w₁, _, ⟨hclock, rfl⟩, h, htr⟩ := h
  obtain rfl : w₁ = w := (hstep _ _ _ _ hclock).resolve_right fun h => h
  obtain ⟨tr₁, found, w₂, _, hfind, h, rfl⟩ := h
  obtain ⟨tr₂, isSucess, w₃, tr₃, hdelete, hsend, rfl⟩ := h
  obtain ⟨hsent, rfl⟩ := runs_issue.mp hsend
  obtain rfl : w' = w₃ := (hstep _ _ _ _ hsent).resolve_right fun h => h
  obtain ⟨rfl, hfound⟩ := getFileRecord_runs hstep mem.newTransmitFile hfind
  have hquiet₁ : replies tr₁ = [] := by
    rcases hfound with ⟨-, rfl, -⟩ | ⟨-, answ, rfl, -⟩
    · rfl
    · rfl
  have hverdict : replies tr₂ = [] → (DeletionAccepted tr ↔ isSucess = true) := by
    intro hquiet₂
    have hquiet : replies ([⟨.nowMSTime, t⟩] ++ (tr₁ ++ tr₂)) = [] := by
      rw [replies_append, replies_append, hquiet₁, hquiet₂]
      rfl
    rw [htr, ← List.append_assoc tr₁, ← List.append_assoc]
    apply (deletionAccepted_send hquiet).trans
    show (if isSucess = true then (0 : UInt32) else 2) = 0 ↔ isSucess = true
    cases isSucess <;> decide
  have hrejected : isSucess = false → replies tr₂ = [] → ¬DeletionAccepted tr := by
    rintro rfl hquiet₂ haccepted
    exact Bool.false_ne_true ((hverdict hquiet₂).mp haccepted)
  refine ⟨t, tr₁, tr₂, _, htr, ?_⟩
  rcases hfound with ⟨hempty, rfl, rfl⟩ | ⟨hempty, answ, rfl, hselect, hfirst⟩
  · rw [if_neg (by simp)] at hdelete
    obtain ⟨rfl, rfl, rfl⟩ := runs_pure.mp hdelete
    exact Or.inl ⟨hempty, rfl, rfl, hrejected rfl rfl, rfl⟩
  · refine Or.inr ⟨hempty, answ, rfl, hselect, ?_⟩
    have hskipped : ¬FirstPasses answ t →
        Runs step w₂ (pure false : Server Bool) tr₂ isSucess w' →
        ¬FirstPasses answ t ∧ tr₂ = [] ∧ ¬DeletionAccepted tr ∧ w' = w₂ := by
      intro hfails hskip
      obtain ⟨rfl, rfl, rfl⟩ := runs_pure.mp hskip
      exact ⟨hfails, rfl, hrejected rfl rfl, rfl⟩
    cases found with
    | none =>
      rw [if_neg (by simp)] at hdelete
      exact Or.inr (hskipped (fun hpasses => by simpa using (hfirst t).mp hpasses) hdelete)
    | some file =>
      have htest : FirstPasses answ t ↔
          file.status = 1 ∧ file.created > (t / 1000).toUInt32 - 7 * 86400 := by simpa using hfirst t
      by_cases hpasses : FirstPasses answ t
      · rw [if_pos (decide_eq_true (htest.mp hpasses))] at hdelete
        obtain ⟨rfl, now, updated, n, rfl, hupdate⟩ := deleteFileRecord_runs hstep hempty hdelete
        exact Or.inl ⟨hpasses, (hverdict rfl).mpr rfl, now, updated, n, rfl, hupdate⟩
      · rw [if_neg fun h => hpasses (htest.mpr (of_decide_eq_true h))] at hdelete
        exact Or.inr (hskipped hpasses hdelete)

end Runs

/-! ## The window -/

/-- What `SaveFileRecord` binds for `created`, with the clock at `t`. -/
def createdAt (t : UInt64) : Int := addParam t.toUInt32

/-- The request comes within seven days, in milliseconds, of the file. -/
def WithinSevenDays (t₀ t₁ : UInt64) : Prop := t₁.toNat - t₀.toNat < 7 * 24 * 3600 * 1000

/-- For a record that is the only one of its task, made with the clock at `t₀`: with the clock at
    `t₁`, a list that has not reached its limit has it, and a deletion of it is accepted, exactly
    within seven days. -/
def WindowKept (t₀ t₁ : UInt64) (taskId : Bytes) : Prop :=
  ∀ w, ∀ row ∈ w.db.imTransmitFile, row.taskId = taskId → row.status = 1 →
    row.created = createdAt t₀ → (∀ r ∈ w.db.imTransmitFile, r.taskId = taskId → r = row) →
    (∀ u tr n files w', u ≠ 0 → row.toUserId = percentD u →
      Runs StepOk w (ZAresFileManagerImpl.getUserFiles u []) tr (n, files) w' → StartsAt tr t₁ →
      files.length < 50 → ((∃ file ∈ files, file.taskId = taskId) ↔ WithinSevenDays t₀ t₁)) ∧
    ∀ mem sessionId request tr w', request.body.taskId = taskId →
      Runs StepOk w (fileDelOfflineReqHandler zAresModelModule mem sessionId request) tr () w' →
      StartsAt tr t₁ → (DeletionAccepted tr ↔ WithinSevenDays t₀ t₁)

/-- The stored milliseconds, modulo 2^32. -/
def storedMs (t₀ : UInt64) : Nat := t₀.toNat % 2 ^ 32

/-- The milliseconds less the SECONDS of seven days, modulo 2^32. -/
def listCutoff (t₁ : UInt64) : Nat := (t₁.toNat + 2 ^ 32 - 7 * 24 * 3600) % 2 ^ 32

/-- The seconds less the seconds of seven days, modulo 2^32. -/
def deleteCutoff (t₁ : UInt64) : Nat := (t₁.toNat / 1000 + 2 ^ 32 - 7 * 86400) % 2 ^ 32

/-- Within seven days both cutoffs are below the stored value, the first also when it is printed as a
    negative number; later they are not. -/
def CutoffsAgree (t₀ t₁ : UInt64) (taskId : Bytes) : Prop :=
  (WithinSevenDays t₀ t₁ ∧ (2 ^ 31 ≤ listCutoff t₁ ∨ listCutoff t₁ < storedMs t₀) ∧
    taskId ≠ [] ∧ deleteCutoff t₁ < storedMs t₀) ∨
  (¬WithinSevenDays t₀ t₁ ∧ (listCutoff t₁ < 2 ^ 31 ∧ storedMs t₀ ≤ listCutoff t₁) ∧
    (taskId = [] ∨ storedMs t₀ ≤ deleteCutoff t₁))

theorem cutoffsAgree_iff (t₀ t₁ : UInt64) (taskId : Bytes) : CutoffsAgree t₀ t₁ taskId ↔
    ((2 ^ 31 ≤ listCutoff t₁ ∨ listCutoff t₁ < storedMs t₀) ↔ WithinSevenDays t₀ t₁) ∧
      ((taskId ≠ [] ∧ deleteCutoff t₁ < storedMs t₀) ↔ WithinSevenDays t₀ t₁) := by
  unfold CutoffsAgree
  by_cases hwithin : WithinSevenDays t₀ t₁
  · simp [hwithin]
  · by_cases hempty : taskId = []
    · simp [hwithin, hempty]
    · simp [hwithin, hempty]

/-- Printed as a signed number, the first cutoff is below the stored one in two cases. -/
theorem percentD_lt_createdAt_iff (t₀ t₁ : UInt64) :
    percentD (t₁ - 7 * 24 * 3600).toUInt32 < createdAt t₀ ↔
      2 ^ 31 ≤ listCutoff t₁ ∨ listCutoff t₁ < storedMs t₀ := by
  have hcutoff : (t₁ - 7 * 24 * 3600).toUInt32.toNat = listCutoff t₁ := by
    have hseconds : (7 * 24 * 3600 : UInt64).toNat = 604800 := rfl
    rw [UInt64.toNat_toUInt32, UInt64.toNat_sub, hseconds, listCutoff]
    omega
  have hstored : t₀.toUInt32.toNat = storedMs t₀ := UInt64.toNat_toUInt32 t₀
  have hlt := (t₁ - 7 * 24 * 3600).toUInt32.toNat_lt
  rw [percentD, ← Int32.toInt_toBitVec, UInt32.toBitVec_toInt32, BitVec.toInt_eq_toNat_cond]
  simp only [UInt32.toNat_toBitVec, createdAt, addParam, hcutoff, hstored] at hlt ⊢
  omega

theorem deleteCutoff_lt_iff (t₀ t₁ : UInt64) :
    getColumn (createdAt t₀) > (t₁ / 1000).toUInt32 - 7 * 86400 ↔ deleteCutoff t₁ < storedMs t₀ := by
  have hseconds : (7 * 86400 : UInt32).toNat = 604800 := rfl
  have hcutoff : ((t₁ / 1000).toUInt32 - 7 * 86400).toNat = deleteCutoff t₁ := by
    have hdiv : (t₁ / 1000).toNat = t₁.toNat / 1000 := UInt64.toNat_div t₁ 1000
    rw [UInt32.toNat_sub, UInt64.toNat_toUInt32, hseconds, hdiv, deleteCutoff]
    omega
  rw [createdAt, getColumn_addParam, gt_iff_lt, UInt32.lt_iff_toNat_lt, hcutoff,
    UInt64.toNat_toUInt32]
  rfl

section Kept

variable {t₀ t₁ : UInt64} {taskId : Bytes} {w w' : World} {row : FileRow} {tr : List Event}

/-- A list that has not reached its limit has the record exactly if the record is above the cutoff. -/
theorem listed_iff (hrow : row ∈ w.db.imTransmitFile) (htask : row.taskId = taskId)
    (hstatus : row.status = 1) (hcreated : row.created = createdAt t₀)
    (honly : ∀ r ∈ w.db.imTransmitFile, r.taskId = taskId → r = row) {u : UInt32} (hu : u ≠ 0)
    (hreceiver : row.toUserId = percentD u) {n : Nat} {files : List OfflineFile}
    (h : Runs StepOk w (ZAresFileManagerImpl.getUserFiles u []) tr (n, files) w')
    (hclock : StartsAt tr t₁) (hshort : files.length < 50) :
    (∃ file ∈ files, file.taskId = taskId) ↔
      2 ^ 31 ≤ listCutoff t₁ ∨ listCutoff t₁ < storedMs t₀ := by
  obtain ⟨-, t, rows, rfl, hrows, hlen, htasks⟩ := getUserFiles_runs hu h
  obtain rfl : t = t₁ := (startsAt_cons t _).unique hclock
  have hlisted : (∃ file ∈ files, file.taskId = taskId) ↔ row ∈ rows := by
    have hmem : (∃ file ∈ files, file.taskId = taskId) ↔ ∃ r ∈ rows, r.taskId = taskId := by
      rw [← List.mem_map, htasks, List.mem_map]
    rw [hmem]
    constructor
    · rintro ⟨r, hr, htask'⟩
      rw [← honly r (hrows.mem hr).1 htask']
      exact hr
    · intro hr
      exact ⟨row, hr, htask⟩
  rw [hlisted, ← percentD_lt_createdAt_iff, ← hcreated]
  constructor
  · intro hr
    exact (of_decide_eq_true (hrows.mem hr).2).2.1
  · intro habove
    exact hrows.mem_of_short (hlen ▸ hshort) hrow (decide_eq_true ⟨hreceiver, habove, hstatus⟩)

/-- A deletion of the record is accepted exactly if the record is above the other cutoff. -/
theorem deletionAccepted_iff (hplain : isPlain taskId = true) (hnul : 0 ∉ taskId)
    (hrow : row ∈ w.db.imTransmitFile) (htask : row.taskId = taskId)
    (hstatus : row.status = 1) (hcreated : row.created = createdAt t₀)
    (honly : ∀ r ∈ w.db.imTransmitFile, r.taskId = taskId → r = row) {mem : Memory}
    {sessionId : UInt64} {request : Pdu FileDelOfflineReq} (hrequest : request.body.taskId = taskId)
    (h : Runs StepOk w (fileDelOfflineReqHandler zAresModelModule mem sessionId request) tr () w')
    (hclock : StartsAt tr t₁) :
    DeletionAccepted tr ↔ taskId ≠ [] ∧ deleteCutoff t₁ < storedMs t₀ := by
  subst hrequest
  obtain ⟨t, _, _, _, htr, hruns⟩ := fileDelOfflineReqHandler_runs (fun _ _ _ _ => StepOk.step) h
  obtain rfl : t = t₁ := StartsAt.unique (by rw [htr]; rfl) hclock
  rcases hruns with ⟨hempty, -, -, hno, -⟩ | ⟨hempty, answ, -, ⟨_, ⟨-, hselect⟩, -⟩, hruns⟩
  · exact iff_of_false hno fun h => h.1 hempty
  rw [cStr_eq hnul] at hselect
  obtain ⟨rows, hrows, rfl⟩ := hselect hplain
  have hpasses : FirstPasses (some rows) t ↔ deleteCutoff t < storedMs t₀ := by
    rw [← deleteCutoff_lt_iff, ← hcreated]
    constructor
    · rintro ⟨r, rest, hfirst, -, habove⟩
      obtain rfl := Option.some.inj hfirst
      have hr := (hrows.mem_iff r).mp List.mem_cons_self
      rw [← honly r hr.1 (of_decide_eq_true hr.2)]
      exact habove
    · intro habove
      have hmem := (hrows.mem_iff row).mpr ⟨hrow, decide_eq_true htask⟩
      obtain ⟨r, rest, rfl⟩ := List.exists_cons_of_ne_nil (List.ne_nil_of_mem hmem)
      have hr := (hrows.mem_iff r).mp List.mem_cons_self
      obtain rfl := honly r hr.1 (of_decide_eq_true hr.2)
      refine ⟨r, rest, rfl, ?_, habove⟩
      rw [hstatus]
      decide
  rw [← hpasses]
  rcases hruns with ⟨hfirst, hyes, -⟩ | ⟨hfirst, -, hno, -⟩
  · exact iff_of_true hyes ⟨hempty, hfirst⟩
  · exact iff_of_false hno fun h => hfirst h.2

end Kept

/-- The answers of a world whose clock has stopped at `t`. -/
def respondAt (t : UInt64) (w : World) : (c : Cmd) → c.Answer × World
  | .nowMSTime => (t, w)
  | c => respond w c

theorem respondAt_ok (t : UInt64) (w : World) (c : Cmd) :
    StepOk w c (respondAt t w c).1 (respondAt t w c).2 := by
  cases c with
  | nowMSTime => rfl
  | _ => exact respond_ok w _

/-- One record, made with the clock at `t₀`, for user 1. -/
def oneFile (t₀ : UInt64) (taskId : Bytes) : World :=
  emptyWorld.setFiles [⟨1, 2, 1, taskId, [102], 1, createdAt t₀, createdAt t₀, 0⟩]

/-- A request to delete the file of a task. -/
def deleteTask (taskId : Bytes) : Pdu FileDelOfflineReq where
  attachData := []
  reserved := 0
  body := { reqUserId := 1, fromId := 2, toId := 1, taskId := taskId }

/-- Where the window is kept, the cutoffs agree: one record is enough to see it. -/
theorem WindowKept.cutoffsAgree {t₀ t₁ : UInt64} {taskId : Bytes} (hplain : isPlain taskId = true)
    (hnul : 0 ∉ taskId) (h : WindowKept t₀ t₁ taskId) : CutoffsAgree t₀ t₁ taskId := by
  have hone : ∀ r ∈ (oneFile t₀ taskId).db.imTransmitFile, r.taskId = taskId →
      r = ⟨1, 2, 1, taskId, [102], 1, createdAt t₀, createdAt t₀, 0⟩ :=
    fun r hr _ => List.mem_singleton.mp hr
  obtain ⟨hlist, hdelete⟩ := h (oneFile t₀ taskId) _ (List.mem_singleton_self _) rfl rfl rfl hone
  rw [cutoffsAgree_iff]
  constructor
  · have hrun := Prog.exec_runs (respondAt_ok t₁) (ZAresFileManagerImpl.getUserFiles 1 [])
      (oneFile t₀ taskId)
    obtain ⟨-, t, rows, htr, hrows, hlen, -⟩ := getUserFiles_runs (by decide) hrun
    have hclock : StartsAt (Prog.exec (respondAt t₁) (ZAresFileManagerImpl.getUserFiles 1 [])
      (oneFile t₀ taskId)).1 t₁ := rfl
    have hshort : rows.length < 50 := by
      apply lt_of_le_of_lt hrows.length_le
      show 1 < 50
      omega
    rw [← hlist 1 _ _ _ _ (by decide) rfl hrun hclock (hlen ▸ hshort)]
    exact (listed_iff (List.mem_singleton_self _) rfl rfl rfl hone (by decide) rfl hrun hclock
      (hlen ▸ hshort)).symm
  · have hrun := Prog.exec_runs (respondAt_ok t₁)
      (fileDelOfflineReqHandler zAresModelModule default 0 (deleteTask taskId)) (oneFile t₀ taskId)
    rw [← hdelete _ _ _ _ _ rfl hrun rfl]
    exact (deletionAccepted_iff hplain hnul (List.mem_singleton_self _) rfl rfl rfl hone rfl hrun
      rfl).symm

/-- **The window.**  `GetUserFiles` and `FileDelOfflineReqHandler` keep to seven days exactly for times
    at which both of their cutoffs happen to be on the right side of the stored value. -/
theorem windowKept_iff (t₀ t₁ : UInt64) {taskId : Bytes} (hplain : isPlain taskId = true)
    (hnul : 0 ∉ taskId) : WindowKept t₀ t₁ taskId ↔ CutoffsAgree t₀ t₁ taskId := by
  constructor
  · exact WindowKept.cutoffsAgree hplain hnul
  · intro hagree w row hrow htask hstatus hcreated honly
    obtain ⟨hlist, hdelete⟩ := (cutoffsAgree_iff t₀ t₁ taskId).mp hagree
    constructor
    · intro u tr n files w' hu hreceiver hrun hclock hshort
      rw [← hlist]
      exact listed_iff hrow htask hstatus hcreated honly hu hreceiver hrun hclock hshort
    · intro mem sessionId request tr w' hrequest hrun hclock
      rw [← hdelete]
      exact deletionAccepted_iff hplain hnul hrow htask hstatus hcreated honly hrequest hrun hclock

/-- A file that is eleven minutes old. -/
theorem not_windowKept : ¬∀ (t₀ t₁ : UInt64) (taskId : Bytes), t₀ ≤ t₁ → isPlain taskId = true →
    0 ∉ taskId → WindowKept t₀ t₁ taskId := by
  intro hall
  have hkept := hall 1000000000 1000700000 [49] (by decide) (by decide) (by decide)
  have hagree := hkept.cutoffsAgree (by decide) (by decide)
  rcases hagree with ⟨-, hlist, -⟩ | ⟨hlater, -⟩
  · exact absurd hlist (by decide)
  · exact absurd (show WithinSevenDays 1000000000 1000700000 by unfold WithinSevenDays; decide) hlater

theorem windowKept_atOnce : WindowKept 1000000000 1000000000 [49] :=
  (windowKept_iff 1000000000 1000000000 (by decide) (by decide)).mpr
    (Or.inl ⟨by unfold WithinSevenDays; decide, by decide, by decide, by decide⟩)

end Zattd
