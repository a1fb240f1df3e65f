/-
  Several rows of ONE TASK: what is deleted should be gone, what is listed should be deletable.

  The list of a user selects rows by receiver and status, the lookup of a deletion takes the FIRST row
  of the task, whatever its status, and the deletion updates ONE row of the task.  The three agree on a
  table in which the row that the lookup finds is the only one of its task that a list can show, and
  fail on the others.
-/
import Zattd.Correct.OfflineFiles

set_option linter.unusedVariables false

namespace Zattd

open Prog

/-- The row is one of the task. -/
def FileRow.isOf (taskId : Bytes) (r : FileRow) : Bool := decide (r.taskId = taskId)

/-- The row as `DeleteFileRecord` leaves it. -/
def FileRow.deleted (updated : Int) (r : FileRow) : FileRow :=
  { r with status := 0, updated := updated }

/-- The table after a deletion of the first row of the task. -/
def deleteFirst (updated : Int) (taskId : Bytes) (t : List FileRow) : List FileRow :=
  (Table.updateFirst (FileRow.isOf taskId) (FileRow.deleted updated) 1 t).2

/-- The statements succeed, and rows that are looked up or updated without an order are so in the order
    of the table, the order of the ids. -/
def InOrder (w : World) : (c : Cmd) → c.Answer → World → Prop
  | .file (.selectFile taskId), a, w' => StepOk w (.file (.selectFile taskId)) a w' ∧
      (isPlain taskId = true → a = some (w.db.imTransmitFile.filter (FileRow.isOf taskId)))
  | .file (.updateDeleted updated taskId), a, w' =>
      StepOk w (.file (.updateDeleted updated taskId)) a w' ∧
      (isPlain taskId = true → w' = w.setFiles (deleteFirst updated taskId w.db.imTransmitFile))
  | c, a, w' => StepOk w c a w'

theorem InOrder.ok {w w' : World} {c : Cmd} {a : c.Answer} (h : InOrder w c a w') :
    StepOk w c a w' := by
  unfold InOrder at h
  split at h
  · exact h.1
  · exact h.1
  · exact h

theorem respondAt_inOrder (t : UInt64) (w : World) (c : Cmd) :
    InOrder w c (respondAt t w c).1 (respondAt t w c).2 := by
  have hok := respondAt_ok t w c
  unfold InOrder
  split
  · refine ⟨hok, fun _ => ?_⟩
    exact congrArg some (Table.select_unit _ _)
  · exact ⟨hok, fun _ => rfl⟩
  · exact hok

/-- The list of a run is made of an answer with the row `r`. -/
def Lists (tr : List Event) (r : FileRow) : Prop :=
  ∃ toUserId created rows, ⟨.file (.selectUserFiles toUserId created), some rows⟩ ∈ tr ∧ r ∈ rows

/-- A deletion that is accepted leaves no row of the task to be listed; and if a row of the task is
    listed whose `created` passes the handler's test, a deletion is accepted. -/
structure TaskConsistent (w : World) (taskId : Bytes) : Prop where
  gone : ∀ mem sessionId request tr w₁, request.body.taskId = taskId →
    Runs InOrder w (fileDelOfflineReqHandler zAresModelModule mem sessionId request) tr () w₁ →
    DeletionAccepted tr → ∀ u tr' n files w₂,
    Runs StepOk w₁ (ZAresFileManagerImpl.getUserFiles u []) tr' (n, files) w₂ →
    ∀ file ∈ files, file.taskId ≠ taskId
  deletable : ∀ u tr n files w₁ r,
    Runs StepOk w (ZAresFileManagerImpl.getUserFiles u []) tr (n, files) w₁ → Lists tr r →
    r.taskId = taskId → ∀ mem sessionId request tr' w₂ t, request.body.taskId = taskId →
    Runs InOrder w₁ (fileDelOfflineReqHandler zAresModelModule mem sessionId request) tr' () w₂ →
    StartsAt tr' t → getColumn r.created > (t / 1000).toUInt32 - 7 * 86400 → DeletionAccepted tr'

/-! ## What a list can show -/

/-- Some list can show the row: it waits for a receiver that a request can name, no cutoff is below its
    `created`, and fewer than 50 rows that wait for this receiver are newer. -/
structure Listable (t : List FileRow) (r : FileRow) : Prop where
  status : r.status = 1
  receiver : ∃ u : UInt32, u ≠ 0 ∧ r.toUserId = percentD u
  created : -2 ^ 31 < r.created
  newer : t.countP (fun x => decide (x.toUserId = r.toUserId ∧ x.status = 1 ∧
    r.created < x.created)) < 50

/-- The tables on which list, lookup and deletion of a task agree. -/
structure TaskAgrees (t : List FileRow) (taskId : Bytes) : Prop where
  /-- A row that can be listed is not newer than the first one of its task, and that one waits. -/
  listed : ∀ r ∈ t, r.taskId = taskId → Listable t r → getColumn r.created ≠ 0 → taskId ≠ [] ∧
    ∃ first, t.find? (FileRow.isOf taskId) = some first ∧ getColumn first.status = 1 ∧
      getColumn r.created ≤ getColumn first.created
  /-- If the first row of the task can be deleted, no other row of the task can be listed. -/
  others : taskId ≠ [] → ∀ first, t.find? (FileRow.isOf taskId) = some first →
    getColumn first.status = 1 → getColumn first.created ≠ 0 →
    ∀ r ∈ t.eraseP (FileRow.isOf taskId), r.taskId = taskId →
      ¬Listable (t.eraseP (FileRow.isOf taskId)) r

/-- The rows of a list in the order of the query. -/
def Shown (t : List FileRow) (u cutoff : UInt32) (rows : List FileRow) : Prop :=
  Table.SelectsLimit (fun r => decide (r.toUserId = percentD u ∧ percentD cutoff < r.created ∧
    r.status = 1)) (fun r => -r.created) 0 50 t rows

/-- The newer rows pass any cutoff that the row passes. -/
theorem countP_newer {t : List FileRow} {r : FileRow} {u cutoff : UInt32}
    (hreceiver : r.toUserId = percentD u) (habove : percentD cutoff < r.created) :
    t.countP (fun x => decide (x.toUserId = percentD u ∧ percentD cutoff < x.created ∧
      x.status = 1) && decide (-x.created < -r.created)) =
    t.countP fun x => decide (x.toUserId = r.toUserId ∧ x.status = 1 ∧ r.created < x.created) := by
  apply List.countP_congr
  intro x _
  rw [Bool.and_eq_true, decide_eq_true_iff, decide_eq_true_iff, decide_eq_true_iff, hreceiver]
  constructor
  · rintro ⟨⟨huser, -, hstatus⟩, hnewer⟩
    exact ⟨huser, hstatus, by omega⟩
  · rintro ⟨huser, hstatus, hnewer⟩
    exact ⟨⟨huser, by omega, hstatus⟩, by omega⟩

/-- Every row that is shown can be listed. -/
theorem Shown.listable {t rows : List FileRow} {u cutoff : UInt32} (hu : u ≠ 0)
    (h : Shown t u cutoff rows) {r : FileRow} (hr : r ∈ rows) : r ∈ t ∧ Listable t r := by
  obtain ⟨hmem, hp⟩ := Table.SelectsLimit.mem h hr
  obtain ⟨hreceiver, habove, hstatus⟩ := of_decide_eq_true hp
  have hlowest : -2 ^ 31 ≤ percentD cutoff := Int32.le_toInt cutoff.toInt32
  refine ⟨hmem, hstatus, ⟨u, hu, hreceiver⟩, by omega, ?_⟩
  rw [← countP_newer hreceiver habove]
  exact Table.SelectsLimit.countP_lt h hr

/-- Every row that can be listed is shown by some list. -/
theorem Listable.shown {t : List FileRow} {r : FileRow} (hr : r ∈ t) (h : Listable t r) :
    ∃ u cutoff rows, u ≠ 0 ∧ Shown t u cutoff rows ∧ r ∈ rows := by
  obtain ⟨hstatus, ⟨u, hu, hreceiver⟩, hcreated, hnewer⟩ := h
  have hlowest : percentD 2147483648 = -2 ^ 31 := by decide
  have habove : percentD 2147483648 < r.created := by rw [hlowest]; exact hcreated
  rw [← countP_newer hreceiver habove] at hnewer
  have hp : decide (r.toUserId = percentD u ∧ percentD 2147483648 < r.created ∧ r.status = 1) =
      true := decide_eq_true ⟨hreceiver, habove, hstatus⟩
  obtain ⟨rows, hrows, hmem⟩ : ∃ rows, Shown t u 2147483648 rows ∧ r ∈ rows :=
    Table.exists_selectsLimit hr hp hnewer
  exact ⟨u, 2147483648, rows, hu, hrows, hmem⟩

/-- A deletion takes the first row of the task from what the lists can show. -/
theorem filter_deleteFirst {q : FileRow → Bool} (hq : ∀ r, q r = true → r.status = 1) (updated : Int)
    (taskId : Bytes) (t : List FileRow) :
    (deleteFirst updated taskId t).filter q = (t.eraseP (FileRow.isOf taskId)).filter q := by
  refine Table.filter_updateFirst_one (fun r => ?_) t
  by_contra hdeleted
  have hzero : (0 : Int) = 1 := hq (r.deleted updated) (Bool.not_eq_false _ ▸ hdeleted)
  omega

theorem mem_deleteFirst {t : List FileRow} {taskId : Bytes} {r : FileRow} (updated : Int)
    (hr : r.status = 1) :
    r ∈ deleteFirst updated taskId t ↔ r ∈ t.eraseP (FileRow.isOf taskId) := by
  have hfilter := filter_deleteFirst (q := fun x => decide (x.status = 1))
    (fun x hx => of_decide_eq_true hx) updated taskId t
  have hmem : ∀ rows : List FileRow, r ∈ rows ↔ r ∈ rows.filter fun x => decide (x.status = 1) :=
    fun rows => by simp [List.mem_filter, hr]
  rw [hmem, hfilter, ← hmem]

theorem listable_deleteFirst {t : List FileRow} {taskId : Bytes} {updated : Int} {r : FileRow} :
    Listable (deleteFirst updated taskId t) r ↔ Listable (t.eraseP (FileRow.isOf taskId)) r := by
  have hfilter := filter_deleteFirst (q := fun x => decide (x.toUserId = r.toUserId ∧ x.status = 1 ∧
    r.created < x.created)) (fun x hx => (of_decide_eq_true hx).2.1) updated taskId t
  have hnewer := congrArg List.length hfilter
  rw [← List.countP_eq_length_filter, ← List.countP_eq_length_filter] at hnewer
  constructor
  · rintro ⟨hstatus, hreceiver, hcreated, hless⟩
    exact ⟨hstatus, hreceiver, hcreated, hnewer ▸ hless⟩
  · rintro ⟨hstatus, hreceiver, hcreated, hless⟩
    exact ⟨hstatus, hreceiver, hcreated, hnewer ▸ hless⟩

/-! ## The runs -/

/-- Any 32 bits are the cutoff of a list with some clock. -/
theorem exists_listClock (c : UInt32) : ∃ t : UInt64, (t - 7 * 24 * 3600).toUInt32 = c := by
  refine ⟨c.toUInt64 + 7 * 24 * 3600, ?_⟩
  rw [UInt64.add_sub_cancel]
  exact UInt32.toUInt32_toUInt64 c

/-- Any 32 bits are the cutoff of a deletion with some clock. -/
theorem exists_deleteClock (c : UInt32) :
    ∃ t : UInt64, (t / 1000).toUInt32 - 7 * 86400 = c := by
  have hc := c.toNat_lt
  have hseconds : (7 * 86400 : UInt32).toNat = 604800 := rfl
  have hthousand : (1000 : UInt64).toNat = 1000 := rfl
  have hfits : (c.toNat + 604800) * 1000 % 2 ^ 64 = (c.toNat + 604800) * 1000 :=
    Nat.mod_eq_of_lt (by omega)
  refine ⟨.ofNat ((c.toNat + 604800) * 1000), UInt32.toNat_inj.mp ?_⟩
  rw [UInt32.toNat_sub, UInt64.toNat_toUInt32, UInt64.toNat_div, UInt64.toNat_ofNat', hseconds,
    hthousand, hfits, Nat.mul_div_cancel _ (by omega)]
  clear hseconds hthousand hfits
  omega

/-- The cutoff next below a value lets through what is not below the value. -/
theorem sub_one_lt_iff {c d : UInt32} (hc : c ≠ 0) : c - 1 < d ↔ c ≤ d := by
  have hpos : c.toNat ≠ 0 := fun hzero => hc (UInt32.toNat_inj.mp hzero)
  have hlt := c.toNat_lt
  have hone : (1 : UInt32).toNat = 1 := rfl
  rw [UInt32.lt_iff_toNat_lt, UInt32.le_iff_toNat_le, UInt32.toNat_sub, hone]
  omega

section Runs

variable {w w' : World} {tr : List Event} {taskId : Bytes}

open ZAresFileManagerImpl

/-- A list shows rows of the table; for user 0 it asks nothing. -/
theorem getUserFiles_shown {u : UInt32} {n : Nat} {files : List OfflineFile}
    (h : Runs StepOk w (getUserFiles u []) tr (n, files) w') : w' = w ∧
      ((tr = [] ∧ files = []) ∨ u ≠ 0 ∧ ∃ t cutoff rows, tr = [⟨.nowMSTime, t⟩,
        ⟨.file (.selectUserFiles (percentD u) (percentD cutoff)), some rows⟩] ∧
        Shown w.db.imTransmitFile u cutoff rows ∧ files.map (·.taskId) = rows.map (·.taskId)) := by
  by_cases hu : u = 0
  · simp only [getUserFiles, if_pos hu] at h
    obtain ⟨rfl, heq, rfl⟩ := runs_pure.mp h
    exact ⟨rfl, Or.inl ⟨rfl, (Prod.mk.inj heq).2⟩⟩
  · obtain ⟨rfl, t, rows, htr, hrows, -, htasks⟩ := getUserFiles_runs hu h
    exact ⟨rfl, Or.inr ⟨hu, t, _, rows, htr, hrows, htasks⟩⟩

/-- What can be shown, some list shows. -/
theorem Shown.exists_run {u cutoff : UInt32} {rows : List FileRow} (hu : u ≠ 0)
    (h : Shown w.db.imTransmitFile u cutoff rows) : ∃ tr n files,
      Runs StepOk w (getUserFiles u []) tr (n, files) w ∧
      files.map (·.taskId) = rows.map (·.taskId) ∧ ∀ r ∈ rows, Lists tr r := by
  obtain ⟨t, rfl⟩ := exists_listClock cutoff
  refine ⟨[⟨.nowMSTime, t⟩, ⟨.file (.selectUserFiles (percentD u)
      (percentD (t - 7 * 24 * 3600).toUInt32)), some rows⟩], rows.length, rows.map fun row =>
    ⟨getColumn row.userId, row.taskId, row.filePath, getColumn row.fsize⟩, ?_, ?_, ?_⟩
  · simp only [getUserFiles, if_neg hu, runs_bind, runs_issue]
    refine ⟨_, t, w, _, ⟨rfl, rfl⟩, ⟨_, some rows, w, _, ⟨⟨_, ⟨rfl, rows, h, rfl⟩, rfl⟩, rfl⟩, ?_, rfl⟩,
      rfl⟩
    exact runs_pure.mpr ⟨rfl, by simp, rfl⟩
  · rw [List.map_map]
    rfl
  · intro r hr
    exact ⟨_, _, rows, List.mem_cons_of_mem _ List.mem_cons_self, hr⟩

/-- A deletion is accepted if the first row of the task passes the test; and then it takes this row. -/
theorem fileDelOfflineReqHandler_inOrder (hplain : isPlain taskId = true) (hnul : 0 ∉ taskId)
    {mem : Memory} {sessionId : UInt64} {request : Pdu FileDelOfflineReq}
    (hrequest : request.body.taskId = taskId)
    (h : Runs InOrder w (fileDelOfflineReqHandler zAresModelModule mem sessionId request) tr () w') :
    ∃ t, StartsAt tr t ∧ (DeletionAccepted tr ↔ taskId ≠ [] ∧
        ∃ first, w.db.imTransmitFile.find? (FileRow.isOf taskId) = some first ∧ first.Passes t) ∧
      (DeletionAccepted tr → ∃ updated,
        w' = w.setFiles (deleteFirst updated taskId w.db.imTransmitFile)) := by
  subst hrequest
  obtain ⟨t, _, _, _, htr, hruns⟩ :=
    fileDelOfflineReqHandler_runs (fun _ _ _ _ hstep => hstep.ok.step) h
  refine ⟨t, by rw [htr]; rfl, ?_⟩
  rcases hruns with ⟨hempty, -, -, hno, -⟩ | ⟨hempty, answ, -, ⟨-, hselect⟩, hruns⟩
  · exact ⟨iff_of_false hno fun h => h.1 hempty, fun haccepted => absurd haccepted hno⟩
  rw [cStr_eq hnul] at hselect
  obtain rfl := hselect hplain
  have hfirst : FirstPasses (some (w.db.imTransmitFile.filter (FileRow.isOf request.body.taskId))) t ↔
      ∃ first, w.db.imTransmitFile.find? (FileRow.isOf request.body.taskId) = some first ∧
        first.Passes t := by
    rw [← List.head?_filter]
    constructor
    · rintro ⟨row, rest, hrows, hpasses⟩
      exact ⟨row, by rw [Option.some.inj hrows]; rfl, hpasses⟩
    · rintro ⟨row, hrow, hpasses⟩
      obtain ⟨rest, hrest⟩ := List.head?_eq_some_iff.mp hrow
      exact ⟨row, rest, congrArg some hrest, hpasses⟩
  rw [← hfirst]
  rcases hruns with ⟨hpasses, hyes, _, updated, n, -, -, hupdate⟩ | ⟨hpasses, -, hno, -⟩
  · rw [cStr_eq hnul] at hupdate
    exact ⟨iff_of_true hyes ⟨hempty, hpasses⟩, fun _ => ⟨updated, hupdate hplain⟩⟩
  · exact ⟨iff_of_false hno fun h => hpasses h.2, fun haccepted => absurd haccepted hno⟩

/-- A deletion with a given clock runs in every world. -/
theorem exists_deletion (w : World) (taskId : Bytes) (t : UInt64) : ∃ tr w',
    Runs InOrder w (fileDelOfflineReqHandler zAresModelModule default 0 (deleteTask taskId)) tr () w' ∧
      StartsAt tr t :=
  ⟨_, _, Prog.exec_runs (respondAt_inOrder t) _ w, rfl⟩

end Runs

/-! ## The condition -/

section Agrees

variable {w : World} {taskId : Bytes}

theorem TaskAgrees.gone (hplain : isPlain taskId = true) (hnul : 0 ∉ taskId)
    (h : TaskAgrees w.db.imTransmitFile taskId) {mem : Memory} {sessionId : UInt64}
    {request : Pdu FileDelOfflineReq} {tr tr' : List Event} {w₁ w₂ : World}
    (hrequest : request.body.taskId = taskId)
    (hdelete : Runs InOrder w (fileDelOfflineReqHandler zAresModelModule mem sessionId request) tr ()
      w₁) (haccepted : DeletionAccepted tr) {u : UInt32} {n : Nat} {files : List OfflineFile}
    (hlist : Runs StepOk w₁ (ZAresFileManagerImpl.getUserFiles u []) tr' (n, files) w₂) :
    ∀ file ∈ files, file.taskId ≠ taskId := by
  obtain ⟨t, -, hverdict, hupdate⟩ := fileDelOfflineReqHandler_inOrder hplain hnul hrequest hdelete
  obtain ⟨hempty, first, hfirst, hstatus, hcreated⟩ := hverdict.mp haccepted
  obtain ⟨updated, rfl⟩ := hupdate haccepted
  have hnew : getColumn first.created ≠ 0 := by
    intro hzero
    rw [hzero] at hcreated
    exact absurd hcreated (UInt32.not_lt_zero)
  obtain ⟨-, ⟨-, rfl⟩ | ⟨hu, _, cutoff, rows, -, hrows, htasks⟩⟩ := getUserFiles_shown hlist
  · simp
  · intro file hfile htask
    have hmem : taskId ∈ rows.map (·.taskId) := htasks ▸ List.mem_map.mpr ⟨file, hfile, htask⟩
    obtain ⟨r, hr, hof⟩ := List.mem_map.mp hmem
    obtain ⟨hthere, hlistable⟩ := hrows.listable hu hr
    exact h.others hempty first hfirst hstatus hnew r ((mem_deleteFirst _ hlistable.status).mp hthere) hof
      (listable_deleteFirst.mp hlistable)

theorem TaskAgrees.deletable (hplain : isPlain taskId = true) (hnul : 0 ∉ taskId)
    (h : TaskAgrees w.db.imTransmitFile taskId) {u : UInt32} {n : Nat} {files : List OfflineFile}
    {tr tr' : List Event} {w₁ w₂ : World} {r : FileRow}
    (hlist : Runs StepOk w (ZAresFileManagerImpl.getUserFiles u []) tr (n, files) w₁)
    (hlists : Lists tr r) (hof : r.taskId = taskId) {mem : Memory} {sessionId : UInt64}
    {request : Pdu FileDelOfflineReq} {t : UInt64} (hrequest : request.body.taskId = taskId)
    (hdelete : Runs InOrder w₁ (fileDelOfflineReqHandler zAresModelModule mem sessionId request) tr' ()
      w₂) (hclock : StartsAt tr' t)
    (hpasses : getColumn r.created > (t / 1000).toUInt32 - 7 * 86400) : DeletionAccepted tr' := by
  obtain ⟨t', hstart, hverdict, -⟩ := fileDelOfflineReqHandler_inOrder hplain hnul hrequest hdelete
  obtain rfl := hstart.unique hclock
  obtain ⟨rfl, ⟨rfl, -⟩ | ⟨hu, _, cutoff, rows, rfl, hrows, -⟩⟩ := getUserFiles_shown hlist
  · obtain ⟨_, _, _, hevent, -⟩ := hlists
    simp at hevent
  · obtain ⟨_, _, rows', hevent, hr⟩ := hlists
    obtain ⟨-, rfl⟩ : _ ∧ rows' = rows := by simpa using hevent
    obtain ⟨hthere, hlistable⟩ := hrows.listable hu hr
    have hnew : getColumn r.created ≠ 0 := by
      intro hzero
      rw [hzero] at hpasses
      exact absurd hpasses (UInt32.not_lt_zero)
    obtain ⟨hempty, first, hfirst, hstatus, hle⟩ := h.listed r hthere hof hlistable hnew
    exact hverdict.mpr ⟨hempty, first, hfirst, hstatus,
      UInt32.lt_of_lt_of_le hpasses hle⟩

/-- Consistency is agreement of the table: with every cutoff some list and some deletion come. -/
theorem TaskConsistent.agrees (hplain : isPlain taskId = true) (hnul : 0 ∉ taskId)
    (h : TaskConsistent w taskId) : TaskAgrees w.db.imTransmitFile taskId := by
  constructor
  · intro r hr hof hlistable hnew
    obtain ⟨u, cutoff, rows, hu, hshown, hmem⟩ := hlistable.shown hr
    obtain ⟨tr, n, files, hlist, -, hlists⟩ := hshown.exists_run hu
    -- the latest clock with which the row passes the test
    obtain ⟨t, ht⟩ := exists_deleteClock (getColumn r.created - 1)
    obtain ⟨tr', w₂, hdelete, hclock⟩ := exists_deletion w taskId t
    have hpasses : getColumn r.created > (t / 1000).toUInt32 - 7 * 86400 := by
      rw [ht]
      exact (sub_one_lt_iff hnew).mpr (UInt32.le_refl _)
    have haccepted := h.deletable u tr n files w r hlist (hlists r hmem) hof _ _ _ tr' w₂ t rfl hdelete
      hclock hpasses
    obtain ⟨t', hstart, hverdict, -⟩ := fileDelOfflineReqHandler_inOrder hplain hnul rfl hdelete
    obtain rfl := hstart.unique hclock
    obtain ⟨hempty, first, hfirst, hstatus, habove⟩ := hverdict.mp haccepted
    rw [ht] at habove
    exact ⟨hempty, first, hfirst, hstatus, (sub_one_lt_iff hnew).mp habove⟩
  · intro hempty first hfirst hstatus hnew r hr hof hlistable
    -- the earliest cutoff of all
    obtain ⟨t, ht⟩ := exists_deleteClock 0
    obtain ⟨tr, w₁, hdelete, hclock⟩ := exists_deletion w taskId t
    obtain ⟨t', hstart, hverdict, hupdate⟩ :=
      fileDelOfflineReqHandler_inOrder hplain hnul rfl hdelete
    obtain rfl := hstart.unique hclock
    have hpasses : first.Passes t' := by
      refine ⟨hstatus, ?_⟩
      rw [ht]
      exact UInt32.pos_iff_ne_zero.mpr hnew
    have haccepted := hverdict.mpr ⟨hempty, first, hfirst, hpasses⟩
    obtain ⟨updated, rfl⟩ := hupdate haccepted
    have hthere := (mem_deleteFirst updated hlistable.status).mpr hr
    obtain ⟨u, cutoff, rows, hu, hshown, hmem⟩ := (listable_deleteFirst.mpr hlistable).shown hthere
    obtain ⟨tr', n, files, hlist, htasks, -⟩ := Shown.exists_run (w := w.setFiles _) hu hshown
    have htask : taskId ∈ files.map (·.taskId) := by
      rw [htasks]
      exact List.mem_map.mpr ⟨r, hmem, hof⟩
    obtain ⟨file, hfile, hsame⟩ := List.mem_map.mp htask
    exact h.gone _ _ _ tr _ rfl hdelete haccepted u tr' n files _ hlist file hfile hsame

end Agrees

/-- **Tasks.**  What is deleted is gone and what is listed can be deleted, exactly in the tables on which
    list, lookup and deletion agree. -/
theorem taskConsistent_iff (w : World) {taskId : Bytes} (hplain : isPlain taskId = true)
    (hnul : 0 ∉ taskId) : TaskConsistent w taskId ↔ TaskAgrees w.db.imTransmitFile taskId := by
  constructor
  · exact TaskConsistent.agrees hplain hnul
  · intro hagrees
    constructor
    · intro mem sessionId request tr w₁ hrequest hdelete haccepted u tr' n files w₂ hlist
      exact hagrees.gone hplain hnul hrequest hdelete haccepted hlist
    · intro u tr n files w₁ r hlist hlists hof mem sessionId request tr' w₂ t hrequest hdelete hclock
        hpasses
      exact hagrees.deletable hplain hnul hlist hlists hof hrequest hdelete hclock hpasses

/-- Two files of one task: the deletion takes one of them. -/
theorem not_forall_taskConsistent : ¬∀ (w : World) (taskId : Bytes), isPlain taskId = true →
    0 ∉ taskId → TaskConsistent w taskId := by
  intro hall
  have hconsistent := hall (emptyWorld.setFiles [⟨1, 2, 1, [49], [102], 1, 1, 1, 0⟩,
    ⟨2, 2, 1, [49], [103], 1, 1, 1, 0⟩]) [49] (by decide) (by decide)
  have hagrees := hconsistent.agrees (by decide) (by decide)
  refine hagrees.others (by decide) _ rfl (by decide) (by decide) ⟨2, 2, 1, [49], [103], 1, 1, 1, 0⟩
    (List.mem_singleton_self _) rfl ⟨rfl, ⟨1, by decide, by decide⟩, by decide, by decide⟩

theorem taskConsistent_one : TaskConsistent (oneFile 1000000000 [49]) [49] := by
  refine (taskConsistent_iff _ (by decide) (by decide)).mpr ⟨?_, ?_⟩
  · intro r hr _ _ _
    obtain rfl := List.mem_singleton.mp hr
    exact ⟨by decide, _, rfl, by decide, UInt32.le_refl _⟩
  · intro _ first _ _ _ r hr
    exact absurd hr List.not_mem_nil

end Zattd
