/-
  WHO changes the tables of groups and files, in a server at work.

  The rest of what is read off the monitor (`keeps_policy`), along any stretch of a run:

  1. `groups_change` — a group is made at the request of the user that it then belongs to, and keeps
     its name, its creator and its type for good; the number of its members is changed for requests
     about its members, and the time of its last change for removals that its creator has asked for;
  2. `files_fade` — no file is ever added to those that are offered offline, and one that is offered is
     taken back only for a request that names its task, if all these names are literals for themselves.
-/
import Zattd.Correct.Authority
import Zattd.Correct.OfflineFiles

set_option linter.unusedVariables false

namespace Zattd

open Prog

/-! ## What a command can do at a place -/

section Places

variable {w w' : World} {c : Cmd} {a : c.Answer}

theorem Step.files (h : Step w c a w') : w'.db.imTransmitFile = w.db.imTransmitFile ∨
    ∃ (s : FileStmt) (b : s.Answer), c = .file s ∧ s.Ok w.db.imTransmitFile b w'.db.imTransmitFile := by
  rcases h with hok | hfail
  · cases c with
    | file s =>
      obtain ⟨t, ht, rfl⟩ := hok
      exact Or.inr ⟨s, a, rfl, ht⟩
    | nowMSTime | sendSessionData =>
      obtain rfl : w' = w := hok
      exact Or.inl rfl
    | user | department | counter =>
      obtain ⟨-, rfl⟩ := hok
      exact Or.inl rfl
    | group | contact | message =>
      obtain ⟨t, -, rfl⟩ := hok
      exact Or.inl rfl
  · cases c with
    | nowMSTime | counter | sendSessionData => exact absurd hfail id
    | user | department | contact | message | group | file =>
      obtain ⟨-, rfl⟩ := hfail
      exact Or.inl rfl

/-- A file is taken back by its task, or is new — or nothing happens to it, unless a name is none. -/
theorem Step.file_at (h : Step w c a w')
    (hplain : ∀ now taskId, c = .file (.updateDeleted now taskId) → isPlain taskId = true) (k : Nat) :
    w'.db.imTransmitFile[k]? = w.db.imTransmitFile[k]? ∨
    (∃ now taskId r, c = .file (.updateDeleted now taskId) ∧ w.db.imTransmitFile[k]? = some r ∧
      r.taskId = taskId ∧ w'.db.imTransmitFile[k]? = some { r with status := 0, updated := now }) ∨
    ∃ values, c = .file (.insertFile (some values)) := by
  rcases h.files with hsame | ⟨s, b, rfl, hok⟩
  · rw [hsame]
    exact Or.inl rfl
  cases s with
  | selectUserFiles | selectFile =>
    rw [hok.1]
    exact Or.inl rfl
  | insertFile values =>
    cases values with
    | none =>
      rw [hok.1]
      exact Or.inl rfl
    | some values => exact Or.inr (Or.inr ⟨values, rfl⟩)
  | updateDeleted now taskId =>
    obtain ⟨n, hupdate, -⟩ := hok (hplain now taskId rfl)
    rcases hupdate.getElem? k with hsame | ⟨r, hr, htask, hnew⟩
    · exact Or.inl hsame
    · exact Or.inr (Or.inl ⟨now, taskId, r, rfl, hr, of_decide_eq_true htask, hnew⟩)

end Places

/-! ## What a request asks for -/

section Requests

variable {sessionId : UInt64} {message : Message} {w w' : World}

/-- The request makes this group, for the user that it comes from. -/
def Founds (row : GroupRow) (message : Message) : Prop :=
  ∃ m : Pdu GroupCreateTmpGroupRequest, message = ⟨.groupCreateTmpGroupRequest, m⟩ ∧
    m.body.reqUserId ≠ 0 ∧ m.body.groupName ≠ [] ∧ row.createUserId = addParam m.body.reqUserId ∧
    row.groupName = cStr m.body.groupName ∧ row.avatar = cStr m.body.groupAvatar ∧
    row.groupType = addParam 2

/-- The request is to add members to the group, or makes a group with this id. -/
def Enlarges (w : World) (row : GroupRow) (message : Message) : Prop :=
  (∃ m : Pdu GroupChangeMemberRequest, message = ⟨.groupChangeMemberRequest, m⟩ ∧
    m.body.changeType = 0 ∧ row.groupId = percentD m.body.groupId) ∨
  ∃ (m : Pdu GroupCreateTmpGroupRequest) (groupId : UInt32),
    message = ⟨.groupCreateTmpGroupRequest, m⟩ ∧ w.HasMade m.body.reqUserId groupId ∧
    row.groupId = percentD groupId

/-- The request is to remove members from the group, and who asks has made it. -/
def Shrinks (w : World) (row : GroupRow) (message : Message) : Prop :=
  ∃ m : Pdu GroupChangeMemberRequest, message = ⟨.groupChangeMemberRequest, m⟩ ∧
    m.body.changeType ≠ 0 ∧ w.IsCreator m.body.reqUserId m.body.groupId ∧
    row.groupId = percentD m.body.groupId

/-- The request names the task of the file. -/
def TakesBack (row : FileRow) (message : Message) : Prop :=
  ∃ m : Pdu FileDelOfflineReq, message = ⟨.fileDelOfflineReq, m⟩ ∧ row.taskId = cStr m.body.taskId

/-- What is fixed for a file. -/
def FileRow.fixed (r : FileRow) : FileRow := { r with status := 0, updated := 0 }

theorem Founds.of_fixed {row row' : GroupRow} (h : Founds row message) (hsame : row'.fixed = row.fixed) :
    Founds row' message := by
  obtain ⟨m, hm, huser, hname, hcreator, hgroupName, havatar, htype⟩ := h
  have hcreator' : row'.createUserId = row.createUserId := congrArg (·.createUserId) hsame
  have hname' : row'.groupName = row.groupName := congrArg (·.groupName) hsame
  have havatar' : row'.avatar = row.avatar := congrArg (·.avatar) hsame
  have htype' : row'.groupType = row.groupType := congrArg (·.groupType) hsame
  exact ⟨m, hm, huser, hname, hcreator'.trans hcreator, hname'.trans hgroupName,
    havatar'.trans havatar, htype'.trans htype⟩

theorem Enlarges.grows {row row' : GroupRow} (h : Enlarges w row message) (hgrows : Grows w w')
    (hsame : row'.groupId = row.groupId) : Enlarges w' row' message := by
  rcases h with ⟨m, hm, htype, hg⟩ | ⟨m, g, hm, hmade, hg⟩
  · exact Or.inl ⟨m, hm, htype, hsame.trans hg⟩
  · exact Or.inr ⟨m, g, hm, hmade.grows hgrows, hsame.trans hg⟩

theorem Shrinks.grows {row row' : GroupRow} (h : Shrinks w row message) (hgrows : Grows w w')
    (hsame : row'.groupId = row.groupId) : Shrinks w' row' message := by
  obtain ⟨m, hm, htype, hcreator, hg⟩ := h
  exact ⟨m, hm, htype, hcreator.grows hgrows, hsame.trans hg⟩

/-! ### The rules, read from the command -/

theorem May.takesBack {now : Int} {taskId : Bytes}
    (h : May sessionId message w (.file (.updateDeleted now taskId))) :
    ∃ m : Pdu FileDelOfflineReq, message = ⟨.fileDelOfflineReq, m⟩ ∧ taskId = cStr m.body.taskId := by
  cases h with
  | read hread => cases hread
  | @deleteFile m _ _ => exact ⟨m, rfl, rfl⟩

/-- There is no statement that would save a file. -/
theorem May.saves_none {values : FileValues} :
    ¬May sessionId message w (.file (.insertFile (some values))) := by
  intro h
  cases h with
  | read hread => cases hread

end Requests

namespace HandlerThreads

variable {n : Nat} {bo : ByteOrder} {w₀ w w' : World} {s s' : HandlerThreads}
  {tr tr' : List ThreadsEvent} {cmds : List (Job × Event)} {mem : Job → Memory} {k : Nat}

/-! ## Groups -/

/-- The tasks that these packets name are literals for themselves, whatever the memory holds. -/
def PlainTasks (bo : ByteOrder) (js : List Job) : Prop :=
  ∀ j ∈ js, ∀ mem (m : Pdu FileDelOfflineReq), Asks bo mem j ⟨.fileDelOfflineReq, m⟩ →
    isPlain (cStr m.body.taskId) = true

/-- What a command does to a file, if it is issued for such a packet. -/
theorem file_step {e : Job × Event} (h : Passes bo mem w e w') (hplain : PlainTasks bo [e.1]) (k : Nat) :
    w'.db.imTransmitFile[k]? = w.db.imTransmitFile[k]? ∨
    ∃ r now message, Asks bo (mem e.1) e.1 message ∧ TakesBack r message ∧ w.db.imTransmitFile[k]? = some r ∧
      w'.db.imTransmitFile[k]? = some { r with status := 0, updated := now } := by
  obtain ⟨⟨message, hasks, hmay⟩, hdo⟩ := h
  have hliteral : ∀ now taskId, e.2.1 = .file (.updateDeleted now taskId) → isPlain taskId = true := by
    intro now taskId hc
    rw [hc] at hmay
    obtain ⟨m, rfl, rfl⟩ := hmay.takesBack
    exact hplain e.1 (List.mem_singleton_self _) (mem e.1) m hasks
  rcases hdo.file_at hliteral k with hsame | ⟨now, taskId, r, hc, hr, htask, hnew⟩ | ⟨values, hc⟩
  · exact Or.inl hsame
  · rw [hc] at hmay
    obtain ⟨m, rfl, rfl⟩ := hmay.takesBack
    exact Or.inr ⟨r, now, _, hasks, ⟨m, rfl, htask⟩, hr, hnew⟩
  · rw [hc] at hmay
    exact absurd hmay May.saves_none

/-- The history of a file: it stays where it is and what it is, until it is taken back. -/
theorem file_kept (h : Run (Passes bo mem) w cmds w') (hplain : PlainTasks bo (askers cmds)) :
    (w.db.imTransmitFile[k]? = none → w'.db.imTransmitFile[k]? = none) ∧
    ∀ row, w.db.imTransmitFile[k]? = some row → ∃ row', w'.db.imTransmitFile[k]? = some row' ∧
      row'.fixed = row.fixed ∧
      (row' = row ∨ row'.status = 0 ∧ AskedBy bo mem (askers cmds) (TakesBack row)) := by
  induction h with
  | nil => exact ⟨fun hnone => hnone, fun row hrow => ⟨row, hrow, rfl, Or.inl rfl⟩⟩
  | @snoc cmds e w₁ w₂ _ hstep ih =>
    have hsub : ∀ j ∈ askers cmds, j ∈ askers (cmds ++ [e]) := by
      intro j hj
      rw [askers, List.map_append]
      exact List.mem_append_left _ hj
    have hlast : e.1 ∈ askers (cmds ++ [e]) :=
      List.mem_map_of_mem (List.mem_append_right _ (List.mem_singleton_self e))
    obtain ⟨hnone₁, hkept₁⟩ := ih fun j hj => hplain j (hsub j hj)
    have hone : PlainTasks bo [e.1] := by
      intro j hj
      rw [List.mem_singleton.mp hj]
      exact hplain e.1 hlast
    rcases file_step hstep hone k with hsame | ⟨r, now, message, hasks, htakes, hr, hnew⟩
    · rw [hsame]
      refine ⟨hnone₁, fun row hrow => ?_⟩
      obtain ⟨row', hrow', hfixed, hstatus⟩ := hkept₁ row hrow
      exact ⟨row', hrow', hfixed, hstatus.imp_right fun ⟨hzero, hasked⟩ =>
        ⟨hzero, hasked.snoc fun _ h => h⟩⟩
    · refine ⟨fun hnone => ?_, fun row hrow => ?_⟩
      · rw [hnone₁ hnone] at hr
        cases hr
      · obtain ⟨row', hrow', hfixed, -⟩ := hkept₁ row hrow
        obtain rfl := Option.some.inj (hr.symm.trans hrow')
        refine ⟨_, hnew, hfixed, Or.inr ⟨rfl, askedBy_last hasks ?_⟩⟩
        obtain ⟨m, hm, htask⟩ := htakes
        have hsameTask : r.taskId = row.taskId := congrArg (·.taskId) hfixed
        exact ⟨m, hm, hsameTask.symm.trans htask⟩

/-- **Offline files fade.**  Between any two moments of a run whose requests name only tasks that are
    literals for themselves: no row is added to `IMTransmitFile`, and the rows stay in their places with
    the same users, task, path and size.  A row that has changed at all has status 0 now, and a received
    request to delete a file has named its task in between. -/
theorem files_fade (h : Run (Step n bo zAresModelModule) (start w₀) tr s)
    (h' : Run (Step n bo zAresModelModule) s tr' s') (hplain : PlainTasks bo (received (tr ++ tr')))
    (k : Nat) :
    (s.pool.world.db.imTransmitFile[k]? = none → s'.pool.world.db.imTransmitFile[k]? = none) ∧
    ∀ row, s.pool.world.db.imTransmitFile[k]? = some row →
      ∃ row', s'.pool.world.db.imTransmitFile[k]? = some row' ∧ row'.fixed = row.fixed ∧
        (row' = row ∨ row'.status = 0 ∧ AskedDuring n bo w₀ tr s tr' s' (TakesBack row)) := by
  have hplain' : PlainTasks bo (askers (commands tr')) := fun j hj =>
    hplain j (received_of_mem_askers h h' j hj)
  refine ⟨fun hnone => ?_, fun row hrow => ?_⟩
  · obtain ⟨mem, hmem⟩ := ran_in h h'
    exact (file_kept (passes_run hmem) hplain').1 hnone
  · obtain ⟨row', hrow', ⟨mem, hmem⟩, hkept⟩ :=
      kept_inMemory h h' fun mem hmem => (file_kept (passes_run hmem) hplain').2 row hrow
    obtain ⟨hfixed, -⟩ := hkept mem hmem
    refine ⟨row', hrow', hfixed, ?_⟩
    by_cases hsame : row' = row
    · exact Or.inl hsame
    · obtain ⟨-, hstatus⟩ := hkept mem hmem
      obtain ⟨hzero, -⟩ := hstatus.resolve_left hsame
      refine Or.inr ⟨hzero, asked_during h h' fun mem hmem => ?_⟩
      obtain ⟨-, hstatus⟩ := hkept mem hmem
      exact (hstatus.resolve_left hsame).2

/-- A file that user 2 offers to user 1. -/
def oneOffered : FileRow where
  id := 1
  userId := 2
  toUserId := 1
  taskId := [49]
  filePath := [102]
  status := 1
  created := 700000
  updated := 700000
  fsize := 0

def offeredWorld : World := emptyWorld.setFiles [oneOffered]

/-- The packet that asks for its deletion, -/
def deletionJob : Job := ⟨0, 1, packetOf (deleteTask [49])⟩

/-- and what is done for it when the clock shows the time of the offer. -/
def deletion : List Event × Unit × World :=
  (onMessageDataHandler .big zAresModelModule default 1 deletionJob.packet).exec (respondAt 700000000)
    offeredWorld

/-- The file is taken back, and its task has been named. -/
theorem files_fade_one :
    deletion.2.2.db.imTransmitFile = [{ oneOffered with status := 0, updated := 700000000 }] ∧
      AskedDuring 2 .big offeredWorld [] (start offeredWorld) (service deletionJob deletion.1)
        (atRest 1 deletion.2.2) (TakesBack oneOffered) := by
  have hruns := Prog.exec_runs (respondAt_ok 700000000)
    (onMessageDataHandler .big zAresModelModule default 1 deletionJob.packet) offeredWorld
  have hserved : Run (Step 2 .big zAresModelModule) (start offeredWorld) (service deletionJob deletion.1)
      (atRest 1 deletion.2.2) :=
    service_run (by decide) (hruns.mono fun _ _ _ _ => StepOk.step)
  have hgone : deletion.2.2.db.imTransmitFile =
      [{ oneOffered with status := 0, updated := 700000000 }] := by decide
  have hreceived : received (service deletionJob deletion.1) = [deletionJob] := by decide
  have hplain : PlainTasks .big (received ([] ++ service deletionJob deletion.1)) := by
    intro j hj mem m hasks
    rw [List.nil_append, hreceived] at hj
    obtain rfl := List.mem_singleton.mp hj
    -- it is parsed alike in every memory
    have hparse : Asks .big mem deletionJob ⟨.fileDelOfflineReq, deleteTask [49]⟩ := by
      unfold Asks parseMessagePduFromNetPacker
      rfl
    cases Option.some.inj (hasks.symm.trans hparse)
    decide
  obtain ⟨-, hkept⟩ := files_fade .nil hserved hplain 0
  obtain ⟨row', hrow', -, hfaded⟩ := hkept oneOffered rfl
  obtain rfl : { oneOffered with status := 0, updated := 700000000 } = row' :=
    Option.some.inj ((congrArg (fun l => l[0]?) hgone).symm.trans hrow')
  rcases hfaded with hsame | ⟨-, hasked⟩
  · exact absurd hsame (by decide)
  · exact ⟨hgone, hasked⟩

end HandlerThreads

end Zattd
