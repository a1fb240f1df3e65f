/-
  What a client is told about the removal of a session.

  For a contact, `DeleteRecentContactByUserId` takes the answer of its UPDATE for success if it is 0,
  where every other manager takes it for the number of rows changed: it answers success exactly if it
  has removed nothing.  For a group nothing is removed at all: the handler looks the group up, and to
  find it is success.

  So the reply is right only where there was nothing to get wrong: the statement has failed, or the
  group is not there.
-/
import Zattd.Correct.Contacts

set_option linter.unusedVariables false

namespace Zattd

open Prog

/-! ## The property -/

/-- The contact of `u` with `f` satisfies `GetRecentContactByUserId`. -/
def IsRecentContact (w : World) (u f : UInt32) : Prop :=
  ∃ r ∈ w.db.imRecentContact, r.isOf (percentD u) (percentD f) = true ∧ r.status = 0

/-- The group `g` satisfies `GetRecentGroupsByUserId` for `u`. -/
def IsRecentGroup (w : World) (u g : UInt32) : Prop :=
  (∃ r ∈ w.db.groups.imGroupRelation,
    r.userId = percentD u ∧ r.status = 1 ∧ r.groupId = percentD g) ∧
  ∃ group ∈ w.db.groups.imGroup, group.groupId = percentD g

/-- The session of the request, a contact for type 1 and a group otherwise, is an active one. -/
def IsRecentSession (w : World) (m : RemoveSessionRequest) : Prop :=
  if m.sessionType = 1 then IsRecentContact w m.reqUserId m.sessionId
  else IsRecentGroup w m.reqUserId m.sessionId

/-- A row of the contact of `u` with `f` has been marked as removed. -/
def MarksContact (w w' : World) (u f : UInt32) : Prop :=
  ∃ (i : Nat) (r : ContactRow), w.db.imRecentContact[i]? = some r ∧
    r.isOf (percentD u) (percentD f) = true ∧ r.status ≠ 1 ∧
    w'.db.imRecentContact[i]? = some { r with status := 1 }

/-- The result is what was done. -/
structure ReportsRemoval (m : RemoveSessionRequest) (w w' : World) (result : UInt32) : Prop where
  removed : result = 0 → IsRecentSession w m ∧ ¬IsRecentSession w' m
  reported : m.sessionType = 1 → MarksContact w w' m.reqUserId m.sessionId → result = 0

/-- The one reply of a run reports the removal. -/
def RemovalReplied (sessionId : UInt64) (m : RemoveSessionRequest) (w w' : World) (tr : List Event) :
    Prop :=
  ∃ reply : Pdu RemoveSessionResponse, replies tr = [(sessionId, ⟨.removeSessionResponse, reply⟩)] ∧
    ReportsRemoval m w w' reply.body.result

/-- The UPDATE of a contact has failed, or the query for a group has no row. -/
def Event.isRefusal : Event → Bool
  | ⟨.contact (.updateRemove _ _), n⟩ => decide (n < (0 : Int))
  | ⟨.group (.selectGroup _), answ⟩ => (answ.getD []).isEmpty
  | _ => false

/-- The data of a request that is not taken for invalid. -/
structure RemoveSessionRequest.IsValid (m : RemoveSessionRequest) : Prop where
  reqUserId : m.reqUserId ≠ 0
  sessionId : m.sessionId ≠ 0
  sessionType : m.sessionType ≠ 0
  notServer : m.sessionId ≠ sysServerUserId

/-! ## The two kinds of session -/

/-- Where nothing changes, a result other than 0 is right, and 0 is wrong. -/
theorem reportsRemoval_unchanged {m : RemoveSessionRequest} {w : World} {result : Bool} :
    ReportsRemoval m w w (if result then 0 else 1) ↔ result = false := by
  cases result with
  | true =>
    refine iff_of_false (fun h => ?_) nofun
    exact absurd (h.removed rfl).1 (h.removed rfl).2
  | false =>
    refine iff_of_true ⟨fun h => absurd h (by decide), fun htype hmarks => ?_⟩ rfl
    obtain ⟨i, r, hr, -, hstatus, hr'⟩ := hmarks
    have hsame := Option.some.inj (hr.symm.trans hr')
    exact absurd (congrArg ContactRow.status hsame) hstatus

/-- **The answer upside down.**  A run that removes a contact reports failure, one that removes
    nothing reports success, unless the statement has failed with a negative answer. -/
theorem deleteRecentContactByUserId_reports {m : RemoveSessionRequest} {w w' : World} {tr : List Event}
    {result : Bool} (htype : m.sessionType = 1)
    (h : Runs Step w (ZAresRelationshipManagerImpl.deleteRecentContactByUserId m.reqUserId m.sessionId)
      tr result w') :
    ReportsRemoval m w w' (if result then 0 else 1) ↔ tr.any Event.isRefusal = true := by
  simp only [ZAresRelationshipManagerImpl.deleteRecentContactByUserId, runs_bind, runs_issue,
    runs_pure] at h
  obtain ⟨_, n, w₁, _, ⟨hupdate, rfl⟩, ⟨rfl, rfl, rfl⟩, rfl⟩ := h
  rw [List.append_nil, List.any_cons, List.any_nil, Bool.or_false]
  refine Iff.trans ?_ (decide_eq_true_iff (p := n < (0 : Int))).symm
  rcases hupdate with ⟨t, ⟨k, ⟨_, htouch, _⟩, rfl⟩, rfl⟩ | ⟨hfail, rfl⟩
  · have hnonneg : ¬(k : Int) < 0 := by omega
    by_cases hk : k = 0
    · -- no row changed, and success
      subst hk
      obtain rfl := htouch.eq_of_zero
      exact iff_of_false (fun h => Bool.noConfusion (reportsRemoval_unchanged.mp h)) hnonneg
    · -- a row changed, and failure
      obtain ⟨i, r, hr, hmatch, hchanged, hr'⟩ := htouch.exists_changed hk
      have hstatus : r.status ≠ 1 := by
        intro h1
        apply hchanged
        rw [← h1]
      have hfailure : ¬decide ((k : Int) = 0) = true := by simpa using hk
      refine iff_of_false (fun h => ?_) hnonneg
      have hzero := h.reported htype ⟨i, r, hr, hmatch, hstatus, hr'⟩
      rw [if_neg hfailure] at hzero
      exact absurd hzero (by decide)
  · rw [reportsRemoval_unchanged]
    have hle : n ≤ (0 : Int) := hfail
    exact decide_eq_false_iff_not.trans ⟨fun hne => lt_of_le_of_ne hle hne, fun hlt => hlt.ne⟩

/-- **Found is done.**  The group is looked up, and nothing is done about it. -/
theorem getGroupInfo_reports {m : RemoveSessionRequest} {w w' : World} {tr : List Event}
    {found : Option GroupInfo} {group : GroupInfo} (hsession : m.sessionId ≠ 0)
    (h : Runs Step w (ZAresGroupManagerImpl.getGroupInfo m.sessionId group) tr found w') :
    w' = w ∧ (found = none ∧ tr.any Event.isRefusal = true ∨
      tr.any Event.isRefusal = false ∧ ∃ info, found = some info ∧ info.groupId = m.sessionId) := by
  simp only [ZAresGroupManagerImpl.getGroupInfo, if_neg hsession, runs_bind, runs_issue] at h
  obtain ⟨_, answ, w₁, _, ⟨hquery, rfl⟩, hrest, rfl⟩ := h
  rcases hquery with ⟨t, ⟨rfl, rows, hrows, rfl⟩, rfl⟩ | ⟨rfl, rfl⟩
  · cases rows with
    | nil =>
      obtain ⟨rfl, rfl, rfl⟩ := runs_pure.mp hrest
      exact ⟨rfl, Or.inl ⟨rfl, rfl⟩⟩
    | cons row rows =>
      obtain ⟨rfl, rfl, rfl⟩ := runs_pure.mp hrest
      obtain ⟨-, hmatch⟩ := (hrows.mem_iff row).mp List.mem_cons_self
      have hid : row.groupId = percentD m.sessionId := (of_decide_eq_true hmatch).1
      refine ⟨rfl, Or.inr ⟨rfl, _, rfl, ?_⟩⟩
      show getColumn row.groupId = m.sessionId
      rw [hid, getColumn_percentD]
  · obtain ⟨rfl, rfl, rfl⟩ := runs_pure.mp hrest
    exact ⟨rfl, Or.inl ⟨rfl, rfl⟩⟩

/-- The verdict of the handler is right exactly if its one statement refuses. -/
theorem removeSession_reports {mem : Memory} {m : RemoveSessionRequest} {w w' : World}
    {tr : List Event} {result : Bool} (hm : m.IsValid)
    (h : Runs Step w (removeSession zAresModelModule mem m) tr result w') :
    ReportsRemoval m w w' (if result then 0 else 1) ↔ tr.any Event.isRefusal = true := by
  have hguard : ¬(m.reqUserId = 0 ∨ m.sessionId = 0 ∨ m.sessionType = 0 ∨
      m.sessionId = sysServerUserId) := by
    rintro (h | h | h | h)
    · exact hm.reqUserId h
    · exact hm.sessionId h
    · exact hm.sessionType h
    · exact hm.notServer h
  rw [removeSession, if_neg hguard] at h
  by_cases htype : m.sessionType = 1
  · rw [if_pos htype] at h
    exact deleteRecentContactByUserId_reports htype h
  rw [if_neg htype] at h
  simp only [runs_bind] at h
  obtain ⟨tr₁, found, w₁, tr₂, hfound, hrest, rfl⟩ := h
  obtain ⟨rfl, hcases⟩ := getGroupInfo_reports hm.sessionId hfound
  rcases hcases with ⟨rfl, hrefusal⟩ | ⟨hrefusal, info, rfl, hid⟩
  · obtain ⟨rfl, rfl, rfl⟩ := runs_pure.mp hrest
    rw [List.append_nil, hrefusal]
    exact iff_of_true (reportsRemoval_unchanged.mpr rfl) rfl
  · obtain ⟨rfl, rfl, rfl⟩ := runs_pure.mp hrest
    rw [List.append_nil, hrefusal, reportsRemoval_unchanged, hid]
    simp

/-! ## The reply -/

/-- A run of the handler is a run of its dispatch and then the reply with the verdict. -/
theorem removeSessionRequestHandler_runs {mem : Memory} {sessionId : UInt64}
    {request : Pdu RemoveSessionRequest} {w w' : World} {tr : List Event}
    (h : Runs Step w (removeSessionRequestHandler zAresModelModule mem sessionId request) tr () w') :
    ∃ (result : Bool) (tr₁ tr₂ : List Event) (reply : Pdu RemoveSessionResponse),
      Runs Step w (removeSession zAresModelModule mem request.body) tr₁ result w' ∧
      tr = tr₁ ++ tr₂ ∧ tr₂.any Event.isRefusal = false ∧
      replies tr = [(sessionId, ⟨.removeSessionResponse, reply⟩)] ∧
      reply.body.result = if result then 0 else 1 := by
  simp only [removeSessionRequestHandler, runs_bind] at h
  obtain ⟨tr₁, result, w₁, tr₂, hremove, hsend, rfl⟩ := h
  obtain ⟨rfl, hreply⟩ := sendSessionData_runs hsend
  have hsilent : replies tr₁ = [] := Silent.replies_eq
    (fun q => removeSession_silent zAresModelModule_allSilent request.body) hremove
  have hreplies : replies (tr₁ ++ tr₂) = replies tr₂ := by
    rw [replies_append, hsilent, List.nil_append]
  have hrefusal : tr₂.any Event.isRefusal = false := by
    obtain ⟨-, rfl⟩ := runs_issue.mp hsend
    rfl
  exact ⟨result, tr₁, tr₂, _, hremove, rfl, hrefusal, hreplies.trans hreply, rfl⟩

/-- **The truth only about nothing.**  Under any outcome of the statements, the reply to a valid
    request to remove a session reports what was done exactly if the UPDATE of the contact has failed,
    or the query for the group has found none. -/
theorem removalReplied_iff {mem : Memory} {sessionId : UInt64} {request : Pdu RemoveSessionRequest}
    {w w' : World} {tr : List Event} (hm : request.body.IsValid)
    (h : Runs Step w (removeSessionRequestHandler zAresModelModule mem sessionId request) tr () w') :
    RemovalReplied sessionId request.body w w' tr ↔ tr.any Event.isRefusal = true := by
  obtain ⟨result, tr₁, tr₂, reply, hremove, rfl, hsilent, hreply, hresult⟩ :=
    removeSessionRequestHandler_runs h
  rw [List.any_append, hsilent, Bool.or_false, ← removeSession_reports hm hremove]
  constructor
  · rintro ⟨reply', hreply', hreports⟩
    obtain rfl := reply_unique hreply hreply'
    rwa [hresult] at hreports
  · intro hreports
    exact ⟨reply, hreply, by rwa [hresult]⟩

/-- The UPDATE has failed. -/
def respondDown (w : World) : (c : Cmd) → c.Answer × World
  | .contact (.updateRemove _ _) => ((-1 : Int), w)
  | c => respond w c

theorem respondDown_step (w : World) (c : Cmd) : Step w c (respondDown w c).1 (respondDown w c).2 := by
  unfold respondDown
  split
  · exact Or.inr ⟨show (-1 : Int) ≤ 0 by decide, rfl⟩
  · exact Or.inl (respond_ok w _)

theorem removeRequest_isValid : removeRequest.body.IsValid := ⟨by decide, by decide, by decide, by decide⟩

/-- What is then done. -/
def downRemoval : List Event × Unit × World :=
  (removeSessionRequestHandler zAresModelModule default 1 removeRequest).exec respondDown (greet emptyWorld)

/-- Nothing was done, and a failure is reported. -/
theorem removalReplied_down :
    downRemoval.2.2.db.imRecentContact = (greet emptyWorld).db.imRecentContact ∧
      RemovalReplied 1 removeRequest.body (greet emptyWorld) downRemoval.2.2 downRemoval.1 :=
  ⟨by decide, (removalReplied_iff removeRequest_isValid (exec_runs respondDown_step
    (removeSessionRequestHandler zAresModelModule default 1 removeRequest) (greet emptyWorld))).mpr
      (by decide)⟩

/-- 2 asks to remove 1 from his contacts, the row is marked, and the reply says that it has failed. -/
theorem not_forall_removalReplied :
    ¬∀ (mem : Memory) (sessionId : UInt64) (request : Pdu RemoveSessionRequest) (w w' : World)
      (tr : List Event), request.body.IsValid →
      Runs Step w (removeSessionRequestHandler zAresModelModule mem sessionId request) tr () w' →
      RemovalReplied sessionId request.body w w' tr := by
  intro h
  have hrun := (Prog.play_runs (removeSessionRequestHandler zAresModelModule default 1 removeRequest)
    (greet emptyWorld)).mono fun _ _ _ _ => StepOk.step
  obtain ⟨reply, hreply, hreports⟩ := h _ _ _ _ _ _ removeRequest_isValid hrun
  obtain ⟨result, tr₁, tr₂, reply', hremove, htr, -, hreply', hresult⟩ :=
    removeSessionRequestHandler_runs hrun
  obtain rfl := reply_unique hreply hreply'
  rw [hresult, removeSession_reports removeRequest_isValid hremove] at hreports
  have hnone : ((removeSessionRequestHandler zAresModelModule default 1 removeRequest).play
      (greet emptyWorld)).1.any Event.isRefusal = false := by decide
  rw [htr, List.any_append, hreports] at hnone
  cases hnone

end Zattd
