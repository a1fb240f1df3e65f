/-
  Login: who is told that he is logged in.

  `Auth` starts with `is_authed = true` and only a row with ANOTHER password makes it false.  An
  unknown name and a query that failed leave it true; `GetUserInfo` then fails too, or fails alone,
  and the reply keeps its result 0 and the empty record that `mutable_user()` has made.
-/
import Zattd.Handler.UserHandlers
import Zattd.Model.ZAresModelModule

set_option linter.unusedVariables false

namespace Zattd

open Prog

/-- No statement of the run failed. -/
def NoFailure (w : World) (tr : List Event) : Prop := ∀ e ∈ tr, ¬StepFail w e.1 e.2 w

@[simp] theorem noFailure_append {w : World} {tr tr' : List Event} :
    NoFailure w (tr ++ tr') ↔ NoFailure w tr ∧ NoFailure w tr' := by
  simp [NoFailure, or_imp, forall_and]

@[simp] theorem noFailure_send {w : World} {sessionId : UInt64} {message : Message} {a : Unit} :
    NoFailure w [⟨.sendSessionData sessionId message, a⟩] := by
  simp [NoFailure, StepFail]

namespace ZAresLoginManagerImpl

/-- The runs of `Auth` on a plain name: NULL and an unknown name are both let in. -/
theorem auth_runs {w w' : World} {name password : Bytes} {tr : List Event} {isAuthed : Bool}
    (hkey : (w.db.imUsers.map (·.uname)).Nodup) (hnul : 0 ∉ name) (hplain : isPlain name = true)
    (h : Runs Step w (auth name password) tr isAuthed w') :
    w' = w ∧ replies tr = [] ∧
      ((¬NoFailure w tr ∧ isAuthed = true) ∨
        (NoFailure w tr ∧ (∀ row ∈ w.db.imUsers, row.uname ≠ name) ∧ isAuthed = true) ∨
        (NoFailure w tr ∧
          ∃ row ∈ w.db.imUsers, row.uname = name ∧ isAuthed = decide (row.pwd = password))) := by
  unfold auth at h
  rw [cStr_eq hnul] at h
  simp only [runs_bind, runs_issue] at h
  obtain ⟨tr₁, answ, w₁, tr₂, ⟨hstep, rfl⟩, hrest, rfl⟩ := h
  rcases hstep with ⟨hok, rfl⟩ | ⟨hfail, rfl⟩
  · obtain ⟨rows, hrows, rfl⟩ := hok hplain
    have hno : NoFailure w₁ [⟨.user (.selectPwd name), some (rows.map (·.pwd))⟩] := by
      simp [NoFailure, StepFail, UserStmt.Fail, QueryFails]
    rcases hrows.unique hkey with ⟨rfl, hnone⟩ | ⟨row, hrow, hname, rfl⟩
    · obtain ⟨rfl, rfl, rfl⟩ := runs_pure.mp hrest
      exact ⟨rfl, rfl, Or.inr (Or.inl ⟨by simpa using hno, hnone, rfl⟩)⟩
    · obtain ⟨rfl, rfl, rfl⟩ := runs_pure.mp hrest
      exact ⟨rfl, rfl, Or.inr (Or.inr ⟨by simpa using hno, row, hrow, hname, rfl⟩)⟩
  · have hfailed : ¬NoFailure w₁ ([⟨_, answ⟩] ++ tr₂) := fun hno =>
      hno _ List.mem_cons_self ⟨hfail, rfl⟩
    obtain rfl : answ = none := hfail
    obtain ⟨rfl, rfl, rfl⟩ := runs_pure.mp hrest
    exact ⟨rfl, rfl, Or.inl ⟨hfailed, rfl⟩⟩

end ZAresLoginManagerImpl

namespace ZAresUserManagerImpl

/-- The runs of `GetUserInfo` on a plain name: the record is filled from the row with that name, or
    not at all. -/
theorem getUserInfo_runs {w w' : World} {name : Bytes} {userInfo : UserInfo} {tr : List Event}
    {found : Option UserInfo} (hkey : (w.db.imUsers.map (·.uname)).Nodup) (hname : name ≠ [])
    (hnul : 0 ∉ name) (hplain : isPlain name = true)
    (h : Runs Step w (getUserInfo name userInfo) tr found w') :
    w' = w ∧ replies tr = [] ∧
      ((¬NoFailure w tr ∧ found = none) ∨
        (NoFailure w tr ∧ (∀ row ∈ w.db.imUsers, row.uname ≠ name) ∧ found = none) ∨
        (NoFailure w tr ∧ ∃ row ∈ w.db.imUsers, row.uname = name ∧
          found = some (parseFromDatabase userInfo row))) := by
  unfold getUserInfo at h
  rw [if_neg hname, cStr_eq hnul] at h
  simp only [runs_bind, runs_issue] at h
  obtain ⟨tr₁, answ, w₁, tr₂, ⟨hstep, rfl⟩, hrest, rfl⟩ := h
  rcases hstep with ⟨hok, rfl⟩ | ⟨hfail, rfl⟩
  · obtain ⟨rows, hrows, rfl⟩ := hok hplain
    have hno : NoFailure w₁ [⟨.user (.selectByName name), some rows⟩] := by
      simp [NoFailure, StepFail, UserStmt.Fail, QueryFails]
    rcases hrows.unique hkey with ⟨rfl, hnone⟩ | ⟨row, hrow, hname', rfl⟩
    · obtain ⟨rfl, rfl, rfl⟩ := runs_pure.mp hrest
      exact ⟨rfl, rfl, Or.inr (Or.inl ⟨by simpa using hno, hnone, rfl⟩)⟩
    · obtain ⟨rfl, rfl, rfl⟩ := runs_pure.mp hrest
      exact ⟨rfl, rfl, Or.inr (Or.inr ⟨by simpa using hno, row, hrow, hname', rfl⟩)⟩
  · have hfailed : ¬NoFailure w₁ ([⟨_, answ⟩] ++ tr₂) := fun hno =>
      hno _ List.mem_cons_self ⟨hfail, rfl⟩
    obtain rfl : answ = none := hfail
    obtain ⟨rfl, rfl, rfl⟩ := runs_pure.mp hrest
    exact ⟨rfl, rfl, Or.inl ⟨hfailed, rfl⟩⟩

end ZAresUserManagerImpl

/-! ## The reply -/

/-- A reply as it should be: result 0 only for a row with this name and this password, and then the
    record is that row; another result for an unknown name, a wrong password, a failed query. -/
structure SoundReply (w : World) (tr : List Event) (request : ValidateRequest)
    (reply : ValidateResponse) : Prop where
  accepted : reply.result = 0 → ∃ row ∈ w.db.imUsers, row.uname = request.userName ∧
    row.pwd = request.password ∧ reply.user = some (ZAresUserManagerImpl.parseFromDatabase .new row)
  unknown : (∀ row ∈ w.db.imUsers, row.uname ≠ request.userName) → reply.result ≠ 0
  wrong : (∃ row ∈ w.db.imUsers, row.uname = request.userName ∧ row.pwd ≠ request.password) →
    reply.result ≠ 0
  failed : ¬NoFailure w tr → reply.result ≠ 0

/-- The run sends one reply, and it is as it should be. -/
def LoginSound (w : World) (sessionId : UInt64) (request : ValidateRequest) (tr : List Event) : Prop :=
  ∃ reply : Pdu ValidateResponse, replies tr = [(sessionId, ⟨.validateResponse, reply⟩)] ∧
    SoundReply w tr request reply.body

/-- The requests that the handler takes to the managers, and whose name is a literal for itself. -/
structure WellFormedLogin (request : ValidateRequest) : Prop where
  name_ne_nil : request.userName ≠ []
  name_plain : isPlain request.userName = true
  name_no_nul : 0 ∉ request.userName
  password_ne_nil : request.password ≠ []

/-- What the handler makes of a request.  Either the statements answered and there is a row with the
    name, and the reply is about this row; or one of both is not so, and the reply says SUCCESS. -/
theorem validateRequestHandler_runs {w w' : World} {mem : Memory} {sessionId : UInt64}
    {request : Pdu ValidateRequest} {tr : List Event} (hkey : (w.db.imUsers.map (·.uname)).Nodup)
    (hreq : WellFormedLogin request.body)
    (h : Runs Step w (validateRequestHandler zAresModelModule mem sessionId request) tr () w') :
    ∃ reply : Pdu ValidateResponse, replies tr = [(sessionId, ⟨.validateResponse, reply⟩)] ∧
      ((reply.body.result = 0 ∧
          (¬NoFailure w tr ∨ ∀ row ∈ w.db.imUsers, row.uname ≠ request.body.userName)) ∨
        (NoFailure w tr ∧ ∃ row ∈ w.db.imUsers, row.uname = request.body.userName ∧
          if row.pwd = request.body.password then
            reply.body.result = 0 ∧
              reply.body.user = some (ZAresUserManagerImpl.parseFromDatabase .new row)
          else reply.body.result = 1)) := by
  have hguard : ¬(request.body.userName = [] ∨ request.body.password = []) := by
    rintro (hname | hpassword)
    · exact hreq.name_ne_nil hname
    · exact hreq.password_ne_nil hpassword
  simp only [validateRequestHandler, if_neg hguard, runs_bind] at h
  obtain ⟨tr₁, isAuthed, w₁, tr₂, hauth, hrest, rfl⟩ := h
  obtain ⟨rfl, hsilent, hcases⟩ :=
    ZAresLoginManagerImpl.auth_runs hkey hreq.name_no_nul hreq.name_plain hauth
  cases isAuthed with
  | false =>
    simp only [Bool.false_eq_true, if_false, sendSessionData, runs_issue] at hrest
    obtain ⟨-, rfl⟩ := hrest
    refine ⟨_, by rw [replies_append, hsilent, replies_send, List.nil_append], ?_⟩
    rcases hcases with ⟨-, hauthed⟩ | ⟨-, -, hauthed⟩ | ⟨hno, row, hrow, hname, hpwd⟩
    · cases hauthed
    · cases hauthed
    · have hne : row.pwd ≠ request.body.password := of_decide_eq_false hpwd.symm
      exact Or.inr ⟨by simp [hno], row, hrow, hname, by rw [if_neg hne]; rfl⟩
  | true =>
    simp only [if_true, runs_bind, sendSessionData, runs_issue] at hrest
    obtain ⟨tr₃, found, w₂, tr₄, hinfo, ⟨-, rfl⟩, rfl⟩ := hrest
    obtain ⟨rfl, hsilent', hcases'⟩ := ZAresUserManagerImpl.getUserInfo_runs hkey hreq.name_ne_nil
      hreq.name_no_nul hreq.name_plain hinfo
    refine ⟨_, by rw [replies_append, replies_append, hsilent, hsilent', replies_send]; rfl, ?_⟩
    -- the lookup fails with the first query, or on its own, or finds the row
    by_cases hno : NoFailure w₂ tr₁ ∧ NoFailure w₂ tr₃
    swap
    · exact Or.inl ⟨rfl, Or.inl fun hall => hno (by simpa using hall)⟩
    rcases hcases' with ⟨hfail, -⟩ | ⟨-, hnone, -⟩ | ⟨-, row, hrow, hname, rfl⟩
    · exact absurd hno.2 hfail
    · exact Or.inl ⟨rfl, Or.inr hnone⟩
    rcases hcases with ⟨hfail, -⟩ | ⟨-, hnone, -⟩ | ⟨-, row', hrow', hname', hpwd⟩
    · exact absurd hno.1 hfail
    · exact absurd hname (hnone row hrow)
    · obtain rfl : row' = row := List.inj_on_of_nodup_map hkey hrow' hrow (hname'.trans hname.symm)
      have heq : row'.pwd = request.body.password := of_decide_eq_true hpwd.symm
      exact Or.inr ⟨by simp [hno], row', hrow, hname, by rw [if_pos heq]; exact ⟨rfl, rfl⟩⟩

/-- Nobody without a row is turned away, and a failed query turns nobody away. -/
theorem LoginSound.known {w w' : World} {mem : Memory} {sessionId : UInt64}
    {request : Pdu ValidateRequest} {tr : List Event} (hkey : (w.db.imUsers.map (·.uname)).Nodup)
    (hreq : WellFormedLogin request.body)
    (h : Runs Step w (validateRequestHandler zAresModelModule mem sessionId request) tr () w')
    (hsound : LoginSound w sessionId request.body tr) :
    NoFailure w tr ∧ ∃ row ∈ w.db.imUsers, row.uname = request.body.userName := by
  obtain ⟨reply, hreply, hsound⟩ := hsound
  obtain ⟨reply', hreply', hcases⟩ := validateRequestHandler_runs hkey hreq h
  obtain rfl : reply = reply' := reply_unique hreply hreply'
  rcases hcases with ⟨hresult, hfail | hnone⟩ | ⟨hno, row, hrow, hname, -⟩
  · exact absurd hresult (hsound.failed hfail)
  · exact absurd hresult (hsound.unknown hnone)
  · exact ⟨hno, row, hrow, hname⟩

def World.setUsers (w : World) (t : List UserRow) : World := { w with db := { w.db with imUsers := t } }

/-- A user with a password. -/
def oneUser (pwd : Bytes) : UserRow where
  uname := [117]
  pwd := pwd
  id := 7
  status := 0
  title := []
  departId := 1
  sex := 0
  jobNumber := 1
  telphone := []
  mail := []
  position := []
  avatar := []
  nickName := []

/-- There is no other row. -/
def oneUserWorld : World := emptyWorld.setUsers [oneUser [49]]

/-- He asks to be let in. -/
def usersRequest : Pdu ValidateRequest where
  attachData := []
  reserved := 0
  body := { userName := [117], password := [49] }

end Zattd
