/-
  Is an acknowledged message a stored message?

  `MsgDataHandler` replies 0 if the send function returned `true`.  `SendIMMessage` returns `true`
  only for a row that the statement has inserted, and `SendAudioMessage` is a stub that returns
  `false`; but `SendIMGroupMessage` is a stub that returns `true`.
-/
import Zattd.Correct.SendMessage
import Zattd.Handler.MsgHandlers

set_option linter.unusedVariables false

namespace Zattd

open Prog

/-- The reply of a run tells the truth about the message: result 0 if one row has been added, which
    holds it, and another result if nothing has been added or counted. -/
def Truthful (sessionId : UInt64) (m : MsgData) (w w' : World) (tr : List Event) : Prop :=
  ∃ reply : Pdu DBWriteResponse, replies tr = [(sessionId, ⟨.dbWriteResponse, reply⟩)] ∧
    (reply.body.result = 0 →
      ∃ row, ZAresMessageManagerImpl.Holds row m.fromUserId m.toUserId m.msgData ∧
        w'.db.imMessage = w.db.imMessage ++ [row]) ∧
    (reply.body.result ≠ 0 → w.Quiet w')

/-- The handler takes the request to be a valid message to a group. -/
def MsgData.isGroupMessage (m : MsgData) : Bool :=
  !m.isInvalid && (m.msgType = messageTypeImGroup || m.msgType = messageTypeImGroupAudio)

/-- A message to a group is reported as sent, and nothing is done. -/
theorem sendMsgData_group {m : MsgData} (h : m.isGroupMessage = true) :
    sendMsgData zAresModelModule m = return true := by
  unfold MsgData.isGroupMessage at h
  simp only [Bool.and_eq_true, Bool.not_eq_true', Bool.or_eq_true, decide_eq_true_eq] at h
  obtain ⟨hvalid, hgroup⟩ := h
  unfold sendMsgData
  rw [hvalid]
  rcases hgroup with htype | htype <;> rw [htype] <;> rfl

/-- Any other message is reported as sent if and only if it has been stored. -/
theorem sendMsgData_runs {m : MsgData} (h : m.isGroupMessage = false) {w w' : World}
    {tr : List Event} {isSucess : Bool}
    (hrun : Runs Step w (sendMsgData zAresModelModule m) tr isSucess w') :
    (isSucess = true → ∃ row, ZAresMessageManagerImpl.Holds row m.fromUserId m.toUserId m.msgData ∧
      w'.db.imMessage = w.db.imMessage ++ [row]) ∧ (isSucess = false → w.Quiet w') := by
  unfold MsgData.isGroupMessage at h
  unfold sendMsgData at hrun
  by_cases hinvalid : m.isInvalid = true
  · rw [if_pos hinvalid] at hrun
    obtain ⟨-, rfl, rfl⟩ := runs_pure.mp hrun
    exact ⟨nofun, fun _ => .refl _⟩
  rw [if_neg hinvalid] at hrun
  by_cases him : m.msgType = messageTypeIm
  · rw [if_pos him] at hrun
    have hsend : Runs Step w (ZAresMessageManagerImpl.sendIMMessage m.fromUserId m.toUserId
      m.msgType.toUInt32 m.msgData m.createTime) tr isSucess w' := hrun
    rcases ZAresMessageManagerImpl.sendIMMessage_runs hsend with ⟨rfl, hquiet⟩ | ⟨rfl, -, -, hrow, -⟩
    · exact ⟨nofun, fun _ => hquiet⟩
    · exact ⟨fun _ => hrow, nofun⟩
  rw [if_neg him] at hrun
  by_cases haudio : m.msgType = messageTypeImAudio
  · rw [if_pos haudio] at hrun
    obtain ⟨-, rfl, rfl⟩ := runs_pure.mp hrun
    exact ⟨nofun, fun _ => .refl _⟩
  rw [if_neg haudio] at hrun
  have hgroup : ¬(m.msgType = messageTypeImGroup ∨ m.msgType = messageTypeImGroupAudio) := by
    simpa [hinvalid] using h
  rw [if_neg hgroup] at hrun
  obtain ⟨-, rfl, rfl⟩ := runs_pure.mp hrun
  exact ⟨nofun, fun _ => .refl _⟩

/-- A run of the handler is a run of the send function and then the reply with its verdict. -/
theorem msgDataHandler_runs {model : ModelModule} {mem : Memory} {sessionId : UInt64}
    {request : Pdu MsgData} {w w' : World} {tr : List Event} (hm : ∀ q, model.AllSilent q)
    (h : Runs Step w (msgDataHandler model mem sessionId request) tr () w') :
    ∃ (isSucess : Bool) (tr' : List Event) (reply : Pdu DBWriteResponse),
      Runs Step w (sendMsgData model request.body) tr' isSucess w' ∧
      replies tr = [(sessionId, ⟨.dbWriteResponse, reply⟩)] ∧
      reply.body.result = if isSucess then 0 else 1 := by
  simp only [msgDataHandler, runs_bind] at h
  obtain ⟨tr', isSucess, w₁, tr₂, hsend, hrest, rfl⟩ := h
  obtain ⟨rfl, hreply⟩ := sendSessionData_runs hrest
  have hsilent : replies tr' = [] :=
    Silent.replies_eq (fun q => sendMsgData_silent (hm q) request.body) hsend
  have hreplies : replies (tr' ++ tr₂) = replies tr₂ := by
    rw [replies_append, hsilent, List.nil_append]
  exact ⟨isSucess, tr', _, hsend, hreplies.trans hreply, rfl⟩

/-- A group message is acknowledged and not stored. -/
theorem not_truthful_group {mem : Memory} {sessionId : UInt64} {request : Pdu MsgData} {w w' : World}
    {tr : List Event} (hgroup : request.body.isGroupMessage = true)
    (h : Runs Step w (msgDataHandler zAresModelModule mem sessionId request) tr () w') :
    ¬Truthful sessionId request.body w w' tr := by
  rintro ⟨reply, hreply, hstored, -⟩
  obtain ⟨isSucess, tr', reply', hsend, hreply', hresult⟩ :=
    msgDataHandler_runs (fun _ => zAresModelModule_allSilent) h
  rw [sendMsgData_group hgroup] at hsend
  obtain ⟨-, rfl, rfl⟩ := runs_pure.mp hsend
  obtain rfl : reply = reply' := reply_unique hreply hreply'
  obtain ⟨row, -, hrow⟩ := hstored hresult
  have hlen := congrArg List.length hrow
  simp at hlen

/-- **Acknowledged means stored, but for groups.**  Under any outcome of the statements, the reply to
    a message tells the truth if and only if the message is not a valid one to a group. -/
theorem truthful_iff {mem : Memory} {sessionId : UInt64} {request : Pdu MsgData} {w w' : World}
    {tr : List Event}
    (h : Runs Step w (msgDataHandler zAresModelModule mem sessionId request) tr () w') :
    Truthful sessionId request.body w w' tr ↔ request.body.isGroupMessage = false := by
  constructor
  · intro htruth
    by_contra hgroup
    exact not_truthful_group (by simpa using hgroup) h htruth
  · intro hgroup
    obtain ⟨isSucess, tr', reply, hsend, hreply, hresult⟩ :=
      msgDataHandler_runs (fun _ => zAresModelModule_allSilent) h
    obtain ⟨hstored, hquiet⟩ := sendMsgData_runs hgroup hsend
    refine ⟨reply, hreply, fun h0 => hstored ?_, fun hne => hquiet ?_⟩
    · cases isSucess with
      | true => rfl
      | false => rw [hresult] at h0; exact absurd h0 (by decide)
    · cases isSucess with
      | true => exact absurd hresult hne
      | false => rfl

/-- User 1 writes to group 5. -/
def groupMessage : Pdu MsgData where
  attachData := []
  reserved := 0
  body :=
    { requestId := 0, fromUserId := 1, toUserId := 5, createTime := 0, msgType := messageTypeImGroup
      msgData := [104, 105] }

/-- What happens in the reference world. -/
def groupMessageTrace : List Event :=
  ((msgDataHandler zAresModelModule default 1 groupMessage).play emptyWorld).1

theorem groupMessage_runs :
    Runs Step emptyWorld (msgDataHandler zAresModelModule default 1 groupMessage) groupMessageTrace ()
      ((msgDataHandler zAresModelModule default 1 groupMessage).play emptyWorld).2.2 :=
  (Prog.play_runs _ _).mono fun _ _ _ _ => StepOk.step

theorem truthful_groupMessage :
    Truthful 1 groupMessage.body emptyWorld
      ((msgDataHandler zAresModelModule default 1 groupMessage).play emptyWorld).2.2
      groupMessageTrace ↔ groupMessage.body.isGroupMessage = false :=
  truthful_iff groupMessage_runs

theorem not_forall_truthful :
    ¬∀ (mem : Memory) (sessionId : UInt64) (request : Pdu MsgData) (w w' : World) (tr : List Event),
      Runs Step w (msgDataHandler zAresModelModule mem sessionId request) tr () w' →
      Truthful sessionId request.body w w' tr := by
  intro h
  exact not_truthful_group (by decide) groupMessage_runs (h default 1 groupMessage _ _ _ groupMessage_runs)

end Zattd
