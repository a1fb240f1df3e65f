/-
  The world the server's functions run in, and the commands they run by.

  A function of the server is a program (`Server`) over the commands: read the clock, run a SQL
  statement, operate on the counters, send a message to a session.  The world is the database and
  the counters.  A statement may succeed (`StepOk`: with any answer SQL allows) or fail (`StepFail`:
  nothing changes and the answer says so); `Step` allows both, so a run under `Step` is a run with
  ANY outcome of every statement.
-/
import Zattd.Lib.Prog
import Zattd.Model.CounterManager
import Zattd.Proto.Classes
import Zattd.Store.ContactTable
import Zattd.Store.FileTable
import Zattd.Store.GroupTables
import Zattd.Store.MessageTable
import Zattd.Store.UserTables

set_option linter.unusedVariables false

namespace Zattd

/-- A message of some class. -/
abbrev Message : Type := (n : PduName) × Pdu n.Body

/-- The tables. -/
structure Database where
  imUsers : List UserRow
  imDepartment : List DepartmentRow
  imRecentContact : List ContactRow
  imMessage : List MessageRow
  groups : GroupTables
  imTransmitFile : List FileRow

/-- The database and the counters. -/
structure World where
  db : Database
  cache : CacheManager

/-- The world before anything has happened: no rows, no counts. -/
def emptyWorld : World where
  db :=
    { imUsers := [], imDepartment := [], imRecentContact := [], imMessage := []
      groups := { imGroup := [], imGroupRelation := [] }, imTransmitFile := [] }
  cache := {}

namespace World

def setContacts (w : World) (t : List ContactRow) : World :=
  { w with db := { w.db with imRecentContact := t } }

def setMessages (w : World) (t : List MessageRow) : World :=
  { w with db := { w.db with imMessage := t } }

def setGroups (w : World) (t : GroupTables) : World := { w with db := { w.db with groups := t } }

def setFiles (w : World) (t : List FileRow) : World :=
  { w with db := { w.db with imTransmitFile := t } }

def setCache (w : World) (c : CacheManager) : World := { w with cache := c }

end World

/-- The commands. -/
inductive Cmd
  | nowMSTime
  | user (s : UserStmt)
  | department (s : DepartmentStmt)
  | contact (s : ContactStmt)
  | message (s : MessageStmt)
  | group (s : GroupStmt)
  | file (s : FileStmt)
  | counter (op : CounterOp)
  | sendSessionData (sessionId : UInt64) (message : Message)

/-- What a command is answered. -/
abbrev Cmd.Answer : Cmd → Type
  | .nowMSTime => UInt64
  | .user s => s.Answer
  | .department s => s.Answer
  | .contact s => s.Answer
  | .message s => s.Answer
  | .group s => s.Answer
  | .file s => s.Answer
  | .counter op => op.Answer
  | .sendSessionData _ _ => Unit

/-- A function of the server. -/
abbrev Server : Type → Type := Prog Cmd Cmd.Answer

/-- Issue a command. -/
abbrev issue (c : Cmd) : Server c.Answer := Prog.issue c

/-- A command issued, with its answer. -/
abbrev Event : Type := (c : Cmd) × c.Answer

/-- `StepOk w c a w'`: in `w`, command `c` succeeds with the answer `a` and leaves `w'`.  The clock
    may show anything. -/
def StepOk (w : World) : (c : Cmd) → c.Answer → World → Prop
  | .nowMSTime, _, w' => w' = w
  | .user s, a, w' => s.Ok w.db.imUsers a ∧ w' = w
  | .department s, a, w' => s.Ok w.db.imDepartment a ∧ w' = w
  | .contact s, a, w' => ∃ t, s.Ok w.db.imRecentContact a t ∧ w' = w.setContacts t
  | .message s, a, w' => ∃ t, s.Ok w.db.imMessage a t ∧ w' = w.setMessages t
  | .group s, a, w' => ∃ t, s.Ok w.db.groups a t ∧ w' = w.setGroups t
  | .file s, a, w' => ∃ t, s.Ok w.db.imTransmitFile a t ∧ w' = w.setFiles t
  | .counter op, a, w' => a = (op.run w.cache).1 ∧ w' = w.setCache (op.run w.cache).2
  | .sendSessionData _ _, _, w' => w' = w

/-- `StepFail w c a w'`: in `w`, command `c` is a SQL statement that fails with the answer `a`. -/
def StepFail (w : World) : (c : Cmd) → c.Answer → World → Prop
  | .user s, a, w' => s.Fail a ∧ w' = w
  | .department s, a, w' => s.Fail a ∧ w' = w
  | .contact s, a, w' => s.Fail a ∧ w' = w
  | .message s, a, w' => s.Fail a ∧ w' = w
  | .group s, a, w' => s.Fail a ∧ w' = w
  | .file s, a, w' => s.Fail a ∧ w' = w
  | .nowMSTime, _, _ | .counter _, _, _ | .sendSessionData _ _, _, _ => False

/-- Any outcome of a command. -/
def Step (w : World) (c : Cmd) (a : c.Answer) (w' : World) : Prop :=
  StepOk w c a w' ∨ StepFail w c a w'

theorem StepOk.step {w : World} {c : Cmd} {a : c.Answer} {w' : World} (h : StepOk w c a w') :
    Step w c a w' :=
  Or.inl h

/-! ## What the trace of a run shows -/

/-- The command sends a message, to a session that satisfies `p`. -/
def Cmd.isSendTo (p : UInt64 → Bool) : Cmd → Bool
  | .sendSessionData sessionId _ => p sessionId
  | _ => false

/-- The message that an event sends, and the session it sends it to. -/
def Event.reply : Event → Option (UInt64 × Message)
  | ⟨.sendSessionData sessionId message, _⟩ => some (sessionId, message)
  | _ => none

/-- The messages sent in a run, with their sessions, in order. -/
def replies (tr : List Event) : List (UInt64 × Message) := tr.filterMap Event.reply

@[simp] theorem replies_nil : replies [] = [] := rfl

@[simp] theorem replies_append (tr tr' : List Event) :
    replies (tr ++ tr') = replies tr ++ replies tr' := List.filterMap_append

@[simp] theorem replies_send (sessionId : UInt64) (message : Message) (a : Unit) :
    replies [⟨.sendSessionData sessionId message, a⟩] = [(sessionId, message)] := rfl

/-- A run that has sent one message has sent no other. -/
theorem reply_unique {sessionId : UInt64} {n : PduName} {message message' : Pdu n.Body}
    {sent : List (UInt64 × Message)} (h : sent = [(sessionId, ⟨n, message⟩)])
    (h' : sent = [(sessionId, ⟨n, message'⟩)]) : message = message' := by
  obtain ⟨hpair, -⟩ := List.cons.inj (h.symm.trans h')
  obtain ⟨-, hmessage⟩ := Prod.mk.inj hpair
  exact eq_of_heq (Sigma.mk.inj hmessage).2

/-- A message sent in a run that has sent one is this one. -/
theorem reply_of_mem {sessionId sessionId' : UInt64} {n : PduName} {message message' : Pdu n.Body}
    {sent : List (UInt64 × Message)} (h : sent = [(sessionId, ⟨n, message⟩)])
    (hmem : (sessionId', ⟨n, message'⟩) ∈ sent) : message' = message := by
  rw [h, List.mem_singleton] at hmem
  obtain ⟨-, hmessage⟩ := Prod.mk.inj hmem
  exact eq_of_heq (Sigma.mk.inj hmessage).2

/-- Replies and sends are counted alike. -/
theorem countP_replies (p : UInt64 → Bool) (tr : List Event) :
    (replies tr).countP (fun r => p r.1) = tr.countP fun e => e.1.isSendTo p := by
  induction tr with
  | nil => rfl
  | cons e tr ih =>
    obtain ⟨c, a⟩ := e
    have hcons : replies (⟨c, a⟩ :: tr) = replies [⟨c, a⟩] ++ replies tr := replies_append [_] tr
    rw [hcons, List.countP_append, ih, List.countP_cons, Nat.add_comm]
    cases c with
    | sendSessionData sessionId message => rw [replies_send, List.countP_singleton]; rfl
    | _ => rfl

/-! ## One way to succeed -/

/-- The answer of the reference world, whose clock has stopped. -/
def respond (w : World) : (c : Cmd) → c.Answer × World
  | .nowMSTime => ((0 : UInt64), w)
  | .user s => (s.respond w.db.imUsers, w)
  | .department s => (s.respond w.db.imDepartment, w)
  | .contact s => ((s.respond w.db.imRecentContact).1, w.setContacts (s.respond w.db.imRecentContact).2)
  | .message s => ((s.respond w.db.imMessage).1, w.setMessages (s.respond w.db.imMessage).2)
  | .group s => ((s.respond w.db.groups).1, w.setGroups (s.respond w.db.groups).2)
  | .file s => ((s.respond w.db.imTransmitFile).1, w.setFiles (s.respond w.db.imTransmitFile).2)
  | .counter op => ((op.run w.cache).1, w.setCache (op.run w.cache).2)
  | .sendSessionData _ _ => ((), w)

theorem respond_ok (w : World) (c : Cmd) : StepOk w c (respond w c).1 (respond w c).2 := by
  cases c with
  | nowMSTime => rfl
  | user s => exact ⟨s.respond_ok _, rfl⟩
  | department s => exact ⟨s.respond_ok _, rfl⟩
  | contact s => exact ⟨_, s.respond_ok _, rfl⟩
  | message s => exact ⟨_, s.respond_ok _, rfl⟩
  | group s => exact ⟨_, s.respond_ok _, rfl⟩
  | file s => exact ⟨_, s.respond_ok _, rfl⟩
  | counter op => exact ⟨rfl, rfl⟩
  | sendSessionData sessionId message => rfl

/-- The run of `p` in the reference world. -/
def Prog.play {α : Type} (p : Server α) (w : World) : List Event × α × World := p.exec respond w

theorem Prog.play_runs {α : Type} (p : Server α) (w : World) :
    Runs StepOk w p (p.play w).1 (p.play w).2.1 (p.play w).2.2 :=
  exec_runs respond_ok p w

end Zattd
