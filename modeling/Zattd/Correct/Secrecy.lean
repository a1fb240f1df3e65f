/-
  What the server DOES NOT TELL, with all threads at work: two properties of pairs of runs.

  1. `messages_hidden` — the table of the messages is only written.  Whatever it holds at the start,
     the same packets are answered by the same replies: nobody is ever told what has been stored.
  2. `passwords_hidden` — the passwords are only read for those who log in.  Without them, whatever the
     passwords are, the same packets are answered by the same replies.

  In both cases a run in one world is MIRRORED in the other, step by step: the programs are blind to
  what is hidden, and to show that of a program it is enough to look at what it may read.

  The name of a login and the task of a file get into their statements as they are.  One that is not a
  literal for itself may make a query of the statement, on any table; so in both cases all names and
  tasks that come are literals.
-/
import Zattd.Correct.Login
import Zattd.Correct.Provenance
import Zattd.Lib.Mirrors

set_option linter.unusedVariables false

namespace Zattd

open Prog

/-! ## Two runs -/

namespace HandlerThreads

variable {n : Nat} {bo : ByteOrder} {model : ModelModule} {w₀ t₀ : World} {s : HandlerThreads}
  {tr tr' : List ThreadsEvent} {same : (c : Cmd) → c.Answer → c.Answer → Prop}

/-- The events look the same, but for the answers. -/
inductive Looks (same : (c : Cmd) → c.Answer → c.Answer → Prop) : ThreadsEvent → ThreadsEvent → Prop
  | received (j : Job) : Looks same (.received j) (.received j)
  | sentSyncData (sessionId : UInt64) (packet : Packet) :
      Looks same (.sentSyncData sessionId packet) (.sentSyncData sessionId packet)
  | notImplemented (sessionId : UInt64) (packet : Packet) :
      Looks same (.notImplemented sessionId packet) (.notImplemented sessionId packet)
  | pool {e e' : PoolEvent Cmd Cmd.Answer Job} : Pool.Looks same e e' → Looks same (.pool e) (.pool e')

/-- The same for all who send packets: what has come, what it has been answered, what is finished. -/
structure SameOutside (tr tr' : List ThreadsEvent) : Prop where
  received : received tr' = received tr
  repliesTo : ∀ j, repliesTo j tr' = repliesTo j tr
  sent : sent tr' = sent tr
  finished : Pool.finished (poolEvents tr') = Pool.finished (poolEvents tr)

/-- Runs that look the same are the same from outside. -/
theorem SameOutside.of_looks (h : List.Forall₂ (Looks same) tr tr') : SameOutside tr tr' := by
  have hpool : List.Forall₂ (Pool.Looks same) (poolEvents tr) (poolEvents tr') := by
    refine List.rel_filterMap (fun e e' he => ?_) h
    cases he with
    | pool he => exact .some he
    | _ => exact .none
  have hactsOf : ∀ j, List.Forall₂ (fun e e' : Event => e.1 = e'.1) (Pool.acts j (poolEvents tr))
      (Pool.acts j (poolEvents tr')) := by
    intro j
    refine List.rel_filterMap (fun e e' he => ?_) hpool
    cases he with
    | @act j' c a a' _ =>
      by_cases hj : j' = j
      · simp only [if_pos hj]
        exact .some rfl
      · simp only [if_neg hj]
        exact .none
    | _ => exact .none
  have hacts : List.Forall₂ (fun e e' : Event => e.1 = e'.1) (Pool.allActs (poolEvents tr))
      (Pool.allActs (poolEvents tr')) := by
    refine List.rel_filterMap (fun e e' he => ?_) hpool
    cases he with
    | act => exact .some rfl
    | _ => exact .none
  -- whether an event is a reply, and which, is in the command
  have hreplies : ∀ l l' : List Event, List.Forall₂ (fun e e' : Event => e.1 = e'.1) l l' →
      replies l' = replies l := by
    intro l l' hl
    refine (List.forall₂_eq_eq_eq ▸ List.rel_filterMap (P := Eq) (fun e e' he => ?_) hl).symm
    obtain ⟨c, a⟩ := e
    obtain ⟨c', a'⟩ := e'
    obtain rfl : c = c' := he
    cases c with
    | sendSessionData => exact .some rfl
    | _ => exact .none
  refine ⟨?_, fun j => hreplies _ _ (hactsOf j), hreplies _ _ hacts, ?_⟩
  · refine (List.forall₂_eq_eq_eq ▸ List.rel_filterMap (P := Eq) (fun e e' he => ?_) h).symm
    cases he with
    | received => exact .some rfl
    | _ => exact .none
  · refine (List.forall₂_eq_eq_eq ▸ List.rel_filterMap (P := Eq) (fun e e' he => ?_) hpool).symm
    cases he with
    | finish => exact .some rfl
    | _ => exact .none

/-- **Mirrored runs.**  Let worlds that look the same give answers that look the same, and let what is
    done with the packets that come be blind to the difference.  Then what happens in the one happens in
    the other. -/
theorem mirrored {sim : World → World → Prop} {ok : Job → Prop}
    (hsim : ∀ w t c a w', sim w t → Zattd.Step w c a w' →
      ∃ a' t', Zattd.Step t c a' t' ∧ sim w' t' ∧ same c a a')
    (hwork : ∀ j p, ok j → Handles bo model j p → ∀ w, Blind Zattd.Step Grows same p w)
    (h : Run (Step n bo model) (start w₀) tr s) (hok : ∀ j ∈ received tr, ok j) (ht₀ : sim w₀ t₀) :
    Pool.Blinded Zattd.Step Grows same s.pool ∧
      ∃ tr' t, Run (Step n bo model) (start t₀) tr' { s with pool := { s.pool with world := t } } ∧
        sim s.pool.world t ∧ List.Forall₂ (Looks same) tr tr' := by
  induction h with
  | nil =>
    refine ⟨fun i j p hcurrent => ?_, [], t₀, .nil, ht₀, .nil⟩
    cases hcurrent
  | @snoc tr e s₁ s₂ hrun hstep ih =>
    rw [received_append] at hok
    obtain ⟨hblinded, tr', t, hrun', ht, hlooks⟩ := ih fun j hj => hok j (List.mem_append_left _ hj)
    have hpool : ∀ (e : PoolEvent Cmd Cmd.Answer Job) (pool : Pool World Cmd Cmd.Answer Job),
        Pool.Step (threadOf n) Zattd.Step (Handles bo model) s₁.pool e pool →
        Pool.Blinded Zattd.Step Grows same pool ∧ ∃ e' t',
          Pool.Step (threadOf n) Zattd.Step (Handles bo model) { s₁.pool with world := t } e'
            { pool with world := t' } ∧ sim pool.world t' ∧ Pool.Looks same e e' := by
      intro e pool hpool
      refine ⟨hpool.blinded Grows.refl (fun _ _ _ => Grows.trans) (fun _ _ _ _ hdo => hdo.grows)
        (fun j p he hp => ?_) hblinded, hpool.mirrored Grows.refl hsim hblinded ht⟩
      -- what is started has been received
      subst he
      cases hpool with
      | start hworker =>
        have hjobs := Pool.mem_jobs_of_queue (s := s₁.pool) (i := threadOf n j) (j := j)
          (by rw [hworker]; exact List.mem_cons_self ..)
        obtain ⟨-, hj⟩ := (run_threaded hrun).of_mem_jobs hjobs
        exact hwork j p (hok j (List.mem_append_left _ hj)) hp
    cases hstep with
    | received hfree hdata =>
      exact ⟨hblinded, _, t, hrun'.snoc (.received hfree hdata), ht,
        List.rel_append hlooks (.cons (.received _) .nil)⟩
    | sentSyncData hfree hdata =>
      exact ⟨hblinded, _, t, hrun'.snoc (.sentSyncData hfree hdata), ht,
        List.rel_append hlooks (.cons (.sentSyncData _ _) .nil)⟩
    | notImplemented hfree hdata =>
      exact ⟨hblinded, _, t, hrun'.snoc (.notImplemented hfree hdata), ht,
        List.rel_append hlooks (.cons (.notImplemented _ _) .nil)⟩
    | @post j pool hposting hdo =>
      obtain ⟨hblinded', e', t', hdo', ht', hsame⟩ := hpool _ pool hdo
      cases hsame
      exact ⟨hblinded', _, t', hrun'.snoc (.post hposting hdo'), ht',
        List.rel_append hlooks (.cons (.pool (.post j)) .nil)⟩
    | @work e pool hnot hdo =>
      obtain ⟨hblinded', e', t', hdo', ht', hsame⟩ := hpool e pool hdo
      have hnot' : ∀ j, e' ≠ .post j := by
        rintro j rfl
        cases hsame
        exact hnot j rfl
      exact ⟨hblinded', _, t', hrun'.snoc (.work hnot' hdo'), ht',
        List.rel_append hlooks (.cons (.pool hsame) .nil)⟩

end HandlerThreads

/-! ## What is stored -/

section Messages

variable {w w' t : World} {c : Cmd} {a : c.Answer} {m₀ u₀ : List MessageRow} {mem : Memory}
  {sessionId : UInt64}

/-- Answers that are not distinguished by who is not to see the messages.  What is not plain might be
    answered with them. -/
def sameButMessages : (c : Cmd) → c.Answer → c.Answer → Prop
  | .message (.selectMessages _ _ _ _ _), _, _ => True
  | c, a, a' => c.isPlain = true → a' = a

/-- The same message, under a key of its own. -/
def MessageRow.SameText (r r' : MessageRow) : Prop := r' = { r with id := r'.id }

/-- The worlds agree, but for the messages; and of those, the ones that came after `m₀` and `u₀` are
    the same. -/
def SameButMessages (m₀ u₀ : List MessageRow) (w t : World) : Prop :=
  ∃ rows rows', w.db.imMessage = m₀ ++ rows ∧ t = w.setMessages (u₀ ++ rows') ∧
    List.Forall₂ MessageRow.SameText rows rows'

/-- Other commands have nothing to do with the messages. -/
theorem Step.setMessages (h : Step w c a w') (hc : ∀ s, c ≠ .message s) (u : List MessageRow) :
    Step (w.setMessages u) c a (w'.setMessages u) ∧ w'.db.imMessage = w.db.imMessage := by
  rcases h with hok | hfail
  · cases c with
    | message s => exact absurd rfl (hc s)
    | nowMSTime | sendSessionData =>
      obtain rfl : w' = w := hok
      exact ⟨Or.inl rfl, rfl⟩
    | user | department =>
      obtain ⟨ha, rfl⟩ := hok
      exact ⟨Or.inl ⟨ha, rfl⟩, rfl⟩
    | contact | group | file =>
      obtain ⟨t, ht, rfl⟩ := hok
      exact ⟨Or.inl ⟨t, ht, rfl⟩, rfl⟩
    | counter op =>
      obtain ⟨ha, rfl⟩ := hok
      exact ⟨Or.inl ⟨ha, rfl⟩, rfl⟩
  · cases c with
    | nowMSTime | counter | sendSessionData => exact absurd hfail id
    | message s => exact absurd rfl (hc s)
    | user | department | contact | group | file =>
      obtain ⟨ha, rfl⟩ := hfail
      exact ⟨Or.inr ⟨ha, rfl⟩, rfl⟩

/-- Worlds that agree but for the messages give answers that are not distinguished. -/
theorem SameButMessages.step (h : SameButMessages m₀ u₀ w t) (hdo : Step w c a w') :
    ∃ a' t', Step t c a' t' ∧ SameButMessages m₀ u₀ w' t' ∧ sameButMessages c a a' := by
  obtain ⟨rows, rows', hrows, rfl, hsame⟩ := h
  by_cases hc : ∃ s, c = .message s
  · obtain ⟨s, rfl⟩ := hc
    cases s with
    | selectMessages relateId f t offset count =>
      have hanswer := MessageStmt.respond_ok (u₀ ++ rows') (.selectMessages relateId f t offset count)
      have hkept : w' = w := by
        rcases hdo with ⟨t, ⟨rfl, -⟩, rfl⟩ | ⟨-, rfl⟩ <;> rfl
      rw [hkept]
      exact ⟨_, _, Or.inl ⟨_, hanswer, rfl⟩, ⟨rows, rows', hrows, rfl, hsame⟩, trivial⟩
    | insertMessage v =>
      rcases hdo with ⟨m, ⟨keys, ⟨hlen, -, -, rfl⟩, rfl⟩, rfl⟩ | ⟨hfail, rfl⟩
      · -- the row gets a key that is free on the other side
        obtain ⟨key, rfl⟩ := List.length_eq_one_iff.mp hlen
        have hinserts := Table.insert_inserts (fun r : MessageRow => r.id) [v.row] (u₀ ++ rows')
        have hlen' := hinserts.1
        have hadded := hinserts.2.2.2
        obtain ⟨key', hkey'⟩ := List.length_eq_one_iff.mp hlen'
        rw [hkey'] at hinserts hadded
        refine ⟨_, _, Or.inl ⟨_, ⟨_, hinserts, rfl⟩, rfl⟩,
          ⟨rows ++ [v.row key], rows' ++ [v.row key'], ?_, ?_, ?_⟩, fun _ => rfl⟩
        · show w.db.imMessage ++ [v.row key] = _
          rw [hrows, List.append_assoc]
        · rw [hadded, ← List.append_assoc]
          rfl
        · exact List.rel_append hsame (.cons rfl .nil)
      · exact ⟨a, _, Or.inr ⟨hfail, rfl⟩, ⟨rows, rows', hrows, rfl, hsame⟩, fun _ => rfl⟩
  · obtain ⟨hdo', hkept⟩ := hdo.setMessages (fun s hs => hc ⟨s, hs⟩) (u₀ ++ rows')
    refine ⟨a, _, hdo', ⟨rows, rows', hkept.trans hrows, rfl, hsame⟩, ?_⟩
    cases c with
    | message s => exact absurd ⟨s, rfl⟩ hc
    | _ => exact fun _ => rfl

/-- Only a request for messages is shown any, if it is plain. -/
theorem May.sees_messages {message : Message} (h : May sessionId message w c)
    (hne : message.1 ≠ .unreadMsgRequest) (hplain : message.IsPlain) (a a' : c.Answer)
    (hsame : sameButMessages c a a') : a' = a := by
  have hliteral := h.isPlain hplain
  cases h with
  | read hread =>
    cases hread with
    | messages => exact absurd rfl hne
    | _ => exact hsame hliteral
  | _ => exact hsame hliteral

/-- A reply sees nothing. -/
theorem sendSessionData_blind {same : (c : Cmd) → c.Answer → c.Answer → Prop} {n : PduName}
    (r : Pdu n.Body) (w : World) : Blind Step Grows same (sendSessionData sessionId n r) w :=
  Blind.then (f := fun _ => .ret ()) (fun _ _ _ => rfl) fun _ _ => trivial

/-- And it does not look at them. -/
theorem unreadMsgRequestHandler_blind (request : Pdu UnreadMsgRequest) (w : World) :
    Blind Step Grows sameButMessages (unreadMsgRequestHandler zAresModelModule mem sessionId request) w := by
  unfold unreadMsgRequestHandler
  refine Blind.then (fun count count' hsame => by rw [show count' = count from hsame rfl]) fun count w => ?_
  refine Blind.ite (fun _ => ?_) fun _ => sendSessionData_blind _ w
  refine Blind.bind ?_ fun _ w => sendSessionData_blind _ w
  show Blind _ _ _ (ZAresMessageManagerImpl.getMessages _ _ _ _ _) w
  unfold ZAresMessageManagerImpl.getMessages
  refine Blind.bind ?_ fun relateId w => ?_
  · unfold ZAresRelationshipManagerImpl.getRelateId
    refine Blind.ite (fun _ => trivial) fun _ =>
      Blind.then (fun answ answ' hsame => by rw [show answ' = answ from hsame rfl]) fun answ w => ?_
    split <;> trivial
  · exact Blind.ite (fun _ => trivial) fun _ => Blind.then (fun _ _ _ => rfl) fun _ _ => trivial

/-- No handler does. -/
theorem executes_blind_messages {n : PduName} {execute : Execute n.Body} (h : executes n = some execute)
    (m : Pdu n.Body) (hplain : Message.IsPlain ⟨n, m⟩) (w : World) :
    Blind Step Grows sameButMessages (execute zAresModelModule mem sessionId m) w := by
  by_cases hn : n = .unreadMsgRequest
  · subst hn
    obtain rfl := Option.some.inj h
    exact unreadMsgRequestHandler_blind m w
  · exact (executes_permitted h m w).blind fun w c hmay => hmay.sees_messages hn hplain

end Messages

namespace HandlerThreads

variable {n : Nat} {bo : ByteOrder} {w₀ : World} {s : HandlerThreads} {tr : List ThreadsEvent}

theorem handles_blind_messages {j : Job} {p : Server Unit} (hplain : PlainIn bo j)
    (h : Handles bo zAresModelModule j p) (w : World) :
    Blind Zattd.Step Grows sameButMessages p w := by
  obtain ⟨mem, rfl⟩ := h
  rcases onMessageDataHandler_cases bo zAresModelModule mem j.sessionId j.packet with
    ⟨name, m, execute, -, hparse, hexecutes, hrun⟩ | ⟨-, hrun⟩
  · rw [hrun]
    exact executes_blind_messages hexecutes m (hplain mem _ hparse) w
  · rw [hrun]
    trivial

/-- **What is stored is never told.**  To every run whose packets are plain there is one that begins with
    any other messages in the table, in which the same packets come, in which each is answered by the
    same reply, and which leaves everything else as the first one does: the messages that the two have
    added are the same, up to their keys. -/
theorem messages_hidden (h : Run (Step n bo zAresModelModule) (start w₀) tr s)
    (hplain : ∀ j ∈ received tr, PlainIn bo j) (u₀ : List MessageRow) :
    ∃ tr' t, Run (Step n bo zAresModelModule) (start (w₀.setMessages u₀)) tr'
        { s with pool := { s.pool with world := t } } ∧
      SameOutside tr tr' ∧ SameButMessages w₀.db.imMessage u₀ s.pool.world t := by
  have hwork : ∀ j p, PlainIn bo j → Handles bo zAresModelModule j p →
      ∀ w, Blind Zattd.Step Grows sameButMessages p w := by
    intro j p hj hp w
    exact handles_blind_messages hj hp w
  have hstart : SameButMessages w₀.db.imMessage u₀ w₀ (w₀.setMessages u₀) :=
    ⟨[], [], (List.append_nil _).symm, by rw [List.append_nil], .nil⟩
  obtain ⟨-, tr', t, hrun, ht, hlooks⟩ := mirrored (fun _ _ _ _ _ ht hdo => ht.step hdo) hwork h
    hplain hstart
  exact ⟨tr', t, hrun, .of_looks hlooks, ht⟩

/-- What the client of user 1 asks when it wants to know what is unread from user 2. -/
def oneReading : Pdu UnreadMsgRequest where
  attachData := []
  reserved := 0
  body := { fromUserId := 1, toUserId := 2, clientType := 17 }

/-- It asks after user 1 has sent a text. -/
def readingServed : List ThreadsEvent × World :=
  inTurn .big 0 [(default, 1, packetOf oneText), (default, 1, packetOf oneReading)] emptyWorld

/-- Whether the table of the messages is read. -/
def Event.readsMessages : Event → Bool
  | ⟨.message (.selectMessages _ _ _ _ _), _⟩ => true
  | _ => false

/-- The messages are read for him once, and it makes no difference that there is one more. -/
theorem messages_hidden_one :
    (Pool.allActs (poolEvents readingServed.1)).countP Event.readsMessages = 1 ∧
    (sent readingServed.1).length = 2 ∧
    ∃ tr' t, Run (Step 2 .big zAresModelModule) (start (emptyWorld.setMessages [textRow])) tr'
        (atRest 2 t) ∧ sent tr' = sent readingServed.1 ∧ t.db.imMessage.length = 2 := by
  have hserved : Run (Step 2 .big zAresModelModule) (start emptyWorld) readingServed.1
      (atRest 2 readingServed.2) := inTurn_run (by decide) emptyWorld
  have hreceived : received readingServed.1 = [textJob, ⟨1, 1, packetOf oneReading⟩] := by decide
  have hplain : ∀ j ∈ received readingServed.1, PlainIn .big j := by
    intro j hj
    rw [hreceived, List.mem_cons, List.mem_singleton] at hj
    rcases hj with rfl | rfl
    · exact plainIn_of_class .msgData rfl (by decide) (by decide)
    · exact plainIn_of_class .unreadMsgRequest rfl (by decide) (by decide)
  obtain ⟨tr', t, hrun, hsame, rows, rows', hrows, rfl, hall⟩ :=
    messages_hidden hserved hplain [textRow]
  have hone : readingServed.2.db.imMessage.length = 1 := by decide
  refine ⟨by decide, by decide, tr', _, hrun, hsame.sent, ?_⟩
  rw [show readingServed.2.db.imMessage = rows from hrows, hall.length_eq] at hone
  show ([textRow] ++ rows').length = 2
  rw [List.length_append, hone]
  rfl

end HandlerThreads

/-! ## The passwords -/

/-- The same user, with any password. -/
def UserRow.SameUser (r r' : UserRow) : Prop := r' = { r with pwd := r'.pwd }

/-- Answers that are not distinguished by who is not to see the passwords.  What is not plain might be
    answered with them. -/
def sameButPasswords : (c : Cmd) → c.Answer → c.Answer → Prop
  | .user (.selectPwd _), _, _ => True
  | .user (.selectById _), a, a' | .user (.selectByIds _), a, a' | .user (.selectByName _), a, a'
  | .user .selectAll, a, a' => Option.Rel (List.Forall₂ UserRow.SameUser) a a'
  | c, a, a' => c.isPlain = true → a' = a

/-- The worlds agree, but for the passwords. -/
def SameButPasswords (us : List UserRow) (w t : World) : Prop :=
  t = w.setUsers us ∧ List.Forall₂ UserRow.SameUser w.db.imUsers us

section Passwords

variable {w w' t : World} {c : Cmd} {a : c.Answer} {us us' rows : List UserRow} {mem : Memory}
  {sessionId : UInt64}

/-- A query that does not ask for the password finds the same users. -/
theorem selects_sameUser {p : UserRow → Bool} (hp : ∀ r r', UserRow.SameUser r r' → p r = p r')
    (hsame : List.Forall₂ UserRow.SameUser us us') (h : Table.Selects p (fun _ => ()) us rows) :
    ∃ rows', Table.Selects p (fun _ => ()) us' rows' ∧ List.Forall₂ UserRow.SameUser rows rows' := by
  obtain ⟨hperm, -⟩ := h
  have hfilter : List.Forall₂ UserRow.SameUser (us.filter p) (us'.filter p) :=
    List.rel_filter (fun r r' hr => show p r = true ↔ p r' = true by rw [hp r r' hr]) hsame
  obtain ⟨rows', hrows, hperm'⟩ := List.perm_comp_forall₂ hperm hfilter
  exact ⟨rows', ⟨hperm', List.pairwise_of_forall fun _ _ => le_refl ()⟩, hrows⟩

theorem rel_refl_sameUser (a : Option (List UserRow)) :
    Option.Rel (List.Forall₂ UserRow.SameUser) a a := by
  cases a with
  | none => exact .none
  | some rows => exact .some (List.forall₂_same.mpr fun r _ => rfl)

/-- So users that agree but for the passwords give answers that are not distinguished. -/
theorem UserStmt.Ok.sameUser {s : UserStmt} {a : s.Answer} (h : s.Ok us a)
    (hsame : List.Forall₂ UserRow.SameUser us us') :
    ∃ a' : s.Answer, s.Ok us' a' ∧ sameButPasswords (.user s) a a' := by
  have hcolumn : ∀ (p : UserRow → Bool), (∀ (r : UserRow) (pwd : Bytes), p { r with pwd := pwd } = p r) →
      ∀ r r', UserRow.SameUser r r' → p r = p r' := by
    intro p hp r r' hr
    rw [hr]
    exact (hp r r'.pwd).symm
  cases s with
  | selectPwd uname => exact ⟨_, UserStmt.respond_ok us' (.selectPwd uname), trivial⟩
  | selectById id =>
    obtain ⟨rows, hrows, rfl⟩ := h
    obtain ⟨rows', hrows', hall⟩ := selects_sameUser (hcolumn _ fun _ _ => rfl) hsame hrows
    exact ⟨_, ⟨rows', hrows', rfl⟩, .some hall⟩
  | selectByIds ids =>
    obtain ⟨rows, hrows, rfl⟩ := h
    obtain ⟨rows', hrows', hall⟩ := selects_sameUser (hcolumn _ fun _ _ => rfl) hsame hrows
    exact ⟨_, ⟨rows', hrows', rfl⟩, .some hall⟩
  | selectByName uname =>
    by_cases hplain : isPlain uname = true
    · obtain ⟨rows, hrows, rfl⟩ := h hplain
      obtain ⟨rows', hrows', hall⟩ := selects_sameUser (hcolumn _ fun _ _ => rfl) hsame hrows
      exact ⟨_, fun _ => ⟨rows', hrows', rfl⟩, .some hall⟩
    · exact ⟨a, fun hp => absurd hp hplain, rel_refl_sameUser a⟩
  | selectAll =>
    obtain ⟨rows, ⟨all, hall, rfl⟩, rfl⟩ := h
    obtain ⟨all', hall', hsame'⟩ := selects_sameUser (hcolumn _ fun _ _ => rfl) hsame hall
    exact ⟨_, ⟨_, ⟨all', hall', rfl⟩, rfl⟩, .some (List.forall₂_take _ (List.forall₂_drop _ hsame'))⟩

/-- Other commands have nothing to do with the users, and none changes them. -/
theorem Step.setUsers (h : Step w c a w') (hc : ∀ s, c ≠ .user s) (us : List UserRow) :
    Step (w.setUsers us) c a (w'.setUsers us) := by
  rcases h with hok | hfail
  · cases c with
    | user s => exact absurd rfl (hc s)
    | nowMSTime | sendSessionData =>
      obtain rfl : w' = w := hok
      exact Or.inl rfl
    | department =>
      obtain ⟨ha, rfl⟩ := hok
      exact Or.inl ⟨ha, rfl⟩
    | contact | message | group | file =>
      obtain ⟨t, ht, rfl⟩ := hok
      exact Or.inl ⟨t, ht, rfl⟩
    | counter op =>
      obtain ⟨ha, rfl⟩ := hok
      exact Or.inl ⟨ha, rfl⟩
  · cases c with
    | nowMSTime | counter | sendSessionData => exact absurd hfail id
    | user s => exact absurd rfl (hc s)
    | department | contact | message | group | file =>
      obtain ⟨ha, rfl⟩ := hfail
      exact Or.inr ⟨ha, rfl⟩

theorem SameButPasswords.step (h : SameButPasswords us w t) (hdo : Step w c a w') :
    ∃ a' t', Step t c a' t' ∧ SameButPasswords us w' t' ∧ sameButPasswords c a a' := by
  obtain ⟨rfl, hsame⟩ := h
  have hsame' : List.Forall₂ UserRow.SameUser w'.db.imUsers us := by rwa [hdo.grows.users]
  by_cases hc : ∃ s, c = .user s
  · obtain ⟨s, rfl⟩ := hc
    rcases hdo with ⟨hok, rfl⟩ | ⟨hfail, rfl⟩
    · obtain ⟨a', hok', ha'⟩ := hok.sameUser hsame
      exact ⟨a', _, Or.inl ⟨hok', rfl⟩, ⟨rfl, hsame⟩, ha'⟩
    · refine ⟨a, _, Or.inr ⟨hfail, rfl⟩, ⟨rfl, hsame⟩, ?_⟩
      cases s with
      | selectPwd => trivial
      | _ => exact rel_refl_sameUser a
  · refine ⟨a, _, hdo.setUsers (fun s hs => hc ⟨s, hs⟩) us, ⟨rfl, hsame'⟩, ?_⟩
    cases c with
    | user s => exact absurd ⟨s, rfl⟩ hc
    | _ => exact fun _ => rfl

/-- Only three classes of requests are shown users at all, if they are plain. -/
theorem May.sees_users {message : Message} (h : May sessionId message w c)
    (hlogin : message.1 ≠ .validateRequest) (hinfo : message.1 ≠ .usersInfoRequest)
    (hall : message.1 ≠ .allUserRequest) (hplain : message.IsPlain) (a a' : c.Answer)
    (hsame : sameButPasswords c a a') : a' = a := by
  have hliteral := h.isPlain hplain
  cases h with
  | read hread =>
    cases hread with
    | password | himself => exact absurd rfl hlogin
    | usersInfo => exact absurd rfl hinfo
    | allUsers => exact absurd rfl hall
    | _ => exact hsame hliteral
  | _ => exact hsame hliteral

/-- What is read of a user is not his password. -/
theorem map_parseFromDatabase_sameUser {rows rows' : List UserRow}
    (h : List.Forall₂ UserRow.SameUser rows rows') (info : UserInfo) :
    rows'.map (ZAresUserManagerImpl.parseFromDatabase info) =
      rows.map (ZAresUserManagerImpl.parseFromDatabase info) := by
  induction h with
  | nil => rfl
  | cons hr _ ih =>
    rw [List.map_cons, List.map_cons, ih, hr]
    rfl

theorem usersInfoRequestHandler_blind (request : Pdu UsersInfoRequest) (w : World) :
    Blind Step Grows sameButPasswords (usersInfoRequestHandler zAresModelModule mem sessionId request) w := by
  unfold usersInfoRequestHandler
  refine Blind.ite (fun _ => sendSessionData_blind _ w) fun _ => ?_
  refine Blind.bind ?_ fun _ w => sendSessionData_blind _ w
  show Blind _ _ _ (ZAresUserManagerImpl.getUserInfos _ _) w
  unfold ZAresUserManagerImpl.getUserInfos
  refine Blind.ite (fun _ => trivial) fun _ => Blind.then (fun answ answ' hsame => ?_) fun answ w => ?_
  · cases hsame with
    | none => rfl
    | some hrows => simp only [map_parseFromDatabase_sameUser hrows]
  · split <;> trivial

theorem allUserRequestHandler_blind (request : Pdu AllUserRequest) (w : World) :
    Blind Step Grows sameButPasswords (allUserRequestHandler zAresModelModule mem sessionId request) w := by
  unfold allUserRequestHandler
  refine Blind.ite (fun _ => ?_) fun _ => sendSessionData_blind _ w
  refine Blind.bind ?_ fun _ w => sendSessionData_blind _ w
  show Blind _ _ _ (ZAresUserManagerImpl.getAllUserInfo _) w
  unfold ZAresUserManagerImpl.getAllUserInfo
  refine Blind.then (fun answ answ' hsame => ?_) fun answ w => ?_
  · cases hsame with
    | none => rfl
    | some hrows => simp only [map_parseFromDatabase_sameUser hrows]
  · split <;> trivial

/-- No handler looks at the passwords but the one for logging in. -/
theorem executes_blind_passwords {n : PduName} {execute : Execute n.Body} (h : executes n = some execute)
    (hlogin : n ≠ .validateRequest) (m : Pdu n.Body) (hplain : Message.IsPlain ⟨n, m⟩) (w : World) :
    Blind Step Grows sameButPasswords (execute zAresModelModule mem sessionId m) w := by
  by_cases hinfo : n = .usersInfoRequest
  · subst hinfo
    obtain rfl := Option.some.inj h
    exact usersInfoRequestHandler_blind m w
  by_cases hall : n = .allUserRequest
  · subst hall
    obtain rfl := Option.some.inj h
    exact allUserRequestHandler_blind m w
  · exact (executes_permitted h m w).blind fun w c hmay =>
      hmay.sees_users hlogin hinfo hall hplain

end Passwords

namespace HandlerThreads

variable {n : Nat} {bo : ByteOrder} {w₀ : World} {s : HandlerThreads} {tr : List ThreadsEvent}

theorem pduMessageFactory_login : ∀ e ∈ pduMessageFactory, e.2 = .validateRequest →
    e.1 = messageValidateRequest := by decide

theorem handles_blind_passwords {j : Job} {p : Server Unit}
    (hlogin : j.packet.messageType ≠ messageValidateRequest) (hplain : PlainIn bo j)
    (h : Handles bo zAresModelModule j p) (w : World) :
    Blind Zattd.Step Grows sameButPasswords p w := by
  obtain ⟨mem, rfl⟩ := h
  rcases onMessageDataHandler_cases bo zAresModelModule mem j.sessionId j.packet with
    ⟨name, m, execute, -, hparse, hexecutes, hrun⟩ | ⟨-, hrun⟩
  · rw [hrun]
    refine executes_blind_passwords hexecutes (fun hname => hlogin ?_) m (hplain mem _ hparse) w
    have hclass := mem_of_lookup (parseMessagePduFromNetPacker_class hparse)
    exact pduMessageFactory_login _ hclass hname
  · rw [hrun]
    trivial

/-- **Passwords are told to nobody.**  To every run in which nobody logs in, and whose packets are plain,
    there is one with any other passwords, in which the same packets come and each is answered by the
    same reply; and the two leave the same world, but for the passwords. -/
theorem passwords_hidden (h : Run (Step n bo zAresModelModule) (start w₀) tr s)
    (hlogin : ∀ j ∈ received tr, j.packet.messageType ≠ messageValidateRequest)
    (hplain : ∀ j ∈ received tr, PlainIn bo j) {us : List UserRow}
    (hus : List.Forall₂ UserRow.SameUser w₀.db.imUsers us) :
    ∃ tr', Run (Step n bo zAresModelModule) (start (w₀.setUsers us)) tr'
        { s with pool := { s.pool with world := s.pool.world.setUsers us } } ∧
      SameOutside tr tr' := by
  have hwork : ∀ j p, j.packet.messageType ≠ messageValidateRequest ∧ PlainIn bo j →
      Handles bo zAresModelModule j p → ∀ w, Blind Zattd.Step Grows sameButPasswords p w := by
    intro j p hj hp w
    exact handles_blind_passwords hj.1 hj.2 hp w
  have hstart : SameButPasswords us w₀ (w₀.setUsers us) := ⟨rfl, hus⟩
  obtain ⟨-, tr', t, hrun, ⟨rfl, -⟩, hlooks⟩ := mirrored (fun _ _ _ _ _ ht hdo => ht.step hdo) hwork h
    (fun j hj => ⟨hlogin j hj, hplain j hj⟩) hstart
  exact ⟨tr', hrun, .of_looks hlooks⟩

/-- Somebody asks for all that is known of user 7. -/
def oneInfo : Pdu UsersInfoRequest where
  attachData := []
  reserved := 0
  body := { fromUserId := 1, userIdList := [7] }

def infoServed : List ThreadsEvent × World := inTurn .big 0 [(default, 1, packetOf oneInfo)] oneUserWorld

/-- Whether users are read. -/
def Event.readsUsers : Event → Bool
  | ⟨.user _, _⟩ => true
  | _ => false

/-- The user is looked up and told of, in the same words when his password is another. -/
theorem passwords_hidden_one :
    (Pool.allActs (poolEvents infoServed.1)).countP Event.readsUsers = 1 ∧
    (sent infoServed.1).length = 1 ∧
    ∃ tr', Run (Step 2 .big zAresModelModule) (start (oneUserWorld.setUsers [oneUser [50]])) tr'
        (atRest 1 (infoServed.2.setUsers [oneUser [50]])) ∧ sent tr' = sent infoServed.1 := by
  have hserved : Run (Step 2 .big zAresModelModule) (start oneUserWorld) infoServed.1
      (atRest 1 infoServed.2) := inTurn_run (by decide) oneUserWorld
  have hreceived : received infoServed.1 = [⟨0, 1, packetOf oneInfo⟩] := by decide
  have hone : ∀ j ∈ received infoServed.1, j = ⟨0, 1, packetOf oneInfo⟩ := by
    intro j hj
    rw [hreceived] at hj
    exact List.mem_singleton.mp hj
  have hus : List.Forall₂ UserRow.SameUser oneUserWorld.db.imUsers [oneUser [50]] := .cons rfl .nil
  obtain ⟨tr', hrun, hsame⟩ := passwords_hidden hserved
    (fun j hj => by rw [hone j hj]; decide)
    (fun j hj => hone j hj ▸ plainIn_of_class .usersInfoRequest rfl (by decide) (by decide)) hus
  exact ⟨by decide, by decide, tr', hrun, hsame.sent⟩

end HandlerThreads

end Zattd
