/-
  What a client writes is what is DONE for it.

  A client hands over bytes; a packet, the queue of a thread and a parser stand between them and the
  handler.  Nothing of that is to be seen in what is done (`understood`): of a packet whose body begins
  with the image of a request, whatever comes after it, a thread does what the handler does with the
  client's own object; and for a body that begins with no image it does nothing.

  Requests to change members are left out: their parser does not keep which change is wanted.  What
  makes the object of a packet (`ParseMessagePDUFromNetPacker`) is not in the sources: it is taken to
  parse the body, and to copy the packet's reserved field into the object.

  And what a client gets is for what it wrote (`replies_match`): the replies that are sent belong to as
  many packets that have been received, each to the session of its packet, with its reserved field, and
  of the class that answers.
-/
import Zattd.Correct.OneShots
import Zattd.Proto.Accepts

set_option linter.unusedVariables false

namespace Zattd

open Prog

/-! ## The wire shows all of a request -/

theorem Wire.rebuild_uint32s (vs : List UInt32) : Wire.uint32s.rebuild [] vs = vs := by
  show [] ++ vs.map (fun v => v) = vs
  simp

/-- Every member of a request is on the wire: a new object has them all when it has been read. -/
theorem rebuildAll_request {n : PduName} {execute : Execute n.Body} (h : executes n = some execute)
    (hn : n ≠ .validateResponse) (m mem : n.Body) :
    rebuildAll m (n.layout hn).serialize (PduClass.construct mem) = m := by
  cases n <;> cases h
  case groupChangeMemberRequest =>
    exact congrArg (fun vs => { m with userList := vs }) (Wire.rebuild_uint32s m.userList)
  case groupCreateTmpGroupRequest =>
    exact congrArg (fun vs => { m with userList := vs }) (Wire.rebuild_uint32s m.userList)
  case usersInfoRequest =>
    exact congrArg (fun vs => { m with userIdList := vs }) (Wire.rebuild_uint32s m.userIdList)
  all_goals rfl

/-- And a request without attach data is handled alike whatever is in the place of it. -/
theorem executes_attachData {n : PduName} {execute : Execute n.Body} (h : executes n = some execute)
    (hattach : Pdu.hasAttachData n.Body = false) (model : ModelModule) (mem : Memory)
    (sessionId : UInt64) (m : Pdu n.Body) (data : Bytes) :
    execute model mem sessionId { m with attachData := data } = execute model mem sessionId m := by
  cases n <;> cases h
  case msgReadAck => rfl
  case groupMsgReadAck => rfl
  all_goals cases hattach

section Parses

variable {bo : ByteOrder} {mem : Memory} {packet : Packet} {n : PduName} {execute : Execute n.Body}

/-- So the object that is made of an image is, to the handler, the one that the image is of. -/
theorem executes_image (h : executes n = some execute) (hn : n ≠ .groupChangeMemberRequest)
    (hclass : pduMessageFactory.lookup packet.messageType = some n) {m : Pdu n.Body} {image : Bytes}
    (himage : m.IsImage bo image) (hstarts : image <+: packet.body) (sessionId : UInt64) :
    onMessageDataHandler bo zAresModelModule mem sessionId packet =
      execute zAresModelModule mem sessionId (m.setReserved packet.reserved) := by
  have hvalidate : n ≠ .validateResponse := by
    rintro rfl
    cases h
  have himpl := n.layout_implements hvalidate
  have hlaw := n.layout_lawful hvalidate hn
  obtain ⟨rfl, hlen⟩ := (Layout.isImage_iff himpl).mp himage
  obtain ⟨rest, hbody⟩ := hstarts
  have hparse := Layout.parseFromArray_encode_append himpl hlaw.parse_eq bo m (Pdu.new (mem.pdu n)) rest
    hlen
  have hpacket : parseMessagePduFromNetPacker bo mem packet =
      some ⟨n, ((n.layout hvalidate).restore m (.new (mem.pdu n))).setReserved packet.reserved⟩ := by
    unfold parseMessagePduFromNetPacker
    rw [hclass]
    show (if (Pdu.parseFromArray bo packet.body (.new (mem.pdu n))).1 = true then
      some (⟨n, (Pdu.parseFromArray bo packet.body (.new (mem.pdu n))).2.setReserved packet.reserved⟩ :
        Message) else none) = _
    rw [← hbody, hparse]
    rfl
  unfold onMessageDataHandler
  rw [hpacket]
  show dispatchMessageHandler _ _ _ _ = _
  rw [dispatchMessageHandler_eq, h]
  have hall := rebuildAll_request h hvalidate m.body (mem.pdu n).body
  show execute zAresModelModule mem sessionId
    ⟨⟨if Pdu.hasAttachData n.Body then m.attachData else [], packet.reserved⟩,
      rebuildAll m.body (n.layout hvalidate).serialize (PduClass.construct (mem.pdu n).body)⟩ = _
  rw [hall]
  cases hattach : Pdu.hasAttachData n.Body with
  | true => rfl
  | false => exact executes_attachData h hattach _ _ _ (m.setReserved packet.reserved) []

/-- Of what does not begin with an image no object is made. -/
theorem executes_noImage (h : executes n = some execute) (hn : n ≠ .groupChangeMemberRequest)
    (hclass : pduMessageFactory.lookup packet.messageType = some n)
    (hlen : packet.body.length < 2 ^ 32)
    (hnone : ∀ (m : Pdu n.Body) (image : Bytes), m.IsImage bo image → ¬image <+: packet.body)
    (model : ModelModule) (sessionId : UInt64) :
    onMessageDataHandler bo model mem sessionId packet = return () := by
  have hvalidate : n ≠ .validateResponse := by
    rintro rfl
    cases h
  have hfails : (Pdu.parseFromArray bo packet.body (.new (mem.pdu n))).1 = false := by
    by_contra hok
    obtain ⟨image, himage, hstarts⟩ :=
      PduName.accepted_isImage hvalidate hn hlen (Prod.ext (Bool.not_eq_false _ ▸ hok) rfl)
    exact hnone _ image himage hstarts
  have hpacket : parseMessagePduFromNetPacker bo mem packet = none := by
    unfold parseMessagePduFromNetPacker
    rw [hclass]
    show (if (Pdu.parseFromArray bo packet.body (.new (mem.pdu n))).1 = true then
      some (⟨n, (Pdu.parseFromArray bo packet.body (.new (mem.pdu n))).2.setReserved packet.reserved⟩ :
        Message) else none) = _
    rw [hfails]
    rfl
  unfold onMessageDataHandler
  rw [hpacket]

end Parses

/-- The command is a reply. -/
def Event.replies (e : Event) : Bool := e.reply.isSome

namespace HandlerThreads

variable {n : Nat} {bo : ByteOrder} {w₀ : World} {s : HandlerThreads} {tr : List ThreadsEvent} {j : Job}

/-! ## In a server at work -/

/-- What has been done for the packet is what the program does — in any memory, and all of it when the
    packet is finished. -/
def DoneBy (program : Memory → Server Unit) (j : Job) (tr : List ThreadsEvent) : Prop :=
  (Pool.acts j (poolEvents tr) = [] ∧ j ∉ Pool.finished (poolEvents tr)) ∨
  ∃ (mem : Memory) (q : Server Unit),
    Follows (Pool.Can Zattd.Step) (program mem) (Pool.acts j (poolEvents tr)) q ∧
    (j ∈ Pool.finished (poolEvents tr) → q = .ret ())

/-- **Requests are understood.**  In every run of any number of threads, let a packet be of a class that
    has a handler, other than that of changes of members.  If its body begins with the image of a
    message of the class, then what is done for it is what the handler does with this message and the
    packet's reserved field; if it begins with no image, nothing is done. -/
theorem understood (h : Run (Step n bo zAresModelModule) (start w₀) tr s) (name : PduName)
    {execute : Execute name.Body} (hexecutes : executes name = some execute)
    (hname : name ≠ .groupChangeMemberRequest)
    (hclass : pduMessageFactory.lookup j.packet.messageType = some name)
    (hlen : j.packet.body.length < 2 ^ 32) :
    (∀ (m : Pdu name.Body) (image : Bytes), m.IsImage bo image → image <+: j.packet.body →
      DoneBy (fun mem => execute zAresModelModule mem j.sessionId (m.setReserved j.packet.reserved))
        j tr) ∧
    ((∀ (m : Pdu name.Body) (image : Bytes), m.IsImage bo image → ¬image <+: j.packet.body) →
      Pool.acts j (poolEvents tr) = []) := by
  have hpath := Pool.path_of (run_threaded h).pool (run_threaded h).posted_nodup j
  refine ⟨fun m image himage hstarts => ?_, fun hnone => ?_⟩
  · refine hpath.imp_right ?_
    rintro ⟨p, q, ⟨mem, rfl⟩, hfollows, hend⟩
    rw [executes_image hexecutes hname hclass himage hstarts] at hfollows
    exact ⟨mem, q, hfollows, hend⟩
  · rcases hpath with ⟨hnothing, -⟩ | ⟨p, q, ⟨mem, rfl⟩, hfollows, -⟩
    · exact hnothing
    · rw [executes_noImage hexecutes hname hclass hlen hnone] at hfollows
      have hnever : AtMost (fun _ => true) (return () : Server Unit) 0 := .pure ()
      obtain ⟨m, -, hcount⟩ := hfollows.atMost hnever
      rw [List.countP_true] at hcount
      exact List.length_eq_zero_iff.mp (by omega)

/-- For the user who is let in, his own request is what is handled: three commands, to the end. -/
theorem understood_one :
    (Pool.acts loginJob (poolEvents visitServed.1)).length = 3 ∧
    loginJob ∈ Pool.finished (poolEvents visitServed.1) ∧
    DoneBy (fun mem => validateRequestHandler zAresModelModule mem 1 usersRequest) loginJob
      visitServed.1 := by
  have himage : usersRequest.IsImage .big loginJob.packet.body := ⟨1024, by decide, rfl⟩
  obtain ⟨hdone, -⟩ := understood (j := loginJob) (visitServed_run 2) .validateRequest rfl (by decide) rfl
    (by decide)
  exact ⟨by decide, by decide, hdone usersRequest _ himage List.prefix_rfl⟩

/-! ## Replies and requests -/

/-- The message is a reply to the packet. -/
structure Answers (j : Job) (r : UInt64 × Message) : Prop where
  session : r.1 = j.sessionId
  reserved : r.2.2.reserved = j.packet.reserved
  type : ∃ name, pduMessageFactory.lookup j.packet.messageType = some name ∧ r.2.1 = name.answer

/-- The object of a packet has its reserved field. -/
theorem Asks.reserved_eq {mem : Memory} {message : Message} (h : Asks bo mem j message) :
    message.2.reserved = j.packet.reserved := by
  unfold Asks parseMessagePduFromNetPacker at h
  obtain ⟨name, -, hparse⟩ := Option.bind_eq_some_iff.mp h
  dsimp only at hparse
  split at hparse
  · obtain rfl := Option.some.inj hparse
    rfl
  · cases hparse

/-- Who passes the monitor with replies answers packets. -/
theorem passes_replies {mem : Job → Memory} {cmds : List (Job × Event)} {w : World}
    (h : Run (Passes bo mem) w₀ cmds w) :
    List.Forall₂ Answers (Pool.issuers Event.replies cmds) (replies (cmds.map (·.2))) := by
  induction h with
  | nil => exact .nil
  | @snoc cmds e w₁ w₂ _ hstep ih =>
    obtain ⟨⟨message, hasks, hmay⟩, -⟩ := hstep
    rw [Pool.issuers_append, List.map_append, replies_append]
    refine List.rel_append ih ?_
    obtain ⟨j, c, a⟩ := e
    cases c with
    | sendSessionData sessionId r =>
      have hreserved := hasks.reserved_eq
      have hclass := parseMessagePduFromNetPacker_class hasks
      refine .cons ?_ .nil
      change May j.sessionId message w₁ _ at hmay
      generalize hown : j.sessionId = own at hmay
      cases hmay with
      | read hread => cases hread
      | reply hanswer hsame => exact ⟨hown.symm, hsame.trans hreserved, _, hclass, hanswer⟩
    | _ => exact .nil

/-- **Replies match.**  In every run of any number of threads, with any outcome of any statement: the
    replies that have been sent, in order, are replies to as many different packets that have been
    received — to the session that its packet came from, with the packet's reserved field, and of the
    class that answers the packet's. -/
theorem replies_match (h : Run (Step n bo zAresModelModule) (start w₀) tr s) :
    ∃ js : List Job, js.Nodup ∧ (∀ j ∈ js, j ∈ received tr) ∧ List.Forall₂ Answers js (sent tr) := by
  obtain ⟨mem, hmem⟩ := ran_in .nil h
  refine ⟨Pool.issuers Event.replies (commands tr), ?_, fun j hj => ?_, ?_⟩
  · refine List.nodup_iff_count_le_one.mpr fun j => ?_
    have hcount : (Pool.issuers Event.replies (commands tr)).count j = (repliesTo j tr).length :=
      (Pool.count_issuers Event.replies j (poolEvents tr)).trans (List.length_filterMap_eq_countP ..).symm
    rcases (repliesTo_cases h j).2 with hnone | ⟨-, message, hone⟩
    · rw [hcount, hnone]
      exact Nat.zero_le 1
    · rw [hcount, hone]
      exact le_refl 1
  · obtain ⟨e, he, rfl⟩ := List.mem_map.mp hj
    exact received_of_mem_commands .nil h e (List.mem_of_mem_filter he)
  · unfold sent
    rw [Pool.allActs_eq]
    exact passes_replies (passes_run hmem)

/-- Three replies, to three packets. -/
theorem replies_match_one :
    (sent visitServed.1).length = 3 ∧
    ∃ js : List Job, js.Nodup ∧ (∀ j ∈ js, j ∈ received visitServed.1) ∧
      List.Forall₂ Answers js (sent visitServed.1) :=
  ⟨by decide, replies_match (visitServed_run 2)⟩

end HandlerThreads

end Zattd
