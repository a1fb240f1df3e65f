/-
  What becomes of a packet that has been admitted.

  Whether it is ACCEPTED is its own affair alone: an object is read into memory that held something
  else, and integers that are not read keep it, but no reader looks at what it reads into.  The
  verdict, and the rest of the stream, are the same for any two objects of the class, also for the
  class whose reader is out of step with its writer.

  What is RUN is known from the class (`executes`): three tables in three files come to one function.
-/
import Zattd.Correct.Dispatch

set_option linter.unusedVariables false

namespace Zattd

/-! ## Formats -/

/-- The stream that a reader leaves does not depend on what it reads into. -/
structure Wire.Steady {V : Type} (w : Wire V) : Prop where
  stream : ∀ bo old old' is, (w.get bo old is).2 = (w.get bo old' is).2

namespace Wire

theorem steady_fixed {V : Type} {n : Nat} {enc : ByteOrder → V → Bytes} {dec : ByteOrder → Bytes → V}
    {hlen : ∀ bo v, (enc bo v).length = n} {hdec : ∀ bo v, dec bo (enc bo v) = v} :
    (fixed n enc dec hlen hdec).Steady where
  stream bo old old' is := by
    rcases InStream.pull_cases n is with ⟨hpull, _⟩ | ⟨b, rest, _, _, hpull⟩
    · simp only [fixed, hpull]
    · simp only [fixed, hpull]

theorem steady_uint8 : uint8.Steady := steady_fixed

theorem steady_uint16 : uint16.Steady := steady_fixed

theorem steady_uint32 : uint32.Steady := steady_fixed

theorem steady_string : string.Steady where
  stream bo old old' is := by
    simp only [string]
    rcases InStream.pull_cases (uint32.get bo 0 is).1.toNat (uint32.get bo 0 is).2 with
      ⟨hpull, _⟩ | ⟨s, rest, _, _, hpull⟩
    · rw [hpull]
    · rw [hpull]

/-- The loop pushes back; what is there already is not looked at. -/
theorem getMany_steady {V : Type} (w : Wire V) (bo : ByteOrder) (new : V) (n : Nat) (acc acc' : List V)
    (is : InStream) : (w.getMany bo new n acc is).2 = (w.getMany bo new n acc' is).2 := by
  induction n generalizing acc acc' is with
  | zero => rfl
  | succ n ih => exact ih _ _ _

theorem steady_array {V : Type} (w : Wire V) (new : V) (hnew : w.fresh new) (hpos : ∀ v, 0 < w.size v) :
    (array w new hnew hpos).Steady where
  stream bo old old' is := w.getMany_steady bo new _ old old' _

theorem steady_uint32s : uint32s.Steady := steady_array _ _ _ _

end Wire

/-- An array of records leaves the stream as its loop does. -/
theorem Slot.steady_records {C R : Type} {l : Layout R} {hl : l.Lawful} {new : R} {get : C → List R}
    {set : List R → C → C} {h : ∀ v c, get (set v c) = v} {hnew : ∀ s ∈ l.serialize, s.Fresh new}
    {hpos : ∀ r, 0 < sizeAll l.byteSize r} :
    (Slot.records l hl new get set h hnew hpos).wire.Steady :=
  Wire.steady_array (Wire.record l hl) new hnew hpos

/-- Nor does the stream that is left after a walk. -/
theorem readAll_steady {C : Type} (bo : ByteOrder) {ss : List (Slot C)} (h : ∀ s ∈ ss, s.wire.Steady)
    (c c' : C) (is : InStream) : (readAll bo ss c is).2 = (readAll bo ss c' is).2 := by
  induction ss generalizing c c' is with
  | nil => rfl
  | cons s ss ih =>
    have hfirst : (s.read bo c is).2 = (s.read bo c' is).2 :=
      (h s List.mem_cons_self).stream bo (s.member.get c) (s.member.get c') is
    rw [readAll, readAll, hfirst]
    exact ih (fun t ht => h t (List.mem_cons_of_mem _ ht)) _ _ _

/-! ## Classes -/

namespace PduName

theorem layout_steady (n : PduName) (hn : n ≠ validateResponse) :
    ∀ s ∈ (n.layout hn).parse, s.wire.Steady := by
  cases n <;> first
    | exact absurd rfl hn
    | repeat' first
        | exact List.forall_mem_nil _
        | refine List.forall_mem_cons.mpr ⟨?_, ?_⟩
        | exact Wire.steady_uint32
        | exact Wire.steady_string
        | exact Wire.steady_uint32s
        | exact Wire.steady_uint16
        | exact Wire.steady_uint8
        | exact Slot.steady_records

/-- The verdict of the parser is that on the stream the members leave, and then on the attach data. -/
theorem parseFromArray_fst (n : PduName) (hn : n ≠ validateResponse) (bo : ByteOrder) (data : Bytes)
    (obj : Pdu n.Body) :
    (Pdu.parseFromArray bo data obj).1 =
      if (!(readAll bo (n.layout hn).parse obj.body (.ofBytes data)).2.fail &&
          Pdu.hasAttachData n.Body) = true then
        !(Wire.string.get bo obj.attachData
          (readAll bo (n.layout hn).parse obj.body (.ofBytes data)).2).2.fail
      else !(readAll bo (n.layout hn).parse obj.body (.ofBytes data)).2.fail := by
  unfold Pdu.parseFromArray
  rw [(n.layout_implements hn).parse_eq]
  dsimp only
  split <;> rfl

theorem parseFromArray_verdict (n : PduName) (hn : n ≠ validateResponse) (bo : ByteOrder) (data : Bytes)
    (obj obj' : Pdu n.Body) :
    (Pdu.parseFromArray bo data obj).1 = (Pdu.parseFromArray bo data obj').1 := by
  have hstream := readAll_steady bo (n.layout_steady hn) obj.body obj'.body (.ofBytes data)
  rw [n.parseFromArray_fst hn, n.parseFromArray_fst hn, hstream,
    Wire.steady_string.stream bo obj.attachData obj'.attachData]

end PduName

/-! ## Packets -/

/-- What is registered are requests. -/
theorem pduMessageFactory_ne : ∀ e ∈ pduMessageFactory, e.2 ≠ .validateResponse := by decide

/-- A packet that becomes an object in some memory becomes one in any. -/
theorem parseMessagePduFromNetPacker_isSome (bo : ByteOrder) (mem mem' : Memory) (packet : Packet) :
    (parseMessagePduFromNetPacker bo mem packet).isSome =
      (parseMessagePduFromNetPacker bo mem' packet).isSome := by
  unfold parseMessagePduFromNetPacker
  cases hclass : pduMessageFactory.lookup packet.messageType with
  | none => rfl
  | some n =>
    obtain ⟨before, after, hentry, -⟩ := List.lookup_eq_some_iff.mp hclass
    have hn : n ≠ .validateResponse :=
      pduMessageFactory_ne (packet.messageType, n) (by rw [hentry]; simp)
    have hverdict := n.parseFromArray_verdict hn bo packet.body (.new (mem.pdu n)) (.new (mem'.pdu n))
    show (if (Pdu.parseFromArray bo packet.body (.new (mem.pdu n))).1 = true then
        some (⟨n, _⟩ : Message) else none).isSome =
      (if (Pdu.parseFromArray bo packet.body (.new (mem'.pdu n))).1 = true then
        some (⟨n, _⟩ : Message) else none).isSome
    rw [hverdict]
    split <;> rfl

/-! ## What is run -/

/-- What an object of the class is given to, if to anything.  The class for the history of a group says
    that it is of a type that has no handler. -/
def executes : (n : PduName) → Option (Execute n.Body)
  | .validateRequest => some validateRequestHandler
  | .friendListRequest => some friendListRequestHandler
  | .removeSessionRequest => some removeSessionRequestHandler
  | .departmentRequest => some departmentRequestHandler
  | .usersInfoRequest => some usersInfoRequestHandler
  | .allUserRequest => some allUserRequestHandler
  | .msgData => some msgDataHandler
  | .unreadMsgCountRequest => some unreadMsgCountRequestHandler
  | .unreadMsgRequest => some unreadMsgRequestHandler
  | .msgReadAck => some msgReadAckHandler
  | .groupListRequest => some groupListRequestHandler
  | .groupUserListRequest => some groupUserListRequestHandler
  | .groupUnreadMsgCountRequest => some groupUnreadMsgCountRequestHandler
  | .groupUnreadMsgRequest => some groupUnreadMsgRequestHandler
  | .groupMsgReadAck => some groupMsgReadAckHandler
  | .groupCreateTmpGroupRequest => some groupCreateTmpGroupRequestHandler
  | .groupChangeMemberRequest => some groupChangeMemberRequestHandler
  | .groupDialogListRequest => some groupDialogListRequestHandler
  | .fileHasOfflineReq => some fileHasOfflineReqHandler
  | .fileAddOfflineReq => some fileAddOfflineReqHandler
  | .fileDelOfflineReq => some fileDelOfflineReqHandler
  | _ => none

/-- The dispatch finds it. -/
theorem dispatchMessageHandler_eq (model : ModelModule) (mem : Memory) (sessionId : UInt64)
    (n : PduName) (m : Pdu n.Body) :
    dispatchMessageHandler model mem sessionId ⟨n, m⟩ =
      match executes n with
      | some execute => execute model mem sessionId m
      | none => return () := by
  cases n <;> rfl

/-- The packet is one that is executed: its body is accepted by a class that has a handler. -/
def isExecuted (bo : ByteOrder) (packet : Packet) : Bool :=
  match parseMessagePduFromNetPacker bo default packet with
  | some message => (executes message.1).isSome
  | none => false

/-- What a thread does with a packet: its handler, or nothing. -/
theorem onMessageDataHandler_cases (bo : ByteOrder) (model : ModelModule) (mem : Memory)
    (sessionId : UInt64) (packet : Packet) :
    (∃ (n : PduName) (m : Pdu n.Body) (execute : Execute n.Body), isExecuted bo packet = true ∧
      parseMessagePduFromNetPacker bo mem packet = some ⟨n, m⟩ ∧ executes n = some execute ∧
      onMessageDataHandler bo model mem sessionId packet = execute model mem sessionId m) ∨
    isExecuted bo packet = false ∧ onMessageDataHandler bo model mem sessionId packet = return () := by
  have hsame := parseMessagePduFromNetPacker_isSome bo mem default packet
  unfold isExecuted onMessageDataHandler
  cases hparse : parseMessagePduFromNetPacker bo mem packet with
  | none =>
    rw [hparse] at hsame
    have hnone : parseMessagePduFromNetPacker bo default packet = none := by
      simpa using hsame.symm
    rw [hnone]
    exact Or.inr ⟨rfl, rfl⟩
  | some message =>
    rw [hparse] at hsame
    obtain ⟨message', hparse'⟩ := Option.isSome_iff_exists.mp hsame.symm
    rw [hparse']
    obtain ⟨n, m⟩ := message
    obtain ⟨n', m'⟩ := message'
    -- both are of the class that is registered
    obtain rfl : n' = n := Option.some.inj
      ((parseMessagePduFromNetPacker_class hparse').symm.trans (parseMessagePduFromNetPacker_class hparse))
    have hrun := dispatchMessageHandler_eq model mem sessionId n' m
    cases hexecutes : executes n' with
    | none =>
      rw [hexecutes] at hrun
      exact Or.inr ⟨by show (executes n').isSome = false; rw [hexecutes]; rfl, hrun⟩
    | some execute =>
      rw [hexecutes] at hrun
      exact Or.inl ⟨n', m, execute, by show (executes n').isSome = true; rw [hexecutes]; rfl, rfl,
        hexecutes, hrun⟩

end Zattd
