/-
  What a handler is given (`zaresd/message_handler/*`): the managers, memory for the objects it
  makes, the session, and the request.

  A handler runs on a worker thread, so its context is there and `SendSessionData` is reached.
  `Memory` is what the objects that it makes find in the memory they are made in; only integers keep
  any of it.
-/
import Zattd.Model.ModelModule

set_option linter.unusedVariables false

namespace Zattd

/-- The prior contents of the memory that objects are made in, for each kind of object. -/
structure Memory where
  pdu : (n : PduName) → Pdu n.Body
  groupInfo : GroupInfo
  transmitFile : TransmitFile
  groupCounterItem : GroupCounterItem
  counter : Counter
  deriving Inhabited

/-- `GroupInfo group;` -/
def Memory.newGroupInfo (mem : Memory) : GroupInfo :=
  { mem.groupInfo with groupName := [], groupAvatar := [], groupMemeberList := [] }

/-- `TransmitFile file;` -/
def Memory.newTransmitFile (mem : Memory) : TransmitFile :=
  { mem.transmitFile with taskId := [], filePath := [] }

/-- `Counter counter;` -/
def Memory.newCounter (mem : Memory) : Counter := { mem.counter with unreadCount := ∅ }

namespace Pdu

variable {C : Type}

/-- `SetReserved`. -/
def setReserved (v : UInt16) (m : Pdu C) : Pdu C := { m with reserved := v }

/-- The setters of the members. -/
def set (f : C → C) (m : Pdu C) : Pdu C := { m with body := f m.body }

/-- `*GetAttachData()`, for a class that carries attach data. -/
def attach [PduClass C] (m : Pdu C) : Bytes := m.getAttachData.getD []

@[simp] theorem setReserved_body (v : UInt16) (m : Pdu C) : (m.setReserved v).body = m.body := rfl

@[simp] theorem set_body (f : C → C) (m : Pdu C) : (m.set f).body = f m.body := rfl

@[simp] theorem setAttachData_body [PduClass C] (data : Bytes) (m : Pdu C) :
    (m.setAttachData data).body = m.body := by
  unfold setAttachData
  split <;> rfl

end Pdu

/-- `SendSessionData`. -/
def sendSessionData (sessionId : UInt64) (n : PduName) (message : Pdu n.Body) : Server Unit :=
  issue (.sendSessionData sessionId ⟨n, message⟩)

/-- A handler's `Execute`, on a request of class `C`. -/
abbrev Execute (C : Type) : Type := ModelModule → Memory → UInt64 → Pdu C → Server Unit

end Zattd
