/-
  The ATTACH DATA taken apart (`proto/attach_data.h`, `.cc`): is it self-delimiting?

  For a message its attach data is a string.  The classes of this file say what is in the string: a
  length, a type, a handle and a service type, and for `PduAttachData` a string of its own.  The length
  is what the virtual `ByteSize` says, less the four bytes of the field itself, so the writer gets it
  right for each subclass.

  The reader reads the length and never looks at it.  It takes 16 bytes, and for `PduAttachData` what
  the string's own length says, whatever the length in front announces: on what the writer has written
  this is the same, on other input that is accepted it need not be.
-/
import Zattd.Proto.BaseTeamTalkPdu

set_option linter.unusedVariables false

namespace Zattd

/-- `BaseAttachData`.  The type tells which of the three subclasses the object is of. -/
structure BaseAttachData where
  attachDataType : AttachDataType
  attachDataLen : UInt32
  type : UInt32
  handle : UInt32
  serviceType : UInt32
  pduData : Bytes
  deriving DecidableEq

namespace BaseAttachData

def attachDataLen_ : Slot BaseAttachData :=
  .uint32 (·.attachDataLen) fun v c => { c with attachDataLen := v }
def type_ : Slot BaseAttachData := .uint32 (·.type) fun v c => { c with type := v }
def handle_ : Slot BaseAttachData := .uint32 (·.handle) fun v c => { c with handle := v }
def serviceType_ : Slot BaseAttachData :=
  .uint32 (·.serviceType) fun v c => { c with serviceType := v }
def pduData_ : Slot BaseAttachData := .string (·.pduData) fun v c => { c with pduData := v }

/-- `CreateAttachData`, on memory that held `mem`. -/
def createAttachData (attachDataType : AttachDataType) (mem : BaseAttachData) : BaseAttachData :=
  { mem with attachDataType := attachDataType, attachDataLen := 0, pduData := [] }

/-- `AttachDataInitialize`. -/
def attachDataInitialize (attachData : BaseAttachData) (type handle serviceType : UInt32) :
    BaseAttachData :=
  { attachData with type := type, handle := handle, serviceType := serviceType }

/-- `ByteSize`.  `DbAttachData` has that of the base class. -/
def byteSize (a : BaseAttachData) : UInt32 :=
  match a.attachDataType with
  | .null => 0
  | .db => 4 + 4 + 4 + 4
  | .pdu => .ofNat (4 + 4 + 4 + 4 + Wire.string.size a.pduData)

/-- What the base class reads, in this order. -/
def baseMembers : List (Slot BaseAttachData) := [attachDataLen_, type_, handle_, serviceType_]

/-- `BaseAttachData::ParseFromByteStream`. -/
def baseParseFromByteStream (bo : ByteOrder) (a : BaseAttachData) (is : InStream) :
    Bool × BaseAttachData × InStream :=
  let r := readAll bo baseMembers a is
  (!r.2.fail, r)

/-- `PduAttachData::ParseFromByteStream`. -/
def pduParseFromByteStream (bo : ByteOrder) (a : BaseAttachData) (is : InStream) :
    Bool × BaseAttachData × InStream :=
  match a.baseParseFromByteStream bo is with
  | (true, a', is') =>
    let r := pduData_.read bo a' is'
    (!r.2.fail, r)
  | (false, r) => (false, r)

/-- `ParseFromByteStream`. -/
def parseFromByteStream (bo : ByteOrder) (a : BaseAttachData) (is : InStream) :
    Bool × BaseAttachData × InStream :=
  match a.attachDataType with
  | .null => (true, a, is)
  | .db => a.baseParseFromByteStream bo is
  | .pdu => a.pduParseFromByteStream bo is

/-- `BaseAttachData::SerializeToByteStream`; the `ByteSize` it calls is virtual. -/
def baseSerializeToByteStream (bo : ByteOrder) (a : BaseAttachData) (os : OutStream) :
    Bool × OutStream :=
  let os' := writeAll bo a [type_, handle_, serviceType_] (Wire.uint32.put bo (a.byteSize - 4) os)
  (!os'.fail, os')

/-- `PduAttachData::SerializeToByteStream`. -/
def pduSerializeToByteStream (bo : ByteOrder) (a : BaseAttachData) (os : OutStream) :
    Bool × OutStream :=
  match a.baseSerializeToByteStream bo os with
  | (true, os') =>
    let os'' := pduData_.write bo a os'
    (!os''.fail, os'')
  | (false, os') => (false, os')

/-- `SerializeToByteStream`. -/
def serializeToByteStream (bo : ByteOrder) (a : BaseAttachData) (os : OutStream) :
    Bool × OutStream :=
  match a.attachDataType with
  | .null => (true, os)
  | .db => a.baseSerializeToByteStream bo os
  | .pdu => a.pduSerializeToByteStream bo os

/-! ## The members on the wire -/

/-- What a subclass reads, in this order. -/
def members : AttachDataType → List (Slot BaseAttachData)
  | .null => []
  | .db => baseMembers
  | .pdu => baseMembers ++ [pduData_]

/-- The object with the length in place: this is what is written. -/
def sized (a : BaseAttachData) : BaseAttachData := { a with attachDataLen := a.byteSize - 4 }

/-- The bytes of an object. -/
def image (bo : ByteOrder) (a : BaseAttachData) : Bytes :=
  encAll (members a.attachDataType) bo a.sized

/-- How long they are. -/
theorem image_length (bo : ByteOrder) (a : BaseAttachData) :
    (a.image bo).length = sizeAll (members a.attachDataType) a.sized :=
  encAll_length _ _ _

/-- The bytes that each subclass takes. -/
theorem sizeAll_members (t : AttachDataType) (a : BaseAttachData) :
    sizeAll (members t) a =
      match t with
      | .null => 0
      | .db => 16
      | .pdu => 20 + a.pduData.length := by
  cases t with
  | null => rfl
  | db => rfl
  | pdu =>
    show 4 + (4 + (4 + (4 + (4 + a.pduData.length + 0)))) = 20 + a.pduData.length
    omega

theorem image_lt (bo : ByteOrder) {a : BaseAttachData}
    (hlen : a.attachDataType = .pdu → 20 + a.pduData.length < 2 ^ 32) :
    (a.image bo).length < 2 ^ 32 := by
  rw [image_length, sizeAll_members]
  cases htype : a.attachDataType with
  | null => show 0 < 2 ^ 32; omega
  | db => show 16 < 2 ^ 32; omega
  | pdu => exact hlen htype

/-- `ByteSize()` is the length of the bytes, if that fits in 32 bits. -/
theorem byteSize_eq (bo : ByteOrder) {a : BaseAttachData} (hlen : (a.image bo).length < 2 ^ 32) :
    a.byteSize.toNat = (a.image bo).length := by
  rw [image_length, sizeAll_members] at hlen ⊢
  unfold byteSize
  cases htype : a.attachDataType with
  | null => rfl
  | db => rfl
  | pdu =>
    rw [htype] at hlen
    have hlt : 20 + a.pduData.length < 2 ^ 32 := hlen
    have hsize : 4 + 4 + 4 + 4 + Wire.string.size a.pduData = 20 + a.pduData.length := by
      show 16 + (4 + a.pduData.length) = 20 + a.pduData.length
      omega
    show (UInt32.ofNat (4 + 4 + 4 + 4 + Wire.string.size a.pduData)).toNat = 20 + a.pduData.length
    rw [hsize, Wire.toNat_ofNat_lt hlt]

theorem members_forall {P : Slot BaseAttachData → Prop} (hbase : ∀ s ∈ baseMembers, P s)
    (hpdu : P pduData_) (t : AttachDataType) : ∀ s ∈ members t, P s := by
  cases t with
  | null => exact List.forall_mem_nil _
  | db => exact hbase
  | pdu => exact List.forall_mem_append.mpr ⟨hbase, List.forall_mem_singleton.mpr hpdu⟩

theorem baseMembers_exact : ∀ s ∈ baseMembers, s.wire.Exact := by
  intro s hs
  simp only [baseMembers, List.mem_cons, List.not_mem_nil, or_false] at hs
  rcases hs with rfl | rfl | rfl | rfl <;> exact Wire.exact_uint32

theorem baseMembers_fresh (a : BaseAttachData) : ∀ s ∈ baseMembers, s.Fresh a := by
  intro s hs
  simp only [baseMembers, List.mem_cons, List.not_mem_nil, or_false] at hs
  rcases hs with rfl | rfl | rfl | rfl <;> exact trivial

/-- No member disturbs another. -/
theorem members_lawful (t : AttachDataType) :
    (Layout.mk (members t) (members t) (members t)).Lawful := by
  cases t
  · exact {}
  · exact {}
  · exact {}

/-! ## The functions and the members -/

section Functions

variable {bo : ByteOrder} {a : BaseAttachData}

/-- The writer of the base class writes its members, the length first. -/
theorem baseSerialize_eq (os : OutStream) : a.baseSerializeToByteStream bo os =
    (!(writeAll bo a.sized baseMembers os).fail, writeAll bo a.sized baseMembers os) := rfl

/-- The verdict of the base class decides whether the string is written at all; it makes no
    difference, for a stream that has failed stays so. -/
theorem pduSerialize_ok {os os' : OutStream} (hwrite : writeAll bo a.sized (members .pdu) os = os')
    (hok : os'.fail = false) : a.pduSerializeToByteStream bo os = (true, os') := by
  have hlast : pduData_.write bo a (writeAll bo a.sized baseMembers os) = os' :=
    (writeAll_append bo a.sized baseMembers [pduData_] os).symm.trans hwrite
  unfold pduSerializeToByteStream
  rw [baseSerialize_eq]
  generalize writeAll bo a.sized baseMembers os = os₁ at hlast
  have hbase : os₁.fail = false := by
    cases hfail : os₁.fail with
    | false => rfl
    | true =>
      have hfull : (pduData_.write bo a os₁).fail = true :=
        Wire.string.put_full _ _ _ (Or.inl hfail)
      rw [hlast, hok] at hfull
      cases hfull
  rw [hbase]
  show (!(pduData_.write bo a os₁).fail, pduData_.write bo a os₁) = _
  rw [hlast, hok]
  rfl

/-- Without room for the members, `SerializeToByteStream` returns `false`. -/
theorem pduSerialize_full {os : OutStream}
    (hfull : (writeAll bo a.sized (members .pdu) os).fail = true) :
    (a.pduSerializeToByteStream bo os).1 = false := by
  have hlast : (pduData_.write bo a (writeAll bo a.sized baseMembers os)).fail = true :=
    (congrArg OutStream.fail (writeAll_append bo a.sized baseMembers [pduData_] os)).symm.trans hfull
  unfold pduSerializeToByteStream
  rw [baseSerialize_eq]
  generalize writeAll bo a.sized baseMembers os = os₁ at hlast
  cases hfail : os₁.fail with
  | true => rfl
  | false =>
    show (!(pduData_.write bo a os₁).fail) = false
    rw [hlast]
    rfl

/-- The writers write the members. -/
theorem serialize_fits (h : a.attachDataType ≠ .null) {os : OutStream} (hf : os.fail = false)
    (hroom : (a.image bo).length ≤ os.room) :
    a.serializeToByteStream bo os = (true, os.push (a.image bo)) := by
  have hwrite : writeAll bo a.sized (members a.attachDataType) os = os.push (a.image bo) :=
    writeAll_fits bo a.sized _ os hf (by rw [← image_length bo]; exact hroom)
  have hok : (os.push (a.image bo)).fail = false := by rw [OutStream.push_fits hf hroom]
  unfold serializeToByteStream
  cases htype : a.attachDataType with
  | null => exact absurd htype h
  | db =>
    rw [htype] at hwrite
    have hbase : writeAll bo a.sized baseMembers os = os.push (a.image bo) := hwrite
    show a.baseSerializeToByteStream bo os = _
    rw [baseSerialize_eq, hbase, hok]
    rfl
  | pdu =>
    rw [htype] at hwrite
    exact pduSerialize_ok hwrite hok

/-- So for each subclass. -/
theorem serialize_full (h : a.attachDataType ≠ .null) {os : OutStream}
    (hroom : os.room < (a.image bo).length) : (a.serializeToByteStream bo os).1 = false := by
  have hwrite : (writeAll bo a.sized (members a.attachDataType) os).fail = true :=
    writeAll_full bo a.sized _ os (Or.inr (by rw [← image_length bo]; exact hroom))
  unfold serializeToByteStream
  cases htype : a.attachDataType with
  | null => exact absurd htype h
  | db =>
    rw [htype] at hwrite
    have hbase : (writeAll bo a.sized baseMembers os).fail = true := hwrite
    show (a.baseSerializeToByteStream bo os).1 = false
    rw [baseSerialize_eq, hbase]
    rfl
  | pdu =>
    rw [htype] at hwrite
    exact pduSerialize_full hwrite

theorem read_pduData (is : InStream) : pduData_.read bo a is =
    ({ a with pduData := (Wire.string.get bo a.pduData is).1 },
      (Wire.string.get bo a.pduData is).2) := rfl

/-- A `PduAttachData` reads its string after the members of the base class. -/
theorem readAll_pdu (is : InStream) : readAll bo (members .pdu) a is =
    pduData_.read bo (readAll bo baseMembers a is).1 (readAll bo baseMembers a is).2 :=
  readAll_concat bo baseMembers pduData_ a is

/-- The readers read the members.  Here too the verdict of the base class makes no difference. -/
theorem pduParse_ok {is : InStream} (hok : (readAll bo (members .pdu) a is).2.fail = false) :
    a.pduParseFromByteStream bo is = (true, readAll bo (members .pdu) a is) := by
  have hbase : (readAll bo baseMembers a is).2.fail = false := by
    have hlast := hok
    rw [members, readAll_append] at hlast
    exact readAll_ok hlast
  unfold pduParseFromByteStream baseParseFromByteStream
  rw [readAll_pdu] at hok ⊢
  generalize readAll bo baseMembers a is = r at hok hbase
  simp only [hbase, hok, Bool.not_false]

/-- What the parser accepts has been read without a failure. -/
theorem pduParse_accepted {is : InStream} (hacc : (a.pduParseFromByteStream bo is).1 = true) :
    (readAll bo (members .pdu) a is).2.fail = false := by
  unfold pduParseFromByteStream baseParseFromByteStream at hacc
  rw [readAll_pdu]
  generalize readAll bo baseMembers a is = r at hacc
  cases hfail : r.2.fail with
  | true => simp [hfail] at hacc
  | false => simpa [hfail] using hacc

/-- What can be read without a failure is accepted. -/
theorem parse_ok (h : a.attachDataType ≠ .null) {is : InStream}
    (hok : (readAll bo (members a.attachDataType) a is).2.fail = false) :
    a.parseFromByteStream bo is = (true, readAll bo (members a.attachDataType) a is) := by
  unfold parseFromByteStream
  cases htype : a.attachDataType with
  | null => exact absurd htype h
  | db =>
    rw [htype] at hok
    have hbase : (readAll bo baseMembers a is).2.fail = false := hok
    show (!(readAll bo baseMembers a is).2.fail, readAll bo baseMembers a is) = _
    rw [hbase]
    rfl
  | pdu =>
    rw [htype] at hok
    exact pduParse_ok hok

/-- And what is accepted could be. -/
theorem parse_accepted (h : a.attachDataType ≠ .null) {is : InStream}
    (hacc : (a.parseFromByteStream bo is).1 = true) :
    (readAll bo (members a.attachDataType) a is).2.fail = false := by
  unfold parseFromByteStream at hacc
  cases htype : a.attachDataType with
  | null => exact absurd htype h
  | db =>
    simp only [htype] at hacc
    exact (Bool.not_eq_true' _).mp hacc
  | pdu =>
    simp only [htype] at hacc
    exact pduParse_accepted hacc

end Functions

/-! ## Is it self-delimiting? -/

/-- What the wire shows of an object of the class. -/
structure Restores (a a' : BaseAttachData) : Prop where
  type : a'.type = a.type
  handle : a'.handle = a.handle
  serviceType : a'.serviceType = a.serviceType
  pduData : a.attachDataType = .pdu → a'.pduData = a.pduData

/-- `ByteSize()` bytes are written, always the same, into any stream that has room for them, and
    into no smaller one; the first four say how many follow; and any object of the class reads them
    back, and leaves what comes after them. -/
def WritesDelimited (bo : ByteOrder) (a : BaseAttachData) : Prop :=
  ∃ data : Bytes,
    (∀ os : OutStream, os.fail = false → a.byteSize.toNat ≤ os.room →
      a.serializeToByteStream bo os = (true, ⟨os.room - data.length, os.out ++ data, false⟩)) ∧
    (∀ os : OutStream, os.room < a.byteSize.toNat → (a.serializeToByteStream bo os).1 = false) ∧
    data.length = a.byteSize.toNat ∧
    (bo.get32 (data.take 4)).toNat = (data.drop 4).length ∧
    ∀ (obj : BaseAttachData) (rest : Bytes), obj.attachDataType = a.attachDataType →
      ∃ obj', obj.parseFromByteStream bo (.ofBytes (data ++ rest)) = (true, obj', .ofBytes rest) ∧
        a.Restores obj'

/-- As many bytes are read as the length field says, and the field. -/
def ReadsDelimited (bo : ByteOrder) (obj : BaseAttachData) (data : Bytes) : Prop :=
  ∃ read rest, data = read ++ rest ∧
    (obj.parseFromByteStream bo (.ofBytes data)).2.2 = .ofBytes rest ∧
    read.length = 4 + (obj.parseFromByteStream bo (.ofBytes data)).2.1.attachDataLen.toNat

/-- The length field in front counts the three integers, and for a `PduAttachData` the length of the
    string and what that counts. -/
def LengthRight (bo : ByteOrder) (t : AttachDataType) (data : Bytes) : Prop :=
  (bo.get32 (data.take 4)).toNat =
    12 + if t = .pdu then 4 + (bo.get32 ((data.drop 16).take 4)).toNat else 0

/-- The length comes first. -/
theorem encAll_members (bo : ByteOrder) {t : AttachDataType} (h : t ≠ .null) (a : BaseAttachData) :
    ∃ after, encAll (members t) bo a = bo.put32 a.attachDataLen ++ after := by
  cases t with
  | null => exact absurd rfl h
  | db => exact ⟨_, rfl⟩
  | pdu => exact ⟨_, rfl⟩

/-- The length field of what is written. -/
theorem get32_image (bo : ByteOrder) {a : BaseAttachData} (h : a.attachDataType ≠ .null) :
    bo.get32 ((a.image bo).take 4) = a.byteSize - 4 := by
  obtain ⟨after, himage⟩ := encAll_members bo h a.sized
  rw [image, himage, List.take_left' (bo.put32_length _), bo.get32_put32]
  rfl

/-- The writer keeps to its half of the format, for each subclass. -/
theorem writesDelimited (bo : ByteOrder) {a : BaseAttachData} (h : a.attachDataType ≠ .null)
    (hlen : (a.image bo).length < 2 ^ 32) : WritesDelimited bo a := by
  have hsize := byteSize_eq bo hlen
  have hfour : 4 ≤ (a.image bo).length := by
    rw [image_length, sizeAll_members]
    cases htype : a.attachDataType with
    | null => exact absurd htype h
    | db => show 4 ≤ 16; omega
    | pdu => show 4 ≤ 20 + a.sized.pduData.length; omega
  refine ⟨a.image bo, ?_, ?_, hsize.symm, ?_, ?_⟩
  · intro os hf hroom
    rw [hsize] at hroom
    rw [serialize_fits h hf hroom, OutStream.push_fits hf hroom]
  · intro os hroom
    rw [hsize] at hroom
    exact serialize_full h hroom
  · rw [get32_image bo h, List.length_drop, ← hsize]
    rw [← hsize] at hfour
    exact UInt32.toNat_sub_of_le _ _ (UInt32.le_iff_toNat_le.mpr hfour)
  · intro obj rest htype
    have hread := readAll_enc bo a.sized (members a.attachDataType) obj rest
      (by rw [← image_length bo]; exact hlen)
    have hok : (readAll bo (members obj.attachDataType) obj (.ofBytes (a.image bo ++ rest))).2.fail =
        false := by
      rw [htype]
      exact congrArg (fun r => InStream.fail (Prod.snd r)) hread
    have hparse := parse_ok (by rw [htype]; exact h) hok
    rw [htype] at hparse
    refine ⟨_, hparse.trans (congrArg _ hread), ?_⟩
    cases htype : a.attachDataType with
    | null => exact absurd htype h
    | db => exact ⟨rfl, rfl, rfl, fun hpdu => absurd (htype.symm.trans hpdu) nofun⟩
    | pdu => exact ⟨rfl, rfl, rfl, fun _ => rfl⟩

/-- Accepted input starts with the encoding of what has been read. -/
theorem accepted_found {bo : ByteOrder} {obj : BaseAttachData} {data : Bytes}
    (h : obj.attachDataType ≠ .null)
    (hacc : (obj.parseFromByteStream bo (.ofBytes data)).1 = true) :
    ∃ obj' rest, obj.parseFromByteStream bo (.ofBytes data) = (true, obj', .ofBytes rest) ∧
      data = encAll (members obj.attachDataType) bo obj' ++ rest ∧
      (obj.attachDataType = .pdu → obj'.pduData.length < 2 ^ 32) := by
  have hok := parse_accepted h hacc
  obtain ⟨rest, hdata, hrest⟩ := readAll_found (members_lawful _).indep
    (members_forall baseMembers_exact Wire.exact_string _)
    (members_forall (baseMembers_fresh obj) trivial _) hok
  refine ⟨_, rest, (parse_ok h hok).trans ?_, congrArg InStream.data hdata, ?_⟩
  · rw [← hrest]
  · intro hpdu
    rw [hpdu, readAll_pdu] at hok ⊢
    generalize readAll bo baseMembers obj (.ofBytes data) = r at hok ⊢
    rw [read_pduData] at hok ⊢
    exact Wire.length_string_lt hok

/-- In front of the string there are 16 bytes. -/
theorem get32_pdu (bo : ByteOrder) (a : BaseAttachData) (rest : Bytes) :
    bo.get32 (((encAll (members .pdu) bo a ++ rest).drop 16).take 4) =
      UInt32.ofNat a.pduData.length := by
  have hbase : (encAll baseMembers bo a).length = 16 := encAll_length _ _ _
  have hsplit : encAll (members .pdu) bo a ++ rest =
      encAll baseMembers bo a ++ (bo.put32 (UInt32.ofNat a.pduData.length) ++
        (a.pduData ++ rest)) := by
    rw [members, encAll, List.flatMap_append, List.append_assoc]
    show encAll baseMembers bo a ++ (((bo.put32 (UInt32.ofNat a.pduData.length) ++ a.pduData) ++ [])
      ++ rest) = _
    rw [List.append_nil, List.append_assoc]
  rw [hsplit, List.drop_left' hbase, List.take_left' (bo.put32_length _), bo.get32_put32]

/-- **What is consumed** is as long as the length field says if and only if the field is right. -/
theorem readsDelimited_iff {bo : ByteOrder} {obj : BaseAttachData} {data : Bytes}
    (h : obj.attachDataType ≠ .null)
    (hacc : (obj.parseFromByteStream bo (.ofBytes data)).1 = true) :
    ReadsDelimited bo obj data ↔ LengthRight bo obj.attachDataType data := by
  obtain ⟨obj', rest, hparse, hdata, hpdu⟩ := accepted_found h hacc
  have hfield : bo.get32 (data.take 4) = obj'.attachDataLen := by
    obtain ⟨after, henc⟩ := encAll_members bo h obj'
    rw [hdata, henc, List.append_assoc, List.take_left' (bo.put32_length _), bo.get32_put32]
  have hsize := sizeAll_members obj.attachDataType obj'
  rw [← encAll_length _ bo] at hsize
  have hconsumed : ReadsDelimited bo obj data ↔
      (encAll (members obj.attachDataType) bo obj').length = 4 + obj'.attachDataLen.toNat := by
    unfold ReadsDelimited
    rw [hparse]
    constructor
    · rintro ⟨read, rest', hdata', hrest, hlength⟩
      obtain rfl : rest = rest' := congrArg InStream.data hrest
      rw [hdata] at hdata'
      rw [List.append_cancel_right hdata']
      exact hlength
    · intro hlength
      exact ⟨_, rest, hdata, rfl, hlength⟩
  rw [hconsumed, LengthRight, hfield, hsize]
  cases htype : obj.attachDataType with
  | null => exact absurd htype h
  | db =>
    rw [if_neg nofun]
    show 16 = 4 + obj'.attachDataLen.toNat ↔ obj'.attachDataLen.toNat = 12 + 0
    omega
  | pdu =>
    rw [htype] at hdata
    rw [if_pos rfl, hdata, get32_pdu, Wire.toNat_ofNat_lt (hpdu htype)]
    show 20 + obj'.pduData.length = 4 + obj'.attachDataLen.toNat ↔
      obj'.attachDataLen.toNat = 12 + (4 + obj'.pduData.length)
    omega

/-- **Self-delimiting, if the length is right.**  What is written is delimited by its length field.
    What is read is if and only if the field is 12, and for a `PduAttachData` 16 and the length of its
    string: the reader does not look at it. -/
theorem selfDelimiting_iff {bo : ByteOrder} {a obj : BaseAttachData} {data : Bytes}
    (ha : a.attachDataType ≠ .null)
    (hlen : a.attachDataType = .pdu → 20 + a.pduData.length < 2 ^ 32)
    (hobj : obj.attachDataType ≠ .null)
    (hacc : (obj.parseFromByteStream bo (.ofBytes data)).1 = true) :
    WritesDelimited bo a ∧ ReadsDelimited bo obj data ↔ LengthRight bo obj.attachDataType data := by
  rw [readsDelimited_iff hobj hacc]
  exact and_iff_right (writesDelimited bo ha (image_lt bo hlen))

/-! ## Sixteen bytes -/

/-- New attach data, of type 1 with handle 2 and no service. -/
def handleData (t : AttachDataType) : BaseAttachData :=
  (createAttachData t ⟨t, 0, 0, 0, 0, []⟩).attachDataInitialize 1 2 0

/-- Sixteen bytes that announce twelve. -/
theorem selfDelimiting_iff_twelve : WritesDelimited .big (handleData .pdu) ∧
    ReadsDelimited .big (handleData .db) ([0, 0, 0, 12] ++ List.replicate 12 0) :=
  (selfDelimiting_iff (by decide) (by decide) (by decide) (by decide)).mpr
    (by unfold LengthRight; decide)

/-- Sixteen bytes that announce nothing are accepted all the same, and consumed. -/
theorem not_forall_selfDelimiting :
    ¬∀ (bo : ByteOrder) (a obj : BaseAttachData) (data : Bytes), a.attachDataType ≠ .null →
      (a.attachDataType = .pdu → 20 + a.pduData.length < 2 ^ 32) → obj.attachDataType ≠ .null →
      (obj.parseFromByteStream bo (.ofBytes data)).1 = true →
      WritesDelimited bo a ∧ ReadsDelimited bo obj data := by
  intro h
  have hacc : ((handleData .db).parseFromByteStream .big (.ofBytes (List.replicate 16 0))).1 =
      true := by decide
  obtain ⟨-, hreads⟩ := h .big (handleData .db) (handleData .db) (List.replicate 16 0) (by decide)
    (by decide) (by decide) hacc
  rw [readsDelimited_iff (by decide) hacc, LengthRight] at hreads
  exact absurd hreads (by decide)

end BaseAttachData

end Zattd
