/-
  The base class of the messages (`proto/base_teamtalk_pdu.h`, `.cc`).

  A message is the members of its class plus what every message carries: the ATTACH DATA, a string
  that follows the members on the wire if the class was constructed with an attach data type, and
  the `reserved` field of the packet header.  The class supplies its three functions
  (`PduClass`); the base class wraps them with the attach data.

  The objects are C++ objects, so a FRESH one is not a fixed value: `Pdu.new mem` is the object a
  constructor leaves on memory that held `mem`.  Strings, vectors and pointers are initialised, the
  integers keep whatever was there.
-/
import Zattd.Lib.Layout

set_option linter.unusedVariables false

namespace Zattd

/-- `BaseAttachData::AttachDataType`. -/
inductive AttachDataType
  | null
  | db
  | pdu
  deriving DecidableEq

/-- What a message class supplies: the arguments it passes to the base constructor, the effect of
    its own constructor on the memory it is given, and its three virtual functions. -/
class PduClass (C : Type) where
  messageType : UInt32
  attachDataType : AttachDataType
  construct : C → C
  byteSize : C → Nat
  parseFromByteStream : ByteOrder → C → InStream → Bool × C × InStream
  serializeToByteStream : ByteOrder → C → OutStream → Bool × OutStream

/-- A class whose functions handle its members one after the other and return `!Fail()`. -/
abbrev Layout.pduClass {C : Type} (l : Layout C) (messageType : UInt32)
    (attachDataType : AttachDataType) : PduClass C where
  messageType := messageType
  attachDataType := attachDataType
  construct := constructAll l.serialize
  byteSize := sizeAll l.byteSize
  parseFromByteStream bo c is :=
    let r := readAll bo l.parse c is
    (!r.2.fail, r)
  serializeToByteStream bo c os :=
    let os' := writeAll bo c l.serialize os
    (!os'.fail, os')

/-- The members of `BaseTeamTalkPDU` itself. -/
structure BaseTeamTalkPDU where
  attachData : Bytes
  reserved : UInt16
  deriving Inhabited

/-- An object of the message class `C`. -/
structure Pdu (C : Type) extends BaseTeamTalkPDU where
  body : C
  deriving Inhabited

namespace Pdu

variable {C : Type} [PduClass C]

/-- The constructor, run on memory that held `mem`. -/
def new (mem : Pdu C) : Pdu C where
  attachData := []
  reserved := mem.reserved
  body := PduClass.construct mem.body

/-- `message_type()`: what the constructor passed up. -/
def messageType (_ : Pdu C) : UInt32 := PduClass.messageType C

/-- `HasAttachData`. -/
def hasAttachData (C : Type) [PduClass C] : Bool :=
  PduClass.attachDataType C = .db || PduClass.attachDataType C = .pdu

/-- `SetAttachData`. -/
def setAttachData (data : Bytes) (m : Pdu C) : Pdu C :=
  if hasAttachData C then { m with attachData := data } else m

/-- `GetAttachData`: NULL for a class that carries none. -/
def getAttachData (m : Pdu C) : Option Bytes :=
  if hasAttachData C then some m.attachData else none

/-- `ByteSize`, which is 32 bits wide. -/
def byteSize (m : Pdu C) : UInt32 :=
  .ofNat ((if PduClass.attachDataType C ≠ .null then Wire.string.size m.attachData else 0) +
    PduClass.byteSize m.body)

/-- `ParseFromArray`, into the object `obj`. -/
def parseFromArray (bo : ByteOrder) (data : Bytes) (obj : Pdu C) : Bool × Pdu C :=
  match PduClass.parseFromByteStream bo obj.body (.ofBytes data) with
  | (result, body, is) =>
    if result && hasAttachData C then
      match Wire.string.get bo obj.attachData is with
      | (attach, is') => (!is'.fail, { obj with body := body, attachData := attach })
    else (result, { obj with body := body })

/-- `SerializeToArray`, into a buffer of `dataLen` bytes: the verdict and the bytes written. -/
def serializeToArray (bo : ByteOrder) (dataLen : Nat) (m : Pdu C) : Bool × Bytes :=
  match PduClass.serializeToByteStream bo m.body (.ofRoom dataLen) with
  | (result, os) =>
    if result && hasAttachData C then
      match Wire.string.put bo m.attachData os with
      | os' => (!os'.fail, os'.out)
    else (result, os.out)

/-- `data` is what `SerializeToArray` makes of the message, in a buffer that it fits. -/
def IsImage (bo : ByteOrder) (m : Pdu C) (data : Bytes) : Prop :=
  ∃ n < 2 ^ 32, m.serializeToArray bo n = (true, data)

theorem hasAttachData_iff : hasAttachData C = true ↔ PduClass.attachDataType C ≠ .null := by
  unfold hasAttachData
  cases PduClass.attachDataType C <;> simp

end Pdu

/-! ## The encoding of a class with a layout -/

namespace Layout

variable {C : Type} (l : Layout C)

/-- What a message of the class looks like on the wire: its members, then the attach data if the
    class carries any. -/
def encode [PduClass C] (bo : ByteOrder) (m : Pdu C) : Bytes :=
  encAll l.serialize bo m.body ++ if Pdu.hasAttachData C then Wire.string.enc bo m.attachData else []

/-- `a` and `b` agree on every member the class puts on the wire, and on the attach data if it
    carries any. -/
def SameOnWire [PduClass C] (a b : Pdu C) : Prop :=
  (∀ s ∈ l.serialize, s.Same a.body b.body) ∧
    (Pdu.hasAttachData C = true → a.attachData = b.attachData)

/-- `obj` after reading an encoding of `m`. -/
def restore [PduClass C] (m obj : Pdu C) : Pdu C where
  attachData := if Pdu.hasAttachData C then m.attachData else obj.attachData
  reserved := obj.reserved
  body := rebuildAll m.body l.serialize obj.body

/-- A class's functions are those of its layout. -/
structure Implements [PduClass C] : Prop where
  construct_eq : ∀ mem : C, PduClass.construct mem = constructAll l.serialize mem
  byteSize_eq : ∀ c : C, PduClass.byteSize c = sizeAll l.byteSize c
  parse_eq : ∀ (bo : ByteOrder) (c : C) (is : InStream), PduClass.parseFromByteStream bo c is =
    (!(readAll bo l.parse c is).2.fail, readAll bo l.parse c is)
  serialize_eq : ∀ (bo : ByteOrder) (c : C) (os : OutStream),
    PduClass.serializeToByteStream bo c os =
      (!(writeAll bo c l.serialize os).fail, writeAll bo c l.serialize os)

theorem pduClass_implements (messageType : UInt32) (attachDataType : AttachDataType) :
    @Implements C l (l.pduClass messageType attachDataType) :=
  @Implements.mk C l (l.pduClass messageType attachDataType)
    (fun _ => rfl) (fun _ => rfl) (fun _ _ _ => rfl) (fun _ _ _ => rfl)

section

variable [PduClass C] {l}

/-- The encoding splits into the members and the attach data. -/
theorem encode_length (bo : ByteOrder) (m : Pdu C) :
    (l.encode bo m).length = sizeAll l.serialize m.body +
      if Pdu.hasAttachData C then Wire.string.size m.attachData else 0 := by
  rw [encode, List.length_append, encAll_length]
  split
  · rw [Wire.enc_length]
  · rfl

/-- `ByteSize()` is the encoded length, if that fits in 32 bits. -/
theorem byteSize_toNat (h : l.Implements)
    (hsize : ∀ c, sizeAll l.byteSize c = sizeAll l.serialize c) (bo : ByteOrder) (m : Pdu C)
    (hlen : (l.encode bo m).length < 2 ^ 32) : m.byteSize.toNat = (l.encode bo m).length := by
  have hsum : (if PduClass.attachDataType C ≠ .null then Wire.string.size m.attachData else 0) +
      PduClass.byteSize m.body = (l.encode bo m).length := by
    rw [encode_length, h.byteSize_eq, hsize, Nat.add_comm]
    simp only [Pdu.hasAttachData_iff]
  rw [Pdu.byteSize, hsum, Wire.toNat_ofNat_lt hlen]

/-- With room enough, the writer writes exactly the encoding. -/
theorem serializeToArray_fits (h : l.Implements) (bo : ByteOrder) (m : Pdu C) {n : Nat}
    (hn : (l.encode bo m).length ≤ n) : m.serializeToArray bo n = (true, l.encode bo m) := by
  rw [encode_length] at hn
  have hbody : writeAll bo m.body l.serialize (.ofRoom n) =
      ⟨n - sizeAll l.serialize m.body, encAll l.serialize bo m.body, false⟩ := by
    have hroom : sizeAll l.serialize m.body ≤ n := by omega
    rw [writeAll_fits bo m.body _ _ rfl hroom, OutStream.push_fits rfl (by rw [encAll_length]; exact hroom),
      encAll_length]
    rfl
  rw [Pdu.serializeToArray, h.serialize_eq, hbody]
  cases hatt : Pdu.hasAttachData C with
  | false => simp [encode, hatt]
  | true =>
    simp only [hatt, if_true] at hn
    have hput := Wire.string.put_fits bo m.attachData
      ⟨n - sizeAll l.serialize m.body, encAll l.serialize bo m.body, false⟩ rfl
      (Nat.le_sub_of_add_le' hn)
    rw [OutStream.push_fits rfl (by rw [Wire.enc_length]; exact Nat.le_sub_of_add_le' hn)] at hput
    simp [encode, hatt, hput]

/-- Without room enough, the writer fails. -/
theorem serializeToArray_full (h : l.Implements) (bo : ByteOrder) (m : Pdu C) {n : Nat}
    (hn : n < (l.encode bo m).length) : (m.serializeToArray bo n).1 = false := by
  rw [encode_length] at hn
  rw [Pdu.serializeToArray, h.serialize_eq]
  by_cases hbody : n < sizeAll l.serialize m.body
  · have hfail : (writeAll bo m.body l.serialize (.ofRoom n)).fail = true :=
      writeAll_full bo m.body _ _ (Or.inr hbody)
    simp [hfail]
  · -- the members fit, so it is the attach data that does not
    have hfits := writeAll_fits bo m.body l.serialize (.ofRoom n) rfl (Nat.not_lt.mp hbody)
    rw [OutStream.push_fits rfl (by rw [encAll_length]; exact Nat.not_lt.mp hbody),
      encAll_length] at hfits
    cases hatt : Pdu.hasAttachData C with
    | false =>
      simp only [hatt, Bool.false_eq_true, if_false] at hn
      omega
    | true =>
      simp only [hatt, if_true] at hn
      have hroom : n - sizeAll l.serialize m.body < Wire.string.size m.attachData := by omega
      have hput := Wire.string.put_full bo m.attachData
        ⟨n - sizeAll l.serialize m.body, encAll l.serialize bo m.body, false⟩ (Or.inr hroom)
      rw [hfits]
      simp only [OutStream.ofRoom, Bool.not_false, Bool.true_and, if_true, List.nil_append, hput,
        Bool.not_true]

/-- The images of a message are its encoding, if that fits a buffer. -/
theorem isImage_iff (h : l.Implements) {bo : ByteOrder} {m : Pdu C} {data : Bytes} :
    m.IsImage bo data ↔ data = l.encode bo m ∧ data.length < 2 ^ 32 := by
  constructor
  · rintro ⟨n, hn, himage⟩
    have hle : (l.encode bo m).length ≤ n := by
      by_contra hlt
      have hfull := serializeToArray_full h bo m (Nat.not_le.mp hlt)
      rw [himage] at hfull
      cases hfull
    rw [serializeToArray_fits h bo m hle] at himage
    obtain rfl := (Prod.mk.inj himage).2
    exact ⟨rfl, by omega⟩
  · rintro ⟨rfl, hlen⟩
    exact ⟨_, hlen, serializeToArray_fits h bo m (Nat.le_refl _)⟩

/-- A reader that visits the members in the writer's order rebuilds them from the encoding, whatever
    comes after it. -/
theorem parseFromArray_encode_append (h : l.Implements) (hparse : l.parse = l.serialize)
    (bo : ByteOrder) (m obj : Pdu C) (rest : Bytes) (hlen : (l.encode bo m).length < 2 ^ 32) :
    Pdu.parseFromArray bo (l.encode bo m ++ rest) obj = (true, l.restore m obj) := by
  rw [encode_length] at hlen
  have hbody : PduClass.parseFromByteStream bo obj.body (.ofBytes (l.encode bo m ++ rest)) =
      (true, rebuildAll m.body l.serialize obj.body,
        .ofBytes ((if Pdu.hasAttachData C then Wire.string.enc bo m.attachData else []) ++ rest)) := by
    rw [h.parse_eq, hparse, encode, List.append_assoc,
      readAll_enc bo m.body l.serialize obj.body _ (by omega)]
    rfl
  rw [Pdu.parseFromArray, hbody, restore]
  cases hatt : Pdu.hasAttachData C with
  | false => simp
  | true =>
    simp only [hatt, if_true] at hlen
    have hget := Wire.string.get_enc bo obj.attachData m.attachData rest (by omega)
    simp only [if_true, Bool.and_self, hget]
    rfl

/-- An object is read back from its encoding. -/
theorem parseFromArray_encode (h : l.Implements) (hparse : l.parse = l.serialize) (bo : ByteOrder)
    (m obj : Pdu C) (hlen : (l.encode bo m).length < 2 ^ 32) :
    Pdu.parseFromArray bo (l.encode bo m) obj = (true, l.restore m obj) := by
  have hrest := parseFromArray_encode_append h hparse bo m obj [] hlen
  rwa [List.append_nil] at hrest

/-- **Nothing but encodings.**  What a fresh object accepts starts with the encoding of what it has
    read. -/
theorem parseFromArray_found (h : l.Implements) (hl : l.Lawful) (hx : l.Exact) {bo : ByteOrder}
    {data : Bytes} {mem m : Pdu C} (hok : Pdu.parseFromArray bo data (.new mem) = (true, m)) :
    ∃ rest, data = l.encode bo m ++ rest := by
  have hfresh : ∀ s ∈ l.serialize, s.Fresh (Pdu.new mem).body := by
    rw [Pdu.new, h.construct_eq]
    exact constructAll_fresh hl.indep mem.body
  have hexact := hx.slots
  rw [hl.parse_eq] at hexact
  have hstream := h.parse_eq bo (Pdu.new mem).body (.ofBytes data)
  rw [hl.parse_eq] at hstream
  rw [Pdu.parseFromArray, hstream] at hok
  cases hfail : (readAll bo l.serialize (Pdu.new mem).body (.ofBytes data)).2.fail with
  | true =>
    rw [hfail] at hok
    cases hok
  | false =>
    obtain ⟨rest, hdata, hrest⟩ := readAll_found hl.indep hexact hfresh hfail
    have hbytes : data = encAll l.serialize bo (readAll bo l.serialize (Pdu.new mem).body
      (.ofBytes data)).1 ++ rest := congrArg InStream.data hdata
    simp only [hfail, Bool.not_false, Bool.true_and] at hok
    cases hatt : Pdu.hasAttachData C with
    | false =>
      simp only [hatt, Bool.false_eq_true, if_false, Prod.mk.injEq, true_and] at hok
      obtain rfl := hok
      refine ⟨rest, ?_⟩
      rw [encode, hatt, if_neg Bool.false_ne_true, List.append_nil]
      exact hbytes
    | true =>
      simp only [hatt, if_true, hrest, Prod.mk.injEq] at hok
      obtain ⟨hget, rfl⟩ := hok
      have hattach : (Wire.string.get bo (Pdu.new mem).attachData (.ofBytes rest)).2.fail = false := by
        simpa using hget
      obtain ⟨rest', his, -⟩ := Wire.exact_string.found bo _ _ trivial hattach
      have hattached : rest = Wire.string.enc bo (Wire.string.get bo (Pdu.new mem).attachData
        (.ofBytes rest)).1 ++ rest' := congrArg InStream.data his
      refine ⟨rest', ?_⟩
      rw [encode, hatt, if_pos rfl, List.append_assoc, ← hattached]
      exact hbytes

/-- **Round trip.**  If the three functions are in step, a fresh object reads back what was
    written. -/
theorem sameOnWire_restore (h : l.Implements) (hl : l.Lawful) (m mem : Pdu C) :
    l.SameOnWire (l.restore m (Pdu.new mem)) m := by
  refine ⟨?_, fun hatt => ?_⟩
  · have hfresh : ∀ s ∈ l.serialize, s.Fresh (Pdu.new mem).body := by
      rw [Pdu.new, h.construct_eq]
      exact constructAll_fresh hl.indep mem.body
    exact same_rebuildAll m.body hl.indep hfresh
  · rw [restore, if_pos hatt]

end

end Layout

end Zattd
