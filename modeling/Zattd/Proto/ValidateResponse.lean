/-
  The reply to a login (`proto/validate_response.h`, `.cc`), and why no client can read it.

  The reply has an OPTIONAL block, the record of the user; the header says when it is there:
  `// 0 -- success, non-0 -- fail reason` and `// if result != 0, no this item`.  The size function
  looks at the pointer, the writer at `result_ == 0` — and the reader at `result_`, that is at
  `result_ != 0`.  So the reader is wrong on every value of `result`: on a success it skips the block
  that is there (and takes the block for the attach data), on a failure it reads one that is not
  there (and takes the attach data for the block).
-/
import Zattd.Proto.BaseData
import Zattd.Proto.BaseTeamTalkPdu
import Zattd.Proto.MessageTypes

set_option linter.unusedVariables false

namespace Zattd

/-! ### `ValidateResponse` (`validate_response`) -/

structure ValidateResponse where
  userName : Bytes
  result : UInt32
  user : Option UserInfo
  deriving Inhabited

namespace ValidateResponse

/-- The functions of this file for a `UserInfo`: neither `name` nor `user_updated` is on the wire. -/
def userInfo : Layout UserInfo where
  byteSize :=
    [UserInfo.userId_, UserInfo.nickName_, UserInfo.avatarUrl_, UserInfo.title_,
     UserInfo.position_, UserInfo.roleStatus_, UserInfo.sex_, UserInfo.departId_,
     UserInfo.jobNum_, UserInfo.telphone_, UserInfo.email_]
  parse :=
    [UserInfo.userId_, UserInfo.nickName_, UserInfo.avatarUrl_, UserInfo.title_,
     UserInfo.position_, UserInfo.roleStatus_, UserInfo.sex_, UserInfo.departId_,
     UserInfo.jobNum_, UserInfo.telphone_, UserInfo.email_]
  serialize :=
    [UserInfo.userId_, UserInfo.nickName_, UserInfo.avatarUrl_, UserInfo.title_,
     UserInfo.position_, UserInfo.roleStatus_, UserInfo.sex_, UserInfo.departId_,
     UserInfo.jobNum_, UserInfo.telphone_, UserInfo.email_]

theorem userInfo_lawful : userInfo.Lawful := {}

/-- `*mutable_user()`: the record, or a new one. -/
def mutableUser (m : ValidateResponse) : UserInfo := m.user.getD .new

def byteSize (m : ValidateResponse) : Nat :=
  Wire.string.size m.userName + Wire.uint32.size m.result +
    match m.user with
    | some user => sizeAll userInfo.byteSize user
    | none => 0

def parseFromByteStream (bo : ByteOrder) (m : ValidateResponse) (is : InStream) :
    Bool × ValidateResponse × InStream :=
  let r₁ := Wire.string.get bo m.userName is
  let r₂ := Wire.uint32.get bo m.result r₁.2
  let m₂ := { m with userName := r₁.1, result := r₂.1 }
  if r₂.1 ≠ 0 then
    let r₃ := readAll bo userInfo.parse m₂.mutableUser r₂.2
    (!r₃.2.fail, { m₂ with user := some r₃.1 }, r₃.2)
  else
    (!r₂.2.fail, m₂, r₂.2)

/-- With `result_ == 0` and no record the source dereferences NULL.  There is no faithful value for
    that; the stream is marked failed, and nothing below is about it. -/
def serializeToByteStream (bo : ByteOrder) (m : ValidateResponse) (os : OutStream) :
    Bool × OutStream :=
  let os₁ := Wire.string.put bo m.userName os
  let os₂ := Wire.uint32.put bo m.result os₁
  let os₃ :=
    if m.result = 0 then
      match m.user with
      | some user => writeAll bo user userInfo.serialize os₂
      | none => { os₂ with fail := true }
    else os₂
  (!os₃.fail, os₃)

instance : PduClass ValidateResponse where
  messageType := messageValidateResponse
  attachDataType := .db
  construct mem := { mem with userName := [], user := none }
  byteSize := byteSize
  parseFromByteStream := parseFromByteStream
  serializeToByteStream := serializeToByteStream

/-! ## The writer's side -/

/-- The rule of the header: the record is there exactly on success. -/
def WellFormed (m : ValidateResponse) : Prop := m.user.isSome = true ↔ m.result = 0

instance (m : ValidateResponse) : Decidable m.WellFormed :=
  inferInstanceAs (Decidable (_ ↔ _))

/-- The block of a reply on the wire: empty when there is none. -/
def encodeUser (bo : ByteOrder) (user : Option UserInfo) : Bytes :=
  match user with
  | some user => encAll userInfo.serialize bo user
  | none => []

/-- What a well-formed reply looks like on the wire. -/
def encode (bo : ByteOrder) (m : Pdu ValidateResponse) : Bytes :=
  Wire.string.enc bo m.body.userName ++ (Wire.uint32.enc bo m.body.result ++
    (encodeUser bo m.body.user ++ (Wire.string.enc bo m.attachData ++ [])))

theorem encode_length (bo : ByteOrder) (m : Pdu ValidateResponse) :
    (encode bo m).length = Wire.string.size m.attachData + m.body.byteSize := by
  have huser : (encodeUser bo m.body.user).length =
      match m.body.user with
      | some user => sizeAll userInfo.byteSize user
      | none => 0 := by
    cases m.body.user with
    | none => rfl
    | some user => exact encAll_length _ bo user
  simp only [encode, List.length_append, Wire.enc_length, huser, byteSize, List.length_nil]
  omega

/-- Size function and writer agree with the rule: whatever the result, a buffer of `ByteSize()`
    bytes is filled exactly. -/
theorem serializeToArray_fills (bo : ByteOrder) (m : Pdu ValidateResponse) (h : m.body.WellFormed)
    (hlen : (encode bo m).length < 2 ^ 32) :
    m.serializeToArray bo m.byteSize.toNat = (true, encode bo m) := by
  have hsize : m.byteSize.toNat = (encode bo m).length := by
    rw [Pdu.byteSize, ← Wire.toNat_ofNat_lt hlen, encode_length]
    rfl
  have hbody : serializeToByteStream bo m.body (.ofRoom (encode bo m).length) =
      (true, ⟨(Wire.string.enc bo m.attachData ++ []).length,
        [] ++ Wire.string.enc bo m.body.userName ++ Wire.uint32.enc bo m.body.result ++
          encodeUser bo m.body.user, false⟩) := by
    unfold serializeToByteStream encode OutStream.ofRoom
    simp only [Wire.put_enc]
    cases huser : m.body.user with
    | none =>
      have hne : m.body.result ≠ 0 := fun h0 => by simpa [huser] using h.mpr h0
      rw [if_neg hne]
      simp [encodeUser]
    | some user =>
      have h0 : m.body.result = 0 := h.mp (by rw [huser]; rfl)
      rw [if_pos h0]
      exact congrArg (fun os : OutStream => (!os.fail, os))
        ((Wire.record userInfo userInfo_lawful).put_enc bo user _ _)
  rw [Pdu.serializeToArray, hsize,
    show PduClass.serializeToByteStream bo m.body = serializeToByteStream bo m.body from rfl, hbody]
  simp only [Bool.true_and, show Pdu.hasAttachData ValidateResponse = true from rfl, if_true,
    Wire.put_enc]
  simp [encode]

/-! ## The reader's side -/

/-- After the reader has run on a fresh object, the record is there exactly on FAILURE. -/
theorem parseFromByteStream_user (bo : ByteOrder) (m : ValidateResponse) (is : InStream)
    (hfresh : m.user = none) :
    (parseFromByteStream bo m is).2.1.user.isSome = true ↔
      (parseFromByteStream bo m is).2.1.result ≠ 0 := by
  unfold parseFromByteStream
  dsimp only
  split
  · next hne => simp [hne]
  · next heq => simp [hfresh, heq]

/-- What is restored of `m` in `m'`: name, result, attach data, and the record if there is one. -/
def Restored (m m' : Pdu ValidateResponse) : Prop :=
  m'.body.userName = m.body.userName ∧ m'.body.result = m.body.result ∧
    m'.attachData = m.attachData ∧
    Option.Rel (fun u' u => ∀ s ∈ userInfo.serialize, s.Same u' u) m'.body.user m.body.user

/-- Written into a buffer of `ByteSize()` bytes, `m` fills it exactly, and a fresh object reads `m`
    back. -/
def RoundTrips (bo : ByteOrder) (m mem : Pdu ValidateResponse) : Prop :=
  ∃ data, m.serializeToArray bo m.byteSize.toNat = (true, data) ∧ data.length = m.byteSize.toNat ∧
    ∃ m', Pdu.parseFromArray bo data (Pdu.new mem) = (true, m') ∧ Restored m m'

/-- Whatever bytes it is given, a fresh object never ends up holding a well-formed reply. -/
theorem parseFromArray_not_restored (bo : ByteOrder) (data : Bytes) (m mem : Pdu ValidateResponse)
    (h : m.body.WellFormed) : ¬Restored m (Pdu.parseFromArray bo data (Pdu.new mem)).2 := by
  rintro ⟨-, hresult, -, huser⟩
  have hbody : (Pdu.parseFromArray bo data (Pdu.new mem)).2.body =
      (parseFromByteStream bo (Pdu.new mem).body (.ofBytes data)).2.1 := by
    unfold Pdu.parseFromArray
    dsimp only
    split <;> rfl
  have hiff := parseFromByteStream_user bo (Pdu.new mem).body (.ofBytes data) rfl
  rw [← hbody, hresult] at hiff
  have hsome : (Pdu.parseFromArray bo data (Pdu.new mem)).2.body.user.isSome = m.body.user.isSome := by
    generalize (Pdu.parseFromArray bo data (Pdu.new mem)).2.body.user = user' at huser
    generalize m.body.user = user at huser
    cases huser <;> rfl
  rw [hsome] at hiff
  by_cases h0 : m.body.result = 0
  · exact hiff.mp (h.mpr h0) h0
  · exact h0 (h.mp (hiff.mpr h0))

/-- **No reply survives the wire.**  Every reply that keeps the header's rule is lost: on a success
    the record is missing, on a failure one appears. -/
theorem not_roundTrips (bo : ByteOrder) (m mem : Pdu ValidateResponse) (h : m.body.WellFormed) :
    ¬RoundTrips bo m mem := by
  rintro ⟨data, -, -, m', hparse, hrestored⟩
  have hm' : m' = (Pdu.parseFromArray bo data (Pdu.new mem)).2 := by rw [hparse]
  exact parseFromArray_not_restored bo data m mem h (hm' ▸ hrestored)

/-- A successful login of user 7. -/
def successReply : Pdu ValidateResponse where
  attachData := []
  reserved := 0
  body := { userName := [97], result := 0, user := some { UserInfo.new with userId := 7 } }

theorem not_roundTrips_successReply : ¬RoundTrips .big successReply successReply :=
  not_roundTrips .big successReply successReply (by decide)

/-- The reply of a successful login is among those that are lost. -/
theorem not_forall_roundTrips :
    ¬∀ (bo : ByteOrder) (m mem : Pdu ValidateResponse), m.body.WellFormed →
      (encode bo m).length < 2 ^ 32 → RoundTrips bo m mem := by
  intro h
  obtain ⟨data, -, -, m', hparse, hrestored⟩ := h .big successReply successReply (by decide) (by decide)
  have hm' : m' = (Pdu.parseFromArray .big data (Pdu.new successReply)).2 := by rw [hparse]
  exact parseFromArray_not_restored .big data successReply successReply (by decide) (hm' ▸ hrestored)

/-- What a client makes of it: the verdict "success", no record, and of the record's bytes an attach
    data that the server never sent. -/
example : Pdu.parseFromArray .big (encode .big successReply) (Pdu.new successReply) =
    (true, ⟨⟨[0, 0, 0, 0, 0, 0, 0], 0⟩, ⟨[97], 0, none⟩⟩) := rfl

end ValidateResponse

end Zattd
