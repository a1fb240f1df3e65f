/-
  A change of membership, from the client's object to the managers.

  `GroupChangeMemberRequest::ParseFromByteStream` reads `req_user_id_` TWICE and `change_type_` never.
  It reads the right number of bytes, so it reports success and everything after it is in its place;
  the change type is whatever the memory of the fresh object held, and the handler branches on it.
-/
import Zattd.Handler.GroupHandlers

set_option linter.unusedVariables false

namespace Zattd

namespace GroupChangeMemberRequest

/-- `m` as the reader leaves it in an object whose change type was `changeType`. -/
def withChangeType (changeType : UInt32) (m : GroupChangeMemberRequest) : GroupChangeMemberRequest :=
  { m with changeType := changeType }

/-- The reader on an encoding: every member is restored but the change type, which is not touched. -/
theorem readAll_encode (bo : ByteOrder) (m x : GroupChangeMemberRequest) (rest : Bytes)
    (hx : x.userList = []) (h : sizeAll layout.serialize m < 2 ^ 32) :
    readAll bo layout.parse x (.ofBytes (encAll layout.serialize bo m ++ rest)) =
      (m.withChangeType x.changeType, .ofBytes rest) := by
  have hsize : sizeAll [reqUserId_, groupId_, userList_] m < 2 ^ 32 := by
    rw [show layout.serialize = changeType_ :: [reqUserId_, groupId_, userList_] from rfl,
      sizeAll_cons] at h
    omega
  -- the four bytes of the change type are read as an encoding of a requester
  have henc : encAll layout.serialize bo m ++ rest =
      reqUserId_.enc bo { m with reqUserId := m.changeType } ++
        (encAll [reqUserId_, groupId_, userList_] bo m ++ rest) := by
    rw [← List.append_assoc]; rfl
  have hread := reqUserId_.read_enc bo { m with reqUserId := m.changeType } x
    (encAll [reqUserId_, groupId_, userList_] bo m ++ rest) (show (4 : Nat) < 2 ^ 32 by decide)
  have hrebuild : rebuildAll m [reqUserId_, groupId_, userList_]
      (reqUserId_.rebuild { m with reqUserId := m.changeType } x) =
        { m with changeType := x.changeType, userList := x.userList ++ m.userList.map fun v => v } := rfl
  rw [henc, show layout.parse = reqUserId_ :: [reqUserId_, groupId_, userList_] from rfl, readAll, hread,
    readAll_enc bo m _ _ rest hsize, hrebuild, hx, List.map_id', List.nil_append]
  rfl

/-- What a fresh object is after parsing an encoding of `m`. -/
theorem parseFromArray_encode (bo : ByteOrder) (m mem : Pdu GroupChangeMemberRequest)
    (hlen : (layout.encode bo m).length < 2 ^ 32) :
    Pdu.parseFromArray bo (layout.encode bo m) (Pdu.new mem) =
      (true, { (Pdu.new mem) with
        attachData := m.attachData, body := m.body.withChangeType mem.body.changeType }) := by
  have hatt : Pdu.hasAttachData GroupChangeMemberRequest = true := rfl
  rw [Layout.encode_length, hatt, if_pos rfl] at hlen
  have hbody : PduClass.parseFromByteStream bo (Pdu.new mem).body (.ofBytes (layout.encode bo m)) =
      (true, m.body.withChangeType mem.body.changeType,
        .ofBytes (Wire.string.enc bo m.attachData)) := by
    rw [implements.parse_eq, Layout.encode, hatt, if_pos rfl,
      readAll_encode bo m.body (Pdu.new mem).body _ rfl (by omega)]
    rfl
  have hget := Wire.string.get_enc bo (Pdu.new mem).attachData m.attachData [] (by omega)
  rw [List.append_nil] at hget
  rw [Pdu.parseFromArray, hbody]
  simp only [hatt, Bool.and_self, if_true, hget]
  rfl

end GroupChangeMemberRequest

open GroupChangeMemberRequest

/-- What the client asks the managers for: with the group found, a join if the change type is 0, and
    a departure in the name of the requester otherwise. -/
def requestedChange (model : ModelModule) (mem : Memory) (m : GroupChangeMemberRequest) :
    Server Unit := do
  let found ← model.groupManager.getGroupInfo m.groupId mem.newGroupInfo
  match found with
  | some group =>
    if m.changeType = 0 then
      let _ ← model.groupManager.joinGroup m.userList m.groupId group
    else
      let _ ← model.groupManager.quitGroup m.reqUserId m.userList m.groupId group
  | none => pure ()

/-- The handler makes the change its object asks for. -/
theorem changeMember_eq (model : ModelModule) (mem : Memory) (m : GroupChangeMemberRequest) :
    changeMember model mem m = requestedChange model mem m := by
  unfold changeMember requestedChange
  by_cases h : m.changeType = 0
  · refine (if_pos h).trans (congrArg _ (funext fun found => ?_))
    cases found with
    | none => rfl
    | some group => exact (if_pos h).symm
  · refine (if_neg h).trans (congrArg _ (funext fun found => ?_))
    cases found with
    | none => rfl
    | some group => exact (if_neg h).symm

/-- `Executes model mem sessionId obj m`: on `obj`, the handler makes the change that `m` asks for
    and then replies. -/
def Executes (model : ModelModule) (mem : Memory) (sessionId : UInt64)
    (obj : Pdu GroupChangeMemberRequest) (m : GroupChangeMemberRequest) : Prop :=
  ∃ reply : Pdu GroupChangeMemberResponse,
    groupChangeMemberRequestHandler model mem sessionId obj = do
      requestedChange model mem m
      sendSessionData sessionId .groupChangeMemberResponse reply

/-- On any object, the handler makes the change of that object. -/
theorem executes_body (model : ModelModule) (mem : Memory) (sessionId : UInt64)
    (obj : Pdu GroupChangeMemberRequest) : Executes model mem sessionId obj obj.body := by
  unfold Executes groupChangeMemberRequestHandler
  rw [changeMember_eq]
  exact ⟨_, rfl⟩

/-- Written into a buffer of `room` bytes and parsed by an object made in `stale`, the request `m` is
    there again, members and attach data, and the handler makes the change that `m` asks for. -/
def ExecutedAsEncoded (bo : ByteOrder) (room : UInt32) (m stale : Pdu GroupChangeMemberRequest) :
    Prop :=
  ∃ data obj, m.serializeToArray bo room.toNat = (true, data) ∧
    Pdu.parseFromArray bo data (Pdu.new stale) = (true, obj) ∧
    obj.body = m.body ∧ obj.attachData = m.attachData ∧
    ∀ model mem sessionId, Executes model mem sessionId obj m.body

/-- Whatever comes out of the reader has the change type of the memory it was made in. -/
theorem ExecutedAsEncoded.changeType_eq {bo : ByteOrder} {room : UInt32}
    {m stale : Pdu GroupChangeMemberRequest} (hroom : (layout.encode bo m).length ≤ room.toNat)
    (h : ExecutedAsEncoded bo room m stale) : stale.body.changeType = m.body.changeType := by
  obtain ⟨data, obj, hdata, hobj, hbody, -, -⟩ := h
  have hfits := Layout.serializeToArray_fits implements bo m hroom
  rw [hfits] at hdata
  obtain ⟨-, rfl⟩ := Prod.mk.inj hdata
  rw [parseFromArray_encode bo m stale (Nat.lt_of_le_of_lt hroom room.toNat_lt)] at hobj
  obtain ⟨-, rfl⟩ := Prod.mk.inj hobj
  have hchange := congrArg GroupChangeMemberRequest.changeType hbody
  exact hchange

/-- **The change type is decided by stale memory.**  A request that fits its buffer is executed as
    the client encoded it exactly when the memory of the server's object happens to hold the
    request's change type. -/
theorem executedAsEncoded_iff (bo : ByteOrder) (room : UInt32) (m stale : Pdu GroupChangeMemberRequest)
    (hroom : (layout.encode bo m).length ≤ room.toNat) :
    ExecutedAsEncoded bo room m stale ↔ stale.body.changeType = m.body.changeType := by
  refine ⟨fun h => h.changeType_eq hroom, fun hstale => ?_⟩
  have hparse := parseFromArray_encode bo m stale (Nat.lt_of_le_of_lt hroom room.toNat_lt)
  have hbody : m.body.withChangeType stale.body.changeType = m.body := by rw [hstale]; rfl
  rw [hbody] at hparse
  exact ⟨_, _, Layout.serializeToArray_fits implements bo m hroom, hparse, rfl, rfl,
    fun model mem sessionId => executes_body model mem sessionId _⟩

/-- User 1, the creator of group 5, wants user 2 out of it. -/
def quitRequest : Pdu GroupChangeMemberRequest where
  attachData := []
  reserved := 0
  body := { changeType := 1, reqUserId := 1, groupId := 5, userList := [2] }

/-- Memory that holds zeros. -/
def zeroRequest : Pdu GroupChangeMemberRequest where
  attachData := []
  reserved := 0
  body := { changeType := 0, reqUserId := 0, groupId := 0, userList := [] }

/-- Memory that a removal of somebody else has left. -/
def usedRequest : Pdu GroupChangeMemberRequest where
  attachData := [3]
  reserved := 4
  body := { changeType := 1, reqUserId := 8, groupId := 9, userList := [3, 4] }

/-- There the request is executed as it is encoded, and in zeroed memory it is not. -/
theorem executedAsEncoded_quitRequest :
    ExecutedAsEncoded .big quitRequest.byteSize quitRequest usedRequest ∧
      ¬ExecutedAsEncoded .big quitRequest.byteSize quitRequest zeroRequest := by
  have hroom : (layout.encode .big quitRequest).length ≤ quitRequest.byteSize.toNat := by decide
  refine ⟨(executedAsEncoded_iff .big quitRequest.byteSize quitRequest usedRequest hroom).mpr rfl, ?_⟩
  rw [executedAsEncoded_iff .big quitRequest.byteSize quitRequest zeroRequest hroom]
  decide

theorem not_forall_executedAsEncoded :
    ¬∀ (bo : ByteOrder) (room : UInt32) (m stale : Pdu GroupChangeMemberRequest),
      (layout.encode bo m).length ≤ room.toNat → ExecutedAsEncoded bo room m stale := by
  intro h
  have hroom : (layout.encode .big quitRequest).length ≤ quitRequest.byteSize.toNat := by decide
  have hzero := (h .big quitRequest.byteSize quitRequest zeroRequest hroom).changeType_eq hroom
  exact absurd hzero (by decide)

/-- In zeroed memory the request to remove a member parses as a request to add him. -/
example : (Pdu.parseFromArray .big (layout.encode .big quitRequest) (Pdu.new zeroRequest)).2.body =
    { changeType := 0, reqUserId := 1, groupId := 5, userList := [2] } := rfl

end Zattd
