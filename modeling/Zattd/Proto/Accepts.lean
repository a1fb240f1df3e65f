/-
  What the parsers ACCEPT, and what the sizes say, for every message class.

  * `accepts_exactly` — a fresh object accepts the arrays that start with an image of its class, and
    no others; it then is the message of that image.  Nothing in a loop looks at the failure flag, but
    the flag is sticky, so a reader that has run past the end anywhere rejects.
  * `byteSize_exact` — `ByteSize()` bytes are enough for the writer, and fewer are not.
  * `list_bounded` — a list that is read without failing takes up room in the packet.  One that is not
    is as long as the packet says it is: the loops go on when there is nothing more to read.
-/
import Zattd.Proto.Classes

set_option linter.unusedVariables false

namespace Zattd

/-- An array of records is read exactly. -/
theorem Slot.exact_records {C R : Type} {l : Layout R} {hl : l.Lawful} {new : R} {get : C → List R}
    {set : List R → C → C} {h : ∀ v c, get (set v c) = v} {hnew : ∀ s ∈ l.serialize, s.Fresh new}
    {hpos : ∀ r, 0 < sizeAll l.byteSize r} (hexact : ∀ s ∈ l.parse, s.wire.Exact) :
    (Slot.records l hl new get set h hnew hpos).wire.Exact :=
  Wire.exact_array (Wire.exact_record hl ⟨hexact⟩) new hnew hpos

/-- What a fresh object reads from an encoding has that encoding. -/
theorem Layout.encode_restore {C : Type} [PduClass C] {l : Layout C} (h : l.Implements)
    (hl : l.Lawful) (hx : l.Exact) (bo : ByteOrder) (m mem : Pdu C)
    (hlen : (l.encode bo m).length < 2 ^ 32) :
    l.encode bo (l.restore m (.new mem)) = l.encode bo m := by
  have hbody : encAll l.serialize bo (rebuildAll m.body l.serialize (Pdu.new mem).body) =
      encAll l.serialize bo m.body := by
    have hsize : sizeAll l.serialize m.body < 2 ^ 32 := by
      rw [encode_length] at hlen
      omega
    have hread := readAll_enc bo m.body l.serialize (Pdu.new mem).body [] hsize
    have hfresh : ∀ s ∈ l.serialize, s.Fresh (Pdu.new mem).body := by
      rw [Pdu.new, h.construct_eq]
      exact constructAll_fresh hl.indep mem.body
    have hexact := hx.slots
    rw [hl.parse_eq] at hexact
    obtain ⟨rest, hdata, hrest⟩ := readAll_found hl.indep hexact hfresh (by rw [hread]; rfl)
    rw [hread] at hdata hrest
    -- nothing is left over
    obtain rfl : [] = rest := congrArg InStream.data hrest
    have hbytes := congrArg InStream.data hdata
    simpa [InStream.ofBytes] using hbytes.symm
  have hattach : (if Pdu.hasAttachData C then
      Wire.string.enc bo (l.restore m (.new mem)).attachData else []) =
      if Pdu.hasAttachData C then Wire.string.enc bo m.attachData else [] := by
    by_cases hatt : Pdu.hasAttachData C = true
    · rw [if_pos hatt, if_pos hatt, restore, if_pos hatt]
    · rw [if_neg hatt, if_neg hatt]
  rw [encode, encode, hattach]
  exact congrArg (· ++ _) hbody

/-! ## Lists -/

/-- A member that travels as a list. -/
structure ListSlot (C : Type) : Type 1 where
  {R : Type}
  member : Member C (List R)
  elem : Wire R
  new : R
  fresh : elem.fresh new
  pos : ∀ r, 0 < elem.size r

namespace ListSlot

variable {C : Type}

/-- The slot of the class. -/
def slot (s : ListSlot C) : Slot C := ⟨s.member, .array s.elem s.new s.fresh s.pos⟩

/-- How many elements the object holds. -/
def length (s : ListSlot C) (c : C) : Nat := (s.member.get c).length

/-- The loop pushes an element for each number that it counts, whatever the stream says. -/
theorem length_getMany {V : Type} (w : Wire V) (bo : ByteOrder) (new : V) (n : Nat) (acc : List V)
    (is : InStream) : (w.getMany bo new n acc is).1.length = acc.length + n := by
  induction n generalizing acc is with
  | zero => rfl
  | succ n ih =>
    rw [Wire.getMany, ih, List.length_append, List.length_singleton]
    omega

/-- What is read into an empty list is as long as the stream declares. -/
theorem length_read (s : ListSlot C) {bo : ByteOrder} {c : C} (hfresh : s.slot.Fresh c)
    (is : InStream) : s.length (s.slot.read bo c is).1 = (Wire.uint32.get bo 0 is).1.toNat := by
  have hempty : s.member.get c = [] := hfresh
  have hget : s.member.get (s.slot.read bo c is).1 =
      (s.elem.getMany bo s.new (Wire.uint32.get bo 0 is).1.toNat (s.member.get c)
        (Wire.uint32.get bo 0 is).2).1 := s.member.get_set _ _
  rw [length, hget, length_getMany, hempty, List.length_nil, Nat.zero_add]

/-- A list that is read without failing takes up room. -/
theorem length_le (s : ListSlot C) (hexact : s.slot.wire.Exact) {bo : ByteOrder} {c : C}
    (hfresh : s.slot.Fresh c) {is : InStream} (hok : (s.slot.read bo c is).2.fail = false) {k : Nat}
    (hk : ∀ r, k ≤ s.elem.size r) : s.length (s.slot.read bo c is).1 * k ≤ is.data.length := by
  obtain ⟨rest, his, -⟩ := Slot.found hexact hfresh hok
  have hlen : is.data.length = (s.slot.enc bo (s.slot.read bo c is).1).length + rest.length := by
    rw [congrArg InStream.data his]
    exact List.length_append
  have hsize : (s.slot.enc bo (s.slot.read bo c is).1).length =
      4 + ((s.member.get (s.slot.read bo c is).1).map s.elem.size).sum := s.slot.wire.enc_length _ _
  have hsum : s.length (s.slot.read bo c is).1 * k ≤
      ((s.member.get (s.slot.read bo c is).1).map s.elem.size).sum := by
    have hcard := List.card_nsmul_le_sum ((s.member.get (s.slot.read bo c is).1).map s.elem.size) k
      fun v hv => by
        obtain ⟨r, -, rfl⟩ := List.mem_map.mp hv
        exact hk r
    rwa [List.length_map] at hcard
  omega

/-- No list of elements is a list of integers, and no integer is a list. -/
theorem list_ne_uint32 (R : Type) : List R ≠ UInt32 := by
  intro h
  rcases isEmpty_or_nonempty R with hempty | hsome
  · have hone : Subsingleton UInt32 := h ▸ inferInstance
    exact absurd (Subsingleton.elim (0 : UInt32) 1) (by decide)
  · have hmany : Infinite UInt32 := h ▸ inferInstance
    have hfew : Finite UInt32 := Finite.of_injective UInt32.toBitVec fun _ _ => UInt32.toBitVec_inj.mp
    exact not_finite UInt32

end ListSlot

section Walk

variable {C : Type}

/-- Assigning `s`'s member leaves `t`'s member fresh. -/
def Slot.Spares (s t : Slot C) : Prop := ∀ v c, t.Fresh c → t.Fresh (s.member.set v c)

theorem Slot.Indep.spares {s t : Slot C} (h : t.Indep s) : s.Spares t := by
  intro v c hfresh
  rw [Slot.Fresh, h v c]
  exact hfresh

/-- A stream that has not failed has no more ahead than at its start. -/
theorem readAll_length_le {bo : ByteOrder} {ss : List (Slot C)} (hspare : ss.Pairwise Slot.Spares)
    (hexact : ∀ s ∈ ss, s.wire.Exact) {c : C} (hfresh : ∀ s ∈ ss, s.Fresh c) {is : InStream}
    (hok : (readAll bo ss c is).2.fail = false) :
    (readAll bo ss c is).2.data.length ≤ is.data.length := by
  induction ss generalizing c is with
  | nil => exact Nat.le_refl _
  | cons s ss ih =>
    obtain ⟨hs, hss⟩ := List.pairwise_cons.mp hspare
    have hrestOk : (readAll bo ss (s.read bo c is).1 (s.read bo c is).2).2.fail = false := hok
    have hfirst : (s.read bo c is).2.fail = false := readAll_ok hrestOk
    obtain ⟨rest, his, hrest⟩ :=
      Slot.found (hexact s List.mem_cons_self) (hfresh s List.mem_cons_self) hfirst
    have hle := ih hss (fun t ht => hexact t (List.mem_cons_of_mem _ ht))
      (fun t ht => hs t ht _ _ (hfresh t (List.mem_cons_of_mem _ ht))) hok
    have hahead : is.data.length = (s.enc bo (s.read bo c is).1).length + rest.length := by
      rw [congrArg InStream.data his]
      exact List.length_append
    have hleft : (s.read bo c is).2.data.length = rest.length := by
      rw [hrest]
      rfl
    exact hle.trans (by omega)

end Walk

/-! ### The class whose reader is out of step -/

namespace GroupChangeMemberRequest

theorem fresh_parse (mem : GroupChangeMemberRequest) :
    ∀ t ∈ layout.parse, t.Fresh (constructAll layout.serialize mem) := by
  refine List.forall_mem_cons.mpr ⟨trivial, List.forall_mem_cons.mpr ⟨trivial, ?_⟩⟩
  exact List.forall_mem_cons.mpr ⟨trivial, List.forall_mem_cons.mpr ⟨rfl, List.forall_mem_nil _⟩⟩

/-- No member that is read disturbs another. -/
theorem parse_spares : layout.parse.Pairwise Slot.Spares := by
  repeat' first
    | exact .nil
    | exact List.forall_mem_nil _
    | refine .cons ?_ ?_
    | refine List.forall_mem_cons.mpr ⟨fun _ _ hfresh => hfresh, ?_⟩

/-- The list is the last member that is read. -/
theorem list_indep {before after : List (Slot GroupChangeMemberRequest)}
    {s : ListSlot GroupChangeMemberRequest} (hsplit : layout.parse = before ++ s.slot :: after) :
    ∀ t ∈ before ++ after, s.slot.Indep t := by
  have hne : ∀ t : Slot GroupChangeMemberRequest, t.V = UInt32 → t ≠ s.slot := by
    rintro t ht rfl
    exact ListSlot.list_ne_uint32 _ ht
  change [reqUserId_, reqUserId_, groupId_, userList_] = before ++ s.slot :: after at hsplit
  rcases before with _ | ⟨t₁, _ | ⟨t₂, _ | ⟨t₃, _ | ⟨t₄, before⟩⟩⟩⟩
  · exact absurd (List.cons.inj hsplit).1 (hne _ rfl)
  · exact absurd (List.cons.inj (List.cons.inj hsplit).2).1 (hne _ rfl)
  · exact absurd (List.cons.inj (List.cons.inj (List.cons.inj hsplit).2).2).1 (hne _ rfl)
  · simp only [List.cons_append, List.nil_append, List.cons.injEq] at hsplit
    obtain ⟨rfl, rfl, rfl, hlist, rfl⟩ := hsplit
    rw [← hlist]
    repeat' first
      | exact List.forall_mem_nil _
      | refine List.forall_mem_cons.mpr ⟨fun _ _ => rfl, ?_⟩
  · have hlen := congrArg List.length hsplit
    simp at hlen

end GroupChangeMemberRequest

namespace PduName

/-- Every member of every class is read exactly. -/
theorem layout_exact (n : PduName) (hn : n ≠ validateResponse) : (n.layout hn).Exact := by
  cases n <;> first
    | exact absurd rfl hn
    | constructor
      repeat' first
        | exact List.forall_mem_nil _
        | refine List.forall_mem_cons.mpr ⟨?_, ?_⟩
        | exact Wire.exact_uint32
        | exact Wire.exact_string
        | exact Wire.exact_uint32s
        | exact Wire.exact_uint16
        | exact Wire.exact_uint8
        | refine Slot.exact_records ?_

/-- The sizes add up also in the class whose reader is out of step. -/
theorem layout_size_eq (n : PduName) (hn : n ≠ validateResponse) (c : n.Body) :
    sizeAll (n.layout hn).byteSize c = sizeAll (n.layout hn).serialize c := by
  by_cases hmember : n = groupChangeMemberRequest
  · subst hmember
    rfl
  · exact (n.layout_lawful hn hmember).size_eq c

/-! ## Sizes -/

/-- **`ByteSize` is exact.**  A message whose encoding fits 32 bits is written, into any buffer of
    `ByteSize()` bytes or more, as `ByteSize()` bytes, and into no smaller buffer. -/
theorem byteSize_exact (bo : ByteOrder) (n : PduName) (hn : n ≠ validateResponse) (m : Pdu n.Body)
    (hlen : ((n.layout hn).encode bo m).length < 2 ^ 32) (room : Nat) :
    (m.byteSize.toNat ≤ room →
      ∃ data, m.serializeToArray bo room = (true, data) ∧ data.length = m.byteSize.toNat) ∧
    (room < m.byteSize.toNat → (m.serializeToArray bo room).1 = false) := by
  have himpl := n.layout_implements hn
  have hsize := Layout.byteSize_toNat himpl (n.layout_size_eq hn) bo m hlen
  rw [hsize]
  constructor
  · intro hroom
    exact ⟨_, Layout.serializeToArray_fits himpl bo m hroom, rfl⟩
  · intro hroom
    exact Layout.serializeToArray_full himpl bo m hroom

/-- The text message has 35 bytes: 17 of integers, 6 of content, 5 of attach data, and two lengths.
    In a buffer of 3 bytes it fails. -/
theorem byteSize_exact_textMessage : (textMessage.serializeToArray .big 3).1 = false :=
  (byteSize_exact .big msgData (by decide) textMessage (by decide) 3).2 (by decide)

/-! ## What is accepted -/

section Accepts

variable {bo : ByteOrder} {n : PduName} {data pre : Bytes} {m mem : Pdu n.Body}

/-- What is accepted starts with an image of what was read. -/
theorem accepted_isImage (hn : n ≠ validateResponse) (hn' : n ≠ groupChangeMemberRequest)
    (hlen : data.length < 2 ^ 32) (hok : Pdu.parseFromArray bo data (.new mem) = (true, m)) :
    ∃ pre, m.IsImage bo pre ∧ pre <+: data := by
  obtain ⟨rest, hdata⟩ := Layout.parseFromArray_found (n.layout_implements hn)
    (n.layout_lawful hn hn') (n.layout_exact hn) hok
  have hstarts : (n.layout hn).encode bo m <+: data := ⟨rest, hdata.symm⟩
  have hle := hstarts.length_le
  exact ⟨_, (Layout.isImage_iff (n.layout_implements hn)).mpr ⟨rfl, by omega⟩, hstarts⟩

/-- An array that starts with an image is accepted.  What is read is the message, and has the same
    image. -/
theorem image_accepted (mem : Pdu n.Body) (hn : n ≠ validateResponse)
    (hn' : n ≠ groupChangeMemberRequest) (himage : m.IsImage bo pre) (hstarts : pre <+: data) :
    ∃ m', Pdu.parseFromArray bo data (.new mem) = (true, m') ∧ (n.layout hn).SameOnWire m' m ∧
      m'.serializeToArray bo m'.byteSize.toNat = (true, pre) := by
  have himpl := n.layout_implements hn
  have hlaw := n.layout_lawful hn hn'
  obtain ⟨rfl, hlen⟩ := (Layout.isImage_iff himpl).mp himage
  obtain ⟨rest, rfl⟩ := hstarts
  have hparse := Layout.parseFromArray_encode_append himpl hlaw.parse_eq bo m (Pdu.new mem) rest hlen
  have hencode := Layout.encode_restore himpl hlaw (n.layout_exact hn) bo m mem hlen
  refine ⟨_, hparse, Layout.sameOnWire_restore himpl hlaw m mem, ?_⟩
  have hsize := Layout.byteSize_toNat himpl hlaw.size_eq bo _ (by rw [hencode]; exact hlen)
  rw [Layout.serializeToArray_fits himpl bo _ (Nat.le_of_eq hsize.symm), hencode]

/-- **The parser accepts exactly the images.**  A fresh object accepts an array if and only if it
    starts with an image of a message of its class.  Then it is that message on the wire, and its
    image is just that prefix.  No proper part of an image, cut off anywhere, is accepted. -/
theorem accepts_exactly (bo : ByteOrder) (n : PduName) (hn : n ≠ validateResponse)
    (hn' : n ≠ groupChangeMemberRequest) (data : Bytes) (hlen : data.length < 2 ^ 32)
    (mem : Pdu n.Body) :
    ((Pdu.parseFromArray bo data (.new mem)).1 = true ↔
      ∃ (m : Pdu n.Body) (pre : Bytes), m.IsImage bo pre ∧ pre <+: data) ∧
    (∀ (m : Pdu n.Body) (pre : Bytes), m.IsImage bo pre → pre <+: data →
      ∃ m', Pdu.parseFromArray bo data (.new mem) = (true, m') ∧ (n.layout hn).SameOnWire m' m ∧
        m'.serializeToArray bo m'.byteSize.toNat = (true, pre)) ∧
    (∀ (m : Pdu n.Body) (pre : Bytes), m.IsImage bo pre → data <+: pre → data ≠ pre →
      (Pdu.parseFromArray bo data (.new mem)).1 = false) := by
  have himage : ∀ (m : Pdu n.Body) (pre : Bytes), m.IsImage bo pre → pre <+: data →
      ∃ m', Pdu.parseFromArray bo data (.new mem) = (true, m') ∧ (n.layout hn).SameOnWire m' m ∧
        m'.serializeToArray bo m'.byteSize.toNat = (true, pre) :=
    fun m pre => image_accepted mem hn hn'
  refine ⟨⟨fun hok => ?_, ?_⟩, himage, ?_⟩
  · obtain ⟨pre, hpre, hstarts⟩ := accepted_isImage hn hn' hlen (Prod.ext hok rfl)
    exact ⟨_, pre, hpre, hstarts⟩
  · rintro ⟨m, pre, hpre, hstarts⟩
    obtain ⟨m', hparse, -, -⟩ := himage m pre hpre hstarts
    rw [hparse]
  · intro m pre hpre hcut hne
    by_contra hok
    obtain ⟨pre', hpre', hstarts⟩ :=
      accepted_isImage hn hn' hlen (Prod.ext (Bool.eq_true_of_not_eq_false hok) rfl)
    -- the image that is found in the part is found in the whole, where the whole is found
    obtain ⟨m₁, hparse₁, -, hwhole⟩ := image_accepted mem hn hn' hpre (List.prefix_refl pre)
    obtain ⟨m₂, hparse₂, -, hpart⟩ := image_accepted mem hn hn' hpre' (hstarts.trans hcut)
    rw [hparse₁] at hparse₂
    obtain rfl := (Prod.mk.inj hparse₂).2
    rw [hwhole] at hpart
    obtain rfl := (Prod.mk.inj hpart).2
    exact hne (hcut.eq_of_length (Nat.le_antisymm hcut.length_le hstarts.length_le))

/-- The request for the groups of user 7, cut off after its second byte. -/
theorem accepts_exactly_cut :
    (Pdu.parseFromArray .big [0, 0] (.new (default : Pdu groupListRequest.Body))).1 = false := by
  have himage : (⟨⟨[], 0⟩, { userId := 7 }⟩ : Pdu groupListRequest.Body).IsImage .big
      [0, 0, 0, 7, 0, 0, 0, 0] := ⟨8, by decide, by decide⟩
  have hcut := (accepts_exactly .big groupListRequest (by decide) (by decide) [0, 0] (by decide)
    default).2.2
  exact hcut _ _ himage (by decide) (by decide)

end Accepts

/-! ## How long a list gets -/

section Lists

variable {bo : ByteOrder} {n : PduName} {before after : List (Slot n.Body)} {s : ListSlot n.Body}

/-- A fresh object of a class has empty lists. -/
theorem fresh_new (hn : n ≠ validateResponse) (mem : Pdu n.Body) :
    ∀ t ∈ (n.layout hn).parse, t.Fresh (Pdu.new mem).body := by
  rw [Pdu.new, (n.layout_implements hn).construct_eq]
  by_cases hmember : n = groupChangeMemberRequest
  · subst hmember
    exact GroupChangeMemberRequest.fresh_parse _
  · have hlaw := n.layout_lawful hn hmember
    rw [hlaw.parse_eq]
    exact constructAll_fresh hlaw.indep mem.body

/-- Reading one member leaves the later ones fresh. -/
theorem parse_spares (n : PduName) (hn : n ≠ validateResponse) :
    (n.layout hn).parse.Pairwise Slot.Spares := by
  by_cases hmember : n = groupChangeMemberRequest
  · subst hmember
    exact GroupChangeMemberRequest.parse_spares
  · have hlaw := n.layout_lawful hn hmember
    rw [hlaw.parse_eq]
    exact hlaw.indep.imp fun h => h.2.spares

/-- No other member that is read disturbs a list. -/
theorem list_indep (hn : n ≠ validateResponse)
    (hsplit : (n.layout hn).parse = before ++ s.slot :: after) :
    ∀ t ∈ before ++ after, s.slot.Indep t := by
  by_cases hmember : n = groupChangeMemberRequest
  · subst hmember
    exact GroupChangeMemberRequest.list_indep hsplit
  · have hlaw := n.layout_lawful hn hmember
    have hindep := hlaw.indep
    rw [← hlaw.parse_eq, hsplit, List.pairwise_append, List.pairwise_cons] at hindep
    obtain ⟨-, ⟨hafter, -⟩, hbefore⟩ := hindep
    intro t ht
    rcases List.mem_append.mp ht with ht | ht
    · exact (hbefore t ht _ List.mem_cons_self).2
    · exact (hafter t ht).1

/-- The members that a fresh object has after it was given the bytes, read or not. -/
theorem parseFromArray_body (hn : n ≠ validateResponse) (bo : ByteOrder) (data : Bytes)
    (mem : Pdu n.Body) : (Pdu.parseFromArray bo data (.new mem)).2.body =
      (readAll bo (n.layout hn).parse (Pdu.new mem).body (.ofBytes data)).1 := by
  rw [Pdu.parseFromArray, (n.layout_implements hn).parse_eq]
  dsimp only
  split <;> rfl

/-- What is accepted was read without failing. -/
theorem accepted_read (hn : n ≠ validateResponse) {bo : ByteOrder} {data : Bytes} {mem : Pdu n.Body}
    (hok : (Pdu.parseFromArray bo data (.new mem)).1 = true) :
    (readAll bo (n.layout hn).parse (Pdu.new mem).body (.ofBytes data)).2.fail = false := by
  rw [Pdu.parseFromArray, (n.layout_implements hn).parse_eq] at hok
  cases hfail : (readAll bo (n.layout hn).parse (Pdu.new mem).body (.ofBytes data)).2.fail with
  | false => rfl
  | true => simp [hfail] at hok

/-- **How long a list gets.**  Any list of any class, after any bytes, is as long as the packet says
    it is where the list starts (0 if the packet has ended before).  If all of it could be read, as it
    was if the object accepts the packet, it is no longer than the packet has room for. -/
theorem list_bounded (hn : n ≠ validateResponse)
    (hsplit : (n.layout hn).parse = before ++ s.slot :: after) (bo : ByteOrder) (data : Bytes)
    (mem : Pdu n.Body) :
    s.length (Pdu.parseFromArray bo data (.new mem)).2.body =
      (Wire.uint32.get bo 0 (readAll bo before (Pdu.new mem).body (.ofBytes data)).2).1.toNat ∧
    ((readAll bo (before ++ [s.slot]) (Pdu.new mem).body (.ofBytes data)).2.fail = false ∨
        (Pdu.parseFromArray bo data (.new mem)).1 = true →
      ∀ k, 0 < k → (∀ r, k ≤ s.elem.size r) →
        s.length (Pdu.parseFromArray bo data (.new mem)).2.body ≤ data.length / k) := by
  have hparse := fresh_new hn mem
  have hindep := list_indep hn hsplit
  have hexact := (n.layout_exact hn).slots
  have hspares := parse_spares n hn
  rw [hsplit] at hparse hexact hspares
  -- the object and the stream where the list starts
  generalize hstart : readAll bo before (Pdu.new mem).body (.ofBytes data) = start
  have hfresh : s.slot.Fresh start.1 := by
    have hkept := get_readAll bo (fun t ht => hindep t (List.mem_append_left _ ht))
      (Pdu.new mem).body (.ofBytes data)
    rw [hstart] at hkept
    rw [Slot.Fresh, hkept]
    exact hparse _ (List.mem_append_right _ List.mem_cons_self)
  have hlist : s.length (Pdu.parseFromArray bo data (.new mem)).2.body =
      s.length (s.slot.read bo start.1 start.2).1 := by
    have hkept := get_readAll bo (fun t ht => hindep t (List.mem_append_right _ ht))
      (s.slot.read bo start.1 start.2).1 (s.slot.read bo start.1 start.2).2
    rw [parseFromArray_body hn, hsplit, readAll_append, hstart]
    exact congrArg List.length hkept
  refine ⟨hlist.trans (s.length_read hfresh _), fun hok k hpos hk => ?_⟩
  have hread : (s.slot.read bo start.1 start.2).2.fail = false := by
    rcases hok with hok | hok
    · rwa [readAll_append, hstart] at hok
    · have hall := accepted_read hn hok
      rw [hsplit, readAll_append, hstart] at hall
      cases hfail : (s.slot.read bo start.1 start.2).2.fail with
      | false => rfl
      | true => exact (readAll_failed bo after _ _ hfail).symm.trans hall
  have hbefore : start.2.fail = false := by
    cases hfail : start.2.fail with
    | false => rfl
    | true => exact (s.slot.wire.get_failed bo _ _ hfail).symm.trans hread
  have hahead : start.2.data.length ≤ data.length := by
    have hle := readAll_length_le (List.pairwise_append.mp hspares).1
      (fun t ht => hexact t (List.mem_append_left _ ht))
      (fun t ht => hparse t (List.mem_append_left _ ht)) (by rw [hstart]; exact hbefore)
    rwa [hstart] at hle
  have hroom := s.length_le (hexact _ (List.mem_append_right _ List.mem_cons_self)) hfresh hread hk
  rw [hlist, Nat.le_div_iff_mul_le hpos]
  exact hroom.trans hahead

end Lists

/-- The ids of a `UsersInfoRequest`. -/
def userIdList : ListSlot usersInfoRequest.Body :=
  ⟨UsersInfoRequest.userIdList_.member, .uint32, 0, trivial, fun _ => Nat.succ_pos _⟩

/-- User 1 asks about user 2. -/
theorem list_bounded_usersInfoRequest :
    userIdList.length (Pdu.parseFromArray .big [0, 0, 0, 1, 0, 0, 0, 1, 0, 0, 0, 2, 0, 0, 0, 0]
      (.new (default : Pdu usersInfoRequest.Body))).2.body ≤ 16 / 4 := by
  have hsplit : (usersInfoRequest.layout (by decide)).parse =
      ([UsersInfoRequest.fromUserId_] : List (Slot usersInfoRequest.Body)) ++ userIdList.slot :: [] :=
    rfl
  exact (list_bounded (by decide) hsplit .big _ default).2 (Or.inr (by decide)) 4 (by decide)
    fun _ => Nat.le_refl 4

/-- User 1 asks about 5 users, and the packet ends there: 5 ids are pushed, and there is room for
    2. -/
theorem not_forall_list_bounded :
    ¬∀ (bo : ByteOrder) (n : PduName) (hn : n ≠ validateResponse) (before after : List (Slot n.Body))
        (s : ListSlot n.Body), (n.layout hn).parse = before ++ s.slot :: after →
      ∀ (data : Bytes) (mem : Pdu n.Body) (k : Nat), 0 < k → (∀ r, k ≤ s.elem.size r) →
        s.length (Pdu.parseFromArray bo data (.new mem)).2.body ≤ data.length / k := by
  intro h
  have hbound := h .big usersInfoRequest (by decide) [UsersInfoRequest.fromUserId_] [] userIdList rfl
    [0, 0, 0, 1, 0, 0, 0, 5] default 4 (by decide) fun _ => Nat.le_refl 4
  have hlength : userIdList.length (Pdu.parseFromArray .big [0, 0, 0, 1, 0, 0, 0, 5]
      (.new (default : Pdu usersInfoRequest.Body))).2.body = 5 := by decide
  rw [hlength] at hbound
  exact absurd hbound (by decide)

end PduName

end Zattd
