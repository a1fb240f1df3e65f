/-
  Records on the wire: a LAYOUT says, for each of the three functions of a record's format (size,
  writer, reader), which data members it handles and in which order.

  The three lists are written down separately, because in a program they ARE separate functions,
  and nothing but care keeps them in step.  `Layout.Lawful` is what it takes for them to be in step:
  the reader visits the members the writer does in the same order, the sizes add up, and no
  member's assignment disturbs another.  From it `Wire.record` makes the record a `Wire` of its own,
  so a record can be an element of an array, and a message is read back as it was written.
-/
import Zattd.Lib.Stream

set_option linter.unusedVariables false

namespace Zattd

/-- A data member: its getter and its setter. -/
structure Member (C V : Type) where
  get : C → V
  set : V → C → C
  get_set : ∀ v c, get (set v c) = v := by intros; rfl

/-- A data member together with the format its value travels in. -/
structure Slot (C : Type) : Type 1 where
  {V : Type}
  member : Member C V
  wire : Wire V

namespace Slot

variable {C : Type}

/-- A member that travels as an 8-bit integer. -/
abbrev uint8 (get : C → UInt8) (set : UInt8 → C → C)
    (h : ∀ v c, get (set v c) = v := by intros; rfl) : Slot C := ⟨⟨get, set, h⟩, .uint8⟩

/-- A member that travels as a 16-bit integer. -/
abbrev uint16 (get : C → UInt16) (set : UInt16 → C → C)
    (h : ∀ v c, get (set v c) = v := by intros; rfl) : Slot C := ⟨⟨get, set, h⟩, .uint16⟩

/-- A member that travels as a 32-bit integer. -/
abbrev uint32 (get : C → UInt32) (set : UInt32 → C → C)
    (h : ∀ v c, get (set v c) = v := by intros; rfl) : Slot C := ⟨⟨get, set, h⟩, .uint32⟩

/-- A member that travels as a string. -/
abbrev string (get : C → Bytes) (set : Bytes → C → C)
    (h : ∀ v c, get (set v c) = v := by intros; rfl) : Slot C := ⟨⟨get, set, h⟩, .string⟩

/-- A member that travels as an array of 32-bit integers. -/
abbrev uint32s (get : C → List UInt32) (set : List UInt32 → C → C)
    (h : ∀ v c, get (set v c) = v := by intros; rfl) : Slot C := ⟨⟨get, set, h⟩, .uint32s⟩

/-- The bytes that the slot takes. -/
def size (s : Slot C) (c : C) : Nat := s.wire.size (s.member.get c)

/-- What it puts on the wire. -/
def enc (s : Slot C) (bo : ByteOrder) (c : C) : Bytes := s.wire.enc bo (s.member.get c)

/-- It is written to a stream. -/
def write (s : Slot C) (bo : ByteOrder) (c : C) (os : OutStream) : OutStream :=
  s.wire.put bo (s.member.get c) os

/-- It is read from a stream, into the object. -/
def read (s : Slot C) (bo : ByteOrder) (c : C) (is : InStream) : C × InStream :=
  match s.wire.get bo (s.member.get c) is with
  | (v, is') => (s.member.set v c, is')

/-- The member after its default constructor has run on the memory it is in. -/
def construct (s : Slot C) (mem : C) : C := s.member.set (s.wire.construct (s.member.get mem)) mem

/-- The member holds nothing that a reader would keep. -/
def Fresh (s : Slot C) (c : C) : Prop := s.wire.fresh (s.member.get c)

/-- The member holds the same in both objects, as far as the wire shows it. -/
def Same (s : Slot C) (a b : C) : Prop := s.wire.same (s.member.get a) (s.member.get b)

/-- Assigning `t`'s member leaves `s`'s member alone. -/
def Indep (s t : Slot C) : Prop :=
  ∀ (v : t.V) (c : C), s.member.get (t.member.set v c) = s.member.get c

/-- `x` with the member as a reader rebuilds it from `m`. -/
def rebuild (s : Slot C) (m x : C) : C :=
  s.member.set (s.wire.rebuild (s.member.get x) (s.member.get m)) x

/-- A slot reads back what it has encoded, and no more. -/
theorem read_enc (s : Slot C) (bo : ByteOrder) (m x : C) (rest : Bytes) (h : s.size m < 2 ^ 32) :
    s.read bo x (.ofBytes (s.enc bo m ++ rest)) = (s.rebuild m x, .ofBytes rest) := by
  simp only [read, enc, s.wire.get_enc bo _ _ rest h]; rfl

/-- A read that does not fail has found the encoding of the member. -/
theorem found {s : Slot C} (h : s.wire.Exact) {bo : ByteOrder} {c : C} (hfresh : s.Fresh c)
    {is : InStream} (hok : (s.read bo c is).2.fail = false) :
    ∃ rest, is = .ofBytes (s.enc bo (s.read bo c is).1 ++ rest) ∧
      (s.read bo c is).2 = .ofBytes rest := by
  obtain ⟨rest, his, hrest⟩ := h.found bo (s.member.get c) is hfresh hok
  refine ⟨rest, ?_, hrest⟩
  rw [enc, read, s.member.get_set]
  exact his

theorem same_rebuild {s : Slot C} {m x : C} (h : s.Fresh x) : s.Same (s.rebuild m x) m := by
  rw [Same, rebuild, s.member.get_set]; exact s.wire.same_rebuild h

theorem fresh_construct (s : Slot C) (mem : C) : s.Fresh (s.construct mem) := by
  rw [Fresh, construct, s.member.get_set]; exact s.wire.fresh_construct _

/-- The member is not among what `f` changes: it is read alike before and after. -/
def Ignores (s : Slot C) (f : C → C) : Prop :=
  (∀ c, s.member.get (f c) = s.member.get c) ∧ ∀ v c, s.member.set v (f c) = f (s.member.set v c)

/-- A member is not touched by a slot that is independent of it. -/
theorem get_rebuild {s t : Slot C} (h : s.Indep t) (m x : C) :
    s.member.get (t.rebuild m x) = s.member.get x := h _ _

end Slot

/-! ## Walking a list of members -/

section Walk

variable {C : Type}

def sizeAll (ss : List (Slot C)) (c : C) : Nat := (ss.map (·.size c)).sum

def encAll (ss : List (Slot C)) (bo : ByteOrder) (c : C) : Bytes := ss.flatMap (·.enc bo c)

def writeAll (bo : ByteOrder) (c : C) : List (Slot C) → OutStream → OutStream
  | [], os => os
  | s :: ss, os => writeAll bo c ss (s.write bo c os)

def readAll (bo : ByteOrder) : List (Slot C) → C → InStream → C × InStream
  | [], c, is => (c, is)
  | s :: ss, c, is => readAll bo ss (s.read bo c is).1 (s.read bo c is).2

/-- The object after all slots have been read back, one after the other. -/
def rebuildAll (m : C) : List (Slot C) → C → C
  | [], x => x
  | s :: ss, x => rebuildAll m ss (s.rebuild m x)

/-- The object after the constructor. -/
def constructAll : List (Slot C) → C → C
  | [], mem => mem
  | s :: ss, mem => constructAll ss (s.construct mem)

@[simp] theorem sizeAll_cons (s : Slot C) (ss : List (Slot C)) (c : C) :
    sizeAll (s :: ss) c = s.size c + sizeAll ss c := by
  simp [sizeAll]

/-- The sizes of the slots add up to the length of the encoding. -/
theorem encAll_length (ss : List (Slot C)) (bo : ByteOrder) (c : C) :
    (encAll ss bo c).length = sizeAll ss c := by
  simp [encAll, sizeAll, List.length_flatMap, Slot.enc, Slot.size, Wire.enc_length]

/-- Members of one size are next to each other in the encodings of two objects: if the encodings are
    the same, so are those of the members. -/
theorem encAll_cons_inj {s : Slot C} {ss : List (Slot C)} {bo : ByteOrder} {a b : C} {as bs : Bytes}
    (hsize : s.size a = s.size b) (h : encAll (s :: ss) bo a ++ as = encAll (s :: ss) bo b ++ bs) :
    s.enc bo a = s.enc bo b ∧ encAll ss bo a ++ as = encAll ss bo b ++ bs := by
  have hlen : (s.enc bo a).length = (s.enc bo b).length := by
    rw [Slot.enc, Slot.enc, s.wire.enc_length, s.wire.enc_length]
    exact hsize
  simp only [encAll, List.flatMap_cons, List.append_assoc] at h
  exact List.append_inj h hlen

/-- Slots are written one after the other. -/
theorem writeAll_append (bo : ByteOrder) (c : C) (before after : List (Slot C)) (os : OutStream) :
    writeAll bo c (before ++ after) os = writeAll bo c after (writeAll bo c before os) := by
  induction before generalizing os with
  | nil => rfl
  | cons s before ih => exact ih _

/-- Where there is room for all slots, what is written is their encoding. -/
theorem writeAll_fits (bo : ByteOrder) (c : C) (ss : List (Slot C)) (os : OutStream)
    (hf : os.fail = false) (h : sizeAll ss c ≤ os.room) :
    writeAll bo c ss os = os.push (encAll ss bo c) := by
  induction ss generalizing os with
  | nil => rw [writeAll, encAll, List.flatMap_nil, OutStream.push_fits hf (by simp)]; simp [← hf]
  | cons s ss ih =>
    rw [sizeAll_cons] at h
    have hlen : (s.enc bo c).length = s.size c := s.wire.enc_length _ _
    have hs : os.push (s.enc bo c) = _ := OutStream.push_fits hf (by omega)
    have hput : s.write bo c os = os.push (s.enc bo c) := by
      have hfits : s.wire.size (s.member.get c) ≤ os.room := Nat.le_trans (Nat.le_add_right _ _) h
      exact s.wire.put_fits _ _ _ hf hfits
    rw [writeAll, hput, ih _ (by rw [hs]) (by rw [hs]; simp only; omega), OutStream.push_push hf]
    · rfl
    · rw [List.length_append, hlen, encAll_length]; exact h

/-- A stream that has failed stays so. -/
theorem writeAll_failed (bo : ByteOrder) (c : C) (ss : List (Slot C)) (os : OutStream)
    (h : os.fail = true) : (writeAll bo c ss os).fail = true := by
  induction ss generalizing os with
  | nil => exact h
  | cons s ss ih => exact ih _ (s.wire.put_full _ _ _ (Or.inl h))

/-- Where there is not, the stream fails. -/
theorem writeAll_full (bo : ByteOrder) (c : C) (ss : List (Slot C)) (os : OutStream)
    (h : os.fail = true ∨ os.room < sizeAll ss c) : (writeAll bo c ss os).fail = true := by
  induction ss generalizing os with
  | nil => simpa [writeAll, sizeAll] using h
  | cons s ss ih =>
    rw [sizeAll_cons] at h
    by_cases hs : os.fail = true ∨ os.room < s.size c
    · exact writeAll_failed bo c ss _ (s.wire.put_full _ _ _ hs)
    · simp only [not_or, Bool.not_eq_true, Nat.not_lt] at hs
      have hlen : (s.enc bo c).length = s.size c := s.wire.enc_length _ _
      have hsum : os.room < s.size c + sizeAll ss c := by simpa [hs.1] using h
      refine ih _ (Or.inr ?_)
      rw [show s.write bo c os = os.push (s.enc bo c) from s.wire.put_fits _ _ _ hs.1 hs.2,
        OutStream.push_fits hs.1 (by omega)]
      simp only; omega

theorem readAll_append (bo : ByteOrder) (before after : List (Slot C)) (c : C) (is : InStream) :
    readAll bo (before ++ after) c is =
      readAll bo after (readAll bo before c is).1 (readAll bo before c is).2 := by
  induction before generalizing c is with
  | nil => rfl
  | cons s before ih => exact ih _ _

/-- The last member is read where the others have left the stream. -/
theorem readAll_concat (bo : ByteOrder) (ss : List (Slot C)) (s : Slot C) (c : C) (is : InStream) :
    readAll bo (ss ++ [s]) c is = s.read bo (readAll bo ss c is).1 (readAll bo ss c is).2 :=
  readAll_append bo ss [s] c is

/-- So does one that is read from. -/
theorem readAll_failed (bo : ByteOrder) (ss : List (Slot C)) (c : C) (is : InStream)
    (h : is.fail = true) : (readAll bo ss c is).2.fail = true := by
  induction ss generalizing c is with
  | nil => exact h
  | cons s ss ih => exact ih _ _ (s.wire.get_failed _ _ _ h)

/-- A walk that has not failed had not failed when it started. -/
theorem readAll_ok {bo : ByteOrder} {ss : List (Slot C)} {c : C} {is : InStream}
    (hok : (readAll bo ss c is).2.fail = false) : is.fail = false := by
  cases hfail : is.fail with
  | false => rfl
  | true => exact (readAll_failed bo ss c is hfail).symm.trans hok

/-- What no member on the list is about is carried through the walk. -/
theorem readAll_ignores {f : C → C} (bo : ByteOrder) {ss : List (Slot C)} (h : ∀ s ∈ ss, s.Ignores f)
    (c : C) (is : InStream) :
    readAll bo ss (f c) is = (f (readAll bo ss c is).1, (readAll bo ss c is).2) := by
  induction ss generalizing c is with
  | nil => rfl
  | cons s ss ih =>
    obtain ⟨hget, hset⟩ := h s List.mem_cons_self
    have hread : s.read bo (f c) is = (f (s.read bo c is).1, (s.read bo c is).2) := by
      simp only [Slot.read, hget, hset]
    rw [readAll, hread]
    exact ih (fun t ht => h t (List.mem_cons_of_mem _ ht)) _ _

/-- What has been written is read back, whatever comes after it. -/
theorem readAll_enc (bo : ByteOrder) (m : C) (ss : List (Slot C)) (x : C) (rest : Bytes)
    (h : sizeAll ss m < 2 ^ 32) :
    readAll bo ss x (.ofBytes (encAll ss bo m ++ rest)) = (rebuildAll m ss x, .ofBytes rest) := by
  induction ss generalizing x with
  | nil => simp [readAll, encAll, rebuildAll]
  | cons s ss ih =>
    rw [sizeAll_cons] at h
    have henc : encAll (s :: ss) bo m ++ rest = s.enc bo m ++ (encAll ss bo m ++ rest) := by
      simp [encAll]
    rw [readAll, henc, s.read_enc bo m x _ (by omega)]
    exact ih _ (by omega)

/-- What is read into later members leaves a member alone. -/
theorem get_readAll {s : Slot C} (bo : ByteOrder) {ss : List (Slot C)} (h : ∀ t ∈ ss, s.Indep t)
    (c : C) (is : InStream) : s.member.get (readAll bo ss c is).1 = s.member.get c := by
  induction ss generalizing c is with
  | nil => rfl
  | cons t ss ih =>
    rw [readAll, ih fun t' ht' => h t' (List.mem_cons_of_mem _ ht')]
    exact h t List.mem_cons_self _ _

/-- Members that are read, none of which disturbs another, have been found in the order of the list. -/
theorem readAll_found {bo : ByteOrder} {ss : List (Slot C)}
    (hindep : ss.Pairwise fun s t => s.Indep t ∧ t.Indep s) (hexact : ∀ s ∈ ss, s.wire.Exact) {c : C}
    (hfresh : ∀ s ∈ ss, s.Fresh c) {is : InStream} (hok : (readAll bo ss c is).2.fail = false) :
    ∃ rest, is = .ofBytes (encAll ss bo (readAll bo ss c is).1 ++ rest) ∧
      (readAll bo ss c is).2 = .ofBytes rest := by
  induction ss generalizing c is with
  | nil =>
    obtain ⟨data, fail⟩ := is
    obtain rfl : fail = false := hok
    exact ⟨data, rfl, rfl⟩
  | cons s ss ih =>
    obtain ⟨hs, hss⟩ := List.pairwise_cons.mp hindep
    have hrestOk : (readAll bo ss (s.read bo c is).1 (s.read bo c is).2).2.fail = false := hok
    have hfirst : (s.read bo c is).2.fail = false := readAll_ok hrestOk
    obtain ⟨rest₁, his, hrest₁⟩ :=
      Slot.found (hexact s List.mem_cons_self) (hfresh s List.mem_cons_self) hfirst
    have hfresh' : ∀ t ∈ ss, t.Fresh (s.read bo c is).1 := by
      intro t ht
      have hget : t.member.get (s.read bo c is).1 = t.member.get c := (hs t ht).2 _ _
      rw [Slot.Fresh, hget]
      exact hfresh t (List.mem_cons_of_mem _ ht)
    obtain ⟨rest, hstream, hrest⟩ := ih hss (fun t ht => hexact t (List.mem_cons_of_mem _ ht)) hfresh' hok
    have hdata : rest₁ = encAll ss bo (readAll bo (s :: ss) c is).1 ++ rest :=
      congrArg InStream.data (hrest₁.symm.trans hstream)
    refine ⟨rest, ?_, hrest⟩
    -- the first member is still what was read into it
    have hkept := get_readAll bo (fun t ht => (hs t ht).1) (s.read bo c is).1 (s.read bo c is).2
    have henc : encAll (s :: ss) bo (readAll bo (s :: ss) c is).1 ++ rest =
        s.enc bo (s.read bo c is).1 ++ rest₁ := by
      rw [hdata, encAll, List.flatMap_cons, List.append_assoc, Slot.enc, readAll, hkept]
      rfl
    rw [henc]
    exact his

/-- A member none of the later ones disturbs is left alone by them. -/
theorem get_rebuildAll {s : Slot C} (m : C) {ss : List (Slot C)} (h : ∀ t ∈ ss, s.Indep t) (x : C) :
    s.member.get (rebuildAll m ss x) = s.member.get x := by
  induction ss generalizing x with
  | nil => rfl
  | cons t ss ih =>
    rw [rebuildAll, ih (fun t' ht' => h t' (List.mem_cons_of_mem _ ht')) _]
    exact Slot.get_rebuild (h t List.mem_cons_self) m x

theorem fresh_constructAll {s : Slot C} {ss : List (Slot C)} (h : ∀ t ∈ ss, s.Indep t) {x : C}
    (hx : s.Fresh x) : s.Fresh (constructAll ss x) := by
  induction ss generalizing x with
  | nil => exact hx
  | cons t ss ih =>
    apply ih (fun t' ht' => h t' (List.mem_cons_of_mem _ ht'))
    rw [Slot.Fresh, Slot.construct, h t List.mem_cons_self]
    exact hx

/-- A constructed object holds nothing that a reader would keep. -/
theorem constructAll_fresh {ss : List (Slot C)}
    (hindep : ss.Pairwise fun s t => s.Indep t ∧ t.Indep s) (mem : C) :
    ∀ s ∈ ss, s.Fresh (constructAll ss mem) := by
  induction ss generalizing mem with
  | nil => simp
  | cons s ss ih =>
    obtain ⟨hs, hss⟩ := List.pairwise_cons.mp hindep
    intro t ht
    rcases List.mem_cons.mp ht with rfl | ht
    · exact fresh_constructAll (fun t' ht' => (hs t' ht').1) (t.fresh_construct mem)
    · exact ih hss _ t ht

/-- And all slots then hold what they held, if none disturbs another. -/
theorem same_rebuildAll (m : C) {ss : List (Slot C)}
    (hindep : ss.Pairwise fun s t => s.Indep t ∧ t.Indep s) {x : C} (hfresh : ∀ s ∈ ss, s.Fresh x) :
    ∀ s ∈ ss, s.Same (rebuildAll m ss x) m := by
  induction ss generalizing x with
  | nil => simp
  | cons s ss ih =>
    obtain ⟨hs, hss⟩ := List.pairwise_cons.mp hindep
    intro t ht
    rcases List.mem_cons.mp ht with rfl | ht
    · have hget := get_rebuildAll m (fun t' ht' => (hs t' ht').1) (t.rebuild m x)
      rw [Slot.Same, rebuildAll, hget]
      exact Slot.same_rebuild (hfresh t List.mem_cons_self)
    · refine ih hss (fun t' ht' => ?_) t ht
      rw [Slot.Fresh, Slot.get_rebuild (hs t' ht').2]
      exact hfresh t' (List.mem_cons_of_mem _ ht')

end Walk

/-! ## Layouts -/

/-- The members that the size function, the reader and the writer of a record handle, each in its
    own order. -/
structure Layout (C : Type) : Type 1 where
  byteSize : List (Slot C)
  parse : List (Slot C)
  serialize : List (Slot C)

namespace Layout

variable {C : Type}

/-- The three functions are in step.  For lists written out, and sizes listed in the writer's order,
    each part holds by computation. -/
structure Lawful (l : Layout C) : Prop where
  parse_eq : l.parse = l.serialize := by rfl
  size_eq : ∀ c, sizeAll l.byteSize c = sizeAll l.serialize c := by intro; rfl
  indep : l.serialize.Pairwise (fun s t => s.Indep t ∧ t.Indep s) := by
    repeat' first
      | exact .nil
      | exact List.forall_mem_nil _
      | refine .cons ?_ ?_
      | refine List.forall_mem_cons.mpr ⟨⟨fun _ _ => rfl, fun _ _ => rfl⟩, ?_⟩

/-- The reader of each member accepts nothing but encodings. -/
structure Exact (l : Layout C) : Prop where
  slots : ∀ s ∈ l.parse, s.wire.Exact

end Layout

/-- A record whose three functions are in step, as a format of its own. -/
def Wire.record {C : Type} (l : Layout C) (h : l.Lawful) : Wire C where
  size := sizeAll l.byteSize
  put bo c os := writeAll bo c l.serialize os
  get bo old is := readAll bo l.parse old is
  enc bo c := encAll l.serialize bo c
  rebuild old m := rebuildAll m l.serialize old
  construct := constructAll l.serialize
  fresh old := ∀ s ∈ l.serialize, s.Fresh old
  same a b := ∀ s ∈ l.serialize, s.Same a b
  enc_length bo c := by rw [encAll_length, h.size_eq]
  put_fits bo c os hf hroom := writeAll_fits bo c _ os hf (by rwa [← h.size_eq])
  put_full bo c os hfull := writeAll_full bo c _ os (by rwa [← h.size_eq])
  get_enc bo old m rest hlt := by
    rw [h.parse_eq]; exact readAll_enc bo m _ old rest (by rwa [← h.size_eq])
  get_failed bo old is hf := readAll_failed bo _ old is hf
  fresh_construct := constructAll_fresh h.indep
  same_rebuild hfresh := same_rebuildAll _ h.indep hfresh
  same_refl c s _ := s.wire.same_refl _

/-- A member that travels as an array of records: each element is read into a `new` one, whose
    first member is one that takes room on the wire. -/
abbrev Slot.records {C R : Type} (l : Layout R) (hl : l.Lawful) (new : R)
    (get : C → List R) (set : List R → C → C) (h : ∀ v c, get (set v c) = v := by intros; rfl)
    (hnew : ∀ s ∈ l.serialize, s.Fresh new := by
      repeat' first
        | exact List.forall_mem_nil _
        | refine List.forall_mem_cons.mpr ⟨trivial, ?_⟩
        | refine List.forall_mem_cons.mpr ⟨rfl, ?_⟩)
    (hpos : ∀ r, 0 < sizeAll l.byteSize r := by
      intro r; exact Nat.add_pos_left (Nat.succ_pos _) _) : Slot C :=
  ⟨⟨get, set, h⟩, .array (.record l hl) new hnew hpos⟩

/-- A record whose members are read exactly is read exactly. -/
theorem Wire.exact_record {C : Type} {l : Layout C} (hl : l.Lawful) (h : l.Exact) :
    (Wire.record l hl).Exact where
  found bo old is hfresh hok := by
    have hslots := h.slots
    change (readAll bo l.parse old is).2.fail = false at hok
    show ∃ rest, is = .ofBytes (encAll l.serialize bo (readAll bo l.parse old is).1 ++ rest) ∧
      (readAll bo l.parse old is).2 = .ofBytes rest
    rw [hl.parse_eq] at hslots hok ⊢
    exact readAll_found hl.indep hslots hfresh hok

end Zattd
