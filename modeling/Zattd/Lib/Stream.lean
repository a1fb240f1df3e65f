/-
  Byte streams with a STICKY failure flag, and the wire formats that are read from and written to
  them value by value.

  A reader takes the PRIOR contents of the variable it fills, because that is what the variable
  still holds when the stream has failed; an array reader appends to what the vector already holds.
  A writer has a fixed room, and a write that does not fit sets the flag.

  `Wire V` bundles the three functions a format consists of — size, writer, reader — with the
  encoding they are about and the laws that tie them to it; `wireUInt32`, `wireString`, `wireArray`
  and so on build the usual ones.  The byte order is a parameter: all that is used of it is that the
  integers have a fixed width and that reading undoes writing.
-/
import Mathlib

set_option linter.unusedVariables false

namespace Zattd

/-- A string of bytes. -/
abbrev Bytes := List UInt8

/-! ## Fixed-width integers -/

/-- How 16- and 32-bit integers are laid out in bytes: fixed width, and reading undoes writing. -/
structure ByteOrder where
  put16 : UInt16 → Bytes
  get16 : Bytes → UInt16
  put32 : UInt32 → Bytes
  get32 : Bytes → UInt32
  put16_length : ∀ v, (put16 v).length = 2
  put32_length : ∀ v, (put32 v).length = 4
  get16_put16 : ∀ v, get16 (put16 v) = v
  get32_put32 : ∀ v, get32 (put32 v) = v
  put16_get16 : ∀ b, b.length = 2 → put16 (get16 b) = b
  put32_get32 : ∀ b, b.length = 4 → put32 (get32 b) = b

namespace ByteOrder

attribute [simp] put16_length put32_length get16_put16 get32_put32

/-- Most significant byte first. -/
def big : ByteOrder where
  put16 v := [UInt8.ofNat (v.toNat / 256), UInt8.ofNat v.toNat]
  get16 b := UInt16.ofNat (b.foldl (fun n d => n * 256 + d.toNat) 0)
  put32 v := [UInt8.ofNat (v.toNat / 16777216), UInt8.ofNat (v.toNat / 65536),
    UInt8.ofNat (v.toNat / 256), UInt8.ofNat v.toNat]
  get32 b := UInt32.ofNat (b.foldl (fun n d => n * 256 + d.toNat) 0)
  put16_length _ := rfl
  put32_length _ := rfl
  get16_put16 v := by
    apply UInt16.toNat_inj.mp
    have hv := v.toNat_lt
    simp only [List.foldl_cons, List.foldl_nil, UInt8.toNat_ofNat', UInt16.toNat_ofNat']
    omega
  get32_put32 v := by
    apply UInt32.toNat_inj.mp
    have hv := v.toNat_lt
    simp only [List.foldl_cons, List.foldl_nil, UInt8.toNat_ofNat', UInt32.toNat_ofNat']
    omega
  put16_get16 b hb := by
    obtain ⟨d₁, d₀, rfl⟩ := List.length_eq_two.mp hb
    have h₁ := d₁.toNat_lt; have h₀ := d₀.toNat_lt
    simp only [List.foldl_cons, List.foldl_nil, List.cons.injEq, and_true, ← UInt8.toNat_inj,
      UInt8.toNat_ofNat', UInt16.toNat_ofNat']
    omega
  put32_get32 b hb := by
    match b, hb with
    | [d₃, d₂, d₁, d₀], _ =>
      have h₃ := d₃.toNat_lt; have h₂ := d₂.toNat_lt
      have h₁ := d₁.toNat_lt; have h₀ := d₀.toNat_lt
      simp only [List.foldl_cons, List.foldl_nil, List.cons.injEq, and_true, ← UInt8.toNat_inj,
        UInt8.toNat_ofNat', UInt32.toNat_ofNat']
      omega

end ByteOrder

/-! ## Streams -/

/-- A stream being read: the bytes still ahead, and whether a read has run past the end. -/
structure InStream where
  data : Bytes
  fail : Bool

namespace InStream

/-- A stream at its start. -/
def ofBytes (data : Bytes) : InStream := ⟨data, false⟩

/-- Take the next `n` bytes; if there are fewer, or an earlier read has failed, take none and fail. -/
def pull (n : Nat) (is : InStream) : Option Bytes × InStream :=
  if is.fail ∨ is.data.length < n then (none, { is with fail := true })
  else (some (is.data.take n), ⟨is.data.drop n, false⟩)

/-- As many bytes as are there can be had, and the rest stays. -/
theorem pull_append {n : Nat} {b : Bytes} (hb : b.length = n) (rest : Bytes) :
    pull n (ofBytes (b ++ rest)) = (some b, ofBytes rest) := by
  subst hb
  simp [pull, ofBytes]

/-- A pull either fails or takes what is in front. -/
theorem pull_cases (n : Nat) (is : InStream) :
    (is.pull n = (none, { is with fail := true }) ∧ (is.fail = true ∨ is.data.length < n)) ∨
      ∃ b rest, b.length = n ∧ is = ofBytes (b ++ rest) ∧ is.pull n = (some b, ofBytes rest) := by
  by_cases h : is.fail = true ∨ is.data.length < n
  · exact Or.inl ⟨if_pos h, h⟩
  · obtain ⟨data, fail⟩ := is
    simp only [not_or, Bool.not_eq_true, Nat.not_lt] at h
    obtain ⟨rfl, hn⟩ := h
    have hlen : (data.take n).length = n := List.length_take_of_le hn
    have hsplit : ofBytes data = ofBytes (data.take n ++ data.drop n) := by rw [List.take_append_drop]
    refine Or.inr ⟨data.take n, data.drop n, hlen, hsplit, ?_⟩
    show (ofBytes data).pull n = _
    rw [hsplit, pull_append hlen]

/-- From a stream that has failed nothing can be had. -/
@[simp] theorem pull_failed {n : Nat} {is : InStream} (h : is.fail = true) :
    pull n is = (none, { is with fail := true }) := by
  simp [pull, h]

end InStream

/-- A stream being written: the room left, the bytes written so far, and whether a write has not
    fitted. -/
structure OutStream where
  room : Nat
  out : Bytes
  fail : Bool

namespace OutStream

/-- An empty buffer of `n` bytes. -/
def ofRoom (n : Nat) : OutStream := ⟨n, [], false⟩

/-- Write `b`; if it does not fit, or an earlier write has failed, write nothing and fail. -/
def push (b : Bytes) (os : OutStream) : OutStream :=
  if os.fail ∨ os.room < b.length then { os with fail := true }
  else ⟨os.room - b.length, os.out ++ b, false⟩

/-- What there is room for is put out. -/
theorem push_fits {b : Bytes} {os : OutStream} (hf : os.fail = false) (h : b.length ≤ os.room) :
    os.push b = ⟨os.room - b.length, os.out ++ b, false⟩ := by
  simp [push, hf, Nat.not_lt.mpr h]

/-- What there is no room for makes the stream fail. -/
theorem push_full {b : Bytes} {os : OutStream} (h : os.fail = true ∨ os.room < b.length) :
    (os.push b).fail = true := by
  simp [push, h]

/-- Two writes that fit are one write of both. -/
theorem push_push {b₁ b₂ : Bytes} {os : OutStream} (hf : os.fail = false)
    (h : (b₁ ++ b₂).length ≤ os.room) : (os.push b₁).push b₂ = os.push (b₁ ++ b₂) := by
  have h' : b₁.length + b₂.length ≤ os.room := by simpa using h
  rw [push_fits hf h, push_fits hf (by omega), push_fits rfl (by simp only; omega)]
  simp [Nat.sub_add_eq]

end OutStream

/-! ## Formats -/

/-- A format for values of `V`: `size`, `put` and `get` are the three functions a program has, `enc`
    the bytes they are about, and the laws say so.  `get` is given the prior contents of the
    variable and leaves `rebuild old v` there on reading an encoding of `v`; `fresh old` says that
    nothing of `old` survives in that, and `same` is equality as far as the wire shows it. -/
structure Wire (V : Type) where
  size : V → Nat
  put : ByteOrder → V → OutStream → OutStream
  get : ByteOrder → V → InStream → V × InStream
  enc : ByteOrder → V → Bytes
  rebuild : V → V → V
  construct : V → V
  fresh : V → Prop
  same : V → V → Prop
  enc_length : ∀ bo v, (enc bo v).length = size v
  put_fits : ∀ bo v os, os.fail = false → size v ≤ os.room → put bo v os = os.push (enc bo v)
  put_full : ∀ bo v os, os.fail = true ∨ os.room < size v → (put bo v os).fail = true
  get_enc : ∀ bo old v rest, size v < 2 ^ 32 →
    get bo old (.ofBytes (enc bo v ++ rest)) = (rebuild old v, .ofBytes rest)
  get_failed : ∀ bo old is, is.fail = true → (get bo old is).2.fail = true
  fresh_construct : ∀ mem, fresh (construct mem)
  same_rebuild : ∀ {old v}, fresh old → same (rebuild old v) v
  same_refl : ∀ v, same v v

namespace Wire

/-- A buffer that has room for exactly one value and `rest` is left with room for exactly `rest`. -/
theorem put_enc {V : Type} (w : Wire V) (bo : ByteOrder) (v : V) (out rest : Bytes) :
    w.put bo v ⟨(w.enc bo v ++ rest).length, out, false⟩ =
      ⟨rest.length, out ++ w.enc bo v, false⟩ := by
  have hlen : (w.enc bo v ++ rest).length = (w.enc bo v).length + rest.length := List.length_append
  have hroom : w.size v ≤ (w.enc bo v ++ rest).length := by
    rw [hlen, w.enc_length]; exact Nat.le_add_right _ _
  rw [w.put_fits bo v _ rfl hroom, OutStream.push_fits rfl (by rw [w.enc_length]; exact hroom), hlen,
    Nat.add_sub_cancel_left]

/-- A fixed-width value: `enc` writes `n` bytes and `dec` reads them back. -/
def fixed {V : Type} (n : Nat) (enc : ByteOrder → V → Bytes) (dec : ByteOrder → Bytes → V)
    (hlen : ∀ bo v, (enc bo v).length = n) (hdec : ∀ bo v, dec bo (enc bo v) = v) : Wire V where
  size _ := n
  put bo v os := os.push (enc bo v)
  get bo old is :=
    match is.pull n with
    | (some b, is') => (dec bo b, is')
    | (none, is') => (old, is')
  enc := enc
  rebuild _ v := v
  construct mem := mem
  fresh _ := True
  same := Eq
  enc_length := hlen
  put_fits _ _ _ _ _ := rfl
  put_full bo v os h := OutStream.push_full (by rwa [hlen])
  get_enc bo old v rest _ := by simp [InStream.pull_append (hlen bo v), hdec]
  get_failed bo old is h := by simp [h]
  fresh_construct _ := trivial
  same_rebuild _ := rfl
  same_refl _ := rfl

/-- `os << (uint8) v`, `is >> v`. -/
def uint8 : Wire UInt8 :=
  fixed 1 (fun _ v => [v]) (fun _ b => b.headD 0) (fun _ _ => rfl) (fun _ _ => rfl)

/-- `os << (uint16) v`, `is >> v`. -/
def uint16 : Wire UInt16 :=
  fixed 2 ByteOrder.put16 ByteOrder.get16 ByteOrder.put16_length ByteOrder.get16_put16

/-- `os << (uint32) v`, `is >> v`. -/
def uint32 : Wire UInt32 :=
  fixed 4 ByteOrder.put32 ByteOrder.get32 ByteOrder.put32_length ByteOrder.get32_put32

@[simp] theorem size_uint32 (v : UInt32) : uint32.size v = 4 := rfl
@[simp] theorem rebuild_uint32 (old v : UInt32) : uint32.rebuild old v = v := rfl
theorem enc_uint32 (bo : ByteOrder) (v : UInt32) : uint32.enc bo v = bo.put32 v := rfl
theorem put_uint32 (bo : ByteOrder) (v : UInt32) (os : OutStream) :
    uint32.put bo v os = os.push (bo.put32 v) := rfl

/-- An integer is known from its encoding. -/
theorem enc_uint32_inj {bo : ByteOrder} {v v' : UInt32} (h : uint32.enc bo v = uint32.enc bo v') :
    v = v' := by
  rw [← bo.get32_put32 v, ← bo.get32_put32 v']
  exact congrArg bo.get32 h

/-- A count that fits 32 bits is read back as it was. -/
theorem toNat_ofNat_lt {n : Nat} (h : n < 2 ^ 32) : (UInt32.ofNat n).toNat = n := by
  rw [UInt32.toNat_ofNat', Nat.mod_eq_of_lt h]

/-- `WriteString`, `ReadString`: the length in 32 bits, then the bytes. -/
def string : Wire Bytes where
  size s := 4 + s.length
  put bo s os := (uint32.put bo (UInt32.ofNat s.length) os).push s
  get bo old is :=
    match uint32.get bo 0 is with
    | (len, is') =>
      match is'.pull len.toNat with
      | (some s, is'') => (s, is'')
      | (none, is'') => (old, is'')
  enc bo s := bo.put32 (UInt32.ofNat s.length) ++ s
  rebuild _ s := s
  construct _ := []
  fresh _ := True
  same := Eq
  enc_length bo s := by simp
  put_fits bo s os hf h := by
    rw [put_uint32]
    exact OutStream.push_push hf (by simpa using h)
  put_full bo s os h := by
    apply OutStream.push_full
    rcases h with hf | hroom
    · exact Or.inl (uint32.put_full _ _ _ (Or.inl hf))
    · by_cases h4 : os.fail = true ∨ os.room < 4
      · exact Or.inl (uint32.put_full _ _ _ h4)
      · simp only [not_or, Bool.not_eq_true, Nat.not_lt] at h4
        right
        rw [put_uint32, OutStream.push_fits h4.1 (by simpa using h4.2)]
        simp only [ByteOrder.put32_length]
        omega
  get_enc bo old s rest h := by
    rw [List.append_assoc, ← enc_uint32, uint32.get_enc _ _ _ _ (by simp)]
    simp [InStream.pull_append (b := s) (n := s.length) rfl, toNat_ofNat_lt (show s.length < 2 ^ 32 by omega)]
  get_failed bo old is h := by
    have h4 := uint32.get_failed bo 0 is h
    simp [h4]
  fresh_construct _ := trivial
  same_rebuild _ := rfl
  same_refl _ := rfl

/-! ### Arrays: a 32-bit count, then the elements -/

section Array

variable {V : Type} (w : Wire V)

/-- The writer's loop. -/
def putMany (bo : ByteOrder) : List V → OutStream → OutStream
  | [], os => os
  | v :: vs, os => putMany bo vs (w.put bo v os)

/-- The reader's loop: `n` elements, each read into a new variable holding `new` and pushed back.
    It does not look at the failure flag. -/
def getMany (bo : ByteOrder) (new : V) : Nat → List V → InStream → List V × InStream
  | 0, acc, is => (acc, is)
  | n + 1, acc, is => getMany bo new n (acc ++ [(w.get bo new is).1]) (w.get bo new is).2

theorem length_flatMap_enc (bo : ByteOrder) (vs : List V) :
    (vs.flatMap (w.enc bo)).length = (vs.map w.size).sum := by
  simp [List.length_flatMap, w.enc_length]

/-- A list that there is room for is put out, value after value. -/
theorem putMany_fits (bo : ByteOrder) (vs : List V) (os : OutStream) (hf : os.fail = false)
    (h : (vs.map w.size).sum ≤ os.room) : w.putMany bo vs os = os.push (vs.flatMap (w.enc bo)) := by
  induction vs generalizing os with
  | nil => rw [putMany, List.flatMap_nil, OutStream.push_fits hf (by simp)]; simp [← hf]
  | cons v vs ih =>
    simp only [List.map_cons, List.sum_cons] at h
    have hv : os.push (w.enc bo v) = _ := OutStream.push_fits hf (by rw [w.enc_length]; omega)
    rw [putMany, w.put_fits _ _ _ hf (by omega), ih _ (by rw [hv])
      (by rw [hv]; simp only [w.enc_length]; omega), List.flatMap_cons, OutStream.push_push hf]
    rw [List.length_append, w.enc_length, length_flatMap_enc]; exact h

theorem putMany_failed (bo : ByteOrder) (vs : List V) (os : OutStream) (h : os.fail = true) :
    (w.putMany bo vs os).fail = true := by
  induction vs generalizing os with
  | nil => exact h
  | cons v vs ih => exact ih _ (w.put_full _ _ _ (Or.inl h))

/-- One that there is no room for makes the stream fail. -/
theorem putMany_full (bo : ByteOrder) (vs : List V) (os : OutStream)
    (h : os.fail = true ∨ os.room < (vs.map w.size).sum) : (w.putMany bo vs os).fail = true := by
  induction vs generalizing os with
  | nil => simpa [putMany] using h
  | cons v vs ih =>
    simp only [List.map_cons, List.sum_cons] at h
    by_cases hv : os.fail = true ∨ os.room < w.size v
    · exact w.putMany_failed bo vs _ (w.put_full _ _ _ hv)
    · simp only [not_or, Bool.not_eq_true, Nat.not_lt] at hv
      have hfits : w.size v ≤ os.room := hv.2
      refine ih _ (Or.inr ?_)
      rw [w.put_fits _ _ _ hv.1 hfits, OutStream.push_fits hv.1 (by rw [w.enc_length]; exact hfits)]
      have hsum : os.room < w.size v + (vs.map w.size).sum := by simpa [hv.1] using h
      simp only [w.enc_length]; omega

/-- As many values as were put are read back, after those that are there. -/
theorem getMany_enc (bo : ByteOrder) (new : V) (vs acc : List V) (rest : Bytes)
    (h : (vs.map w.size).sum < 2 ^ 32) :
    w.getMany bo new vs.length acc (.ofBytes (vs.flatMap (w.enc bo) ++ rest)) =
      (acc ++ vs.map (w.rebuild new), .ofBytes rest) := by
  induction vs generalizing acc with
  | nil => simp [getMany]
  | cons v vs ih =>
    simp only [List.map_cons, List.sum_cons] at h
    rw [List.length_cons, getMany, List.flatMap_cons, List.append_assoc,
      w.get_enc _ _ _ _ (by omega), ih _ (by omega)]
    simp

theorem getMany_failed (bo : ByteOrder) (new : V) (n : Nat) (acc : List V) (is : InStream)
    (h : is.fail = true) : (w.getMany bo new n acc is).2.fail = true := by
  induction n generalizing acc is with
  | zero => exact h
  | succ n ih => exact ih _ _ (w.get_failed _ _ _ h)

/-- A count and that many elements.  `new` is what a new element holds before it is read, and the
    reader appends to what the vector holds. -/
def array (new : V) (hnew : w.fresh new) (hpos : ∀ v, 0 < w.size v) : Wire (List V) where
  size vs := 4 + (vs.map w.size).sum
  put bo vs os := w.putMany bo vs (uint32.put bo (UInt32.ofNat vs.length) os)
  get bo old is :=
    match uint32.get bo 0 is with
    | (n, is') => w.getMany bo new n.toNat old is'
  enc bo vs := bo.put32 (UInt32.ofNat vs.length) ++ vs.flatMap (w.enc bo)
  rebuild old vs := old ++ vs.map (w.rebuild new)
  construct _ := []
  fresh old := old = []
  same := List.Forall₂ w.same
  enc_length bo vs := by simp [List.length_flatMap, w.enc_length]
  put_fits bo vs os hf h := by
    have h4 : os.push (bo.put32 (UInt32.ofNat vs.length)) = _ :=
      OutStream.push_fits hf (by rw [ByteOrder.put32_length]; omega)
    have hroom : (vs.map w.size).sum ≤ os.room - 4 := by omega
    rw [put_uint32, w.putMany_fits bo vs _ (by rw [h4]) (by rw [h4]; simpa using hroom),
      OutStream.push_push hf]
    rw [List.length_append, ByteOrder.put32_length, length_flatMap_enc]; exact h
  put_full bo vs os h := by
    by_cases h4 : os.fail = true ∨ os.room < 4
    · exact w.putMany_failed bo vs _ (uint32.put_full _ _ _ h4)
    · simp only [not_or, Bool.not_eq_true, Nat.not_lt] at h4
      refine w.putMany_full bo vs _ (Or.inr ?_)
      have hsum : os.room < 4 + (vs.map w.size).sum := by simpa [h4.1] using h
      rw [put_uint32, OutStream.push_fits h4.1 (by simpa using h4.2)]
      simp only [ByteOrder.put32_length]; omega
  get_enc bo old vs rest h := by
    have hlen : vs.length ≤ (vs.map w.size).sum := by
      clear h
      induction vs with
      | nil => simp
      | cons v vs ih =>
        have := hpos v
        simp only [List.length_cons, List.map_cons, List.sum_cons]; omega
    rw [List.append_assoc, ← enc_uint32, uint32.get_enc _ _ _ _ (by simp)]
    simp only [rebuild_uint32, toNat_ofNat_lt (show vs.length < 2 ^ 32 by omega)]
    exact w.getMany_enc bo new vs old rest (by omega)
  get_failed bo old is h := w.getMany_failed bo new _ old _ (uint32.get_failed bo 0 is h)
  fresh_construct _ := rfl
  same_rebuild {old vs} hold := by
    subst hold
    rw [List.nil_append, List.forall₂_map_left_iff]
    exact List.forall₂_same.mpr fun v _ => w.same_rebuild hnew
  same_refl vs := List.forall₂_same.mpr fun v _ => w.same_refl v

end Array

/-- An array of 32-bit integers. -/
def uint32s : Wire (List UInt32) := array uint32 0 trivial fun _ => by simp

/-! ### Readers that accept nothing but encodings -/

/-- A read that does not fail has found the encoding of what it has read, and left the rest. -/
structure Exact {V : Type} (w : Wire V) : Prop where
  found : ∀ bo old is, w.fresh old → (w.get bo old is).2.fail = false →
    ∃ rest, is = .ofBytes (w.enc bo (w.get bo old is).1 ++ rest) ∧
      (w.get bo old is).2 = .ofBytes rest

/-- A format of fixed width is exact if decoding can be undone. -/
theorem exact_fixed {V : Type} {n : Nat} {enc : ByteOrder → V → Bytes} {dec : ByteOrder → Bytes → V}
    {hlen : ∀ bo v, (enc bo v).length = n} {hdec : ∀ bo v, dec bo (enc bo v) = v}
    (h : ∀ bo b, b.length = n → enc bo (dec bo b) = b) : (fixed n enc dec hlen hdec).Exact where
  found bo old is _ hok := by
    simp only [fixed] at hok ⊢
    rcases InStream.pull_cases n is with ⟨hpull, _⟩ | ⟨b, rest, hb, rfl, hpull⟩
    · rw [hpull] at hok
      cases hok
    · rw [hpull]
      exact ⟨rest, by rw [h bo b hb], rfl⟩

theorem exact_uint8 : uint8.Exact := exact_fixed fun _ b hb => by
  obtain ⟨d, rfl⟩ := List.length_eq_one_iff.mp hb
  rfl

theorem exact_uint16 : uint16.Exact := exact_fixed ByteOrder.put16_get16

theorem exact_uint32 : uint32.Exact := exact_fixed ByteOrder.put32_get32

/-- A string that is read has a length of 32 bits. -/
theorem length_string_lt {bo : ByteOrder} {old : Bytes} {is : InStream}
    (hok : (string.get bo old is).2.fail = false) : (string.get bo old is).1.length < 2 ^ 32 := by
  simp only [string] at hok ⊢
  rcases InStream.pull_cases (uint32.get bo 0 is).1.toNat (uint32.get bo 0 is).2 with
    ⟨hpull, _⟩ | ⟨s, rest, hs, _, hpull⟩
  · rw [hpull] at hok
    cases hok
  · rw [hpull]
    show s.length < 2 ^ 32
    rw [hs]
    exact (uint32.get bo 0 is).1.toNat_lt

/-- So are strings, which are read to their length. -/
theorem exact_string : string.Exact where
  found bo old is _ hok := by
    have hlen : (uint32.get bo 0 is).2.fail = false := by
      cases hfail : (uint32.get bo 0 is).2.fail with
      | false => rfl
      | true => simp [string, hfail] at hok
    obtain ⟨rest, his, hrest⟩ := exact_uint32.found bo 0 is trivial hlen
    simp only [string] at hok ⊢
    rcases InStream.pull_cases (uint32.get bo 0 is).1.toNat (uint32.get bo 0 is).2 with
      ⟨hpull, _⟩ | ⟨s, rest', hs, hstream, hpull⟩
    · rw [hpull] at hok
      cases hok
    · obtain rfl : rest = s ++ rest' := congrArg InStream.data (hrest.symm.trans hstream)
      rw [hpull]
      refine ⟨rest', ?_, rfl⟩
      show is = .ofBytes ((bo.put32 (UInt32.ofNat s.length) ++ s) ++ rest')
      rw [hs, UInt32.ofNat_toNat, List.append_assoc]
      exact his

section Array

variable {V : Type} {w : Wire V}

/-- A loop that has not failed had not failed when it started. -/
theorem getMany_ok {bo : ByteOrder} {new : V} {n : Nat} {acc : List V} {is : InStream}
    (hok : (w.getMany bo new n acc is).2.fail = false) : is.fail = false := by
  cases hfail : is.fail with
  | false => rfl
  | true => exact (w.getMany_failed bo new n acc is hfail).symm.trans hok

/-- The loop, if nothing in it fails, has found the encodings of what it has pushed back. -/
theorem getMany_found (h : w.Exact) {bo : ByteOrder} {new : V} (hnew : w.fresh new) {n : Nat}
    {acc : List V} {is : InStream} (hok : (w.getMany bo new n acc is).2.fail = false) :
    ∃ vs rest, (w.getMany bo new n acc is) = (acc ++ vs, .ofBytes rest) ∧ vs.length = n ∧
      is = .ofBytes (vs.flatMap (w.enc bo) ++ rest) := by
  induction n generalizing acc is with
  | zero =>
    obtain ⟨data, fail⟩ := is
    obtain rfl : fail = false := hok
    exact ⟨[], data, by rw [List.append_nil]; rfl, rfl, rfl⟩
  | succ n ih =>
    have hrestOk : (w.getMany bo new n (acc ++ [(w.get bo new is).1]) (w.get bo new is).2).2.fail =
        false := hok
    have hfirst : (w.get bo new is).2.fail = false := getMany_ok hrestOk
    obtain ⟨rest₁, his, hrest₁⟩ := h.found bo new is hnew hfirst
    obtain ⟨vs, rest, hget, hlen, hstream⟩ := ih hok
    have hdata : rest₁ = vs.flatMap (w.enc bo) ++ rest :=
      congrArg InStream.data (hrest₁.symm.trans hstream)
    refine ⟨(w.get bo new is).1 :: vs, rest, ?_, by rw [List.length_cons, hlen], ?_⟩
    · rw [getMany, hget, List.append_assoc]
      rfl
    · rw [List.flatMap_cons, List.append_assoc, ← hdata]
      exact his

/-- And arrays of what is exact. -/
theorem exact_array (h : w.Exact) (new : V) (hnew : w.fresh new) (hpos : ∀ v, 0 < w.size v) :
    (array w new hnew hpos).Exact where
  found bo old is hold hok := by
    obtain rfl : old = [] := hold
    have hloop : (w.getMany bo new (uint32.get bo 0 is).1.toNat [] (uint32.get bo 0 is).2).2.fail =
        false := hok
    have hcount : (uint32.get bo 0 is).2.fail = false := getMany_ok hloop
    obtain ⟨rest₁, his, hrest₁⟩ := exact_uint32.found bo 0 is trivial hcount
    obtain ⟨vs, rest, hget, hlen, hstream⟩ := getMany_found h hnew hok
    have hdata : rest₁ = vs.flatMap (w.enc bo) ++ rest :=
      congrArg InStream.data (hrest₁.symm.trans hstream)
    have hvs : (array w new hnew hpos).get bo [] is = (vs, .ofBytes rest) := hget
    refine ⟨rest, ?_, congrArg Prod.snd hvs⟩
    rw [hvs]
    show is = .ofBytes ((bo.put32 (UInt32.ofNat vs.length) ++ vs.flatMap (w.enc bo)) ++ rest)
    rw [hlen, UInt32.ofNat_toNat, List.append_assoc, ← hdata]
    exact his

theorem exact_uint32s : uint32s.Exact := exact_array exact_uint32 _ _ _

end Array

end Wire

end Zattd
