/-
  String literals in SINGLE quotes, as a SQL server reads them.

  Between its quotes, a literal is bytes that stand for themselves, a quote written twice, and
  backslashes that say what the byte after them stands for.  `readBody` reads a literal from behind
  its opening quote; `Lexes` reads a text as bytes and literals.  What the bytes outside the literals
  mean is not asked.

  A string printed between two quotes as it is need not be a literal for itself.  It is if and only
  if it is VERBATIM (`readBody_iff`): it has no quote, and a backslash only where the backslash itself
  is kept, before `%` and before `_`.
-/
import Mathlib

set_option linter.unusedVariables false

namespace Zattd.Literal

def quote : UInt8 := 39

def backslash : UInt8 := 92

/-- The byte keeps the backslash before it: `%` and `_`. -/
def keepsBackslash (c : UInt8) : Bool := c = 37 || c = 95

/-- What a backslash and the byte after it stand for. -/
def unescape (c : UInt8) : List UInt8 :=
  if c = 48 then [0]
  else if c = 98 then [8]
  else if c = 110 then [10]
  else if c = 114 then [13]
  else if c = 116 then [9]
  else if c = 90 then [26]
  else if keepsBackslash c then [backslash, c]
  else [c]

/-- Read a literal from behind its opening quote: the string it stands for, and what follows its
    closing quote.  A literal that is not closed is none. -/
def readBody : List UInt8 → Option (List UInt8 × List UInt8)
  | [] => none
  | c :: rest =>
    if c = quote then
      match rest with
      | [] => some ([], [])
      | c' :: rest' =>
        if c' = quote then (readBody rest').map fun x => (quote :: x.1, x.2) else some ([], rest)
    else if c = backslash then
      match rest with
      | [] => none
      | e :: rest' => (readBody rest').map fun x => (unescape e ++ x.1, x.2)
    else
      (readBody rest).map fun x => (c :: x.1, x.2)

/-- A string that is a literal for itself when it is printed between quotes. -/
def isVerbatim : List UInt8 → Bool
  | [] => true
  | c :: rest =>
    if c = quote then false
    else if c = backslash then
      match rest with
      | [] => false
      | e :: rest' => keepsBackslash e && isVerbatim rest'
    else isVerbatim rest

/-! ## Reading the body -/

/-- Reading on behind what is in front of the literal. -/
theorem map_eq_some {o : Option (List UInt8 × List UInt8)} {f : List UInt8 → List UInt8}
    {s rest : List UInt8} (h : o.map (fun x => (f x.1, x.2)) = some (s, rest)) :
    ∃ s', o = some (s', rest) ∧ s = f s' := by
  obtain ⟨⟨s', rest'⟩, ho, heq⟩ := Option.map_eq_some_iff.mp h
  obtain ⟨hs, hrest⟩ := Prod.mk.inj heq
  exact ⟨s', by rw [ho, ← hrest], hs.symm⟩

/-- An escape stands for no more bytes than it has, and for itself if it stands for as many. -/
theorem unescape_length (c : UInt8) : (unescape c).length ≤ 2 ∧
    ((unescape c).length = 2 → keepsBackslash c = true ∧ unescape c = [backslash, c]) := by
  unfold unescape
  repeat' split
  all_goals simp_all

/-- Before `%` and `_` a backslash stands for itself. -/
theorem unescape_keeps {c : UInt8} (h : keepsBackslash c = true) : unescape c = [backslash, c] := by
  have hc : c = 37 ∨ c = 95 := by simpa [keepsBackslash] using h
  rcases hc with rfl | rfl <;> rfl

/-- Two quotes are one that belongs to the string. -/
theorem readBody_quote_quote (t : List UInt8) :
    readBody (quote :: quote :: t) = (readBody t).map fun x => (quote :: x.1, x.2) := by
  simp [readBody]

/-- A single one ends it. -/
theorem readBody_quote {t : List UInt8} (ht : t.head? ≠ some quote) :
    readBody (quote :: t) = some ([], t) := by
  cases t with
  | nil => simp [readBody]
  | cons c t =>
    have hc : c ≠ quote := fun h => ht (by rw [h]; rfl)
    simp [readBody, hc]

/-- A backslash takes the next byte with it. -/
theorem readBody_backslash (e : UInt8) (t : List UInt8) :
    readBody (backslash :: e :: t) = (readBody t).map fun x => (unescape e ++ x.1, x.2) := by
  simp [readBody, show backslash ≠ quote from by decide]

/-- Any other byte is itself. -/
theorem readBody_plain {c : UInt8} (t : List UInt8) (hq : c ≠ quote) (hb : c ≠ backslash) :
    readBody (c :: t) = (readBody t).map fun x => (c :: x.1, x.2) := by
  cases t <;> simp [readBody, hq, hb]

/-- At least the closing quote is consumed. -/
theorem readBody_length : ∀ {t s rest : List UInt8}, readBody t = some (s, rest) →
    rest.length < t.length
  | [], s, rest, h => by cases h
  | [c], s, rest, h => by
    simp only [readBody] at h
    split at h
    · cases h
      simp
    · split at h <;> cases h
  | c :: c' :: t, s, rest, h => by
    simp only [readBody] at h
    split at h
    · split at h
      · obtain ⟨s', hread, rfl⟩ := map_eq_some h
        have hlt := readBody_length hread
        simp only [List.length_cons]
        omega
      · cases h
        simp
    · split at h
      · obtain ⟨s', hread, rfl⟩ := map_eq_some h
        have hlt := readBody_length hread
        simp only [List.length_cons]
        omega
      · obtain ⟨s', hread, rfl⟩ := map_eq_some h
        have hlt := readBody_length hread
        simp only [List.length_cons] at hlt ⊢
        omega

/-- A literal that ends at the end of the text it is read from is closed by no quote inside. -/
theorem readBody_ne {t s : List UInt8} : readBody t ≠ some (s, t) := by
  intro h
  exact absurd (readBody_length h) (Nat.lt_irrefl _)

theorem isVerbatim_quote (t : List UInt8) : isVerbatim (quote :: t) = false := by
  cases t <;> simp [isVerbatim]

theorem isVerbatim_backslash (e : UInt8) (t : List UInt8) :
    isVerbatim (backslash :: e :: t) = (keepsBackslash e && isVerbatim t) := by
  simp [isVerbatim, show backslash ≠ quote from by decide]

theorem isVerbatim_plain {c : UInt8} (t : List UInt8) (hq : c ≠ quote) (hb : c ≠ backslash) :
    isVerbatim (c :: t) = isVerbatim t := by
  cases t <;> simp [isVerbatim, hq, hb]

section Printed

variable {post : List UInt8}

/-- A verbatim string between quotes is a literal for itself. -/
theorem readBody_verbatim (hpost : post.head? ≠ some quote) :
    ∀ {s : List UInt8}, isVerbatim s = true → readBody (s ++ quote :: post) = some (s, post)
  | [], _ => readBody_quote hpost
  | [c], h => by
    by_cases hq : c = quote
    · rw [hq, isVerbatim_quote] at h
      cases h
    by_cases hb : c = backslash
    · rw [hb] at h
      cases h
    rw [List.singleton_append, readBody_plain _ hq hb, readBody_quote hpost]
    rfl
  | c :: e :: s, h => by
    by_cases hq : c = quote
    · rw [hq, isVerbatim_quote] at h
      cases h
    by_cases hb : c = backslash
    · rw [hb, isVerbatim_backslash] at h
      obtain ⟨he, hs⟩ := Bool.and_eq_true_iff.mp h
      have hread := readBody_verbatim hpost hs
      rw [hb, List.cons_append, List.cons_append, readBody_backslash, hread, unescape_keeps he]
      rfl
    · rw [isVerbatim_plain _ hq hb] at h
      have hread := readBody_verbatim hpost h
      rw [List.cons_append, readBody_plain _ hq hb, hread]
      rfl

/-- A string `p` between quotes, read as a literal that ends at the second quote, stands for no more
    bytes than it has; and if it stands for as many, it stands for itself, and is verbatim. -/
theorem readBody_printed (hpost : post.head? ≠ some quote) :
    ∀ {p s : List UInt8}, readBody (p ++ quote :: post) = some (s, post) →
      s.length ≤ p.length ∧ (s.length = p.length → s = p ∧ isVerbatim p = true)
  | [], s, h => by
    rw [List.nil_append, readBody_quote hpost] at h
    cases h
    exact ⟨Nat.le_refl _, fun _ => ⟨rfl, rfl⟩⟩
  | [c], s, h => by
    by_cases hq : c = quote
    · -- the two quotes are one, and the literal goes on behind them
      subst hq
      rw [List.singleton_append, readBody_quote_quote] at h
      obtain ⟨s', hread, rfl⟩ := map_eq_some h
      exact absurd hread readBody_ne
    by_cases hb : c = backslash
    · -- the closing quote is escaped
      subst hb
      rw [List.singleton_append, readBody_backslash] at h
      obtain ⟨s', hread, rfl⟩ := map_eq_some h
      exact absurd hread readBody_ne
    rw [List.singleton_append, readBody_plain _ hq hb, readBody_quote hpost] at h
    cases h
    exact ⟨Nat.le_refl _, fun _ => ⟨rfl, isVerbatim_plain [] hq hb⟩⟩
  | c :: e :: p, s, h => by
    by_cases hq : c = quote
    · subst hq
      by_cases he : e = quote
      · -- two quotes stand for one
        subst he
        rw [List.cons_append, List.cons_append, readBody_quote_quote] at h
        obtain ⟨s', hread, rfl⟩ := map_eq_some h
        have hle := (readBody_printed hpost hread).1
        simp only [List.length_cons]
        exact ⟨by omega, fun _ => by omega⟩
      · -- the literal ends at once
        have hhead : (e :: p ++ quote :: post).head? ≠ some quote := fun h => he (Option.some.inj h)
        rw [List.cons_append, readBody_quote hhead] at h
        injection h with h
        have hlen := congrArg List.length (Prod.mk.inj h).2
        simp only [List.length_append, List.length_cons] at hlen
        omega
    by_cases hb : c = backslash
    · subst hb
      rw [List.cons_append, List.cons_append, readBody_backslash] at h
      obtain ⟨s', hread, rfl⟩ := map_eq_some h
      obtain ⟨hle, hsame⟩ := readBody_printed hpost hread
      obtain ⟨hshort, hkept⟩ := unescape_length e
      simp only [List.length_append, List.length_cons]
      refine ⟨by omega, fun hlen => ?_⟩
      obtain ⟨rfl, hverbatim⟩ := hsame (by omega)
      obtain ⟨hkeeps, hescape⟩ := hkept (by omega)
      refine ⟨by rw [hescape]; rfl, ?_⟩
      rw [isVerbatim_backslash]
      exact Bool.and_eq_true_iff.mpr ⟨hkeeps, hverbatim⟩
    · rw [List.cons_append, readBody_plain _ hq hb] at h
      obtain ⟨s', hread, rfl⟩ := map_eq_some h
      obtain ⟨hle, hsame⟩ := readBody_printed hpost hread
      simp only [List.length_cons] at hle hsame ⊢
      refine ⟨by omega, fun hlen => ?_⟩
      obtain ⟨rfl, hverbatim⟩ := hsame (by omega)
      exact ⟨rfl, (isVerbatim_plain _ hq hb).trans hverbatim⟩

/-- **Printed as it is**, a string is a literal for itself if and only if it is verbatim. -/
theorem readBody_iff (hpost : post.head? ≠ some quote) {s : List UInt8} :
    readBody (s ++ quote :: post) = some (s, post) ↔ isVerbatim s = true :=
  ⟨fun h => ((readBody_printed hpost h).2 rfl).2, readBody_verbatim hpost⟩

end Printed

/-! ## Reading a text -/

/-- A byte outside the literals, or a literal with the string it stands for. -/
inductive Token
  | code (c : UInt8)
  | literal (s : List UInt8)

/-- `Lexes t ts`: the text `t` is read as `ts`. -/
inductive Lexes : List UInt8 → List Token → Prop
  | nil : Lexes [] []
  | code {c : UInt8} {t : List UInt8} {ts : List Token} : c ≠ quote → Lexes t ts →
      Lexes (c :: t) (.code c :: ts)
  | literal {s t rest : List UInt8} {ts : List Token} : readBody t = some (s, rest) →
      Lexes rest ts → Lexes (quote :: t) (.literal s :: ts)

/-- A text with one literal. -/
def withLiteral (pre s post : List UInt8) : List Token :=
  pre.map Token.code ++ .literal s :: post.map Token.code

/-- What is read as bytes only is these bytes. -/
theorem lexes_code {t post : List UInt8} (h : Lexes t (post.map Token.code)) : t = post := by
  induction post generalizing t with
  | nil => cases h; rfl
  | cons c post ih =>
    cases h with
    | code _ hrest => rw [ih hrest]

/-- Without a quote, all of a text is code. -/
theorem Lexes.of_code {post : List UInt8} (h : quote ∉ post) : Lexes post (post.map Token.code) := by
  induction post with
  | nil => exact .nil
  | cons c post ih =>
    rw [List.mem_cons, not_or] at h
    exact .code (fun hc => h.1 hc.symm) (ih h.2)

/-- A text is read as bytes and one literal exactly if its first quote opens that literal. -/
theorem lexes_withLiteral_iff {pre pre' rest s post : List UInt8} (hpre : quote ∉ pre)
    (hpost : quote ∉ post) : Lexes (pre ++ quote :: rest) (withLiteral pre' s post) ↔
      pre' = pre ∧ readBody rest = some (s, post) := by
  induction pre generalizing pre' with
  | nil =>
    constructor
    · intro h
      cases pre' with
      | nil =>
        cases h with
        | literal hread hrest => exact ⟨rfl, by rw [hread, lexes_code hrest]⟩
      | cons c pre' =>
        cases h with
        | code hc _ => exact absurd rfl hc
    · rintro ⟨rfl, hread⟩
      exact .literal hread (.of_code hpost)
  | cons c pre ih =>
    rw [List.mem_cons, not_or] at hpre
    constructor
    · intro h
      cases pre' with
      | nil =>
        cases h with
        | literal _ _ => exact absurd rfl hpre.1
      | cons c' pre' =>
        cases h with
        | code _ hrest =>
          obtain ⟨rfl, hread⟩ := (ih hpre.2).mp hrest
          exact ⟨rfl, hread⟩
    · rintro ⟨rfl, hread⟩
      exact .code (fun hc => hpre.1 hc.symm) ((ih hpre.2).mpr ⟨rfl, hread⟩)

end Zattd.Literal
