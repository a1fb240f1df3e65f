/-
  What a statement does at ONE PLACE of a table.

  No statement moves a row: what is inserted comes last, what is updated stays where it is.  So the
  place of a row is its identity, and the history of a row is what happens at its place.
-/
import Zattd.Lib.Table

set_option linter.unusedVariables false

namespace Zattd.Table

variable {R V : Type} {p : R → Bool} {f : R → R} {t t' : List R} {k : Nat}

/-- A row is updated in its place, or left alone. -/
theorem getElem?_updateAll (p : R → Bool) (f : R → R) (t : List R) (k : Nat) :
    (updateAll p f t)[k]? = t[k]? ∨
      ∃ r, t[k]? = some r ∧ p r = true ∧ (updateAll p f t)[k]? = some (f r) := by
  unfold updateAll
  rw [List.getElem?_map]
  cases t[k]? with
  | none => exact Or.inl rfl
  | some r =>
    by_cases hp : p r = true
    · exact Or.inr ⟨r, rfl, hp, by simp [hp]⟩
    · exact Or.inl (by simp [hp])

section Updates

variable [DecidableEq R]

/-- So it is where some of the rows are updated. -/
theorem Touch.getElem? {m n : Nat} (h : Touch p f t m n t') (k : Nat) :
    t'[k]? = t[k]? ∨ ∃ r, t[k]? = some r ∧ p r = true ∧ t'[k]? = some (f r) := by
  induction h generalizing k with
  | nil => exact Or.inl rfl
  | leave _ ih =>
    cases k with
    | zero => exact Or.inl rfl
    | succ k => exact ih k
  | hit hp _ ih =>
    cases k with
    | zero => exact Or.inr ⟨_, rfl, hp, rfl⟩
    | succ k => exact ih k

/-- And by an UPDATE with a limit. -/
theorem UpdatesLimit.getElem? {limit n : Nat} (h : UpdatesLimit p f limit t n t') (k : Nat) :
    t'[k]? = t[k]? ∨ ∃ r, t[k]? = some r ∧ p r = true ∧ t'[k]? = some (f r) := by
  obtain ⟨m, htouch, -⟩ := h
  exact htouch.getElem? k

end Updates

/-- What is inserted is at places where nothing was. -/
theorem Inserts.getElem? {key : R → Int} {rows : List (Int → R)} {keys : List Int}
    (h : Inserts key rows t keys t') (k : Nat) :
    t'[k]? = t[k]? ∨ t[k]? = none ∧ ∃ row ∈ rows, ∃ id, t'[k]? = some (row id) := by
  obtain ⟨-, -, -, rfl⟩ := h
  rcases Nat.lt_or_ge k t.length with hlt | hge
  · exact Or.inl (List.getElem?_append_left hlt)
  · rw [List.getElem?_append_right hge, List.getElem?_eq_none hge]
    cases hnew : (List.zipWith (fun mk k => mk k) rows keys)[k - t.length]? with
    | none => exact Or.inl rfl
    | some r =>
      obtain ⟨row, id, hrow, hid, rfl⟩ := List.getElem?_zipWith_eq_some.mp hnew
      exact Or.inr ⟨rfl, row, List.mem_of_getElem? hrow, id, rfl⟩

/-- What is inserted comes last. -/
theorem Inserts.map_prefix {key : R → Int} {rows : List (Int → R)} {keys : List Int} (f : R → V)
    (h : Inserts key rows t keys t') : t.map f <+: t'.map f := by
  obtain ⟨-, -, -, rfl⟩ := h
  rw [List.map_append]
  exact List.prefix_append _ _

/-- In a table that has grown, a row is still there, with the columns that do not change. -/
theorem exists_of_prefix {fixed : R → V} (h : t.map fixed <+: t'.map fixed) {r : R} (hr : r ∈ t) :
    ∃ r' ∈ t', fixed r' = fixed r := List.mem_map.mp (h.subset (List.mem_map_of_mem hr))

end Zattd.Table
