/-
  SQL tables as lists of rows, and what the four kinds of statement may do to one.

  A statement is not a function.  A query without a full ORDER BY may return its rows in any order
  that agrees with it, a GROUP BY may pick any row of a group, an UPDATE with a LIMIT may pick which
  of the matching rows it updates, an AUTO_INCREMENT key may be any value not in use.  So each kind
  is a RELATION between the table before, the answer, and the table after:

  * `Selects`, `SelectsLimit`, `SelectsOneEach` — queries;
  * `UpdatesLimit`, and the function `updateAll` for an UPDATE without LIMIT;
  * `Inserts` — with fresh keys.

  Next to each stands one way to do it (`select`, `selectOneEach`, `updateFirst`, `insert`): so the
  relations can be satisfied, and a run can be computed.
-/
import Mathlib

set_option linter.unusedVariables false

namespace Zattd.Table

variable {R K : Type}

/-! ## Queries -/

section Queries

variable [LinearOrder K]

/-- `SELECT … WHERE p ORDER BY key`: the matching rows, each as often as it is there, in an order
    that agrees with `key`.  No ORDER BY is a key in `Unit`; DESC is a negated key. -/
def Selects (p : R → Bool) (key : R → K) (t res : List R) : Prop :=
  res.Perm (t.filter p) ∧ res.Pairwise fun a b => key a ≤ key b

/-- The same with `LIMIT offset, n`. -/
def SelectsLimit (p : R → Bool) (key : R → K) (offset n : Nat) (t res : List R) : Prop :=
  ∃ all, Selects p key t all ∧ res = (all.drop offset).take n

/-- The matching rows sorted by insertion, ties in table order. -/
def select (p : R → Bool) (key : R → K) (t : List R) : List R :=
  (t.filter p).insertionSort fun a b => key a ≤ key b

/-- The rows in table order are one answer to a query. -/
theorem select_selects (p : R → Bool) (key : R → K) (t : List R) :
    Selects p key t (select p key t) := by
  have : Std.Total fun a b : R => key a ≤ key b := ⟨fun a b => le_total (key a) (key b)⟩
  have : IsTrans R fun a b => key a ≤ key b := ⟨fun _ _ _ hab hbc => hab.trans hbc⟩
  exact ⟨List.perm_insertionSort _ _, List.pairwise_insertionSort _ _⟩

/-- A row is in an answer if and only if it is in the table and meets the condition. -/
theorem Selects.mem_iff {p : R → Bool} {key : R → K} {t res : List R} (h : Selects p key t res)
    (r : R) : r ∈ res ↔ r ∈ t ∧ p r = true := by
  rw [h.1.mem_iff, List.mem_filter]

/-- With a limit, what is in an answer is in the table and meets the condition. -/
theorem SelectsLimit.mem {p : R → Bool} {key : R → K} {offset n : Nat} {t res : List R}
    (h : SelectsLimit p key offset n t res) {r : R} (hr : r ∈ res) : r ∈ t ∧ p r = true := by
  obtain ⟨all, hall, rfl⟩ := h
  exact (hall.mem_iff r).mp (List.mem_of_mem_drop (List.mem_of_mem_take hr))

/-- A query for one value of a key that no two rows share answers the one row or none. -/
theorem Selects.unique {V : Type} [DecidableEq V] {f : R → V} {v : V} {key : R → K} {t res : List R}
    (h : Selects (fun r => decide (f r = v)) key t res) (hkey : (t.map f).Nodup) :
    (res = [] ∧ ∀ r ∈ t, f r ≠ v) ∨ ∃ r ∈ t, f r = v ∧ res = [r] := by
  have hmem : ∀ r, r ∈ res ↔ r ∈ t ∧ f r = v := fun r => by simpa using h.mem_iff r
  rcases res with _ | ⟨r, _ | ⟨r', rest⟩⟩
  · exact Or.inl ⟨rfl, fun r hr hv => by simpa using (hmem r).mpr ⟨hr, hv⟩⟩
  · exact Or.inr ⟨r, ((hmem r).mp (by simp)).1, ((hmem r).mp (by simp)).2, rfl⟩
  · -- two rows with one value of the key
    have hnodup : ((r :: r' :: rest).map f).Nodup :=
      ((h.1.map f).nodup_iff).mpr (hkey.sublist (List.filter_sublist.map f))
    have hr : f r = v := ((hmem r).mp (by simp)).2
    have hr' : f r' = v := ((hmem r').mp (by simp)).2
    simp [hr, hr'] at hnodup

/-- At most one row has a given value of a key that no two rows share. -/
theorem countP_unique {V : Type} [DecidableEq V] {f : R → V} {t : List R} (hkey : (t.map f).Nodup)
    (v : V) : t.countP (fun r => decide (f r = v)) ≤ 1 := by
  have hcount : (t.map f).count v = t.countP fun r => decide (f r = v) := by
    rw [List.count, List.countP_map]
    apply List.countP_congr
    intro r _
    simp
  rw [← hcount]
  exact List.nodup_iff_count_le_one.mp hkey v

/-- An answer has no more rows than the table. -/
theorem SelectsLimit.length_le {p : R → Bool} {key : R → K} {offset n : Nat} {t res : List R}
    (h : SelectsLimit p key offset n t res) : res.length ≤ t.length := by
  obtain ⟨all, hall, rfl⟩ := h
  have htaken : ((all.drop offset).take n).length ≤ all.length := by
    rw [List.length_take, List.length_drop]
    omega
  have hmatching : all.length ≤ t.length := by
    rw [hall.1.length_eq]
    exact List.length_filter_le _ _
  exact htaken.trans hmatching

/-- Nor more than its limit. -/
theorem SelectsLimit.length_le_limit {p : R → Bool} {key : R → K} {offset n : Nat} {t res : List R}
    (h : SelectsLimit p key offset n t res) : res.length ≤ n := by
  obtain ⟨all, -, rfl⟩ := h
  exact List.length_take_le n _

/-- A limit that the matching rows do not exceed does nothing. -/
theorem SelectsLimit.of_le {p : R → Bool} {key : R → K} {n : Nat} {t res : List R}
    (h : SelectsLimit p key 0 n t res) (hn : t.countP p ≤ n) : Selects p key t res := by
  obtain ⟨all, hall, rfl⟩ := h
  have hlen : all.length ≤ n := by rw [hall.1.length_eq, ← List.countP_eq_length_filter]; exact hn
  rw [List.drop_zero, List.take_of_length_le hlen]
  exact hall

/-- An answer shorter than its limit has every matching row. -/
theorem SelectsLimit.mem_of_short {p : R → Bool} {key : R → K} {n : Nat} {t res : List R}
    (h : SelectsLimit p key 0 n t res) (hshort : res.length < n) {r : R} (hr : r ∈ t)
    (hp : p r = true) : r ∈ res := by
  obtain ⟨all, hall, rfl⟩ := h
  rw [List.drop_zero, List.length_take] at hshort
  rw [List.drop_zero, List.take_of_length_le (by omega)]
  exact (hall.mem_iff r).mpr ⟨hr, hp⟩

/-- A row within the limit has fewer rows before it than the limit. -/
theorem SelectsLimit.countP_lt {p : R → Bool} {key : R → K} {n : Nat} {t res : List R}
    (h : SelectsLimit p key 0 n t res) {r : R} (hr : r ∈ res) :
    t.countP (fun x => p x && decide (key x < key r)) < n := by
  obtain ⟨all, ⟨hperm, hsorted⟩, rfl⟩ := h
  rw [List.drop_zero] at hr
  have hcount : t.countP (fun x => p x && decide (key x < key r)) =
      all.countP fun x => decide (key x < key r) := by
    rw [hperm.countP_eq, List.countP_filter]
    exact List.countP_congr fun x _ => by rw [Bool.and_comm]
  rw [← List.take_append_drop n all] at hsorted
  obtain ⟨-, -, hsplit⟩ := List.pairwise_append.mp hsorted
  -- nothing after the limit comes before the row, and the row does not come before itself
  have hdrop : (all.drop n).countP (fun x => decide (key x < key r)) = 0 :=
    List.countP_eq_zero.mpr fun x hx hlt => absurd (of_decide_eq_true hlt) (hsplit r hr x hx).not_gt
  have htake : (all.take n).countP (fun x => decide (key x < key r)) < (all.take n).length := by
    apply lt_of_le_of_ne List.countP_le_length
    intro heq
    exact absurd (of_decide_eq_true (List.countP_eq_length.mp heq r hr)) (lt_irrefl _)
  rw [hcount, ← List.take_append_drop n all, List.countP_append, hdrop, Nat.add_zero]
  exact htake.trans_le (List.length_take_le n all)

/-- A matching row with fewer rows before it than the limit is within the limit of some answer. -/
theorem exists_selectsLimit [DecidableEq R] {p : R → Bool} {key : R → K} {n : Nat} {t : List R}
    {r : R} (hr : r ∈ t) (hp : p r = true)
    (hcount : t.countP (fun x => p x && decide (key x < key r)) < n) :
    ∃ res, SelectsLimit p key 0 n t res ∧ r ∈ res := by
  -- among rows with its key, the row comes first
  obtain ⟨hperm, hsorted⟩ := select_selects p (fun x => toLex (key x, decide (x ≠ r))) t
  generalize select p (fun x => toLex (key x, decide (x ≠ r))) t = all at hperm hsorted
  have hkeys : all.Pairwise fun a b => key a ≤ key b := by
    apply hsorted.imp
    intro a b hle
    rcases Prod.Lex.le_iff.mp hle with hlt | ⟨heq, -⟩
    · exact le_of_lt hlt
    · exact le_of_eq heq
  refine ⟨all.take n, ⟨all, ⟨hperm, hkeys⟩, by rw [List.drop_zero]⟩, ?_⟩
  by_contra hout
  have hmem : r ∈ all := hperm.mem_iff.mpr (List.mem_filter.mpr ⟨hr, hp⟩)
  rw [← List.take_append_drop n all] at hmem hsorted
  have hdrop : r ∈ all.drop n := (List.mem_append.mp hmem).resolve_left hout
  obtain ⟨-, -, hsplit⟩ := List.pairwise_append.mp hsorted
  have hbefore : ∀ x ∈ all.take n, decide (key x < key r) = true := by
    intro x hx
    have hne : x ≠ r := fun heq => hout (heq ▸ hx)
    rcases Prod.Lex.le_iff.mp (hsplit x hx r hdrop) with hlt | ⟨-, hle⟩
    · exact decide_eq_true hlt
    · simp only [hne, ne_eq, not_true_eq_false, not_false_eq_true, decide_true, decide_false] at hle
      exact absurd (hle rfl) Bool.false_ne_true
  have hlen : (all.take n).length = n := by
    have hpos := List.length_pos_of_mem hdrop
    rw [List.length_drop] at hpos
    rw [List.length_take]
    omega
  have hall : n ≤ all.countP fun x => decide (key x < key r) := by
    rw [← List.take_append_drop n all, List.countP_append, List.countP_eq_length.mpr hbefore, hlen]
    exact Nat.le_add_right _ _
  rw [hperm.countP_eq, List.countP_filter] at hall
  have hsame : t.countP (fun x => p x && decide (key x < key r)) =
      t.countP fun x => decide (key x < key r) && p x :=
    List.countP_congr fun x _ => by rw [Bool.and_comm]
  omega

/-- Insertion before rows that all come later is at the front. -/
theorem orderedInsert_front {key : R → K} {r : R} {rows : List R} (h : ∀ x ∈ rows, key r ≤ key x) :
    rows.orderedInsert (fun a b => key a ≤ key b) r = r :: rows := by
  cases rows with
  | nil => rfl
  | cons x rows => exact List.orderedInsert_cons_of_le _ _ (h x List.mem_cons_self)

/-- Insertion into sorted rows and a filter commute. -/
theorem filter_orderedInsert {q : R → Bool} {key : R → K} {r : R} {rows : List R}
    (hsorted : rows.Pairwise fun a b => key a ≤ key b) :
    (rows.orderedInsert (fun a b => key a ≤ key b) r).filter q =
      if q r then (rows.filter q).orderedInsert (fun a b => key a ≤ key b) r else rows.filter q := by
  induction rows with
  | nil => cases hqr : q r <;> simp [hqr]
  | cons x rows ih =>
    obtain ⟨hx, hrows⟩ := List.pairwise_cons.mp hsorted
    by_cases hle : key r ≤ key x
    · have hbefore : ∀ y ∈ x :: rows, key r ≤ key y := by
        intro y hy
        rcases List.mem_cons.mp hy with rfl | hy
        · exact hle
        · exact hle.trans (hx y hy)
      rw [orderedInsert_front hbefore, List.filter_cons,
        orderedInsert_front fun y hy => hbefore y (List.mem_of_mem_filter hy)]
    · have hlater : ∀ rows : List R, (x :: rows).orderedInsert (fun a b => key a ≤ key b) r =
          x :: rows.orderedInsert (fun a b => key a ≤ key b) r :=
        fun rows => List.orderedInsert_of_not_le _ _ hle
      rw [hlater, List.filter_cons, ih hrows, List.filter_cons]
      by_cases hqx : q x = true
      · rw [if_pos hqx, if_pos hqx, hlater]
        split
        · rfl
        · rfl
      · rw [if_neg hqx, if_neg hqx]

/-- A filter keeps the order of an answer. -/
theorem filter_select (p q : R → Bool) (key : R → K) (t : List R) :
    (select p key t).filter q = select (fun r => q r && p r) key t := by
  have : Std.Total fun a b : R => key a ≤ key b := ⟨fun a b => le_total (key a) (key b)⟩
  have : IsTrans R fun a b => key a ≤ key b := ⟨fun _ _ _ hab hbc => hab.trans hbc⟩
  unfold select
  rw [← List.filter_filter]
  induction t.filter p with
  | nil => rfl
  | cons r rows ih =>
    rw [List.insertionSort_cons, filter_orderedInsert (List.pairwise_insertionSort _ rows), ih,
      List.filter_cons]
    split
    · rw [List.insertionSort_cons]
    · rfl

theorem select_congr {p q : R → Bool} {t : List R} (key : R → K) (h : ∀ r ∈ t, p r = q r) :
    select p key t = select q key t := by
  unfold select
  rw [List.filter_congr h]

/-- Rows that all match and are in order already are the answer. -/
theorem select_eq_self {p : R → Bool} {key : R → K} {t : List R} (hp : ∀ r ∈ t, p r = true)
    (hsorted : t.Pairwise fun a b => key a ≤ key b) : select p key t = t := by
  unfold select
  rw [List.filter_eq_self.mpr hp]
  exact List.Pairwise.insertionSort_eq hsorted

/-- Without an ORDER BY, `select` takes the matching rows in table order. -/
theorem select_unit (p : R → Bool) (t : List R) : select p (fun _ => ()) t = t.filter p := by
  unfold select
  induction t.filter p with
  | nil => rfl
  | cons r rows ih =>
    rw [List.insertionSort_cons, ih]
    cases rows with
    | nil => rfl
    | cons r' rows => exact List.orderedInsert_cons_of_le _ _ (le_refl ())
end Queries

/-- `SELECT … WHERE p GROUP BY key`: one row for each value of `key` among the matching rows, and
    that row is one of those with this value. -/
def SelectsOneEach (p : R → Bool) (key : R → K) (t res : List R) : Prop :=
  (res.map key).Nodup ∧ (∀ r ∈ res, r ∈ t ∧ p r = true) ∧
    ∀ r ∈ t, p r = true → key r ∈ res.map key

/-- The first row of each value. -/
def selectOneEach [DecidableEq K] (p : R → Bool) (key : R → K) : List R → List R
  | [] => []
  | r :: t =>
    let res := selectOneEach p key t
    if p r then r :: res.filter (fun r' => key r' ≠ key r) else res

/-- The first row of each key is one answer to a grouped query. -/
theorem selectOneEach_selects [DecidableEq K] (p : R → Bool) (key : R → K) (t : List R) :
    SelectsOneEach p key t (selectOneEach p key t) := by
  induction t with
  | nil => exact ⟨List.nodup_nil, by simp [selectOneEach], by simp⟩
  | cons r t ih =>
    obtain ⟨hnodup, hmem, hall⟩ := ih
    by_cases hp : p r = true
    · simp only [selectOneEach, hp, if_true]
      refine ⟨?_, ?_, ?_⟩
      · rw [List.map_cons, List.nodup_cons]
        refine ⟨by simp, ?_⟩
        exact hnodup.sublist (List.filter_sublist.map key)
      · intro r' hr'
        rcases List.mem_cons.mp hr' with rfl | hr'
        · exact ⟨List.mem_cons_self, hp⟩
        · have h := hmem r' (List.mem_of_mem_filter hr')
          exact ⟨List.mem_cons_of_mem _ h.1, h.2⟩
      · intro r' hr' hp'
        by_cases hk : key r' = key r
        · simp [hk]
        · rcases List.mem_cons.mp hr' with rfl | hr'
          · exact absurd rfl hk
          · obtain ⟨r'', hr'', hkey⟩ := List.mem_map.mp (hall r' hr' hp')
            refine List.mem_cons_of_mem _ (List.mem_map.mpr ⟨r'', ?_, hkey⟩)
            simpa [hkey] using ⟨hr'', hk⟩
    · simp only [selectOneEach, hp]
      refine ⟨hnodup, fun r' hr' => ?_, fun r' hr' hp' => ?_⟩
      · exact ⟨List.mem_cons_of_mem _ (hmem r' hr').1, (hmem r' hr').2⟩
      · rcases List.mem_cons.mp hr' with rfl | hr'
        · exact absurd hp' hp
        · exact hall r' hr' hp'

/-! ## Updates -/

/-- `UPDATE … SET f WHERE p`: the table after it. -/
def updateAll (p : R → Bool) (f : R → R) (t : List R) : List R :=
  t.map fun r => if p r then f r else r

/-- What an update leaves alone in every row, it leaves alone in the table. -/
theorem map_updateAll {V : Type} {p : R → Bool} {f : R → R} {g : R → V} (hg : ∀ r, g (f r) = g r)
    (t : List R) : (updateAll p f t).map g = t.map g := by
  rw [updateAll, List.map_map]
  apply List.map_congr_left
  intro r _
  show g (if p r then f r else r) = g r
  split
  · exact hg r
  · rfl

/-- Only the rows that are there decide what an update does. -/
theorem updateAll_congr {p q : R → Bool} {f : R → R} {t : List R} (h : ∀ r ∈ t, p r = q r) :
    updateAll p f t = updateAll q f t :=
  List.map_congr_left fun r hr => by rw [h r hr]

/-- An UPDATE that changes no row leaves the table. -/
theorem updateAll_eq_self {p : R → Bool} {f : R → R} {t : List R}
    (h : ∀ r ∈ t, p r = true → f r = r) : updateAll p f t = t := by
  refine (List.map_congr_left fun r hr => ?_).trans (List.map_id t)
  by_cases hp : p r = true
  · rw [if_pos hp]; exact h r hr hp
  · rw [if_neg hp]; rfl

theorem updateAll_append (p : R → Bool) (f : R → R) (t t' : List R) :
    updateAll p f (t ++ t') = updateAll p f t ++ updateAll p f t' :=
  List.map_append

/-- The rows after an UPDATE are those before it, updated where the condition is met. -/
theorem mem_updateAll {p : R → Bool} {f : R → R} {t : List R} {r' : R} :
    r' ∈ updateAll p f t ↔ ∃ r ∈ t, (if p r then f r else r) = r' :=
  List.mem_map

/-- Rows can be counted after an UPDATE as they are before it. -/
theorem countP_updateAll (p q : R → Bool) (f : R → R) (t : List R) :
    (updateAll p f t).countP q = t.countP fun r => q (if p r then f r else r) := by
  rw [updateAll, List.countP_map]; rfl

/-- Rows that satisfy one of two conditions that exclude each other are counted by the two counts. -/
theorem countP_split {p p' q : R → Bool} {t : List R} (hq : ∀ r ∈ t, q r = (p r || p' r))
    (hapart : ∀ r ∈ t, p r = true → p' r = false) : t.countP q = t.countP p + t.countP p' := by
  induction t with
  | nil => rfl
  | cons r t ih =>
    have htail := ih (fun r hr => hq r (List.mem_cons_of_mem _ hr))
      fun r hr => hapart r (List.mem_cons_of_mem _ hr)
    have hhead := hq r List.mem_cons_self
    have hexcl := hapart r List.mem_cons_self
    simp only [List.countP_cons, htail, hhead]
    cases hp : p r with
    | false =>
      simp only [Bool.false_or, Bool.false_eq_true, if_false]
      omega
    | true =>
      rw [hexcl hp]
      simp only [Bool.true_or, Bool.false_eq_true, if_true, if_false]
      omega

/-- A row the update does not match is there after it if and only if it was there before, provided
    no update makes one. -/
theorem filter_updateAll {p q : R → Bool} {f : R → R} (t : List R)
    (hq : ∀ r, p r = true → q r = false ∧ q (f r) = false) :
    (updateAll p f t).filter q = t.filter q := by
  induction t with
  | nil => rfl
  | cons r t ih =>
    have ih' : (t.map fun r => if p r then f r else r).filter q = t.filter q := ih
    simp only [updateAll, List.map_cons, List.filter_cons, ih']
    by_cases hp : p r = true
    · simp [hp, hq r hp]
    · simp [hp]

section Updates

variable [DecidableEq R]

/-- How many rows it changes: the matching ones that it does not leave as they are. -/
def changed (p : R → Bool) (f : R → R) (t : List R) : Nat :=
  t.countP fun r => p r && decide (f r ≠ r)

theorem changed_append (p : R → Bool) (f : R → R) (t t' : List R) :
    changed p f (t ++ t') = changed p f t + changed p f t' :=
  List.countP_append

/-- An update that leaves no matching row as it is changes them all. -/
theorem changed_eq_countP {p q : R → Bool} {f : R → R} {t : List R} (hpq : ∀ r ∈ t, p r = q r)
    (hf : ∀ r ∈ t, q r = true → f r ≠ r) : changed p f t = t.countP q := by
  apply List.countP_congr
  intro r hr
  rw [Bool.and_eq_true, decide_eq_true_iff, hpq r hr]
  exact ⟨fun h => h.1, fun h => ⟨h, hf r hr h⟩⟩

/-- An update that changes no row leaves the table as it is. -/
theorem updateAll_of_changed {p : R → Bool} {f : R → R} {t : List R} (h : changed p f t = 0) :
    updateAll p f t = t := by
  apply updateAll_eq_self
  intro r hr hp
  have hnot := List.countP_eq_zero.mp h r hr
  by_contra hne
  exact hnot (Bool.and_eq_true_iff.mpr ⟨hp, decide_eq_true hne⟩)

/-- If the rows it changes come to satisfy `q`, so many more do. -/
theorem countP_updateAll_enter {p q : R → Bool} {f : R → R} {t : List R}
    (hf : ∀ r ∈ t, p r = true → f r ≠ r → q r = false ∧ q (f r) = true) :
    (updateAll p f t).countP q = t.countP q + changed p f t := by
  rw [countP_updateAll]
  refine countP_split (fun r hr => ?_) fun r hr hq => ?_
  · cases hp : p r with
    | false => simp
    | true =>
      by_cases hsame : f r = r
      · simp [hsame]
      · obtain ⟨hbefore, hafter⟩ := hf r hr hp hsame
        simp [hbefore, hafter, hsame]
  · by_contra hcon
    rw [Bool.not_eq_false, Bool.and_eq_true, decide_eq_true_iff] at hcon
    obtain ⟨hbefore, -⟩ := hf r hr hcon.1 hcon.2
    rw [hbefore] at hq
    cases hq

/-- If the rows it changes come to satisfy `q` no longer, so many fewer do. -/
theorem countP_updateAll_leave {p q : R → Bool} {f : R → R} {t : List R}
    (hf : ∀ r ∈ t, p r = true → f r ≠ r → q r = true ∧ q (f r) = false) :
    t.countP q = (updateAll p f t).countP q + changed p f t := by
  rw [countP_updateAll]
  refine countP_split (fun r hr => ?_) fun r hr hq => ?_
  · cases hp : p r with
    | false => simp
    | true =>
      by_cases hsame : f r = r
      · simp [hsame]
      · obtain ⟨hbefore, hafter⟩ := hf r hr hp hsame
        simp [hbefore, hafter, hsame]
  · by_contra hcon
    rw [Bool.not_eq_false, Bool.and_eq_true, decide_eq_true_iff] at hcon
    obtain ⟨-, hafter⟩ := hf r hr hcon.1 hcon.2
    rw [if_pos hcon.1, hafter] at hq
    cases hq

/-- Where no row meets the condition, none is changed. -/
theorem changed_eq_zero {p : R → Bool} {f : R → R} {t : List R} (hp : ∀ r ∈ t, p r = false) :
    changed p f t = 0 :=
  List.countP_eq_zero.mpr fun r hr => by simp [hp r hr]

/-- `Touch p f t m n t'`: `t'` is `t` with `m` of its matching rows updated, `n` of them changed. -/
inductive Touch (p : R → Bool) (f : R → R) : List R → Nat → Nat → List R → Prop
  | nil : Touch p f [] 0 0 []
  | leave {r : R} {t t' : List R} {m n : Nat} :
      Touch p f t m n t' → Touch p f (r :: t) m n (r :: t')
  | hit {r : R} {t t' : List R} {m n : Nat} :
      p r = true → Touch p f t m n t' →
      Touch p f (r :: t) (m + 1) (n + if f r = r then 0 else 1) (f r :: t')

/-- `UPDATE … SET f WHERE p LIMIT limit`, answered `n`: `limit` of the matching rows are updated,
    or all of them if there are not so many. -/
def UpdatesLimit (p : R → Bool) (f : R → R) (limit : Nat) (t : List R) (n : Nat) (t' : List R) :
    Prop :=
  ∃ m, Touch p f t m n t' ∧ m = min limit (t.countP p)

/-- No more rows are touched than meet the condition. -/
theorem Touch.le {p : R → Bool} {f : R → R} {t t' : List R} {m n : Nat} (h : Touch p f t m n t') :
    m ≤ t.countP p := by
  induction h with
  | nil => exact Nat.le_refl 0
  | leave _ ih => exact ih.trans (List.countP_cons .. ▸ Nat.le_add_right _ _)
  | hit hp _ ih => rw [List.countP_cons_of_pos hp]; exact Nat.succ_le_succ ih

/-- Updating as many rows as match is updating them all. -/
theorem Touch.all {p : R → Bool} {f : R → R} {t t' : List R} {m n : Nat} (h : Touch p f t m n t')
    (hm : m = t.countP p) : t' = updateAll p f t ∧ n = changed p f t := by
  induction h with
  | nil => exact ⟨rfl, rfl⟩
  | @leave r t t' m n ht ih =>
    have hp : p r = false := by
      cases hp : p r with
      | false => rfl
      | true =>
        have hle := ht.le
        rw [List.countP_cons_of_pos hp] at hm
        omega
    obtain ⟨rfl, rfl⟩ := ih (by rw [hm, List.countP_cons_of_neg (by simp [hp])])
    simp [updateAll, changed, hp]
  | @hit r t t' m n hp ht ih =>
    obtain ⟨rfl, rfl⟩ := ih (by rw [List.countP_cons_of_pos hp] at hm; omega)
    refine ⟨by simp [updateAll, hp], ?_⟩
    by_cases hf : f r = r <;> simp [changed, hp, hf]

/-- A limit that is high enough is none. -/
theorem UpdatesLimit.all {p : R → Bool} {f : R → R} {limit : Nat} {t t' : List R} {n : Nat}
    (h : UpdatesLimit p f limit t n t') (hle : t.countP p ≤ limit) :
    t' = updateAll p f t ∧ n = changed p f t := by
  obtain ⟨m, ht, hm⟩ := h
  exact ht.all (by rw [hm, Nat.min_eq_right hle])

/-- No row changed is no change. -/
theorem Touch.eq_of_zero {p : R → Bool} {f : R → R} {t t' : List R} {m : Nat}
    (h : Touch p f t m 0 t') : t' = t := by
  generalize hn : 0 = n at h
  induction h with
  | nil => rfl
  | leave _ ih => rw [ih hn]
  | @hit r t t' m n hp _ ih =>
    by_cases hf : f r = r
    · rw [if_pos hf] at hn
      rw [hf, ih hn]
    · rw [if_neg hf] at hn
      omega

/-- Among the rows changed, if there are any, is one at some place. -/
theorem Touch.exists_changed {p : R → Bool} {f : R → R} {t t' : List R} {m n : Nat}
    (h : Touch p f t m n t') (hn : n ≠ 0) :
    ∃ (i : Nat) (r : R), t[i]? = some r ∧ p r = true ∧ f r ≠ r ∧ t'[i]? = some (f r) := by
  induction h with
  | nil => exact absurd rfl hn
  | leave _ ih =>
    obtain ⟨i, r, hr, hchanged⟩ := ih hn
    exact ⟨i + 1, r, hr, hchanged⟩
  | @hit r t t' m n hp _ ih =>
    by_cases hf : f r = r
    · rw [if_pos hf] at hn
      obtain ⟨i, r', hr', hchanged⟩ := ih hn
      exact ⟨i + 1, r', hr', hchanged⟩
    · exact ⟨0, r, rfl, hp, hf, rfl⟩

/-- No more rows are changed than are updated. -/
theorem Touch.changed_le {p : R → Bool} {f : R → R} {t t' : List R} {m n : Nat}
    (h : Touch p f t m n t') : n ≤ m := by
  induction h with
  | nil => exact Nat.le_refl 0
  | leave _ ih => exact ih
  | hit _ _ ih =>
    split
    · omega
    · omega

/-- An update of one row at most changes no row, or one row at some place. -/
theorem Touch.one {p : R → Bool} {f : R → R} {t t' : List R} {m n : Nat} (h : Touch p f t m n t')
    (hm : m ≤ 1) : (n = 0 ∧ t' = t) ∨
      n = 1 ∧ ∃ (i : Nat) (r : R), t[i]? = some r ∧ p r = true ∧ f r ≠ r ∧ t' = t.set i (f r) := by
  induction h with
  | nil => exact Or.inl ⟨rfl, rfl⟩
  | leave _ ih =>
    rcases ih hm with ⟨hn, rfl⟩ | ⟨hn, i, r, hr, hp, hf, rfl⟩
    · exact Or.inl ⟨hn, rfl⟩
    · exact Or.inr ⟨hn, i + 1, r, hr, hp, hf, rfl⟩
  | @hit r t t' m n hp ht ih =>
    -- this was the one row, so the rest of the table is as it was
    obtain rfl : n = 0 := by
      have hle := ht.changed_le
      omega
    obtain rfl := ht.eq_of_zero
    by_cases hf : f r = r
    · rw [if_pos hf, hf]
      exact Or.inl ⟨rfl, rfl⟩
    · rw [if_neg hf]
      exact Or.inr ⟨rfl, 0, r, rfl, hp, hf, rfl⟩

/-- With the limit 1 there is one changed row, or none. -/
theorem UpdatesLimit.one {p : R → Bool} {f : R → R} {t t' : List R} {n : Nat}
    (h : UpdatesLimit p f 1 t n t') : (n = 0 ∧ t' = t) ∨
      n = 1 ∧ ∃ (i : Nat) (r : R), t[i]? = some r ∧ p r = true ∧ f r ≠ r ∧ t' = t.set i (f r) := by
  obtain ⟨m, ht, hm⟩ := h
  exact ht.one (by omega)

/-- What an update leaves alone in every row, it leaves alone in the table. -/
theorem Touch.map_eq {V : Type} {p : R → Bool} {f : R → R} {t t' : List R} {m n : Nat} {g : R → V}
    (h : Touch p f t m n t') (hg : ∀ r, g (f r) = g r) : t'.map g = t.map g := by
  induction h with
  | nil => rfl
  | leave _ ih => rw [List.map_cons, List.map_cons, ih]
  | hit _ _ ih => rw [List.map_cons, List.map_cons, ih, hg]

/-- Rows that no update matches or makes are the same before and after. -/
theorem Touch.filter {p q : R → Bool} {f : R → R} {t t' : List R} {m n : Nat}
    (h : Touch p f t m n t') (hq : ∀ r, p r = true → q r = false ∧ q (f r) = false) :
    t'.filter q = t.filter q := by
  induction h with
  | nil => rfl
  | @leave r t t' _ _ _ ih => rw [List.filter_cons, List.filter_cons, ih]
  | @hit r t t' _ _ hp _ ih => simp [hq r hp, ih]

/-- Update the first `limit` matching rows. -/
def updateFirst (p : R → Bool) (f : R → R) : Nat → List R → Nat × List R
  | _, [] => (0, [])
  | 0, t => (0, t)
  | limit + 1, r :: t =>
    if p r then
      let res := updateFirst p f limit t
      (res.1 + (if f r = r then 0 else 1), f r :: res.2)
    else
      let res := updateFirst p f (limit + 1) t
      (res.1, r :: res.2)

theorem touch_none (p : R → Bool) (f : R → R) (t : List R) : Touch p f t 0 0 t := by
  induction t with
  | nil => exact .nil
  | cons r t ih => exact .leave ih

/-- Rows may be updated to what they are. -/
theorem touch_id {p : R → Bool} : ∀ {t : List R} {m : Nat}, m ≤ t.countP p → Touch p id t m 0 t
  | [], m, hm => by
    obtain rfl := Nat.le_zero.mp hm
    exact .nil
  | r :: t, 0, _ => touch_none p id (r :: t)
  | r :: t, m + 1, hm => by
    by_cases hp : p r = true
    · rw [List.countP_cons_of_pos hp] at hm
      have hit := Touch.hit (f := id) hp (touch_id (Nat.le_of_succ_le_succ hm))
      have hkept : (0 + if id r = r then 0 else 1) = 0 := by simp
      rw [hkept] at hit
      exact hit
    · rw [List.countP_cons_of_neg hp] at hm
      exact .leave (touch_id hm)

/-- To update the first rows that can be changed is one way to keep to a limit. -/
theorem updateFirst_updates (p : R → Bool) (f : R → R) (limit : Nat) (t : List R) :
    UpdatesLimit p f limit t (updateFirst p f limit t).1 (updateFirst p f limit t).2 := by
  induction t generalizing limit with
  | nil => exact ⟨0, by rw [updateFirst]; exact .nil, by simp⟩
  | cons r t ih =>
    cases limit with
    | zero => exact ⟨0, touch_none p f (r :: t), by simp⟩
    | succ limit =>
      by_cases hp : p r = true
      · obtain ⟨m, ht, hm⟩ := ih limit
        refine ⟨m + 1, ?_, ?_⟩
        · simp only [updateFirst, hp, if_true]; exact .hit hp ht
        · rw [hm, List.countP_cons_of_pos hp]; omega
      · obtain ⟨m, ht, hm⟩ := ih (limit + 1)
        refine ⟨m, ?_, ?_⟩
        · simp only [updateFirst, hp]; exact .leave ht
        · rw [hm, List.countP_cons_of_neg hp]

theorem updateFirst_zero (p : R → Bool) (f : R → R) (t : List R) :
    updateFirst p f 0 t = (0, t) := by
  cases t with
  | nil => rfl
  | cons r t => rfl

/-- For a condition that no updated row satisfies, updating the first matching row takes it out. -/
theorem filter_updateFirst_one {p q : R → Bool} {f : R → R} (hq : ∀ r, q (f r) = false)
    (t : List R) : (updateFirst p f 1 t).2.filter q = (t.eraseP p).filter q := by
  induction t with
  | nil => rfl
  | cons r t ih =>
    by_cases hp : p r = true
    · rw [updateFirst, if_pos hp, updateFirst_zero, List.eraseP_cons_of_pos hp,
        List.filter_cons_of_neg (by rw [hq]; exact Bool.false_ne_true)]
    · rw [updateFirst, if_neg hp, List.eraseP_cons_of_neg hp, List.filter_cons, List.filter_cons, ih]

end Updates

/-! ## Inserts -/

/-- `INSERT … VALUES`: the new rows come last, each with a key of its own that no row had. -/
def Inserts (key : R → Int) (rows : List (Int → R)) (t : List R) (keys : List Int) (t' : List R) :
    Prop :=
  keys.length = rows.length ∧ keys.Nodup ∧ (∀ k ∈ keys, 0 < k ∧ ∀ r ∈ t, key r ≠ k) ∧
    t' = t ++ List.zipWith (fun mk k => mk k) rows keys

/-- `new` are rows for the values `vs`, with keys of their own that no row of `t` has. -/
structure NewRows {V : Type} (key : R → Int) (row : V → Int → R) (vs : List V) (t new : List R) :
    Prop where
  nodup : (new.map key).Nodup
  fresh : ∀ r ∈ new, 0 < key r ∧ ∀ r' ∈ t, key r' ≠ key r
  rows : List.Forall₂ (fun v r => r = row v (key r)) vs new

/-- Rows made of values and as many keys have these keys, and are rows for these values. -/
theorem zipWith_rows {V : Type} {key : R → Int} {row : V → Int → R} {vs : List V} {keys : List Int}
    (hlen : keys.length = vs.length) (hkey : ∀ v k, key (row v k) = k) :
    (List.zipWith (fun mk k => mk k) (vs.map row) keys).map key = keys ∧
      List.Forall₂ (fun v r => r = row v (key r)) vs
        (List.zipWith (fun mk k => mk k) (vs.map row) keys) := by
  induction vs generalizing keys with
  | nil =>
    obtain rfl := List.length_eq_zero_iff.mp hlen
    exact ⟨rfl, .nil⟩
  | cons v vs ih =>
    cases keys with
    | nil => cases hlen
    | cons k keys =>
      obtain ⟨hmap, hrows⟩ := ih (Nat.succ.inj hlen)
      refine ⟨?_, .cons ?_ hrows⟩
      · rw [List.map_cons, List.zipWith_cons_cons, List.map_cons, hkey, hmap]
      · rw [hkey]

/-- An INSERT appends new rows for its values, with its keys. -/
theorem Inserts.newRows_keys {V : Type} {key : R → Int} {row : V → Int → R} {vs : List V}
    {t t' : List R} {keys : List Int} (h : Inserts key (vs.map row) t keys t')
    (hkey : ∀ v k, key (row v k) = k) :
    ∃ new, t' = t ++ new ∧ NewRows key row vs t new ∧ new.map key = keys := by
  obtain ⟨hlen, hnodup, hfresh, rfl⟩ := h
  obtain ⟨hkeys, hrows⟩ := zipWith_rows (by rw [hlen, List.length_map]) hkey
  refine ⟨_, rfl, ⟨by rw [hkeys]; exact hnodup, fun r hr => ?_, hrows⟩, hkeys⟩
  exact hfresh _ (hkeys ▸ List.mem_map.mpr ⟨r, hr, rfl⟩)

/-- An INSERT appends new rows for its values. -/
theorem Inserts.newRows {V : Type} {key : R → Int} {row : V → Int → R} {vs : List V} {t t' : List R}
    {keys : List Int} (h : Inserts key (vs.map row) t keys t') (hkey : ∀ v k, key (row v k) = k) :
    ∃ new, t' = t ++ new ∧ NewRows key row vs t new := by
  obtain ⟨new, ht', hrows, -⟩ := h.newRows_keys hkey
  exact ⟨new, ht', hrows⟩

/-- What does not depend on the keys is the same in the rows as in the values. -/
theorem NewRows.map_eq {V W : Type} {key : R → Int} {row : V → Int → R} {vs : List V}
    {t new : List R} (h : NewRows key row vs t new) {g : R → W} {g' : V → W}
    (hg : ∀ v k, g (row v k) = g' v) : new.map g = vs.map g' := by
  have hrows := h.rows
  clear h
  induction hrows with
  | nil => rfl
  | cons hr _ ih => rw [List.map_cons, List.map_cons, ih, hr, hg]

/-- A key above all those in use. -/
def nextKey (key : R → Int) (t : List R) : Int := t.foldr (fun r k => max (key r + 1) k) 1

theorem nextKey_pos (key : R → Int) (t : List R) : 0 < nextKey key t := by
  induction t with
  | nil => exact Int.one_pos
  | cons r t ih => exact lt_of_lt_of_le ih (le_max_right _ _)

/-- The next key is above all that are there. -/
theorem lt_nextKey (key : R → Int) {t : List R} {r : R} (hr : r ∈ t) : key r < nextKey key t := by
  induction t with
  | nil => simp at hr
  | cons r' t ih =>
    rcases List.mem_cons.mp hr with rfl | hr
    · exact lt_of_lt_of_le (Int.lt_add_one_of_le le_rfl) (le_max_left _ _)
    · exact lt_of_lt_of_le (ih hr) (le_max_right _ _)

/-- The keys that follow the last one in use. -/
def nextKeys (key : R → Int) (n : Nat) (t : List R) : List Int :=
  (List.range n).map fun i : Nat => nextKey key t + (i : Int)

/-- Insert with these keys. -/
def insert (key : R → Int) (rows : List (Int → R)) (t : List R) : List R :=
  t ++ List.zipWith (fun mk k => mk k) rows (nextKeys key rows.length t)

/-- Rows with the next keys are one way to insert them. -/
theorem insert_inserts (key : R → Int) (rows : List (Int → R)) (t : List R) :
    Inserts key rows t (nextKeys key rows.length t) (insert key rows t) := by
  refine ⟨by simp [nextKeys], ?_, ?_, rfl⟩
  · refine List.Nodup.map (fun i j hij => ?_) List.nodup_range
    have hij' : nextKey key t + (i : Int) = nextKey key t + (j : Int) := hij
    omega
  · intro k hk
    obtain ⟨i, -, rfl⟩ := List.mem_map.mp hk
    have hpos := nextKey_pos key t
    refine ⟨by omega, fun r hr => ?_⟩
    have hlt := lt_nextKey key hr
    omega

end Zattd.Table
