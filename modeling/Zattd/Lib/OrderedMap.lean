/-
  Filling an ordered map from a list of entries, the way `std::map::insert` does in a loop: an entry
  whose key is there already is ignored.
-/
import Mathlib

set_option linter.unusedVariables false

namespace Zattd.OrderedMap

variable {α β : Type} {cmp : α → α → Ordering} [Std.TransCmp cmp] [Std.LawfulEqCmp cmp]

section DecidableEq

variable [DecidableEq α]

/-- A lookup after an insertion. -/
theorem getElem?_insert_eq (m : Std.TreeMap α β cmp) (k k' : α) (v : β) :
    (m.insert k v)[k']? = if k = k' then some v else m[k']? := by
  rw [Std.TreeMap.getElem?_insert]
  by_cases h : k = k'
  · rw [if_pos (Std.LawfulEqCmp.compare_eq_iff_eq.mpr h), if_pos h]
  · rw [if_neg fun hc => h (Std.LawfulEqCmp.compare_eq_iff_eq.mp hc), if_neg h]

/-- And after a removal. -/
theorem getElem?_erase_eq (m : Std.TreeMap α β cmp) (k k' : α) :
    (m.erase k)[k']? = if k = k' then none else m[k']? := by
  rw [Std.TreeMap.getElem?_erase]
  by_cases h : k = k'
  · rw [if_pos (Std.LawfulEqCmp.compare_eq_iff_eq.mpr h), if_pos h]
  · rw [if_neg fun hc => h (Std.LawfulEqCmp.compare_eq_iff_eq.mp hc), if_neg h]

end DecidableEq

/-- Insert the entries one after the other, the first of each key winning. -/
def insertAll (m : Std.TreeMap α β cmp) (entries : List (α × β)) : Std.TreeMap α β cmp :=
  entries.foldl (fun m e => m.insertIfNew e.1 e.2) m

/-- Entries with keys of their own, none of them in the map, are all inserted. -/
theorem getElem?_insertAll {m : Std.TreeMap α β cmp} {entries : List (α × β)}
    (hnodup : (entries.map (·.1)).Nodup) (hm : ∀ e ∈ entries, e.1 ∉ m) {k : α} {v : β} :
    (insertAll m entries)[k]? = some v ↔ m[k]? = some v ∨ (k, v) ∈ entries := by
  induction entries generalizing m with
  | nil => simp [insertAll]
  | cons e entries ih =>
    obtain ⟨hnew, hnodup⟩ := List.nodup_cons.mp hnodup
    have he : e.1 ∉ m := hm e List.mem_cons_self
    have hm' : ∀ e' ∈ entries, e'.1 ∉ m.insertIfNew e.1 e.2 := by
      intro e' he' hmem
      rcases Std.TreeMap.mem_insertIfNew.mp hmem with heq | hmem
      · have hkey : e.1 = e'.1 := Std.LawfulEqCmp.eq_of_compare heq
        exact hnew (List.mem_map.mpr ⟨e', he', hkey.symm⟩)
      · exact hm e' (List.mem_cons_of_mem _ he') hmem
    have hfold : insertAll m (e :: entries) = insertAll (m.insertIfNew e.1 e.2) entries := rfl
    rw [hfold, ih hnodup hm', Std.TreeMap.getElem?_insertIfNew, List.mem_cons]
    by_cases hkey : cmp e.1 k = .eq
    · -- the entry's own key, which the map did not have
      obtain rfl : e.1 = k := Std.LawfulEqCmp.eq_of_compare hkey
      rw [if_pos ⟨hkey, he⟩, Std.TreeMap.getElem?_eq_none he]
      constructor
      · rintro (h | h)
        · exact Or.inr (Or.inl (by rw [← Option.some.inj h]))
        · exact Or.inr (Or.inr h)
      · rintro (h | h | h)
        · cases h
        · exact Or.inl (by rw [← h])
        · exact Or.inr h
    · rw [if_neg fun h => hkey h.1]
      have hne : (k, v) ≠ e := by
        rintro rfl
        exact hkey Std.ReflCmp.compare_self
      simp [hne]

/-- A map filled from nothing has exactly the entries it was filled from. -/
theorem mem_toList_insertAll {entries : List (α × β)} (hnodup : (entries.map (·.1)).Nodup)
    {e : α × β} : e ∈ (insertAll (∅ : Std.TreeMap α β cmp) entries).toList ↔ e ∈ entries := by
  obtain ⟨k, v⟩ := e
  rw [Std.TreeMap.mem_toList_iff_getElem?_eq_some, getElem?_insertAll hnodup (by simp)]
  simp

/-- So entries in the order of their keys come back as they were. -/
theorem toList_insertAll {entries : List (α × β)}
    (hordered : entries.Pairwise fun e e' => cmp e.1 e'.1 = .lt) :
    (insertAll (∅ : Std.TreeMap α β cmp) entries).toList = entries := by
  let before : α × β → α × β → Prop := fun e e' => cmp e.1 e'.1 = .lt
  have hne : ∀ e e', before e e' → e.1 ≠ e'.1 := by
    intro e e' h heq
    have heq' : cmp e.1 e'.1 = .eq := Std.LawfulEqCmp.compare_eq_iff_eq.mpr heq
    rw [show cmp e.1 e'.1 = .lt from h] at heq'
    cases heq'
  have hasymm : ∀ e e', before e e' → ¬before e' e := by
    intro e e' h h'
    have hgt := Std.OrientedCmp.gt_of_lt h
    rw [show cmp e'.1 e.1 = .lt from h'] at hgt
    cases hgt
  have : Std.Irrefl before := ⟨fun e h => hne e e h rfl⟩
  have : Std.Antisymm before := ⟨fun e e' h h' => absurd h' (hasymm e e' h)⟩
  have hnodup : (entries.map (·.1)).Nodup := List.pairwise_map.mpr (hordered.imp (hne _ _))
  exact List.Pairwise.eq_of_mem_iff (r := before) Std.TreeMap.ordered_keys_toList hordered
    fun e => mem_toList_insertAll hnodup

/-- The keys of a map's entries are distinct. -/
theorem nodup_keys (m : Std.TreeMap α β cmp) : (m.toList.map (·.1)).Nodup := by
  refine List.pairwise_map.mpr (m.distinct_keys_toList.imp fun h heq => h ?_)
  rw [heq]
  exact Std.ReflCmp.compare_self

/-- Of entries in the order of their keys, the first `n` are those with fewer than `n` before them. -/
theorem mem_take_iff {entries : List (α × β)}
    (hordered : entries.Pairwise fun e e' => cmp e.1 e'.1 = .lt) {n : Nat} {e : α × β} :
    e ∈ entries.take n ↔
      e ∈ entries ∧ entries.countP (fun e' => decide (cmp e'.1 e.1 = .lt)) < n := by
  induction entries generalizing n with
  | nil => simp
  | cons x entries ih =>
    obtain ⟨hfirst, htail⟩ := List.pairwise_cons.mp hordered
    cases n with
    | zero => simp
    | succ n =>
      rw [List.take_succ_cons, List.mem_cons, List.mem_cons]
      by_cases hx : e = x
      · -- nothing comes before the first
        subst hx
        have hself : ¬cmp e.1 e.1 = .lt := by simp [Std.ReflCmp.compare_self]
        have hnone : (e :: entries).countP (fun e' => decide (cmp e'.1 e.1 = .lt)) = 0 := by
          apply List.countP_eq_zero.mpr
          intro e' he' hlt
          rcases List.mem_cons.mp he' with rfl | he'
          · exact hself (of_decide_eq_true hlt)
          · have hgt := Std.OrientedCmp.gt_of_lt (hfirst e' he')
            rw [of_decide_eq_true hlt] at hgt
            cases hgt
        rw [hnone]
        exact iff_of_true (Or.inl rfl) ⟨Or.inl rfl, Nat.succ_pos n⟩
      · have hcount : e ∈ entries →
            (x :: entries).countP (fun e' => decide (cmp e'.1 e.1 = .lt)) =
              entries.countP (fun e' => decide (cmp e'.1 e.1 = .lt)) + 1 := by
          intro hmem
          exact List.countP_cons_of_pos (by simpa using hfirst e hmem)
        rw [ih htail]
        constructor
        · rintro (heq | ⟨hmem, hlt⟩)
          · exact absurd heq hx
          · rw [hcount hmem]
            exact ⟨Or.inr hmem, by omega⟩
        · rintro ⟨heq | hmem, hlt⟩
          · exact absurd heq hx
          · rw [hcount hmem] at hlt
            exact Or.inr ⟨hmem, by omega⟩

end Zattd.OrderedMap
