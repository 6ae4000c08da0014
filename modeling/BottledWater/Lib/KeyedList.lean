import Mathlib.Data.List.Basic

set_option autoImplicit false

/-! # Lists of entries with keys

A table kept as a list, looked up with `find?` (the first entry whose key matches) and written
by replacing the first entry with the key, or appending one when there is none. Keyed by a
predicate `p` that says which entries have the key written, the table behaves as a map: a
lookup by that key finds the entry just written, a lookup by another key is unchanged, and a
second write over the first is the same as the second alone.
-/

namespace KeyedList

variable {α : Type}

/-- Write `a` over the first entry that satisfies `p`, or append it when none does. -/
def replace (p : α → Bool) (a : α) (l : List α) : List α :=
  match l.findIdx? p with
  | some i => l.set i a
  | none => l ++ [a]

/-- Setting a position leaves a lookup alone when neither the old nor the new entry matches. -/
theorem find?_set_of_not {q : α → Bool} {a : α} (ha : q a = false) :
    ∀ {l : List α} {i : Nat}, (∀ h : i < l.length, q l[i] = false) →
      (l.set i a).find? q = l.find? q
  | [], _, _ => rfl
  | b :: l, 0, hi => by
    have hb : q b = false := hi (by simp)
    simp [ha, hb]
  | b :: l, i + 1, hi => by
    have hl : ∀ h : i < l.length, q l[i] = false := fun h => hi (by simpa using h)
    simp only [List.set_cons_succ, List.find?_cons, find?_set_of_not ha hl]

/-- Setting the first matching position: the lookup now finds the new entry there. -/
theorem findIdx?_set_of_first {p : α → Bool} {a : α} {l : List α} {i : Nat}
    (hi : l.findIdx? p = some i) (ha : p a = true) : (l.set i a).findIdx? p = some i := by
  obtain ⟨hlen, -, hbefore⟩ := List.findIdx?_eq_some_iff_getElem.mp hi
  refine List.findIdx?_eq_some_iff_getElem.mpr ⟨by simpa using hlen, by simpa using ha, ?_⟩
  intro j hji
  rw [List.getElem_set_ne (by omega)]
  exact hbefore j hji

theorem find?_set_of_first {p : α → Bool} {a : α} {l : List α} {i : Nat}
    (hi : l.findIdx? p = some i) (ha : p a = true) : (l.set i a).find? p = some a := by
  obtain ⟨hlen, -, hbefore⟩ := List.findIdx?_eq_some_iff_getElem.mp hi
  refine List.find?_eq_some_iff_getElem.mpr ⟨ha, i, by simpa using hlen, by simp, ?_⟩
  intro j hji
  rw [List.getElem_set_ne (by omega)]
  simpa using hbefore j hji

/-- **A lookup by the key written finds the entry written.** -/
theorem find?_replace_self {p : α → Bool} {a : α} (ha : p a = true) (l : List α) :
    (replace p a l).find? p = some a := by
  unfold replace
  split
  · next i hi => exact find?_set_of_first hi ha
  · next hnone =>
    have hl : l.find? p = none := by
      simpa [List.find?_eq_none] using List.findIdx?_eq_none_iff.mp hnone
    simp [List.find?_append, hl, ha]

/-- **A lookup by another key is unchanged**: `q` matches no entry that `p` matches, nor the
entry written. -/
theorem find?_replace_of_disjoint {p q : α → Bool} {a : α}
    (hpq : ∀ x, q x = true → p x = false) (ha : q a = false) (l : List α) :
    (replace p a l).find? q = l.find? q := by
  unfold replace
  split
  · next i hi =>
    obtain ⟨_, hpi, -⟩ := List.findIdx?_eq_some_iff_getElem.mp hi
    refine find?_set_of_not ha fun h => ?_
    cases hq : q l[i] with
    | false => rfl
    | true => simp [hpq _ hq] at hpi
  · simp [List.find?_append, ha]

/-- **A second write over the first is the second alone.** -/
theorem replace_replace {p : α → Bool} {a : α} (ha : p a = true) (b : α) (l : List α) :
    replace p b (replace p a l) = replace p b l := by
  cases hi : l.findIdx? p with
  | some i => simp only [replace, hi, findIdx?_set_of_first hi ha, List.set_set]
  | none =>
    -- the entry appended is the first match of the longer list
    have happ : (l ++ [a]).findIdx? p = some l.length := by
      simp [List.findIdx?_append, hi, ha]
    simp only [replace, hi, happ, List.set_append_right _ _ (Nat.le_refl _), Nat.sub_self,
      List.set_cons_zero]

/-- **Writing by key keeps the keys distinct**, when `p` matches exactly the entries with the key
of the entry written. -/
theorem nodup_map_replace {β : Type} (key : α → β) {p : α → Bool} {a : α}
    (hp : ∀ x, p x = true ↔ key x = key a) {l : List α} (hl : (l.map key).Nodup) :
    ((replace p a l).map key).Nodup := by
  unfold replace
  split
  · next i hi =>
    -- the entry written has the key of the one it overwrites
    obtain ⟨hlen, hpi, -⟩ := List.findIdx?_eq_some_iff_getElem.mp hi
    have hkey : key l[i] = key a := (hp _).mp hpi
    have hset : (l.map key).set i (key a) = l.map key := by
      rw [← hkey, ← List.getElem_map key, List.set_getElem_self]
      simpa using hlen
    rwa [List.map_set, hset]
  · next hnone =>
    -- no entry has the key: the one appended is new
    have hfresh : key a ∉ l.map key := by
      rw [List.mem_map]
      rintro ⟨x, hx, hxa⟩
      have := List.findIdx?_eq_none_iff.mp hnone x hx
      simp [(hp x).mpr hxa] at this
    rw [List.map_append, List.map_singleton, List.nodup_append]
    exact ⟨hl, by simp, fun x hx y hy => by
      rw [List.mem_singleton] at hy
      rintro rfl
      exact hfresh (hy ▸ hx)⟩

@[simp] theorem replace_nil (p : α → Bool) (a : α) : replace p a [] = [a] := rfl

/-- `replace` entry by entry: the first match is overwritten, and the rest stays. -/
theorem replace_cons (p : α → Bool) (a x : α) (l : List α) :
    replace p a (x :: l) = if p x then a :: l else x :: replace p a l := by
  unfold replace
  cases hx : p x with
  | true => simp [List.findIdx?_cons, hx]
  | false =>
    simp only [List.findIdx?_cons, hx, Bool.false_eq_true, if_false]
    cases l.findIdx? p <;> simp

/-- The entries after a write are the old entries and the entry written. -/
theorem mem_replace {p : α → Bool} {a x : α} {l : List α} (h : x ∈ replace p a l) :
    x ∈ l ∨ x = a := by
  induction l with
  | nil => simpa using h
  | cons y l ih =>
    rw [replace_cons] at h
    split at h
    · rcases List.mem_cons.mp h with rfl | hl
      · exact .inr rfl
      · exact .inl (List.mem_cons_of_mem _ hl)
    · rcases List.mem_cons.mp h with rfl | hl
      · exact .inl List.mem_cons_self
      · exact (ih hl).imp_left (List.mem_cons_of_mem _)

section Selected

variable {β : Type} (q : α → Bool) (key : α → β) {p : α → Bool} {a : α}

/-- The selected keys after the first entry are distinct when those of the whole list are. -/
theorem nodup_filter_tail {x : α} {l : List α} (h : (((x :: l).filter q).map key).Nodup) :
    ((l.filter q).map key).Nodup := by
  rw [List.filter_cons] at h
  split at h
  · rw [List.map_cons, List.nodup_cons] at h
    exact h.2
  · exact h

/-- **Writing by key keeps the keys of the selected entries distinct**, when `p` matches exactly
the selected entries with the key of the entry written. -/
theorem nodup_filter_replace (hp : ∀ x, p x = true ↔ q x = true ∧ key x = key a) :
    ∀ {l : List α}, ((l.filter q).map key).Nodup → (((replace p a l).filter q).map key).Nodup
  | [], _ => by
    rw [replace_nil, List.filter_cons]
    split <;> simp
  | x :: l, hl => by
    -- what the list had: distinct keys after `x`, and `x`'s key not among them when selected
    have htail := nodup_filter_tail q key hl
    have hx : q x = true → key x ∉ (l.filter q).map key := fun hqx => by
      rw [List.filter_cons, if_pos hqx, List.map_cons] at hl
      exact (List.nodup_cons.mp hl).1
    rw [replace_cons]
    by_cases hpx : p x = true
    · -- the entry written takes the place of `x`, which had its key
      obtain ⟨hqx, hkey⟩ := (hp x).mp hpx
      rw [if_pos hpx, List.filter_cons]
      split
      · rw [List.map_cons, List.nodup_cons, ← hkey]
        exact ⟨hx hqx, htail⟩
      · exact htail
    · have ih := nodup_filter_replace hp htail
      rw [if_neg hpx, List.filter_cons]
      split
      · next hqx =>
        -- `x` keeps its place: its key is neither an old key nor the key written
        rw [List.map_cons, List.nodup_cons]
        refine ⟨fun hmem => ?_, ih⟩
        obtain ⟨y, hy, hyx⟩ := List.mem_map.mp hmem
        obtain ⟨hyl, hqy⟩ := List.mem_filter.mp hy
        rcases mem_replace hyl with hyl | rfl
        · exact hx hqx (List.mem_map.mpr ⟨y, List.mem_filter.mpr ⟨hyl, hqy⟩, hyx⟩)
        · exact hpx ((hp x).mpr ⟨hqx, hyx.symm⟩)
      · exact ih

/-- **A write that the lookup does not select hides the key**: among distinct keys, the entry it
overwrites was the only match. -/
theorem find?_replace_of_not (hp : ∀ x, p x = true ↔ q x = true ∧ key x = key a)
    (ha : p a = false) :
    ∀ {l : List α}, ((l.filter q).map key).Nodup → (replace p a l).find? p = none
  | [], _ => by simp [ha]
  | x :: l, hl => by
    rw [replace_cons]
    by_cases hpx : p x = true
    · -- no entry after `x` has its key
      obtain ⟨hqx, hkey⟩ := (hp x).mp hpx
      rw [if_pos hpx, List.find?_cons, ha]
      rw [List.filter_cons, if_pos hqx, List.map_cons, List.nodup_cons] at hl
      refine List.find?_eq_none.mpr fun y hy hpy => hl.1 ?_
      obtain ⟨hqy, hkeyy⟩ := (hp y).mp hpy
      exact List.mem_map.mpr ⟨y, List.mem_filter.mpr ⟨hy, hqy⟩, hkeyy.trans hkey.symm⟩
    · have htail := nodup_filter_tail q key hl
      rw [if_neg hpx, List.find?_cons, eq_false_of_ne_true hpx]
      exact find?_replace_of_not hp ha htail

end Selected
end KeyedList
