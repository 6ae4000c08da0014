import Mathlib.Tactic

set_option autoImplicit false

/-! # Circular buffers with a head and a tail index

A circular buffer of `n` slots keeps two indices: `head`, the slot written last, and `tail`,
the oldest slot still in use. The slots in use are `tail, tail + 1, …, head`, read with
wrap-around. `tail` one ahead of `head` is the empty buffer, so a buffer of `n` slots holds
at most `n - 1` entries: the extra slot is what tells an empty buffer from a full one.

This file gives the occupancy count of such a buffer (`count`) and how it changes when `head`
or `tail` advances by one slot (`succ`). These are the facts a proof about a buffer of this kind
needs to turn index arithmetic modulo `n` into arithmetic on the count.
-/

namespace CircularBuffer

variable {n : Nat}

/-! ## Index arithmetic -/

/-- The slot after `i`, wrapping from the last slot to `0`. -/
def succ (i : Fin n) : Fin n := ⟨(i.val + 1) % n, Nat.mod_lt _ i.pos⟩

/-- The slot `k` places after `i`, with wrap-around. -/
def offset (i : Fin n) (k : Nat) : Fin n := ⟨(i.val + k) % n, Nat.mod_lt _ i.pos⟩

/-- The number of slots in use when `head` is the newest and `tail` the oldest slot. -/
def count (head tail : Fin n) : Nat := (n + head.val + 1 - tail.val) % n

/-- A number between `0` and `2 * n`, reduced modulo `n`: the three cases. -/
theorem mod_cases {a : Nat} (h : a ≤ 2 * n) :
    (a < n ∧ a % n = a) ∨ (n ≤ a ∧ a < 2 * n ∧ a % n = a - n) ∨ (a = 2 * n ∧ a % n = 0) := by
  rcases Nat.lt_or_ge a n with hlt | hge
  · exact Or.inl ⟨hlt, Nat.mod_eq_of_lt hlt⟩
  · rcases Nat.lt_or_ge a (2 * n) with hlt2 | hge2
    · refine Or.inr (Or.inl ⟨hge, hlt2, ?_⟩)
      rw [Nat.mod_eq_sub_mod hge, Nat.mod_eq_of_lt (by omega)]
    · have ha : a = 2 * n := by omega
      refine Or.inr (Or.inr ⟨ha, ?_⟩)
      rw [ha, Nat.mul_mod_left]

@[simp] theorem val_succ (i : Fin n) : (succ i).val = (i.val + 1) % n := rfl

@[simp] theorem val_offset (i : Fin n) (k : Nat) : (offset i k).val = (i.val + k) % n := rfl

theorem offset_zero (i : Fin n) : offset i 0 = i := by
  ext
  simp [Nat.mod_eq_of_lt i.isLt]

theorem offset_add_one (i : Fin n) (k : Nat) : offset i (k + 1) = succ (offset i k) := by
  ext
  simp only [val_offset, val_succ]
  rw [Nat.mod_add_mod, Nat.add_assoc]

theorem offset_one (i : Fin n) : offset i 1 = succ i := by
  rw [offset_add_one, offset_zero]

/-- Moving `k + 1` places from `i` is moving `k` places from the slot after `i`. -/
theorem offset_succ_left (i : Fin n) (k : Nat) : offset (succ i) k = offset i (k + 1) := by
  ext
  simp only [val_offset, val_succ, Nat.mod_add_mod]
  congr 1
  omega

/-- Offsets below `n` name distinct slots. -/
theorem offset_injective (i : Fin n) {j k : Nat} (hj : j < n) (hk : k < n)
    (h : offset i j = offset i k) : j = k := by
  have hv := congrArg Fin.val h
  simp only [val_offset] at hv
  have hi := i.isLt
  rcases mod_cases (n := n) (a := i.val + j) (by omega) with ⟨_, h1⟩ | ⟨_, _, h1⟩ | ⟨_, h1⟩ <;>
    rcases mod_cases (n := n) (a := i.val + k) (by omega) with ⟨_, h2⟩ | ⟨_, _, h2⟩ | ⟨_, h2⟩ <;>
    omega

/-! ## The occupancy count -/

theorem count_lt (head tail : Fin n) : count head tail < n :=
  Nat.mod_lt _ head.pos

/-- Walking `count head tail` places from `tail` lands on the slot after `head`. -/
theorem offset_count (head tail : Fin n) : offset tail (count head tail) = succ head := by
  ext
  have hh := head.isLt
  have ht := tail.isLt
  simp only [val_offset, val_succ, count]
  rcases mod_cases (n := n) (a := n + head.val + 1 - tail.val) (by omega) with
      ⟨_, h1⟩ | ⟨_, _, h1⟩ | ⟨_, h1⟩ <;> rw [h1]
  · rw [show tail.val + (n + head.val + 1 - tail.val) = (head.val + 1) + n * 1 by omega,
      Nat.add_mul_mod_self_left]
  · congr 1
    omega
  · rw [show head.val + 1 = n by omega, Nat.mod_self, show tail.val = 0 by omega]
    simp

/-- `count` is the only offset below `n` from `tail` to the slot after `head`. -/
theorem count_eq_of_offset {head tail : Fin n} {d : Nat} (hd : d < n)
    (h : offset tail d = succ head) : count head tail = d :=
  offset_injective tail (count_lt head tail) hd (by rw [offset_count, h])

theorem offset_self (i : Fin n) : offset i n = i := by
  ext
  simp [Nat.mod_eq_of_lt i.isLt]

theorem count_eq_zero_iff (head tail : Fin n) : count head tail = 0 ↔ tail = succ head := by
  constructor
  · intro h
    rw [← offset_count head tail, h, offset_zero]
  · intro h
    exact count_eq_of_offset head.pos (by rw [offset_zero, h])

/-- Advancing `head` into a free slot adds one slot in use. -/
theorem count_succ_head {head tail : Fin n} (h : count head tail + 1 < n) :
    count (succ head) tail = count head tail + 1 := by
  apply count_eq_of_offset h
  rw [offset_add_one, offset_count]

/-- Advancing `tail` past an occupied slot frees it. -/
theorem count_succ_tail {head tail : Fin n} (h : 0 < count head tail) :
    count head (succ tail) = count head tail - 1 := by
  have hlt := count_lt head tail
  apply count_eq_of_offset (by omega)
  rw [offset_succ_left, Nat.sub_add_cancel h, offset_count]

/-- Advancing `tail` of an empty buffer makes every other slot look occupied: this is the
wrap-around a loop that advances `tail` without checking for emptiness first runs into. -/
theorem count_succ_tail_of_zero {head tail : Fin n} (h : count head tail = 0) :
    count head (succ tail) = n - 1 := by
  have hpos := head.pos
  apply count_eq_of_offset (by omega)
  rw [offset_succ_left, Nat.sub_add_cancel hpos, offset_self]
  exact (count_eq_zero_iff head tail).mp h

end CircularBuffer
