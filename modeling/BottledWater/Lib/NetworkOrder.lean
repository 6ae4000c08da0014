import Mathlib.Tactic

set_option autoImplicit false

/-! # Network byte order

An unsigned number as a fixed count of bytes, the most significant first, the order `htonl`
gives and `ntohl` reads, and the two's complement reading of a 64-bit pattern. The encoder keeps
the low bytes of any number; the decoder reads the number back modulo the width
(`fromBigEndian_bigEndian`), and a decoder that reads a prefix ignores what follows it
(`fromBigEndian_take_append`).
-/

namespace NetworkOrder

/-- The `k` low bytes of `n`, the most significant first. -/
def bigEndian : Nat → Nat → List UInt8
  | 0, _ => []
  | k + 1, n => bigEndian k (n / 256) ++ [(n % 256).toUInt8]

/-- The number that bytes stand for, the first the most significant. -/
def fromBigEndian (bs : List UInt8) : Nat :=
  bs.foldl (fun acc b => 256 * acc + b.toNat) 0

/-- The value of a 64-bit pattern read as a signed `int64`. -/
def toSigned64 (n : Nat) : Int :=
  if n < 2 ^ 63 then n else (n : Int) - 2 ^ 64

/-- The pattern of an `int64` converted to an unsigned 64-bit integer. -/
def toUnsigned64 (i : Int) : Nat :=
  (i % 2 ^ 64).toNat

@[simp]
theorem length_bigEndian (k n : Nat) : (bigEndian k n).length = k := by
  induction k generalizing n with
  | zero => rfl
  | succ k ih => simp [bigEndian, ih]

/-- Folding the decoder's step over an encoding starts from any accumulator: the encoded
bytes shift it up by their width. -/
theorem foldl_bigEndian (k : Nat) :
    ∀ n acc : Nat, (bigEndian k n).foldl (fun acc b => 256 * acc + b.toNat) acc =
      acc * 256 ^ k + n % 256 ^ k := by
  induction k with
  | zero =>
    intro n acc
    simp [bigEndian, Nat.mod_one]
  | succ k ih =>
    intro n acc
    rw [bigEndian, List.foldl_append, ih (n / 256) acc]
    have hbyte : ((n % 256).toUInt8).toNat = n % 256 := by simp
    simp only [List.foldl_cons, List.foldl_nil, hbyte]
    -- the low byte of `n` and the `k` bytes above it make up `n % 256 ^ (k + 1)`
    have hmod : n % 256 ^ (k + 1) = n % 256 + 256 * (n / 256 % 256 ^ k) := by
      rw [pow_succ', Nat.mod_mul]
    rw [hmod, pow_succ']
    ring

theorem fromBigEndian_bigEndian (k n : Nat) : fromBigEndian (bigEndian k n) = n % 256 ^ k := by
  rw [fromBigEndian, foldl_bigEndian k n 0]
  simp

/-- A decoder that reads the first `k` bytes reads an encoding of width `k` whatever follows. -/
theorem fromBigEndian_take_append (k n : Nat) (rest : List UInt8) :
    fromBigEndian ((bigEndian k n ++ rest).take k) = n % 256 ^ k := by
  rw [List.take_left' (length_bigEndian k n), fromBigEndian_bigEndian]

theorem toUnsigned64_lt (i : Int) : toUnsigned64 i < 2 ^ 64 := by
  unfold toUnsigned64
  omega

/-- Reading a 64-bit pattern as signed and converting it back to unsigned keeps it. -/
theorem toUnsigned64_toSigned64 {n : Nat} (h : n < 2 ^ 64) : toUnsigned64 (toSigned64 n) = n := by
  unfold toUnsigned64 toSigned64
  split <;> omega

end NetworkOrder
