import Mathlib.Data.List.TakeWhile

set_option autoImplicit false

/-! # C string functions

The functions of the C library that a program calls on byte strings in fixed buffers, as
functions of the strings: what string ends up in the buffer, and how many bytes the call
stores, the terminating `NUL` included, so that a caller can compare it with the buffer's size.
A string is its bytes before the terminator.
-/

namespace CString

/-- `isspace` in the C locale: space, and tab to carriage return. -/
def isSpace (c : UInt8) : Bool := c == 32 || (9 ≤ c && c ≤ 13)

/-- `sscanf(input, "<literal>%s", buf)`: the number of conversions and the string stored in
`buf`. The literal must match byte for byte; `%s` skips white space and stores the bytes up to
the next white space, however many. The result is `EOF` (`-1`) when the input ends before the
conversion, and `0` when a byte does not match the literal. -/
def scanLiteralString (literal input : List UInt8) : Int × List UInt8 :=
  if literal.isPrefixOf input then
    let rest := (input.drop literal.length).dropWhile isSpace
    if rest = [] then (-1, []) else (1, rest.takeWhile fun c => !isSpace c)
  else if input.isPrefixOf literal then (-1, [])
  else (0, [])

/-- The bytes a successful `%s` conversion stores: the string and its terminator. -/
def scanStored (scanned : List UInt8) : Nat := scanned.length + 1

/-- `strncat(dst, src, n)`: at most `n` bytes of `src` after `dst`. -/
def strncat (dst src : List UInt8) (n : Nat) : List UInt8 := dst ++ src.take n

/-- `strncpy(dst, src, n)` followed by `dst[n - 1] = '\0'`: at most `n - 1` bytes of `src`. -/
def strncpyTerminated (src : List UInt8) (n : Nat) : List UInt8 := src.take (n - 1)

/-- What `%s` stores after a literal that matches: the rest of the input when it is a single
word. -/
theorem scanLiteralString_append {literal word : List UInt8} (hne : word ≠ [])
    (hword : ∀ c ∈ word, isSpace c = false) :
    scanLiteralString literal (literal ++ word) = (1, word) := by
  obtain ⟨c, cs, rfl⟩ := List.exists_cons_of_ne_nil hne
  have hc : isSpace c = false := hword c List.mem_cons_self
  have hall : ∀ x ∈ c :: cs, (!isSpace x) = true := fun x hx => by simp [hword x hx]
  simp [scanLiteralString, List.isPrefixOf_iff_prefix, hc, List.takeWhile_eq_self_iff.mpr hall]

/-- Two `strncat`s into a buffer of `size` bytes, each bounded by the room left, keep the first
`size - 1` bytes of the concatenation. -/
theorem strncat_strncat {dst a b : List UInt8} {size : Nat} (h : dst.length < size) :
    strncat (strncat dst a (size - dst.length - 1)) b
        (size - (strncat dst a (size - dst.length - 1)).length - 1) =
      (dst ++ a ++ b).take (size - 1) := by
  simp only [strncat, List.length_append, List.length_take]
  -- the room left for `b` is what `a` left of the room after `dst`
  rw [show size - (dst.length + min (size - dst.length - 1) a.length) - 1 =
      size - 1 - dst.length - a.length by omega,
    show size - dst.length - 1 = size - 1 - dst.length by omega]
  simp only [List.append_assoc]
  rw [List.take_append, List.take_of_length_le (show dst.length ≤ size - 1 by omega),
    List.take_append]

end CString
