import BottledWater.Lib.CString
import Mathlib.Tactic

set_option autoImplicit false

/-! # Numbers in `printf` and `scanf`

`printf`'s `%X` prints an unsigned number in hexadecimal: upper-case digits, the most significant
first, no leading zero (`formatHex`). `scanf`'s `%X` reads one into an `unsigned int` the way
glibc does (`scanHex`): white space skipped, a sign, a `0` that may be followed by `x` or `X`,
then the longest run of hexadecimal digits of either case, whose value `strtoul` takes
(`ULONG_MAX` past 64 bits, negated after a minus) and the store cuts to 32 bits. What `%X`
prints reads back as the number it printed, whatever follows that is neither a digit nor an `x`
(`scanHex_formatHex_append`). `snprintf` into a buffer keeps what fits before the terminator.
-/

namespace CFormat

open CString

/-- `snprintf(buf, size, ...)` of a formatted text: the bytes that fit before the terminator. -/
def snprintf (size : Nat) (text : List UInt8) : List UInt8 := text.take (size - 1)

/-- `%d` of a number that is not negative. -/
def formatDecimal (n : Nat) : List UInt8 := (Nat.toDigits 10 n).map Char.toUInt8

/-- The digit `%X` prints for a value below 16. -/
def hexDigitUpper (d : Nat) : UInt8 :=
  if d < 10 then UInt8.ofNat (48 + d) else UInt8.ofNat (55 + d)

/-- The value of a hexadecimal digit of either case; `none` for another byte. -/
def hexValue (c : UInt8) : Option Nat :=
  if 48 ≤ c ∧ c ≤ 57 then some (c.toNat - 48)
  else if 65 ≤ c ∧ c ≤ 70 then some (c.toNat - 55)
  else if 97 ≤ c ∧ c ≤ 102 then some (c.toNat - 87)
  else none

/-- `isxdigit`. -/
def isHexDigit (c : UInt8) : Bool := (hexValue c).isSome

/-- The number hexadecimal digits stand for, the first the most significant. -/
def hexDigitsValue (digits : List UInt8) : Nat :=
  digits.foldl (fun acc c => 16 * acc + (hexValue c).getD 0) 0

/-- The loop of `printf`'s conversion: the last digit of `n` goes before the digits written so
far, and the loop goes on with the quotient while it is not zero. `fuel` bounds the loop; the
number of digits never reaches it (`formatHex`). -/
def hexDigits : Nat → Nat → List UInt8 → List UInt8
  | 0, _, acc => acc
  | fuel + 1, n, acc =>
    if n / 16 = 0 then hexDigitUpper (n % 16) :: acc
    else hexDigits fuel (n / 16) (hexDigitUpper (n % 16) :: acc)

/-- `printf("%X", n)`. -/
def formatHex (n : Nat) : List UInt8 := hexDigits (n + 1) n []

/-- The sign `scanf` reads before a number: whether it is a minus, and the rest. -/
def scanSign (text : List UInt8) : Bool × List UInt8 :=
  match text with
  | c :: rest => if c = 45 then (true, rest) else if c = 43 then (false, rest) else (false, text)
  | [] => (false, [])

/-- A `0` followed by `x` or `X`: `scanf` keeps the `0` as a digit of the number and skips the
`x`. Whether it skipped one, and the rest. -/
def scanHexPrefix (text : List UInt8) : Bool × List UInt8 :=
  match text with
  | zero :: x :: rest => if zero = 48 ∧ (x = 120 ∨ x = 88) then (true, rest) else (false, text)
  | _ => (false, text)

/-- `strtoul` of hexadecimal digits after a sign: `ULONG_MAX` past 64 bits, else the value,
negated modulo `2 ^ 64` after a minus. -/
def strtoulHex (negative : Bool) (digits : List UInt8) : Nat :=
  if 2 ^ 64 ≤ hexDigitsValue digits then 2 ^ 64 - 1
  else if negative then (2 ^ 64 - hexDigitsValue digits) % 2 ^ 64
  else hexDigitsValue digits

/-- `sscanf`'s `%X` into an `unsigned int`: the number and the rest of the input; `none`, a
matching failure, when there is no digit after the white space and the sign. -/
def scanHex (text : List UInt8) : Option (Nat × List UInt8) :=
  let signed := scanSign (text.dropWhile isSpace)
  let prefixed := scanHexPrefix signed.2
  let digits := prefixed.2.takeWhile isHexDigit
  if digits = [] ∧ prefixed.1 = false then none
  else some (strtoulHex signed.1 digits % 2 ^ 32, prefixed.2.dropWhile isHexDigit)

/-! ## Digits -/

theorem isHexDigit_iff {c : UInt8} : isHexDigit c = true ↔
    48 ≤ c.toNat ∧ c.toNat ≤ 57 ∨ 65 ≤ c.toNat ∧ c.toNat ≤ 70 ∨ 97 ≤ c.toNat ∧ c.toNat ≤ 102 := by
  unfold isHexDigit hexValue
  simp only [UInt8.le_iff_toNat_le, UInt8.toNat_ofNat]
  split_ifs <;> simp <;> omega

/-- A hexadecimal digit is neither white space, a sign nor an `x`. -/
theorem isHexDigit_ne {c : UInt8} (h : isHexDigit c = true) :
    isSpace c = false ∧ c ≠ 45 ∧ c ≠ 43 ∧ c ≠ 120 ∧ c ≠ 88 := by
  rw [isHexDigit_iff] at h
  have hne : ∀ k : UInt8,
      k.toNat < 48 ∨ (57 < k.toNat ∧ k.toNat < 65) ∨ (70 < k.toNat ∧ k.toNat < 97) ∨
        102 < k.toNat → c ≠ k := by
    rintro k hk rfl
    omega
  refine ⟨?_, hne 45 (by decide), hne 43 (by decide), hne 120 (by decide), hne 88 (by decide)⟩
  simp only [isSpace, Bool.or_eq_false_iff, beq_eq_false_iff_ne, Bool.and_eq_false_imp,
    decide_eq_true_eq, UInt8.le_iff_toNat_le]
  refine ⟨hne 32 (by decide), fun _ => ?_⟩
  simp
  omega

theorem hexValue_hexDigitUpper {d : Nat} (h : d < 16) : hexValue (hexDigitUpper d) = some d := by
  have hall : ∀ d : Fin 16, hexValue (hexDigitUpper d) = some d := by decide
  exact hall ⟨d, h⟩

theorem isHexDigit_hexDigitUpper {d : Nat} (h : d < 16) : isHexDigit (hexDigitUpper d) = true := by
  simp [isHexDigit, hexValue_hexDigitUpper h]

theorem hexDigitsValue_append_singleton (digits : List UInt8) (c : UInt8) :
    hexDigitsValue (digits ++ [c]) = 16 * hexDigitsValue digits + (hexValue c).getD 0 := by
  simp [hexDigitsValue, List.foldl_append]

/-- **The conversion loop writes the digits of `n`**, when the fuel bounds them: at least one,
all hexadecimal, standing for `n`. -/
theorem hexDigits_spec : ∀ (fuel n : Nat) (acc : List UInt8), n < 16 ^ fuel → 0 < fuel →
    ∃ digits, hexDigits fuel n acc = digits ++ acc ∧ digits ≠ [] ∧
      (∀ c ∈ digits, isHexDigit c = true) ∧ hexDigitsValue digits = n
  | 0, _, _, _, hfuel => absurd hfuel (by decide)
  | fuel + 1, n, acc, h, _ => by
    have hdigit : n % 16 < 16 := Nat.mod_lt n (by decide)
    by_cases hlast : n / 16 = 0
    · -- the last digit is the only one
      refine ⟨[hexDigitUpper (n % 16)], by simp [hexDigits, hlast], by simp, ?_, ?_⟩
      · simpa using isHexDigit_hexDigitUpper hdigit
      · simp [hexDigitsValue, hexValue_hexDigitUpper hdigit]
        omega
    · -- the digits of the quotient come before the last one, and the fuel left bounds them
      have hq : n / 16 < 16 ^ fuel := by
        rw [Nat.pow_succ] at h
        omega
      have hfuel : 0 < fuel := by
        rcases Nat.eq_zero_or_pos fuel with rfl | hpos
        · simp at hq
          omega
        · exact hpos
      obtain ⟨digits, hrun, hne, hhex, hval⟩ :=
        hexDigits_spec fuel (n / 16) (hexDigitUpper (n % 16) :: acc) hq hfuel
      refine ⟨digits ++ [hexDigitUpper (n % 16)], ?_, by simp, ?_, ?_⟩
      · simp [hexDigits, hlast, hrun]
      · intro c hc
        rcases List.mem_append.mp hc with hc | hc
        · exact hhex c hc
        · rw [List.mem_singleton.mp hc]
          exact isHexDigit_hexDigitUpper hdigit
      · rw [hexDigitsValue_append_singleton, hval, hexValue_hexDigitUpper hdigit]
        simp only [Option.getD_some]
        omega

theorem formatHex_spec (n : Nat) :
    formatHex n ≠ [] ∧ (∀ c ∈ formatHex n, isHexDigit c = true) ∧
      hexDigitsValue (formatHex n) = n := by
  have hfuel : n < 16 ^ (n + 1) := lt_trans (Nat.lt_pow_self (by decide)) (Nat.pow_lt_pow_right
    (by decide) (Nat.lt_succ_self n))
  obtain ⟨digits, hrun, hne, hhex, hval⟩ := hexDigits_spec (n + 1) n [] hfuel (Nat.succ_pos n)
  rw [List.append_nil] at hrun
  rw [formatHex, hrun]
  exact ⟨hne, hhex, hval⟩

/-! ## Reading back what `%X` prints -/

/-- The text after a number that `scanf` does not take into it. -/
def EndsNumber (rest : List UInt8) : Prop :=
  ∀ c ∈ rest.head?, isHexDigit c = false ∧ c ≠ 120 ∧ c ≠ 88

theorem takeWhile_isHexDigit_of_endsNumber {rest : List UInt8} (h : EndsNumber rest) :
    rest.takeWhile isHexDigit = [] ∧ rest.dropWhile isHexDigit = rest := by
  cases rest with
  | nil => exact ⟨rfl, rfl⟩
  | cons c rest =>
    have hc := (h c rfl).1
    exact ⟨List.takeWhile_cons_of_neg (by simp [hc]), List.dropWhile_cons_of_neg (by simp [hc])⟩

/-- Digits followed by what ends a number carry no `0x` prefix. -/
theorem scanHexPrefix_digits {digits rest : List UInt8} (hne : digits ≠ [])
    (hhex : ∀ c ∈ digits, isHexDigit c = true) (hrest : EndsNumber rest) :
    scanHexPrefix (digits ++ rest) = (false, digits ++ rest) := by
  obtain ⟨d, ds, rfl⟩ := List.exists_cons_of_ne_nil hne
  -- the byte after the first digit is a digit or the first byte of the rest
  have hx : ∀ x ∈ (ds ++ rest).head?, x ≠ 120 ∧ x ≠ 88 := by
    intro x hx
    cases ds with
    | nil => exact (hrest x (by simpa using hx)).2
    | cons d' ds =>
      obtain rfl : d' = x := by simpa using hx
      exact (isHexDigit_ne (hhex d' (by simp))).2.2.2
  rw [List.cons_append]
  cases htail : ds ++ rest with
  | nil => rfl
  | cons x tail =>
    have hnotx := hx x (by simp [htail])
    simp only [scanHexPrefix]
    rw [if_neg fun hzero => hzero.2.elim hnotx.1 hnotx.2]

/-- **`%X` reads back what `%X` prints**, for a number that fits an `unsigned int`, whatever
follows that is neither a digit nor an `x`. -/
theorem scanHex_formatHex_append {n : Nat} (hn : n < 2 ^ 32) {rest : List UInt8}
    (hrest : EndsNumber rest) : scanHex (formatHex n ++ rest) = some (n, rest) := by
  obtain ⟨hne, hhex, hval⟩ := formatHex_spec n
  obtain ⟨d, ds, hds⟩ := List.exists_cons_of_ne_nil hne
  have hd := isHexDigit_ne (hhex d (by simp [hds]))
  -- no white space and no sign before the digits
  have hspace : (formatHex n ++ rest).dropWhile isSpace = formatHex n ++ rest := by
    rw [hds]
    exact List.dropWhile_cons_of_neg (by simp [hd.1])
  have hsign : scanSign (formatHex n ++ rest) = (false, formatHex n ++ rest) := by
    rw [hds]
    simp [scanSign, hd.2.1, hd.2.2.1]
  obtain ⟨htake, hdrop⟩ := takeWhile_isHexDigit_of_endsNumber hrest
  unfold scanHex
  simp only [hspace, hsign, scanHexPrefix_digits hne hhex hrest, List.takeWhile_append_of_pos hhex,
    List.dropWhile_append_of_pos hhex, htake, hdrop, List.append_nil, hne, if_false,
    strtoulHex, hval, Option.some.injEq, Prod.mk.injEq, and_true]
  have hlt : ¬2 ^ 64 ≤ n := by omega
  simp only [hlt, if_false, Bool.false_eq_true]
  exact Nat.mod_eq_of_lt hn

end CFormat
