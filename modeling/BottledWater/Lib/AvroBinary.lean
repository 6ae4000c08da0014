import BottledWater.Lib.AvroValue

set_option autoImplicit false

/-! # The binary encoding of Avro values

The binary encoding of the Avro specification (section "Binary Encoding"), as the C library's
`avro_value_write` writes a value and `avro_value_read` reads one back against a schema. Longs
and ints are zig-zag encoded variable-length integers; bytes and strings are their length and
then their bytes; a record is its fields one after the other; an array is one block with its
count of items, the items, and a count of zero (or only the zero when it is empty); a union is
its branch index and the value in the branch. The writer follows the value alone; the reader
follows the schema, and reads the blocks of an array however the writer split them.

The main result, `read_write`, is the round trip: reading what the writer wrote for a value
that conforms to the schema gives the value back, and leaves the bytes after it. A floating
point number comes back as the number with the same bits (`canon`). So this encoding meets the
read-after-write law of `AvroC.Lawful`; the model of the program takes the C library's encoding
as a parameter, and this one serves its concrete runs.

The memory writer the program serialises into is a parameter too (`MemoryIface`), with the
`ENOSPC` rule as its law.
-/

namespace Avro
namespace Binary

/-- `ENOSPC`, which the memory reader returns at the end of its buffer. -/
def enospc : Int := 28

/-! ## Integers -/

/-- The variable-length encoding of a natural number: seven bits a byte, lowest first, with the
high bit set on every byte but the last. -/
def varint (n : Nat) : List UInt8 :=
  if n < 128 then [n.toUInt8] else (n % 128 + 128).toUInt8 :: varint (n / 128)
termination_by n
decreasing_by omega

/-- The number at the start of the bytes and the bytes after it; `ENOSPC` when the bytes end
inside it. -/
def readVarint : List UInt8 → Except Int (Nat × List UInt8)
  | [] => .error enospc
  | b :: rest =>
    if b.toNat < 128 then .ok (b.toNat, rest)
    else (readVarint rest).map fun (m, r) => (b.toNat - 128 + 128 * m, r)

/-- Zig-zag: the integers `0, -1, 1, -2, …` as the naturals `0, 1, 2, 3, …`. -/
def zigzag (n : Int) : Nat := if 0 ≤ n then 2 * n.toNat else 2 * (-n).toNat - 1

def unzigzag (m : Nat) : Int := if m % 2 = 0 then (m / 2 : Nat) else -(((m + 1) / 2 : Nat) : Int)

/-- An int or a long. -/
def writeLong (n : Int) : List UInt8 := varint (zigzag n)

def readLong (bs : List UInt8) : Except Int (Int × List UInt8) :=
  (readVarint bs).map fun (m, r) => (unzigzag m, r)

/-- The `k` bytes of a number, lowest first: the bits of a float (4) or a double (8). -/
def littleEndian : Nat → Nat → List UInt8
  | 0, _ => []
  | k + 1, n => (n % 256).toUInt8 :: littleEndian k (n / 256)

def fromLittleEndian : List UInt8 → Nat
  | [] => 0
  | b :: bs => b.toNat + 256 * fromLittleEndian bs

/-- The next `k` bytes; `ENOSPC` when fewer are left. -/
def readFixed : Nat → List UInt8 → Except Int (List UInt8 × List UInt8)
  | 0, bs => .ok ([], bs)
  | _ + 1, [] => .error enospc
  | k + 1, b :: bs => (readFixed k bs).map fun (xs, r) => (b :: xs, r)

/-! ## The writer and the reader -/

mutual
/-- `avro_value_write`: the encoding of a value. A union with no branch selected cannot be
written. -/
def write : Value → Except Int (List UInt8)
  | .null => .ok []
  | .boolean b => .ok [if b then 1 else 0]
  | .int i => .ok (writeLong i)
  | .long i => .ok (writeLong i)
  | .float x => .ok (littleEndian 4 x.toBits.toNat)
  | .double x => .ok (littleEndian 8 x.toBits.toNat)
  | .bytes b => .ok (writeLong b.length ++ b)
  | .string s => .ok (writeLong s.length ++ s)
  | .record vs => writeAll vs
  | .enum k => .ok (writeLong k)
  | .array [] => .ok [0]
  | .array (v :: vs) =>
    (writeAll (v :: vs)).map fun body => writeLong (v :: vs).length ++ body ++ [0]
  | .union none => .error einval
  | .union (some (k, v)) => (write v).map (writeLong k ++ ·)
termination_by structural v => v

/-- The values one after the other: a record's fields, or an array's items. -/
def writeAll : List Value → Except Int (List UInt8)
  | [] => .ok []
  | v :: vs => (write v).bind fun a => (writeAll vs).map (a ++ ·)
termination_by structural vs => vs
end

/-- `n` items, each read by `item`. -/
def readItems (item : List UInt8 → Except Int (Value × List UInt8)) :
    Nat → List UInt8 → Except Int (List Value × List UInt8)
  | 0, bs => .ok ([], bs)
  | n + 1, bs => (item bs).bind fun (v, bs) => (readItems item n bs).map fun (vs, bs) => (v :: vs, bs)

/-- The blocks of an array, until a count of zero: a count and that many items, where a negative
count is followed by the block's size in bytes. Every count takes a byte, so `fuel` at the
length of the bytes is enough. -/
def readBlocks (item : List UInt8 → Except Int (Value × List UInt8)) :
    Nat → List UInt8 → Except Int (List Value × List UInt8)
  | 0, _ => .error einval
  | fuel + 1, bs => (readLong bs).bind fun (count, bs) =>
    if count = 0 then .ok ([], bs)
    else
      let body := if count < 0 then (readLong bs).map (·.2) else .ok bs
      body.bind fun bs => (readItems item count.natAbs bs).bind fun (vs, bs) =>
        (readBlocks item fuel bs).map fun (ws, bs) => (vs ++ ws, bs)

mutual
/-- `avro_value_read`: a value of the schema at the start of the bytes, and the bytes after
it. -/
def read : Schema → List UInt8 → Except Int (Value × List UInt8)
  | .null, bs => .ok (.null, bs)
  | .boolean, [] => .error enospc
  | .boolean, b :: bs => .ok (.boolean (b == 1), bs)
  | .int, bs => (readLong bs).map fun (i, bs) => (.int i, bs)
  | .long, bs => (readLong bs).map fun (i, bs) => (.long i, bs)
  | .float, bs => (readFixed 4 bs).map fun (xs, bs) =>
      (.float (Float32.ofBits (UInt32.ofNat (fromLittleEndian xs))), bs)
  | .double, bs => (readFixed 8 bs).map fun (xs, bs) =>
      (.double (Float.ofBits (UInt64.ofNat (fromLittleEndian xs))), bs)
  | .bytes, bs => (readLong bs).bind fun (n, bs) => (readFixed n.toNat bs).map fun (xs, bs) => (.bytes xs, bs)
  | .string, bs => (readLong bs).bind fun (n, bs) => (readFixed n.toNat bs).map fun (xs, bs) =>
      (.string xs, bs)
  | .record _ _ fs, bs => (readFields fs bs).map fun (vs, bs) => (.record vs, bs)
  | .enum _ _, bs => (readLong bs).map fun (k, bs) => (.enum k.toNat, bs)
  | .array t, bs => (readBlocks (read t) (bs.length + 1) bs).map fun (vs, bs) => (.array vs, bs)
  | .union branches, bs => (readLong bs).bind fun (k, bs) =>
      if 0 ≤ k then (readBranch branches k.toNat bs).map fun (v, bs) =>
        (.union (some (k.toNat, v)), bs)
      else .error einval
termination_by structural s => s

/-- The fields of a record, in order. -/
def readFields : List (List UInt8 × Schema) → List UInt8 → Except Int (List Value × List UInt8)
  | [], bs => .ok ([], bs)
  | (_, s) :: fs, bs => (read s bs).bind fun (v, bs) => (readFields fs bs).map fun (vs, bs) => (v :: vs, bs)
termination_by structural fs => fs

/-- The value of a union's branch `k`; `EINVAL` when there is no such branch. -/
def readBranch : List Schema → Nat → List UInt8 → Except Int (Value × List UInt8)
  | [], _, _ => .error einval
  | b :: _, 0, bs => read b bs
  | _ :: branches, k + 1, bs => readBranch branches k bs
termination_by structural branches => branches
end

/-! ## The round trip -/

theorem toNat_toUInt8 {n : Nat} (h : n < 256) : n.toUInt8.toNat = n := by
  simp [Nat.mod_eq_of_lt h]

theorem readVarint_varint (n : Nat) (rest : List UInt8) :
    readVarint (varint n ++ rest) = .ok (n, rest) := by
  induction n using Nat.strongRecOn with
  | ind n ih =>
    rw [varint]
    split
    · rename_i small
      simp [readVarint, toNat_toUInt8 (by omega : n < 256), small]
    · rename_i big
      have byte := toNat_toUInt8 (by omega : n % 128 + 128 < 256)
      simp only [List.cons_append, readVarint, byte, ih (n / 128) (by omega),
        show ¬(n % 128 + 128 < 128) by omega, if_false, Except.map]
      congr 2
      omega

theorem unzigzag_zigzag (n : Int) : unzigzag (zigzag n) = n := by
  unfold zigzag unzigzag
  split_ifs <;> omega

theorem readLong_writeLong (n : Int) (rest : List UInt8) :
    readLong (writeLong n ++ rest) = .ok (n, rest) := by
  simp [readLong, writeLong, readVarint_varint, Except.map, unzigzag_zigzag]

theorem readFixed_append (xs rest : List UInt8) :
    readFixed xs.length (xs ++ rest) = .ok (xs, rest) := by
  induction xs with
  | nil => rfl
  | cons x xs ih => simp [readFixed, ih, Except.map]

theorem length_littleEndian (k n : Nat) : (littleEndian k n).length = k := by
  induction k generalizing n with
  | zero => rfl
  | succ k ih => simp [littleEndian, ih]

theorem fromLittleEndian_littleEndian (k n : Nat) :
    fromLittleEndian (littleEndian k n) = n % 256 ^ k := by
  induction k generalizing n with
  | zero => simp [littleEndian, fromLittleEndian, Nat.mod_one]
  | succ k ih =>
    simp only [littleEndian, fromLittleEndian, ih, toNat_toUInt8 (Nat.mod_lt n (by omega))]
    rw [pow_succ', Nat.mod_mul]

theorem readFixed_littleEndian (k n : Nat) (rest : List UInt8) :
    readFixed k (littleEndian k n ++ rest) = .ok (littleEndian k n, rest) := by
  have := readFixed_append (littleEndian k n) rest
  rwa [length_littleEndian] at this

theorem readBranch_eq {bs : List Schema} {i : Nat} {b : Schema} (hb : bs[i]? = some b)
    (bytes : List UInt8) : readBranch bs i bytes = read b bytes := by
  induction bs generalizing i with
  | nil => cases hb
  | cons b' bs ih =>
    cases i with
    | zero =>
      obtain rfl : b' = b := by simpa using hb
      simp [readBranch]
    | succ i => simp [readBranch, ih (by simpa using hb)]

theorem writeLong_zero : writeLong 0 = [0] := by
  simp [writeLong, zigzag, varint]

/-- A long below `64` is one byte, twice its value. -/
theorem writeLong_small {n : Int} (h0 : 0 ≤ n) (h : n < 64) :
    writeLong n = [(2 * n.toNat).toUInt8] := by
  rw [writeLong, zigzag, if_pos h0, varint, if_pos (by omega)]

/-- A number from `2^14` up to `2^21` takes three bytes. -/
theorem length_varint_three {n : Nat} (hlo : 16384 ≤ n) (hhi : n < 2097152) :
    (varint n).length = 3 := by
  rw [varint, if_neg (by omega), varint, if_neg (by omega), varint, if_pos (by omega)]
  rfl

/-- A long from `2^13` up to `2^20` takes three bytes. -/
theorem length_writeLong_three {n : Int} (hlo : 8192 ≤ n) (hhi : n < 1048576) :
    (writeLong n).length = 3 := by
  rw [writeLong, zigzag, if_pos (by omega)]
  exact length_varint_three (by omega) (by omega)

theorem readLong_zero (rest : List UInt8) : readLong (0 :: rest) = .ok (0, rest) := by
  simpa [writeLong_zero] using readLong_writeLong 0 rest

/-- A count of zero ends the blocks of an array. -/
theorem readBlocks_end (item : List UInt8 → Except Int (Value × List UInt8)) (fuel : Nat)
    (rest : List UInt8) : readBlocks item (fuel + 1) (0 :: rest) = .ok ([], rest) := by
  simp [readBlocks, readLong_zero, Except.bind]

/-- A block of `n` items, then the blocks after it. -/
theorem readBlocks_block (item : List UInt8 → Except Int (Value × List UInt8)) (fuel : Nat)
    {n : Nat} (hn : 0 < n) (bs : List UInt8) :
    readBlocks item (fuel + 1) (writeLong n ++ bs) =
      (readItems item n bs).bind fun (vs, bs) =>
        (readBlocks item fuel bs).map fun (ws, bs) => (vs ++ ws, bs) := by
  have hne : (n : Int) ≠ 0 := by omega
  have hpos : ¬ (n : Int) < 0 := by omega
  simp only [readBlocks, readLong_writeLong, Except.bind, if_neg hne, if_neg hpos,
    Int.natAbs_natCast]

theorem writeAll_cons_ok {v : Value} {vs : List Value} {bytes : List UInt8}
    (h : writeAll (v :: vs) = .ok bytes) :
    ∃ a b, write v = .ok a ∧ writeAll vs = .ok b ∧ bytes = a ++ b := by
  rw [writeAll] at h
  cases ha : write v with
  | error e => simp [ha, Except.bind] at h
  | ok a =>
    cases hb : writeAll vs with
    | error e => simp [ha, hb, Except.bind, Except.map] at h
    | ok b =>
      simp only [ha, hb, Except.bind, Except.map, Except.ok.injEq] at h
      exact ⟨a, b, rfl, rfl, h.symm⟩

theorem map_eq_ok {α β : Type} {f : α → β} {x : Except Int α} {b : β} (h : x.map f = .ok b) :
    ∃ a, x = .ok a ∧ f a = b := by
  cases x with
  | error e => cases h
  | ok a => exact ⟨a, rfl, Except.ok.inj h⟩

/-- An array with items, written as one block: the count, the items, and the count of zero that
ends the blocks. -/
theorem read_array_block {t : Schema} {vs : List Value} (hne : vs ≠ []) {body rest : List UInt8}
    (hitems : readItems (read t) vs.length (body ++ 0 :: rest) = .ok (canonAll vs, 0 :: rest)) :
    read (.array t) (writeLong vs.length ++ body ++ [0] ++ rest) =
      .ok (.array (canonAll vs), rest) := by
  obtain ⟨m, hm⟩ : ∃ m, (writeLong vs.length ++ body ++ [0] ++ rest).length = m + 1 :=
    ⟨(writeLong vs.length ++ body).length + rest.length, by simp; omega⟩
  have hpos : 0 < vs.length := List.length_pos_iff.mpr hne
  simp only [read]
  rw [hm]
  simp only [List.append_assoc, List.singleton_append]
  rw [readBlocks_block _ _ hpos, hitems]
  simp [readBlocks_end, Except.bind, Except.map]

/-- A union: the index of its branch, then the value in the branch. -/
theorem read_union_branch {bs : List Schema} {i : Nat} {b : Schema} (hb : bs[i]? = some b)
    {wb rest : List UInt8} {v : Value} (hread : read b (wb ++ rest) = .ok (v, rest)) :
    read (.union bs) (writeLong i ++ wb ++ rest) = .ok (.union (some (i, v)), rest) := by
  have hi := readLong_writeLong i (wb ++ rest)
  simp only [read, List.append_assoc, hi, Except.bind, Nat.cast_nonneg, if_true,
    Int.toNat_natCast, readBranch_eq hb, hread, Except.map]

mutual
/-- **Reading what was written.** The reader gives back a value that conforms to the schema
from the bytes the writer wrote for it, and leaves the bytes after them. The induction is on
the value, with the fields of a record and the items of an array in the two lemmas after it. -/
theorem read_write {s : Schema} {v : Value} {bytes : List UInt8} (rest : List UInt8)
    (hc : conforms s v = true) (hw : write v = .ok bytes) :
    read s (bytes ++ rest) = .ok (canon v, rest) := by
  match s, v with
  | .null, .null =>
    simp [write] at hw
    subst hw
    simp [read, canon]
  | .boolean, .boolean b =>
    simp [write] at hw
    subst hw
    cases b <;> simp [read, canon]
  | .int, .int i | .long, .long i =>
    simp [write] at hw
    subst hw
    simp [read, readLong_writeLong, Except.map, canon]
  | .float, .float x =>
    simp [write] at hw
    subst hw
    simp [read, readFixed_littleEndian, Except.map, fromLittleEndian_littleEndian,
      Nat.mod_eq_of_lt x.toBits.toNat_lt, canon]
  | .double, .double x =>
    simp [write] at hw
    subst hw
    simp [read, readFixed_littleEndian, Except.map, fromLittleEndian_littleEndian,
      Nat.mod_eq_of_lt x.toBits.toNat_lt, canon]
  | .bytes, .bytes b | .string, .string b =>
    simp [write] at hw
    subst hw
    simp [read, readLong_writeLong, Except.map, Except.bind, readFixed_append, canon]
  | .record _ _ fs, .record vs =>
    rw [write] at hw
    rw [conforms] at hc
    simp [read, read_writeFields rest hc hw, Except.map, canon]
  | .enum _ _, .enum k =>
    simp [write] at hw
    subst hw
    simp [read, readLong_writeLong, Except.map, canon]
  | .array t, .array [] =>
    simp [write] at hw
    subst hw
    simp [read, readBlocks_end, Except.map, canon, canonAll]
  | .array t, .array (w :: ws) =>
    rw [write] at hw
    rw [conforms] at hc
    obtain ⟨body, hbody, rfl⟩ := map_eq_ok hw
    rw [canon]
    exact read_array_block (List.cons_ne_nil w ws) (read_writeItems (0 :: rest) hc hbody)
  | .union bs, .union (some (i, w)) =>
    cases hb : bs[i]? with
    | none => simp [conforms, hb] at hc
    | some b =>
      simp only [conforms, hb] at hc
      rw [write] at hw
      obtain ⟨wb, hwb, rfl⟩ := map_eq_ok hw
      rw [canon]
      exact read_union_branch hb (read_write rest hc hwb)
termination_by structural v

theorem read_writeFields {fs : List (List UInt8 × Schema)} {vs : List Value} {bytes : List UInt8}
    (rest : List UInt8) (hc : conformsFields fs vs = true) (hw : writeAll vs = .ok bytes) :
    readFields fs (bytes ++ rest) = .ok (canonAll vs, rest) := by
  match fs, vs with
  | [], [] =>
    simp [writeAll] at hw
    subst hw
    simp [readFields, canonAll]
  | (_, s) :: fs, v :: vs =>
    obtain ⟨a, b, ha, hb, rfl⟩ := writeAll_cons_ok hw
    simp only [conformsFields_cons, Bool.and_eq_true] at hc
    rw [List.append_assoc]
    simp [readFields, read_write (b ++ rest) hc.1 ha, read_writeFields rest hc.2 hb, canonAll,
      Except.bind, Except.map]
  | [], _ :: _ => simp [conformsFields] at hc
  | _ :: _, [] => simp [conformsFields] at hc
termination_by structural vs

theorem read_writeItems {t : Schema} {vs : List Value} {bytes : List UInt8}
    (rest : List UInt8) (hc : conformsItems t vs = true) (hw : writeAll vs = .ok bytes) :
    readItems (read t) vs.length (bytes ++ rest) = .ok (canonAll vs, rest) := by
  match vs with
  | [] =>
    simp [writeAll] at hw
    subst hw
    simp [readItems, canonAll]
  | v :: vs =>
    obtain ⟨a, b, ha, hb, rfl⟩ := writeAll_cons_ok hw
    simp only [conformsItems, Bool.and_eq_true] at hc
    rw [List.append_assoc]
    simp [readItems, read_write (b ++ rest) hc.1 ha, read_writeItems rest hc.2 hb, canonAll,
      Except.bind, Except.map]
termination_by structural vs
end

/-! ## Memory writers

`avro_writer_memory` writes into a buffer of a fixed length; `avro_write` appends bytes, and
`avro_writer_tell` tells how many have been written. `MemoryIface` takes these calls as
parameters, over writers of any type, and `MemoryIface.Lawful` is the `ENOSPC` rule: a write
that fits in the space left appends its bytes, and one that does not fails with `ENOSPC` and
writes nothing. `MemoryWriter` is a buffer that follows the rule. -/

/-- The memory writer's calls: a writer over a buffer of `len` bytes, the length of its buffer,
the bytes written so far, `avro_writer_tell`, and `avro_write`. -/
structure MemoryIface (W : Type) where
  new : Nat → W
  len : W → Nat
  written : W → List UInt8
  tell : W → Nat
  write : W → List UInt8 → Int × W

/-- The `ENOSPC` rule of memory writers. -/
structure MemoryIface.Lawful {W : Type} (M : MemoryIface W) : Prop where
  len_new : ∀ len, M.len (M.new len) = len
  written_new : ∀ len, M.written (M.new len) = []
  tell_eq : ∀ w, M.tell w = (M.written w).length
  /-- A write that fits in the space left appends its bytes and keeps the buffer. -/
  write_fits : ∀ w bytes, (M.written w).length + bytes.length ≤ M.len w →
    (M.write w bytes).1 = 0 ∧ M.written (M.write w bytes).2 = M.written w ++ bytes ∧
      M.len (M.write w bytes).2 = M.len w
  /-- A write that does not fit fails with `ENOSPC` and writes nothing. -/
  write_enospc : ∀ w bytes, M.len w < (M.written w).length + bytes.length →
    M.write w bytes = (enospc, w)

/-- A memory writer: the length of its buffer and the bytes written so far, which fit in it. -/
structure MemoryWriter where
  len : Nat
  written : List UInt8
  fits : written.length ≤ len

/-- A write into the buffer: the bytes after those written, or `ENOSPC` when the space left is
too small. -/
def MemoryWriter.write (w : MemoryWriter) (bytes : List UInt8) : Int × MemoryWriter :=
  if h : w.written.length + bytes.length ≤ w.len then
    (0, ⟨w.len, w.written ++ bytes, by simpa using h⟩)
  else (enospc, w)

/-- The buffer as a memory writer. -/
def MemoryWriter.iface : MemoryIface MemoryWriter where
  new len := ⟨len, [], Nat.zero_le len⟩
  len w := w.len
  written w := w.written
  tell w := w.written.length
  write := MemoryWriter.write

theorem MemoryWriter.iface_lawful : MemoryWriter.iface.Lawful where
  len_new _ := rfl
  written_new _ := rfl
  tell_eq _ := rfl
  write_fits w bytes h := by
    simp only [MemoryWriter.iface] at h ⊢
    simp [MemoryWriter.write, h]
  write_enospc w bytes h := by
    simp only [MemoryWriter.iface] at h ⊢
    simp [MemoryWriter.write, Nat.not_le.mpr h]

end Binary

end Avro
