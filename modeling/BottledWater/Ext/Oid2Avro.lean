import BottledWater.Lib.AvroValue

set_option autoImplicit false

/-! # Postgres rows as Avro values (`ext/oid2avro.c`)

The extension turns a table's tuple descriptor into an Avro record schema
(`schema_for_table_row`), a column's type into the schema of its values (`schema_for_oid`), and
a row into a value of the record (`tuple_to_avro_row`, which writes each column with
`update_avro_with_datum`). Names go through `make_avro_safe`, which encodes every byte that
may not stand in an Avro name.

What the code reads from Postgres is a parameter: the `DatumGet*` accessors and the conversion
functions it calls (`PgDatum`), and the datum `heap_getattr` reads for each attribute of a
tuple. So are the calls of the C library that write the values (`AvroC`). The type OIDs and the
date constants are Postgres' own. A reference to a predefined schema (`avro_schema_link`) is the
schema itself.
-/

namespace BottledWater

open Avro

/-- The bytes of an ASCII string literal of the source. -/
def bytesOf (s : String) : List UInt8 := s.toList.map Char.toUInt8

/-- `GENERATED_SCHEMA_NAMESPACE`. -/
def generatedSchemaNamespace : List UInt8 := bytesOf "com.martinkl.bottledwater.dbschema"

/-- `PREDEFINED_SCHEMA_NAMESPACE`. -/
def predefinedSchemaNamespace : List UInt8 := bytesOf "com.martinkl.bottledwater.datatypes"

/-! ## `make_avro_safe` -/

/-- Whether `make_avro_safe` copies byte `c` at `index` of a string of `length` bytes: letters
and `_` anywhere, digits after the first byte, and in a namespace a dot that is neither first
nor last. -/
def avroSafeKeeps (isNamespace : Bool) (length index : Nat) (c : UInt8) : Bool :=
  (65 ≤ c && c ≤ 90) || (97 ≤ c && c ≤ 122) || c == 95 ||
    (c == 46 && isNamespace && 0 < index && index < length - 1) ||
    (48 ≤ c && c ≤ 57 && 0 < index)

/-- A lower-case hexadecimal digit, as `%x` prints it. -/
def hexDigit (n : Nat) : UInt8 :=
  if n < 10 then UInt8.ofNat (48 + n) else UInt8.ofNat (87 + n)

/-- What `make_avro_safe` writes for the byte `c` at `index`: the byte itself, or `_xx_` with
its two hexadecimal digits. -/
def avroSafeEncode (isNamespace : Bool) (length index : Nat) (c : UInt8) : List UInt8 :=
  if avroSafeKeeps isNamespace length index c then [c]
  else [95, hexDigit (c.toNat / 16), hexDigit (c.toNat % 16), 95]

/-- `make_avro_safe`: the string with every byte encoded in turn. -/
def makeAvroSafe (raw : List UInt8) (isNamespace : Bool) : List UInt8 :=
  (raw.mapIdx fun index c => avroSafeEncode isNamespace raw.length index c).flatten

/-- The bytes `make_avro_safe` allocates: `4 * length`, four for each byte of the input. -/
def makeAvroSafeAllocated (raw : List UInt8) : Nat := 4 * raw.length

/-- The bytes `make_avro_safe` stores into what it allocated: `strcpy` of `"1"` with its
terminator, then the encoding and its terminator. -/
def makeAvroSafeStored (raw : List UInt8) (isNamespace : Bool) : Nat :=
  max 2 ((makeAvroSafe raw isNamespace).length + 1)

/-- The offsets into its buffer that the loop of `make_avro_safe` writes from the byte at `index`
on, with `pe` the offset of the next output byte: a kept byte at `pe`, or for an escape the five
bytes `sprintf` writes (the four of `_xx_` and its terminator); then the final terminator. -/
def avroSafeWritesFrom (isNamespace : Bool) (length : Nat) : Nat → Nat → List UInt8 → List Nat
  | _, pe, [] => [pe]
  | index, pe, c :: cs =>
    if avroSafeKeeps isNamespace length index c then
      pe :: avroSafeWritesFrom isNamespace length (index + 1) (pe + 1) cs
    else List.range' pe 5 ++ avroSafeWritesFrom isNamespace length (index + 1) (pe + 4) cs

/-- The offsets `make_avro_safe` writes into the buffer it allocates: the two bytes of
`strcpy(encoded, "1")`, then those of the loop. -/
def makeAvroSafeWrites (raw : List UInt8) (isNamespace : Bool) : List Nat :=
  [0, 1] ++ avroSafeWritesFrom isNamespace raw.length 0 0 raw

/-! ### The bytes `make_avro_safe` writes -/

theorem length_avroSafeEncode (isNamespace : Bool) (length index : Nat) (c : UInt8) :
    (avroSafeEncode isNamespace length index c).length =
      if avroSafeKeeps isNamespace length index c then 1 else 4 := by
  unfold avroSafeEncode
  split_ifs <;> rfl

/-- Bytes that `make_avro_safe` encodes take four bytes each. -/
theorem length_flatten_avroSafeEncode_of_encoded {raw : List UInt8} {isNamespace : Bool}
    {length : Nat} (index : Nat → Nat)
    (hencoded : ∀ (i : Nat) (h : i < raw.length),
      avroSafeKeeps isNamespace length (index i) raw[i] = false) :
    (raw.mapIdx fun i c => avroSafeEncode isNamespace length (index i) c).flatten.length =
      4 * raw.length := by
  have hlens : (raw.mapIdx fun i c => avroSafeEncode isNamespace length (index i) c).map
      List.length = List.replicate raw.length 4 :=
    List.ext_getElem (by simp) fun i h _ => by simp [length_avroSafeEncode, hencoded]
  rw [List.length_flatten, hlens, List.sum_replicate, smul_eq_mul, mul_comm]

/-- **`make_avro_safe` overflows its buffer** when it encodes every byte: four bytes for each,
and the terminator after them. -/
theorem makeAvroSafe_overflow {raw : List UInt8} {isNamespace : Bool}
    (hencoded : ∀ (index : Nat) (h : index < raw.length),
      avroSafeKeeps isNamespace raw.length index raw[index] = false) :
    makeAvroSafeAllocated raw < makeAvroSafeStored raw isNamespace := by
  have hlen : (makeAvroSafe raw isNamespace).length = 4 * raw.length :=
    length_flatten_avroSafeEncode_of_encoded (fun i => i) hencoded
  rw [makeAvroSafeStored, hlen, makeAvroSafeAllocated]
  omega

/-- The encoding takes at most four bytes for each byte. -/
theorem length_flatten_avroSafeEncode_le (isNamespace : Bool) (length : Nat) :
    ∀ (raw : List UInt8) (index : Nat → Nat),
      (raw.mapIdx fun i c => avroSafeEncode isNamespace length (index i) c).flatten.length ≤
        4 * raw.length
  | [], _ => by simp
  | c :: cs, index => by
    have ih := length_flatten_avroSafeEncode_le isNamespace length cs fun i => index (i + 1)
    have hc : (avroSafeEncode isNamespace length (index 0) c).length ≤ 4 := by
      rw [length_avroSafeEncode]
      split_ifs <;> omega
    simp only [List.mapIdx_cons, List.flatten_cons, List.length_append, List.length_cons] at ih ⊢
    omega

/-- The encoding and a terminator fit in four bytes for each byte exactly when some byte is kept:
each kept byte saves three of the four. -/
theorem length_flatten_avroSafeEncode_lt_iff (isNamespace : Bool) (length : Nat) :
    ∀ (raw : List UInt8) (index : Nat → Nat),
      (raw.mapIdx fun i c => avroSafeEncode isNamespace length (index i) c).flatten.length + 1 ≤
          4 * raw.length ↔
        ∃ (i : Nat) (h : i < raw.length), avroSafeKeeps isNamespace length (index i) raw[i] = true
  | [], _ => by simp
  | c :: cs, index => by
    have ih := length_flatten_avroSafeEncode_lt_iff isNamespace length cs fun i => index (i + 1)
    have hle := length_flatten_avroSafeEncode_le isNamespace length cs fun i => index (i + 1)
    simp only [List.mapIdx_cons, List.flatten_cons, List.length_append, List.length_cons,
      length_avroSafeEncode] at ih hle ⊢
    -- the first byte is kept, or it is escaped and a later byte must be kept
    cases hkeep : avroSafeKeeps isNamespace length (index 0) c with
    | true =>
      refine ⟨fun _ => ⟨0, by simp, hkeep⟩, fun _ => ?_⟩
      simp only [if_true]
      omega
    | false =>
      simp only [Bool.false_eq_true, if_false]
      constructor
      · intro h
        obtain ⟨i, hi, hk⟩ := ih.mp (by omega)
        exact ⟨i + 1, by simpa using hi, hk⟩
      · rintro ⟨i, hi, hk⟩
        cases i with
        | zero => simp [hkeep] at hk
        | succ i =>
          have := ih.mpr ⟨i, by simpa using hi, hk⟩
          omega

/-- Every offset the loop writes is at most the offset of the final terminator, which it
writes. -/
theorem avroSafeWritesFrom_le (isNamespace : Bool) (length : Nat) :
    ∀ (cs : List UInt8) (index pe : Nat),
      (∀ o ∈ avroSafeWritesFrom isNamespace length index pe cs, o ≤
        pe + (cs.mapIdx fun i c => avroSafeEncode isNamespace length (i + index) c).flatten.length)
      ∧ pe + (cs.mapIdx fun i c => avroSafeEncode isNamespace length (i + index) c).flatten.length
        ∈ avroSafeWritesFrom isNamespace length index pe cs
  | [], index, pe => by simp [avroSafeWritesFrom]
  | c :: cs, index, pe => by
    have ih := avroSafeWritesFrom_le isNamespace length cs (index + 1)
    have hshift : (fun i c => avroSafeEncode isNamespace length (i + 1 + index) c) =
        fun i c => avroSafeEncode isNamespace length (i + (index + 1)) c := by
      funext i c
      rw [Nat.add_assoc, Nat.add_comm 1 index]
    simp only [List.mapIdx_cons, List.flatten_cons, List.length_append, Nat.zero_add, hshift]
    unfold avroSafeWritesFrom
    cases hkeep : avroSafeKeeps isNamespace length index c with
    | true =>
      have hhead : (avroSafeEncode isNamespace length index c).length = 1 := by
        simp [length_avroSafeEncode, hkeep]
      simp only [if_true, hhead]
      refine ⟨fun o ho => ?_, ?_⟩
      · rcases List.mem_cons.mp ho with rfl | ho
        · omega
        · have := (ih (pe + 1)).1 o ho
          omega
      · rw [← Nat.add_assoc]
        exact List.mem_cons_of_mem _ (ih (pe + 1)).2
    | false =>
      have hhead : (avroSafeEncode isNamespace length index c).length = 4 := by
        simp [length_avroSafeEncode, hkeep]
      simp only [Bool.false_eq_true, if_false, hhead]
      refine ⟨fun o ho => ?_, ?_⟩
      · rcases List.mem_append.mp ho with ho | ho
        · rw [List.mem_range'_1] at ho
          omega
        · have := (ih (pe + 4)).1 o ho
          omega
      · rw [← Nat.add_assoc]
        exact List.mem_append_right _ (ih (pe + 4)).2

/-- The last byte `make_avro_safe` writes is at `makeAvroSafeStored - 1`, and no write goes
beyond. -/
theorem makeAvroSafeWrites_lt (raw : List UInt8) (isNamespace : Bool) :
    (∀ o ∈ makeAvroSafeWrites raw isNamespace, o < makeAvroSafeStored raw isNamespace) ∧
      makeAvroSafeStored raw isNamespace - 1 ∈ makeAvroSafeWrites raw isNamespace := by
  obtain ⟨hle, hlast⟩ := avroSafeWritesFrom_le isNamespace raw.length raw 0 0
  have hmake : makeAvroSafe raw isNamespace =
      (raw.mapIdx fun i c => avroSafeEncode isNamespace raw.length (i + 0) c).flatten := rfl
  rw [← hmake, Nat.zero_add] at hle hlast
  rw [makeAvroSafeStored]
  refine ⟨fun o ho => ?_, ?_⟩
  · rcases List.mem_append.mp ho with ho | ho
    · simp only [List.mem_cons, List.not_mem_nil, or_false] at ho
      omega
    · have := hle o ho
      omega
  · by_cases hlen : (makeAvroSafe raw isNamespace).length + 1 ≤ 2
    · -- nothing after `strcpy` reaches beyond its terminator
      rw [max_eq_left hlen]
      exact List.mem_append_left _ (by simp)
    · rw [max_eq_right (by omega), Nat.add_sub_cancel]
      exact List.mem_append_right _ hlast

/-- **`make_avro_safe` stays within its buffer exactly when it keeps a byte.** Every offset it
writes is below the `4 * strlen(raw)` bytes it allocates if and only if some byte of `raw` is
copied as it is; a string whose bytes are all escaped, and the empty string, are written past
the end. -/
theorem makeAvroSafeWrites_within_iff (raw : List UInt8) (isNamespace : Bool) :
    (∀ o ∈ makeAvroSafeWrites raw isNamespace, o < makeAvroSafeAllocated raw) ↔
      ∃ (index : Nat) (h : index < raw.length),
        avroSafeKeeps isNamespace raw.length index raw[index] = true := by
  obtain ⟨hlt, hlast⟩ := makeAvroSafeWrites_lt raw isNamespace
  have hiff := length_flatten_avroSafeEncode_lt_iff isNamespace raw.length raw fun i => i
  rw [← hiff]
  have hmake : makeAvroSafe raw isNamespace =
      (raw.mapIdx fun i c => avroSafeEncode isNamespace raw.length i c).flatten := rfl
  rw [← hmake]
  constructor
  · intro h
    have := h _ hlast
    rw [makeAvroSafeStored, makeAvroSafeAllocated] at this
    omega
  · intro h o ho
    have := hlt o ho
    rw [makeAvroSafeStored] at this
    rw [makeAvroSafeAllocated]
    -- a kept byte means a non-empty string, so the two bytes of `strcpy` fit as well
    have hne : 1 ≤ raw.length := by omega
    omega

/-- The table name `1` and the empty string: `make_avro_safe` writes offset `4` into the four
bytes it allocates for the first, and offsets `0` and `1` into the none it allocates for the
second. -/
theorem digit_and_empty_names_overrun :
    4 ∈ makeAvroSafeWrites (bytesOf "1") false ∧ makeAvroSafeAllocated (bytesOf "1") = 4 ∧
    1 ∈ makeAvroSafeWrites [] false ∧ makeAvroSafeAllocated [] = 0 := by
  decide

/-- The table name `1`, a digit where a name must not start with one: `strcpy` and the escape
write five bytes into the four allocated. -/
theorem digit_name_overflows :
    makeAvroSafeAllocated (bytesOf "1") < makeAvroSafeStored (bytesOf "1") false :=
  makeAvroSafe_overflow (by decide)

/-- `make_avro_safe` of a concatenation: the encodings of the two parts, the second part's
bytes at their positions in the whole. -/
theorem makeAvroSafe_append (raw raw' : List UInt8) (isNamespace : Bool) :
    makeAvroSafe (raw ++ raw') isNamespace =
      (raw.mapIdx fun i c => avroSafeEncode isNamespace (raw ++ raw').length i c).flatten ++
      (raw'.mapIdx fun i c =>
        avroSafeEncode isNamespace (raw ++ raw').length (i + raw.length) c).flatten := by
  rw [makeAvroSafe, List.mapIdx_append, List.flatten_append]

/-- Bytes that `make_avro_safe` keeps where they stand come out as they are. -/
theorem flatten_avroSafeEncode_of_keeps {raw : List UInt8} {isNamespace : Bool} {length : Nat}
    (index : Nat → Nat)
    (hkeeps : ∀ (i : Nat) (h : i < raw.length),
      avroSafeKeeps isNamespace length (index i) raw[i] = true) :
    (raw.mapIdx fun i c => avroSafeEncode isNamespace length (index i) c).flatten = raw := by
  have hsingle : (raw.mapIdx fun i c => avroSafeEncode isNamespace length (index i) c) =
      raw.map fun c => [c] :=
    List.ext_getElem (by simp) fun i h _ => by simp [avroSafeEncode, hkeeps]
  rw [hsingle, ← List.flatMap_def, List.flatMap_singleton']

/-- A byte that `make_avro_safe` encodes leaves an underscore in what it returns. -/
theorem underscore_mem_of_not_keeps {raw : List UInt8} {isNamespace : Bool} {length : Nat}
    (index : Nat → Nat) {i : Nat} (h : i < raw.length)
    (hencoded : avroSafeKeeps isNamespace length (index i) raw[i] = false) :
    95 ∈ (raw.mapIdx fun i c => avroSafeEncode isNamespace length (index i) c).flatten := by
  rw [List.mem_flatten]
  exact ⟨_, List.mem_mapIdx.mpr ⟨i, h, rfl⟩, by simp [avroSafeEncode, hencoded]⟩

theorem avroSafeEncode_ne_nil (isNamespace : Bool) (length index : Nat) (c : UInt8) :
    avroSafeEncode isNamespace length index c ≠ [] := by
  unfold avroSafeEncode
  split_ifs <;> simp

/-- Whether a byte is kept depends on the length only through whether the byte is the last. -/
theorem avroSafeKeeps_length {isNamespace : Bool} {length index : Nat} {c : UInt8}
    (length' : Nat) (h : index + 1 < length) (h' : index + 1 < length') :
    avroSafeKeeps isNamespace length index c = avroSafeKeeps isNamespace length' index c := by
  simp only [avroSafeKeeps, show index < length - 1 by omega, show index < length' - 1 by omega]

/-- A space is always encoded. -/
theorem avroSafeKeeps_space (isNamespace : Bool) (length index : Nat) :
    avroSafeKeeps isNamespace length index 32 = false := by
  simp [avroSafeKeeps]

theorem isNameChar_of_avroSafeKeeps {length index : Nat} {c : UInt8}
    (h : avroSafeKeeps false length index c = true) : isNameChar c = true := by
  simp only [avroSafeKeeps, Bool.and_false, Bool.false_and, Bool.or_false, Bool.or_eq_true,
    Bool.and_eq_true, decide_eq_true_eq, beq_iff_eq] at h
  simp only [isNameChar, isNameStart, Bool.or_eq_true, Bool.and_eq_true, decide_eq_true_eq,
    beq_iff_eq]
  tauto

theorem isNameStart_of_avroSafeKeeps {length : Nat} {c : UInt8}
    (h : avroSafeKeeps false length 0 c = true) : isNameStart c = true := by
  simp only [avroSafeKeeps, Bool.and_false, Bool.false_and, Bool.or_false, Bool.or_eq_true,
    Bool.and_eq_true, decide_eq_true_eq, beq_iff_eq, Nat.lt_irrefl, and_false] at h
  simp only [isNameStart, Bool.or_eq_true, Bool.and_eq_true, decide_eq_true_eq, beq_iff_eq]
  tauto

theorem isNameChar_hexDigit {n : Nat} (h : n < 16) : isNameChar (hexDigit n) = true := by
  revert n
  decide

theorem avroSafeEncode_nameChars (length index : Nat) (c : UInt8) :
    (avroSafeEncode false length index c).all isNameChar = true := by
  unfold avroSafeEncode
  split_ifs with hk
  · simp [isNameChar_of_avroSafeKeeps hk]
  · have hc := c.toNat_lt
    simp [isNameChar_hexDigit (show c.toNat / 16 < 16 by omega),
      isNameChar_hexDigit (show c.toNat % 16 < 16 by omega)]
    decide

/-- The encoding of a first byte starts a name. -/
theorem avroSafeEncode_zero (length : Nat) (c : UInt8) :
    ∃ b bs, avroSafeEncode false length 0 c = b :: bs ∧ isNameStart b = true ∧
      bs.all isNameChar = true := by
  unfold avroSafeEncode
  split_ifs with hk
  · exact ⟨c, [], rfl, isNameStart_of_avroSafeKeeps hk, rfl⟩
  · have hc := c.toNat_lt
    refine ⟨95, _, rfl, by decide, ?_⟩
    simp [isNameChar_hexDigit (show c.toNat / 16 < 16 by omega),
      isNameChar_hexDigit (show c.toNat % 16 < 16 by omega)]
    decide

/-- **`make_avro_safe` makes names**: what it returns for a name (not a namespace) that is not
empty satisfies the name rule, as its comment says. -/
theorem isName_makeAvroSafe {raw : List UInt8} (h : raw ≠ []) :
    isName (makeAvroSafe raw false) = true := by
  obtain ⟨c, cs, rfl⟩ := List.exists_cons_of_ne_nil h
  rw [makeAvroSafe, List.mapIdx_cons, List.flatten_cons]
  -- every byte after the first is encoded into name characters
  have hrest : (cs.mapIdx fun i b =>
      avroSafeEncode false (c :: cs).length (i + 1) b).flatten.all isNameChar = true := by
    simp only [List.all_flatten, List.all_eq_true, List.mem_mapIdx]
    rintro l ⟨i, hi, rfl⟩
    exact List.all_eq_true.mp (avroSafeEncode_nameChars _ _ _)
  obtain ⟨b, bs, henc, hb, hbs⟩ := avroSafeEncode_zero (c :: cs).length c
  rw [henc, List.cons_append, isName, hb, Bool.true_and, List.all_append, hbs, hrest]
  rfl

/-- In a namespace, a dot with a byte on each side is kept. -/
theorem avroSafeEncode_dot {length index : Nat} (h0 : 0 < index) (hlast : index + 1 < length) :
    avroSafeEncode true length index 46 = [46] := by
  simp [avroSafeEncode, avroSafeKeeps, h0, show index < length - 1 by omega]

/-- A digit after the first byte is kept. -/
theorem avroSafeEncode_digit (isNamespace : Bool) (length : Nat) {index : Nat} {d : UInt8}
    (h0 : 0 < index) (hd : 48 ≤ d ∧ d ≤ 57) :
    avroSafeEncode isNamespace length index d = [d] := by
  simp [avroSafeEncode, avroSafeKeeps, h0, hd.1, hd.2]

/-- **A dot, then a digit, is kept as it is**: for a namespace whose dot is not first,
`make_avro_safe` keeps the dot and the digit after it, so a component of what it returns starts
with a digit and the result breaks the namespace rule. The position of each byte is counted in
the whole string, not in its component. -/
theorem makeAvroSafe_dot_digit {pre : List UInt8} (hpre : pre ≠ []) {d : UInt8}
    (hd : 48 ≤ d ∧ d ≤ 57) (rest : List UInt8) :
    isDottedName (makeAvroSafe (pre ++ 46 :: d :: rest) true) = false := by
  have h0 : 0 < pre.length := List.length_pos_of_ne_nil hpre
  have hdot : avroSafeEncode true (pre ++ 46 :: d :: rest).length (0 + pre.length) 46 = [46] :=
    avroSafeEncode_dot (by omega) (by simp)
  have hdigit : avroSafeEncode true (pre ++ 46 :: d :: rest).length (0 + 1 + pre.length) d = [d] :=
    avroSafeEncode_digit _ _ (by omega) hd
  rw [makeAvroSafe_append, List.mapIdx_cons, List.mapIdx_cons, hdot, hdigit]
  simp only [List.flatten_cons, List.singleton_append]
  exact isDottedName_dot_digit _ hd _

/-- **Two dots in a row are kept as they are**: neither is first or last, so the result has an
empty component. -/
theorem makeAvroSafe_dot_dot {pre rest : List UInt8} (hpre : pre ≠ []) (hrest : rest ≠ []) :
    isDottedName (makeAvroSafe (pre ++ 46 :: 46 :: rest) true) = false := by
  have h0 : 0 < pre.length := List.length_pos_of_ne_nil hpre
  have h1 : 0 < rest.length := List.length_pos_of_ne_nil hrest
  have hfirst : avroSafeEncode true (pre ++ 46 :: 46 :: rest).length (0 + pre.length) 46 = [46] :=
    avroSafeEncode_dot (by omega) (by simp)
  have hsecond :
      avroSafeEncode true (pre ++ 46 :: 46 :: rest).length (0 + 1 + pre.length) 46 = [46] :=
    avroSafeEncode_dot (by omega) (by simp; omega)
  rw [makeAvroSafe_append, List.mapIdx_cons, List.mapIdx_cons, hfirst, hsecond]
  simp only [List.flatten_cons, List.singleton_append]
  exact isDottedName_dot_dot _ _

/-! ## Type OIDs and datums -/

/-- The types the two switches of the file name (`catalog/pg_type.h`); every other type takes
their `default` branch. -/
inductive TypeOid
  | bool | float4 | float8 | int2 | int4 | int8 | cash | oid | regproc | xid | cid | numeric
  | date | time | timeTz | timestamp | timestampTz | interval | bytea | char | name | text
  | bpchar | varchar | other
  deriving DecidableEq, Repr

/-- Which of those types an OID is. -/
def TypeOid.ofOid : Nat → TypeOid
  | 16 => .bool
  | 700 => .float4
  | 701 => .float8
  | 21 => .int2
  | 23 => .int4
  | 20 => .int8
  | 790 => .cash
  | 26 => .oid
  | 24 => .regproc
  | 28 => .xid
  | 29 => .cid
  | 1700 => .numeric
  | 1082 => .date
  | 1083 => .time
  | 1266 => .timeTz
  | 1114 => .timestamp
  | 1184 => .timestampTz
  | 1186 => .interval
  | 17 => .bytea
  | 18 => .char
  | 19 => .name
  | 25 => .text
  | 1042 => .bpchar
  | 1043 => .varchar
  | _ => .other

/-- `DATEOID`. -/
def dateOid : Nat := 1082

/-- `TIMESTAMPTZOID`. -/
def timestampTzOid : Nat := 1184

/-- `POSTGRES_EPOCH_JDATE`. -/
def postgresEpochJdate : Int := 2451545

/-- `UNIX_EPOCH_JDATE`. -/
def unixEpochJdate : Int := 2440588

/-- `USECS_PER_DAY`. -/
def usecsPerDay : Int := 86400000000

/-- `TIMESTAMPOID`. -/
def timestampOid : Nat := 1114

/-- `PG_INT64_MAX` and `PG_INT64_MIN`: the range of `int64`, the C type of a `Timestamp` and of
the long `avro_value_set_long` takes. -/
def int64Max : Int := 2 ^ 63 - 1
def int64Min : Int := -2 ^ 63

/-- `DT_NOBEGIN` and `DT_NOEND`: the timestamps `-infinity` and `infinity`. -/
def dtNobegin : Int := int64Min
def dtNoend : Int := int64Max

/-- `MIN_TIMESTAMP` and `END_TIMESTAMP`: the finite timestamps are those from the first on and
before the second (4714-11-24 BC and 294277-01-01), in microseconds since 2000-01-01. -/
def minTimestamp : Int := -211813488000000000
def endTimestamp : Int := 9223371331200000000

/-- The timestamps Postgres admits: `-infinity`, `infinity`, and the finite ones
(`IS_VALID_TIMESTAMP`). -/
def timestampAdmitted (ts : Int) : Bool :=
  ts == dtNobegin || ts == dtNoend || (minTimestamp ≤ ts && ts < endTimestamp)

/-- `DATE_IS_NOBEGIN`: the date `-infinity` (`DATEVAL_NOBEGIN`). -/
def dateIsNobegin (date : Int) : Bool := date == -2147483648

/-- `DATE_NOT_FINITE`: `-infinity` or `infinity` (`DATEVAL_NOEND`). -/
def dateNotFinite (date : Int) : Bool := dateIsNobegin date || date == 2147483647

/-- `struct pg_tm`, the fields `interval2tm` fills. -/
structure PgTm where
  year : Int
  mon : Int
  mday : Int
  hour : Int
  min : Int
  sec : Int

/-- What the file reads from a datum of each type, through the `DatumGet*` accessors and the
Postgres functions it calls. -/
structure PgDatum (δ : Type) where
  getBool : δ → Bool
  getFloat4 : δ → Float32
  getFloat8 : δ → Float
  getInt16 : δ → Int
  getInt32 : δ → Int
  getInt64 : δ → Int
  getCash : δ → Int
  getObjectId : δ → Nat
  getTransactionId : δ → Nat
  getCommandId : δ → Nat
  /-- `atof(numeric_normalize(DatumGetNumeric(d)))`. -/
  getNumeric : δ → Float
  getDateADT : δ → Int
  getTimeADT : δ → Int
  /-- The `time` and `zone` of a `TimeTzADT`. -/
  getTimeTzADT : δ → Int × Int
  getTimestamp : δ → Int
  getTimestampTz : δ → Int
  /-- `interval2tm` of the `Interval`: the fields and the fractional seconds. -/
  interval2tm : δ → PgTm × Int
  /-- The bytes of a `bytea` (`VARDATA`, `VARSIZE - VARHDRSZ`). -/
  getByteaP : δ → List UInt8
  getChar : δ → UInt8
  getName : δ → List UInt8
  textDatumGetCString : δ → List UInt8
  /-- The type's output function on the datum (`OidOutputFunctionCall`), as a C string. -/
  outputFunctionCall : Nat → δ → List UInt8
  /-- `j2date`: year, month and day of a Julian day number. -/
  j2date : Int → Int × Int × Int

/-! ## Schemas of column values -/

/-- The union of null and `value_schema` that `schema_for_oid` makes. -/
def nullable (valueSchema : Schema) : Schema := .union [.null, valueSchema]

/-- `schema_for_special_times`: null, the record, or the `SpecialTime` enum. -/
def schemaForSpecialTimes (record : Schema) : Schema :=
  .union [.null, record,
    .enum (bytesOf "SpecialTime") [bytesOf "POS_INFINITY", bytesOf "NEG_INFINITY"]]

/-- `schema_for_date_fields`. -/
def dateFields : List (List UInt8 × Schema) :=
  [(bytesOf "year", .int), (bytesOf "month", .int), (bytesOf "day", .int)]

/-- `schema_for_time_fields`. -/
def timeFields : List (List UInt8 × Schema) :=
  [(bytesOf "hour", .int), (bytesOf "minute", .int), (bytesOf "second", .int),
    (bytesOf "micro", .int)]

/-- `schema_for_date`. -/
def schemaForDate : Schema :=
  schemaForSpecialTimes (.record (bytesOf "Date") (some predefinedSchemaNamespace) dateFields)

/-- `schema_for_time_tz`. -/
def schemaForTimeTz : Schema :=
  .record (bytesOf "TimeTZ") (some predefinedSchemaNamespace)
    [(bytesOf "micro", .long), (bytesOf "zoneOffset", .int)]

/-- `schema_for_interval`. -/
def schemaForInterval : Schema :=
  .record (bytesOf "Interval") (some predefinedSchemaNamespace) (dateFields ++ timeFields)

/-- `schema_for_numeric`. -/
def schemaForNumeric : Schema := .double

/-- `schema_for_oid`: the schema of a type's values, in a union with null; `date` returns its
union directly. -/
def schemaForOid (typid : Nat) : Schema :=
  match TypeOid.ofOid typid with
  | .bool => nullable .boolean
  | .float4 => nullable .float
  | .float8 => nullable .double
  | .int2 | .int4 => nullable .int
  | .int8 | .cash | .oid | .regproc | .xid | .cid => nullable .long
  | .numeric => nullable schemaForNumeric
  | .date => schemaForDate
  | .time => nullable .long
  | .timeTz => nullable schemaForTimeTz
  | .timestamp | .timestampTz => nullable .long
  | .interval => nullable schemaForInterval
  | .bytea => nullable .bytes
  | _ => nullable .string

/-! ## Column values -/

section Writers

variable (A : AvroC)

/-- `update_avro_with_date`: a date that is not finite selects the enum's branch, whose
`set_enum` is not checked; a finite date fills the `Date` record. -/
def updateAvroWithDate (j2date : Int → Int × Int × Int) (date : Int) : Writer :=
  if dateNotFinite date then
    A.branch 2 (Writer.ignoreError (A.setEnum (if dateIsNobegin date then 1 else 0)))
  else
    let (year, month, day) := j2date (date + postgresEpochJdate)
    A.branch 1 <|
      (A.getByIndexWriter 0).andThen <| (A.getByIndexWriter 1).andThen <|
      (A.getByIndexWriter 2).andThen <| (A.field 0 (A.setInt year)).andThen <|
      (A.field 1 (A.setInt month)).andThen (A.field 2 (A.setInt day))

/-- `update_avro_with_time_tz`; the zone offset is negated. -/
def updateAvroWithTimeTz (timevalue : Int × Int) : Writer :=
  (A.getByIndexWriter 0).andThen <| (A.getByIndexWriter 1).andThen <|
    (A.field 0 (A.setLong timevalue.1)).andThen
      (A.field 1 (A.setInt (-timevalue.2)))

/-- `update_avro_with_interval`. -/
def updateAvroWithInterval (interval : PgTm × Int) : Writer :=
  let (decoded, fsec) := interval
  (A.getByIndexWriter 0).andThen <| (A.getByIndexWriter 1).andThen <|
    (A.getByIndexWriter 2).andThen <| (A.getByIndexWriter 3).andThen <|
    (A.getByIndexWriter 4).andThen <| (A.getByIndexWriter 5).andThen <|
    (A.getByIndexWriter 6).andThen <|
    (A.field 0 (A.setInt decoded.year)).andThen <|
    (A.field 1 (A.setInt decoded.mon)).andThen <|
    (A.field 2 (A.setInt decoded.mday)).andThen <|
    (A.field 3 (A.setInt decoded.hour)).andThen <|
    (A.field 4 (A.setInt decoded.min)).andThen <|
    (A.field 5 (A.setInt decoded.sec)).andThen (A.field 6 (A.setInt fsec))

/-- `update_avro_with_bytes`. -/
def updateAvroWithBytes (bytes : List UInt8) : Writer := A.setBytes bytes

/-- `update_avro_with_char`: the character as a C string of one byte, empty for `'\0'`. -/
def updateAvroWithChar (c : UInt8) : Writer :=
  A.setString (if c = 0 then [] else [c])

/-- `update_avro_with_string`: the output function's text. -/
def updateAvroWithString {δ : Type} (pg : PgDatum δ) (typid : Nat) (datum : δ) : Writer :=
  A.setString (pg.outputFunctionCall typid datum)

/-- `update_avro_with_datum`. The types that handle nullability themselves, `date` and
`timestamp with time zone`, are written into the value as given; every other type first selects
branch `1` of its union and is written there. -/
def updateAvroWithDatum {δ : Type} (pg : PgDatum δ) (typid : Nat) (datum : δ) : Writer :=
  let write : Writer :=
    match TypeOid.ofOid typid with
    | .bool => A.setBoolean (pg.getBool datum)
    | .float4 => A.setFloat (pg.getFloat4 datum)
    | .float8 => A.setDouble (pg.getFloat8 datum)
    | .int2 => A.setInt (pg.getInt16 datum)
    | .int4 => A.setInt (pg.getInt32 datum)
    | .int8 => A.setLong (pg.getInt64 datum)
    | .cash => A.setLong (pg.getCash datum)
    | .oid | .regproc => A.setLong (pg.getObjectId datum)
    | .xid => A.setLong (pg.getTransactionId datum)
    | .cid => A.setLong (pg.getCommandId datum)
    | .numeric => A.setDouble (pg.getNumeric datum)
    | .date => updateAvroWithDate A pg.j2date (pg.getDateADT datum)
    | .time => A.setLong (pg.getTimeADT datum)
    | .timeTz => updateAvroWithTimeTz A (pg.getTimeTzADT datum)
    | .timestamp =>
      A.setLong (pg.getTimestamp datum + (postgresEpochJdate - unixEpochJdate) * usecsPerDay)
    | .timestampTz =>
      A.setLong
        (pg.getTimestampTz datum + (postgresEpochJdate - unixEpochJdate) * usecsPerDay)
    | .interval => updateAvroWithInterval A (pg.interval2tm datum)
    | .bytea => updateAvroWithBytes A (pg.getByteaP datum)
    | .char => updateAvroWithChar A (pg.getChar datum)
    | .name => A.setString (pg.getName datum)
    | .text | .bpchar | .varchar => A.setString (pg.textDatumGetCString datum)
    | .other => updateAvroWithString A pg typid datum
  if typid = dateOid ∨ typid = timestampTzOid then write else A.branch 1 write

/-! ## Tables and rows -/

/-- `Form_pg_attribute`: what the schema and the row conversion read of an attribute. -/
structure Attribute where
  attname : List UInt8
  atttypid : Nat
  attisdropped : Bool
  deriving Repr, DecidableEq

/-- A relation: the name of its namespace (`get_namespace_name`, `NULL` when there is none), its
name, and its tuple descriptor, whose attributes include the dropped ones. -/
structure Relation where
  nspname : Option (List UInt8)
  relname : List UInt8
  tupdesc : List Attribute
  deriving Repr

/-- The namespace `schema_for_table_row` gives the record: the generated namespace, and the
relation's namespace after a dot. -/
def relNamespace (rel : Relation) : List UInt8 :=
  makeAvroSafe (generatedSchemaNamespace ++ (match rel.nspname with
    | some nspname => 46 :: nspname
    | none => [])) true

/-- **A schema whose name starts with a digit gives an invalid namespace**: the component after
the generated namespace starts with that digit. -/
theorem relNamespace_digit {rel : Relation} {d : UInt8} {rest : List UInt8}
    (hnsp : rel.nspname = some (d :: rest)) (hd : 48 ≤ d ∧ d ≤ 57) :
    isDottedName (relNamespace rel) = false := by
  rw [relNamespace, hnsp]
  exact makeAvroSafe_dot_digit (by decide) hd rest

/-- The tables of the Postgres schema `2016`: their namespace is not a namespace. -/
theorem digit_schema_namespace_invalid :
    isDottedName (relNamespace ⟨some (bytesOf "2016"), bytesOf "t", []⟩) = false :=
  @relNamespace_digit ⟨some (bytesOf "2016"), bytesOf "t", []⟩ 50 (bytesOf "016") (by decide)
    (by decide)

/-- The loop of `schema_for_table_row` over the attributes: a dropped one is skipped, every
other one is appended as a field, and the first error ends the loop. -/
def appendColumns (err : Int) (record : Schema) : List Attribute → Int × Schema
  | [] => (err, record)
  | attr :: attrs =>
    if attr.attisdropped then appendColumns err record attrs
    else
      let (err, record) :=
        record.appendField (makeAvroSafe attr.attname false) (schemaForOid attr.atttypid)
      if err ≠ 0 then (err, record) else appendColumns err record attrs

/-- `schema_for_table_row`: the error code and the schema. A descriptor with no attributes gets
the field `dummy` of type boolean. -/
def schemaForTableRow (rel : Relation) : Int × Option Schema :=
  match Schema.newRecord (makeAvroSafe rel.relname false) (some (relNamespace rel)) with
  | none => (einval, none)
  | some record =>
    let (err, record) :=
      if rel.tupdesc.length = 0 then record.appendField (bytesOf "dummy") .boolean
      else (0, record)
    let (err, record) := appendColumns err record rel.tupdesc
    (err, some record)

/-- The value of one column: the null branch, or the datum through `update_avro_with_datum`. -/
def columnWriter {δ : Type} (pg : PgDatum δ) (attr : Attribute) : Option δ → Writer
  | none => A.branch 0 Writer.skip
  | some datum => updateAvroWithDatum A pg attr.atttypid datum

/-- The loop of `tuple_to_avro_row` from attribute `i` on, with `field` the next field of the
record: a dropped attribute is skipped, and every other one is written into the next field.
`heapGetattr i` is the datum of attribute `i` of the tuple, or `none` for null. -/
def tupleToAvroRowLoop {δ : Type} (pg : PgDatum δ) (heapGetattr : Nat → Option δ) :
    List Attribute → Nat → Nat → Writer
  | [], _, _ => Writer.skip
  | attr :: attrs, i, field =>
    if attr.attisdropped then tupleToAvroRowLoop pg heapGetattr attrs (i + 1) field
    else
      (A.field field (columnWriter A pg attr (heapGetattr i))).andThen
        (tupleToAvroRowLoop pg heapGetattr attrs (i + 1) (field + 1))

/-- `tuple_to_avro_row`: reset the record, then write the row's columns. -/
def tupleToAvroRow {δ : Type} (pg : PgDatum δ) (tupdesc : List Attribute)
    (heapGetattr : Nat → Option δ) : Writer :=
  A.reset.andThen (tupleToAvroRowLoop A pg heapGetattr tupdesc 0 0)

/-! ## Keys -/

/-- The inner loop of `tuple_to_avro_key`, with `n` iterations left from the relation's
attributes `relAttrs` on and `tupI` so far: `tup_i` counts each attribute of the relation that
is not dropped, or that is dropped and finds a dropped attribute at `tup_i` of the tuple's
descriptor. The tuple's attribute is read only when the relation's is dropped. `none` where a
read is past the end of a descriptor. -/
def keyTupleIndexFrom (tupdesc : List Attribute) : Nat → List Attribute → Nat → Option Nat
  | 0, _, tupI => some tupI
  | _ + 1, [], _ => none
  | n + 1, relAttr :: relAttrs, tupI =>
    if !relAttr.attisdropped then keyTupleIndexFrom tupdesc n relAttrs (tupI + 1)
    else
      match tupdesc[tupI]? with
      | none => none
      | some tupAttr =>
        keyTupleIndexFrom tupdesc n relAttrs (if tupAttr.attisdropped then tupI + 1 else tupI)

/-- `tup_i` for the relation's attribute `attnum` (counted from `0`): the loop over
`rel_i < attnum`. -/
def keyTupleIndex (relTupdesc tupdesc : List Attribute) (attnum : Nat) : Option Nat :=
  keyTupleIndexFrom tupdesc attnum relTupdesc 0

/-- The loop of `tuple_to_avro_key` over the key's columns (`indkey`, attribute numbers counted
from `1`), from field `field` on: each column's position in the tuple, checked to be an attribute
of the tuple that is not dropped, and its datum written into the field. `elog(ERROR)` for a
column the tuple does not have ends the transaction; it is modelled, as a read past the end of
a descriptor is, as a failed write. -/
def tupleToAvroKeyLoop {δ : Type} (pg : PgDatum δ) (tupdesc : List Attribute)
    (heapGetattr : Nat → Option δ) (relTupdesc : List Attribute) : List Nat → Nat → Writer
  | [], _ => Writer.skip
  | attnum :: indkey, field =>
    match keyTupleIndex relTupdesc tupdesc (attnum - 1) with
    | none => fun _ _ => .error einval
    | some tupI =>
      match tupdesc[tupI]? with
      | some attr =>
        if attr.attisdropped then fun _ _ => .error einval
        else
          (A.field field (columnWriter A pg attr (heapGetattr tupI))).andThen
            (tupleToAvroKeyLoop pg tupdesc heapGetattr relTupdesc indkey (field + 1))
      | none => fun _ _ => .error einval

/-- `tuple_to_avro_key`: reset the key record, then write the key's columns. -/
def tupleToAvroKey {δ : Type} (pg : PgDatum δ) (tupdesc : List Attribute)
    (heapGetattr : Nat → Option δ) (relTupdesc : List Attribute) (indkey : List Nat) : Writer :=
  A.reset.andThen (tupleToAvroKeyLoop A pg tupdesc heapGetattr relTupdesc indkey 0)

end Writers

/-! ## The key index -/

/-- `relreplident`, the replica identity of a table. -/
inductive ReplicaIdentity where
  | default
  | nothing
  | full
  | index
  deriving DecidableEq, Repr

/-- What is read of an open relation, a table or an index: its oid (`RelationGetRelid`, which is
never `InvalidOid` for an open relation), its name, the oid of its namespace and its tuple
descriptor. -/
structure RelationData where
  rdId : Nat
  relname : List UInt8
  relnamespace : Nat
  tupdesc : List Attribute
  rdId_valid : rdId ≠ 0

/-- An index: a relation and the flags `table_key_index` reads of its `pg_index` row. -/
structure IndexData extends RelationData where
  indisvalid : Bool
  indisready : Bool
  indisprimary : Bool

/-- A table: a relation, its replica identity, the index `RelationGetReplicaIndex` names (`none`
for `InvalidOid`), and its indexes in the order of `RelationGetIndexList`. -/
structure TableData extends RelationData where
  relreplident : ReplicaIdentity
  replicaIndex : Option IndexData
  indexList : List IndexData

/-- The relation as `schema_for_table_row` reads it, with `getNamespaceName` the catalog's
`get_namespace_name`, which finds the namespace of an open relation. -/
def RelationData.toRelation (getNamespaceName : Nat → List UInt8) (rel : RelationData) :
    Relation :=
  ⟨some (getNamespaceName rel.relnamespace), rel.relname, rel.tupdesc⟩

/-- `table_key_index`: no key under `REPLICA IDENTITY NOTHING`; under `REPLICA IDENTITY USING
INDEX` the replica identity index when there is one; otherwise the first index that is valid,
ready and the primary key. -/
def tableKeyIndex (rel : TableData) : Option IndexData :=
  if rel.relreplident = .nothing then none
  else
    let primary := rel.indexList.find? fun index =>
      index.indisvalid && index.indisready && index.indisprimary
    if rel.relreplident = .index then rel.replicaIndex.or primary else primary

/-- `schema_for_table_key`: `0` and no schema for an unkeyed table, else `schema_for_table_row`
of the key index. -/
def schemaForTableKey (getNamespaceName : Nat → List UInt8) (rel : TableData) :
    Int × Option Schema :=
  match tableKeyIndex rel with
  | none => (0, none)
  | some index => schemaForTableRow (index.toRelation getNamespaceName)

end BottledWater
