import BottledWater.Ext.Oid2Avro

set_option autoImplicit false

/-! # Row schemas and row values agree

`schema_for_oid` and `update_avro_with_datum` are two switches over the same type OIDs, and
`schema_for_table_row` and `tuple_to_avro_row` walk the same descriptor with separate field
counters. This file proves where they agree and where they do not.

* Every column value `update_avro_with_datum` writes into a fresh value of the column's schema
  is a valid value of it (`updateAvroWithDatum_conforms`), except for `timestamp with time zone`:
  that type is still on the list of types that handle nullability themselves, so its `long` is
  written into the union itself, which has no such setter (`timestampTz_update_fails`), and every
  row with such a column that is not null fails (`tupleToAvroRow_timestampTz_fails`).
* The record has one field per attribute that is not dropped, in order, or the field `dummy`
  when the descriptor has no attributes (`schemaForTableRow_eq`); and `tuple_to_avro_row` writes
  the `k`-th attribute that is not dropped into field `k` (`tupleToAvroRowLoop_eq`). A
  descriptor whose attributes are all dropped gets a record with no fields
  (`schemaForTableRow_all_dropped`): the special case tests `natts == 0`.
-/

namespace BottledWater

open Avro

/-! ## Type OIDs -/

theorem eq_dateOid_of_ofOid {typid : Nat} (h : TypeOid.ofOid typid = .date) :
    typid = dateOid := by
  unfold TypeOid.ofOid at h
  split at h <;> first | rfl | cases h

theorem eq_timestampTzOid_of_ofOid {typid : Nat} (h : TypeOid.ofOid typid = .timestampTz) :
    typid = timestampTzOid := by
  unfold TypeOid.ofOid at h
  split at h <;> first | rfl | cases h

/-! ## Column values -/

section Datum

variable {A : AvroC} {δ : Type} (pg : PgDatum δ)

/-- A type written into branch `1` of its nullable union gives a valid value when the write
into a fresh value of the type does. -/
theorem nullable_conforms (hA : A.Lawful) {T : Schema} {f : Writer} {w : Value}
    (hf : f T (fresh T) = .ok w) (hc : conforms T w = true) :
    ∃ v, A.branch 1 f (nullable T) (fresh (nullable T)) = .ok v ∧
      conforms (nullable T) v = true :=
  ⟨.union (some (1, w)), by rw [nullable, fresh_union, hA.branch_union_none f rfl, hf]; rfl,
    conforms_union rfl hc⟩

/-- The `TimeTZ` record, filled from a fresh one. -/
theorem updateAvroWithTimeTz_fresh (hA : A.Lawful) (timevalue : Int × Int) :
    updateAvroWithTimeTz A timevalue schemaForTimeTz (fresh schemaForTimeTz) =
      .ok (.record [.long timevalue.1, .int (-timevalue.2)]) := by
  simp [updateAvroWithTimeTz, schemaForTimeTz, AvroC.getByIndexWriter, Writer.andThen,
    hA.field_record_of_lt, hA.setLong_long, hA.setInt_int, fresh, Except.bind, Except.map]

/-- The `Interval` record, filled from a fresh one. -/
theorem updateAvroWithInterval_fresh (hA : A.Lawful) (interval : PgTm × Int) :
    updateAvroWithInterval A interval schemaForInterval (fresh schemaForInterval) =
      .ok (.record [.int interval.1.year, .int interval.1.mon, .int interval.1.mday,
        .int interval.1.hour, .int interval.1.min, .int interval.1.sec, .int interval.2]) := by
  obtain ⟨decoded, fsec⟩ := interval
  simp [updateAvroWithInterval, schemaForInterval, dateFields, timeFields,
    AvroC.getByIndexWriter, Writer.andThen, hA.field_record_of_lt, hA.setInt_int, fresh,
    Except.bind, Except.map]

/-- A date selects the `Date` record, or the `SpecialTime` enum when it is not finite, and
fills it validly. -/
theorem updateAvroWithDate_conforms (hA : A.Lawful) (date : Int) :
    ∃ v, updateAvroWithDate A pg.j2date date schemaForDate (fresh schemaForDate) = .ok v ∧
      conforms schemaForDate v = true := by
  unfold updateAvroWithDate
  by_cases hfin : dateNotFinite date = true
  · -- `POS_INFINITY` or `NEG_INFINITY`, both symbols of the enum
    rw [if_pos hfin]
    refine ⟨.union (some (2, .enum (if dateIsNobegin date then 1 else 0))), ?_, ?_⟩
    · simp [schemaForDate, schemaForSpecialTimes, hA.branch_union_none_of_lt, Writer.ignoreError,
        hA.setEnum_enum, fresh, Except.map]
    · by_cases hb : dateIsNobegin date = true <;> simp [hb, schemaForDate, schemaForSpecialTimes,
        conforms]
  · rw [if_neg hfin]
    obtain ⟨year, month, day⟩ := pg.j2date (date + postgresEpochJdate)
    refine ⟨.union (some (1, .record [.int year, .int month, .int day])), ?_, rfl⟩
    simp [schemaForDate, schemaForSpecialTimes, dateFields, hA.branch_union_none_of_lt,
      AvroC.getByIndexWriter, Writer.andThen, hA.field_record_of_lt, hA.setInt_int, fresh,
      Except.bind, Except.map]

/-- **`timestamp with time zone` fails**: for every datum, whatever the value holds,
`update_avro_with_datum` calls `avro_value_set_long` on the `[null, long]` union itself, and the
union has no such setter. -/
theorem timestampTz_update_fails (hA : A.Lawful) (datum : δ) (v : Value) :
    updateAvroWithDatum A pg timestampTzOid datum (schemaForOid timestampTzOid) v =
      .error einval :=
  hA.setLong_union _ _ v

/-- **Every other type conforms**: written into a fresh value of its schema, a datum of any
type but `timestamp with time zone` gives a valid value of the schema. -/
theorem updateAvroWithDatum_conforms (hA : A.Lawful) {typid : Nat} (datum : δ)
    (h : typid ≠ timestampTzOid) :
    ∃ v, updateAvroWithDatum A pg typid datum (schemaForOid typid)
      (fresh (schemaForOid typid)) = .ok v ∧ conforms (schemaForOid typid) v = true := by
  by_cases hdate : typid = dateOid
  · subst hdate
    exact updateAvroWithDate_conforms pg hA _
  · have hsel : ¬ (typid = dateOid ∨ typid = timestampTzOid) := by tauto
    unfold updateAvroWithDatum schemaForOid
    simp only [if_neg hsel]
    -- both switches take the same branch; every branch but these two is a nullable union,
    -- written by the setter of its type or, for the records, field by field
    cases ht : TypeOid.ofOid typid with
    | date => exact absurd (eq_dateOid_of_ofOid ht) hdate
    | timestampTz => exact absurd (eq_timestampTzOid_of_ofOid ht) h
    | bool => exact nullable_conforms hA (hA.setBoolean_boolean _ _) rfl
    | float4 => exact nullable_conforms hA (hA.setFloat_float _ _) rfl
    | float8 | numeric => exact nullable_conforms hA (hA.setDouble_double _ _) rfl
    | int2 | int4 => exact nullable_conforms hA (hA.setInt_int _ _) rfl
    | int8 | cash | oid | regproc | xid | cid | time | timestamp =>
      exact nullable_conforms hA (hA.setLong_long _ _) rfl
    | timeTz => exact nullable_conforms hA (updateAvroWithTimeTz_fresh hA _) rfl
    | interval => exact nullable_conforms hA (updateAvroWithInterval_fresh hA _) rfl
    | bytea => exact nullable_conforms hA (hA.setBytes_bytes _ _) rfl
    | char | name | text | bpchar | varchar | other =>
      exact nullable_conforms hA (hA.setString_string _ _) rfl

/-- What `update_avro_with_datum` writes for a `timestamp` into a fresh value of its schema:
branch `1` holds the Postgres value plus the offset between the two epochs, as the exact sum. -/
theorem updateAvroWithDatum_timestamp (hA : A.Lawful) (datum : δ) :
    updateAvroWithDatum A pg timestampOid datum (schemaForOid timestampOid)
        (fresh (schemaForOid timestampOid)) =
      .ok (.union (some (1, .long (pg.getTimestamp datum +
        (postgresEpochJdate - unixEpochJdate) * usecsPerDay)))) := by
  show A.branch 1 (A.setLong _) (nullable .long) (fresh (nullable .long)) = _
  rw [nullable, fresh_union, hA.branch_union_none _ rfl, hA.setLong_long]
  rfl

/-- **The conversion of a `timestamp` overflows** for every value beyond `PG_INT64_MAX` less the
offset between the epochs: the long written is beyond `PG_INT64_MAX`, so the `int64` addition
of the C code overflows. -/
theorem updateAvroWithDatum_timestamp_overflows (hA : A.Lawful) (datum : δ)
    (h : int64Max - (postgresEpochJdate - unixEpochJdate) * usecsPerDay < pg.getTimestamp datum) :
    ∃ n, updateAvroWithDatum A pg timestampOid datum (schemaForOid timestampOid)
        (fresh (schemaForOid timestampOid)) = .ok (.union (some (1, .long n))) ∧ int64Max < n :=
  ⟨_, updateAvroWithDatum_timestamp pg hA datum, by omega⟩

end Datum

/-- Which timestamps convert within `int64`: of the values Postgres admits, exactly those up to
`PG_INT64_MAX` less the offset between the epochs; none falls below `PG_INT64_MIN`. -/
theorem timestamp_sum_in_range_iff {ts : Int} (hts : timestampAdmitted ts = true) :
    (int64Min ≤ ts + (postgresEpochJdate - unixEpochJdate) * usecsPerDay ∧
      ts + (postgresEpochJdate - unixEpochJdate) * usecsPerDay ≤ int64Max) ↔
    ts ≤ int64Max - (postgresEpochJdate - unixEpochJdate) * usecsPerDay := by
  have hlow : int64Min ≤ ts := by
    simp only [timestampAdmitted, Bool.or_eq_true, beq_iff_eq, Bool.and_eq_true,
      decide_eq_true_eq] at hts
    rcases hts with (rfl | rfl) | ⟨hmin, -⟩
    · simp [dtNobegin]
    · simp [dtNoend, int64Min, int64Max]
    · exact le_trans (by simp [int64Min, minTimestamp]) hmin
  simp only [postgresEpochJdate, unixEpochJdate, usecsPerDay] at hlow ⊢
  omega

/-- `infinity`, and the last finite timestamp, are admitted and convert beyond `PG_INT64_MAX`. -/
theorem infinity_timestamp_overflows :
    timestampAdmitted dtNoend = true ∧ timestampAdmitted (endTimestamp - 1) = true ∧
    int64Max < dtNoend + (postgresEpochJdate - unixEpochJdate) * usecsPerDay ∧
    int64Max < endTimestamp - 1 + (postgresEpochJdate - unixEpochJdate) * usecsPerDay := by
  refine ⟨by decide, by decide, ?_, ?_⟩ <;>
    simp [int64Max, dtNoend, endTimestamp, postgresEpochJdate, unixEpochJdate, usecsPerDay]

/-! ## The record of a table -/

/-- The fields the columns of a descriptor give: one per attribute that is not dropped. -/
def columnFields (tupdesc : List Attribute) : List (List UInt8 × Schema) :=
  (tupdesc.filter fun attr => !attr.attisdropped).map fun attr =>
    (makeAvroSafe attr.attname false, schemaForOid attr.atttypid)

/-- The fields of the record `schema_for_table_row` builds: `dummy` for a descriptor with no
attributes, then the columns. -/
def rowFields (tupdesc : List Attribute) : List (List UInt8 × Schema) :=
  (if tupdesc = [] then [(bytesOf "dummy", .boolean)] else []) ++ columnFields tupdesc

/-- The loop appends the columns in order when their names are not empty. -/
theorem appendColumns_eq {name : List UInt8} {space : Option (List UInt8)}
    (attrs : List Attribute) (fs : List (List UInt8 × Schema))
    (hnames : ∀ attr ∈ attrs, attr.attisdropped = false → attr.attname ≠ []) :
    appendColumns 0 (.record name space fs) attrs =
      (0, .record name space (fs ++ columnFields attrs)) := by
  induction attrs generalizing fs with
  | nil => simp [appendColumns, columnFields]
  | cons attr attrs ih =>
    have hrest : ∀ a ∈ attrs, a.attisdropped = false → a.attname ≠ [] :=
      fun a ha => hnames a (List.mem_cons_of_mem _ ha)
    cases hd : attr.attisdropped with
    | true =>
      simp only [appendColumns, hd, if_true, ih fs hrest]
      simp [columnFields, hd]
    | false =>
      have hname := isName_makeAvroSafe (hnames attr (List.mem_cons_self ..) hd)
      simp only [appendColumns, hd, Bool.false_eq_true, if_false,
        Schema.appendField_of_isName _ hname, ne_eq, not_true_eq_false, ih _ hrest]
      simp [columnFields, hd]

/-- **The record of a table**: named after the relation, with one field per attribute that is
not dropped, in order, and `dummy` first when the descriptor has no attributes at all. -/
theorem schemaForTableRow_eq {rel : Relation} (hname : rel.relname ≠ [])
    (hnames : ∀ attr ∈ rel.tupdesc, attr.attisdropped = false → attr.attname ≠ []) :
    schemaForTableRow rel = (0, some (.record (makeAvroSafe rel.relname false)
      (some (relNamespace rel)) (rowFields rel.tupdesc))) := by
  unfold schemaForTableRow
  rw [Schema.newRecord_of_isName _ (isName_makeAvroSafe hname)]
  by_cases hempty : rel.tupdesc = []
  · have hdummy : isName (bytesOf "dummy") = true := by decide
    simp only [hempty, List.length_nil, if_true, Schema.appendField_of_isName _ hdummy]
    simp [appendColumns, rowFields, columnFields]
  · have hlen : rel.tupdesc.length ≠ 0 := by simpa using hempty
    simp only [hlen, if_false, appendColumns_eq _ _ hnames, List.nil_append, rowFields, hempty]

/-- `schema_for_table_row` gives a schema whenever it returns `0`. -/
theorem schemaForTableRow_isSome_of_ok {rel : Relation} (h : (schemaForTableRow rel).1 = 0) :
    (schemaForTableRow rel).2.isSome := by
  unfold schemaForTableRow at h ⊢
  split
  · next hnone =>
    rw [hnone] at h
    simp [einval] at h
  · rfl

/-- **All attributes dropped: a record with no fields.** The special case for `dummy` tests
`natts == 0`, and a descriptor whose attributes are all dropped has `natts > 0`. -/
theorem schemaForTableRow_all_dropped {rel : Relation} (hname : rel.relname ≠ [])
    (hne : rel.tupdesc ≠ []) (hdropped : ∀ attr ∈ rel.tupdesc, attr.attisdropped = true) :
    schemaForTableRow rel =
      (0, some (.record (makeAvroSafe rel.relname false) (some (relNamespace rel)) [])) := by
  have hnames : ∀ attr ∈ rel.tupdesc, attr.attisdropped = false → attr.attname ≠ [] := by
    intro attr hattr hd
    rw [hdropped attr hattr] at hd
    cases hd
  rw [schemaForTableRow_eq hname hnames]
  have hnone : rel.tupdesc.filter (fun attr => !attr.attisdropped) = [] :=
    List.filter_eq_nil_iff.mpr fun attr hattr => by simp [hdropped attr hattr]
  simp [rowFields, columnFields, hne, hnone]

/-- A table whose only column has been dropped. -/
def droppedColumnTable : Relation :=
  { nspname := some (bytesOf "public"), relname := bytesOf "no_columns",
    tupdesc := [{ attname := bytesOf "a", atttypid := 23, attisdropped := true }] }

theorem dropped_column_record_has_no_fields :
    (schemaForTableRow droppedColumnTable).1 = 0 ∧
      (schemaForTableRow droppedColumnTable).2.map Schema.fields = some [] := by
  rw [schemaForTableRow_all_dropped (by decide) (by decide) (by decide)]
  exact ⟨rfl, rfl⟩

/-! ## The row of a tuple -/

/-- The attributes that are not dropped, from position `i` on, each with its position in the
descriptor. -/
def nonDropped : List Attribute → Nat → List (Attribute × Nat)
  | [], _ => []
  | attr :: attrs, i =>
    if attr.attisdropped then nonDropped attrs (i + 1) else (attr, i) :: nonDropped attrs (i + 1)

theorem map_fst_nonDropped (attrs : List Attribute) (i : Nat) :
    (nonDropped attrs i).map Prod.fst = attrs.filter fun attr => !attr.attisdropped := by
  induction attrs generalizing i with
  | nil => rfl
  | cons attr attrs ih =>
    cases hd : attr.attisdropped <;> simp [nonDropped, hd, ih]

section Row

variable {A : AvroC} {δ : Type} (pg : PgDatum δ) (heapGetattr : Nat → Option δ)

/-- **The field counter follows the attributes**: the loop of `tuple_to_avro_row` writes the
`k`-th attribute that is not dropped, with the datum at its own position, into field `k`. -/
theorem tupleToAvroRowLoop_eq (attrs : List Attribute) (i field : Nat) :
    tupleToAvroRowLoop A pg heapGetattr attrs i field =
      A.fieldsFrom ((nonDropped attrs i).map fun p => columnWriter A pg p.1 (heapGetattr p.2))
        field := by
  induction attrs generalizing i field with
  | nil => rfl
  | cons attr attrs ih =>
    cases hd : attr.attisdropped with
    | true => simp only [tupleToAvroRowLoop, hd, if_true, nonDropped, ih]
    | false =>
      simp only [tupleToAvroRowLoop, hd, Bool.false_eq_true, if_false, nonDropped,
        List.map_cons, AvroC.fieldsFrom, ih]

/-- The field a column is written into has the column's schema. -/
theorem columnFields_getElem? {tupdesc : List Attribute} {k : Nat} {attr : Attribute} {i : Nat}
    (hk : (nonDropped tupdesc 0)[k]? = some (attr, i)) :
    (columnFields tupdesc)[k]? =
      some (makeAvroSafe attr.attname false, schemaForOid attr.atttypid) := by
  rw [columnFields, ← map_fst_nonDropped tupdesc 0, List.map_map, List.getElem?_map, hk]
  rfl

/-- **A row with a `timestamp with time zone` fails**: if a column of that type that is not
dropped holds a value, `tuple_to_avro_row` fails on the table's record, whatever the value it
starts from. -/
theorem tupleToAvroRow_timestampTz_fails (hA : A.Lawful) {rel : Relation} {S : Schema}
    (hS : (schemaForTableRow rel).2 = some S) (hname : rel.relname ≠ [])
    (hnames : ∀ attr ∈ rel.tupdesc, attr.attisdropped = false → attr.attname ≠ [])
    {k i : Nat} {attr : Attribute} (hk : (nonDropped rel.tupdesc 0)[k]? = some (attr, i))
    (htype : attr.atttypid = timestampTzOid) {datum : δ} (hdatum : heapGetattr i = some datum)
    (v : Value) :
    ∃ e, tupleToAvroRow A pg rel.tupdesc heapGetattr S v = .error e := by
  -- the reset succeeds, and the write of column `k` then fails whatever its field holds
  obtain ⟨w, hw⟩ := hA.reset_ok S v
  rw [schemaForTableRow_eq hname hnames] at hS
  obtain rfl := Option.some.inj hS.symm
  have hne : rel.tupdesc ≠ [] := by
    rintro hnil
    rw [hnil] at hk
    cases hk
  -- the record's fields are the columns, and column `k` is written into field `k`
  have hfield : (rowFields rel.tupdesc)[0 + k]? =
      some (makeAvroSafe attr.attname false, schemaForOid timestampTzOid) := by
    rw [rowFields, if_neg hne, List.nil_append, Nat.zero_add, columnFields_getElem? hk, htype]
  have hwriter :
      ((nonDropped rel.tupdesc 0).map fun p => columnWriter A pg p.1 (heapGetattr p.2))[k]? =
        some (updateAvroWithDatum A pg timestampTzOid datum) := by
    rw [List.getElem?_map, hk]
    simp [columnWriter, hdatum, htype]
  unfold tupleToAvroRow
  rw [Writer.andThen_ok hw, tupleToAvroRowLoop_eq]
  exact AvroC.fieldsFrom_error hA hwriter hfield
    (fun w => ⟨einval, timestampTz_update_fails pg hA datum w⟩) _

end Row

/-! ## The key of a tuple

The tuple's descriptor is either the relation's own (stream replication) or the relation's
without its dropped attributes (the rows of the snapshot's query). -/

section Key

/-- Whether an attribute is not dropped. -/
def notDropped (attr : Attribute) : Bool := !attr.attisdropped

theorem countP_take_add_one {α : Type} (p : α → Bool) {l : List α} {i : Nat}
    (h : i < l.length) :
    (l.take (i + 1)).countP p = (l.take i).countP p + if p l[i] then 1 else 0 := by
  rw [List.take_add_one, List.getElem?_eq_getElem h, Option.toList_some, List.countP_append,
    List.countP_singleton]

/-- The attribute at position `i` that is not dropped is the one the filtered descriptor has at
the number of attributes before it that are not dropped. -/
theorem getElem?_filter_countP_take {α : Type} {p : α → Bool} :
    ∀ {l : List α} {i : Nat} (h : i < l.length), p l[i] = true →
      (l.filter p)[(l.take i).countP p]? = some l[i]
  | a :: l, 0, _, hp => by simp_all
  | a :: l, i + 1, h, hp => by
    have ih := getElem?_filter_countP_take (l := l) (i := i) (by simpa using h) (by simpa using hp)
    by_cases ha : p a = true <;> simp [ha, ih]

/-- In the relation's own descriptor `tup_i` follows `rel_i`: an attribute that is dropped is
dropped in the tuple's descriptor too. -/
theorem keyTupleIndexFrom_self (relTupdesc : List Attribute) :
    ∀ (n relI : Nat), relI + n ≤ relTupdesc.length →
      keyTupleIndexFrom relTupdesc n (relTupdesc.drop relI) relI = some (relI + n)
  | 0, relI, _ => by simp [keyTupleIndexFrom]
  | n + 1, relI, hn => by
    have hlt : relI < relTupdesc.length := by omega
    have ih := keyTupleIndexFrom_self relTupdesc n (relI + 1) (by omega)
    rw [List.drop_eq_getElem_cons hlt]
    cases hd : relTupdesc[relI].attisdropped with
    | false =>
      simp only [keyTupleIndexFrom, hd, Bool.not_false, if_true, ih]
      congr 1
      omega
    | true =>
      simp only [keyTupleIndexFrom, hd, Bool.not_true, Bool.false_eq_true, if_false,
        List.getElem?_eq_getElem hlt, if_true, ih]
      congr 1
      omega

/-- In the filtered descriptor `tup_i` counts the attributes before `rel_i` that are not
dropped. A dropped attribute of the relation reads the tuple's attribute at `tup_i`, which a
later attribute that is not dropped keeps within the descriptor. -/
theorem keyTupleIndexFrom_filter (relTupdesc : List Attribute) {key : Nat}
    (hkey : key < relTupdesc.length) (hkeep : notDropped relTupdesc[key] = true) :
    ∀ (n relI : Nat), relI + n ≤ key →
      keyTupleIndexFrom (relTupdesc.filter notDropped) n (relTupdesc.drop relI)
          ((relTupdesc.take relI).countP notDropped) =
        some ((relTupdesc.take (relI + n)).countP notDropped)
  | 0, relI, _ => by simp [keyTupleIndexFrom]
  | n + 1, relI, hn => by
    have hlt : relI < relTupdesc.length := by omega
    have ih := keyTupleIndexFrom_filter relTupdesc hkey hkeep n (relI + 1) (by omega)
    have hcount := countP_take_add_one notDropped hlt
    rw [List.drop_eq_getElem_cons hlt, show relI + (n + 1) = relI + 1 + n by omega]
    cases hd : relTupdesc[relI].attisdropped with
    | false =>
      have hp : notDropped relTupdesc[relI] = true := by simp [notDropped, hd]
      simp only [hp, if_true] at hcount
      simp only [keyTupleIndexFrom, hd, Bool.not_false, if_true, ← hcount, ih]
    | true =>
      have hp : notDropped relTupdesc[relI] = false := by simp [notDropped, hd]
      simp only [hp, Bool.false_eq_true, if_false, Nat.add_zero] at hcount
      -- the attribute read is within the filtered descriptor, and not dropped
      have hbound : (relTupdesc.take relI).countP notDropped <
          (relTupdesc.filter notDropped).length := by
        have hle : (relTupdesc.take relI).countP notDropped ≤
            (relTupdesc.take key).countP notDropped :=
          (List.take_sublist_take_left (by omega)).countP_le
        have hkeyc := countP_take_add_one notDropped hkey
        have htotal : (relTupdesc.take (key + 1)).countP notDropped ≤
            relTupdesc.countP notDropped := (List.take_sublist _ _).countP_le
        simp only [hkeep, ↓reduceIte] at hkeyc
        rw [← List.countP_eq_length_filter]
        omega
      have hread :
          ((relTupdesc.filter notDropped)[(relTupdesc.take relI).countP notDropped]).attisdropped =
            false := by
        have := List.getElem_filter hbound
        simpa [notDropped] using this
      simp only [keyTupleIndexFrom, hd, Bool.not_true, Bool.false_eq_true, if_false,
        List.getElem?_eq_getElem hbound, hread]
      rw [← hcount, ih]

theorem keyTupleIndex_self {relTupdesc : List Attribute} {attnum : Nat}
    (h : attnum ≤ relTupdesc.length) :
    keyTupleIndex relTupdesc relTupdesc attnum = some attnum := by
  unfold keyTupleIndex
  simpa using keyTupleIndexFrom_self relTupdesc attnum 0 (by omega)

theorem keyTupleIndex_filter {relTupdesc : List Attribute} {attnum : Nat}
    (hlt : attnum < relTupdesc.length) (hkey : relTupdesc[attnum].attisdropped = false) :
    keyTupleIndex relTupdesc (relTupdesc.filter notDropped) attnum =
      some ((relTupdesc.take attnum).countP notDropped) := by
  unfold keyTupleIndex
  simpa using keyTupleIndexFrom_filter relTupdesc hlt (by simp [notDropped, hkey]) attnum 0
    (by omega)

/-- **The key column's position in the tuple.** For a key attribute `attnum` (counted from `0`)
of the relation that is not dropped, the inner loop of `tuple_to_avro_key` reads within both
descriptors and finds the column: at `attnum` in the relation's own descriptor, and in the
descriptor without the dropped attributes at the number of attributes before it that are not
dropped, where that descriptor has the same attribute. -/
theorem keyTupleIndex_key {relTupdesc : List Attribute} {attnum : Nat}
    (hlt : attnum < relTupdesc.length) (hkey : relTupdesc[attnum].attisdropped = false) :
    keyTupleIndex relTupdesc relTupdesc attnum = some attnum ∧
    keyTupleIndex relTupdesc (relTupdesc.filter notDropped) attnum =
      some ((relTupdesc.take attnum).countP notDropped) ∧
    (relTupdesc.filter notDropped)[(relTupdesc.take attnum).countP notDropped]? =
      some relTupdesc[attnum] :=
  ⟨keyTupleIndex_self hlt.le, keyTupleIndex_filter hlt hkey,
    getElem?_filter_countP_take hlt (by simp [notDropped, hkey])⟩

/-- A table whose first column was dropped, keyed by its second. -/
def keyAfterDroppedColumn : List Attribute :=
  [{ attname := bytesOf "a", atttypid := 23, attisdropped := true },
    { attname := bytesOf "id", atttypid := 23, attisdropped := false }]

theorem key_after_dropped_column :
    1 < keyAfterDroppedColumn.length ∧
    (keyAfterDroppedColumn.get ⟨1, by decide⟩).attisdropped = false ∧
    keyTupleIndex keyAfterDroppedColumn keyAfterDroppedColumn 1 = some 1 ∧
    keyTupleIndex keyAfterDroppedColumn (keyAfterDroppedColumn.filter notDropped) 1 =
      some ((keyAfterDroppedColumn.take 1).countP notDropped) ∧
    (keyAfterDroppedColumn.filter notDropped)[(keyAfterDroppedColumn.take 1).countP notDropped]? =
      some (keyAfterDroppedColumn.get ⟨1, by decide⟩) :=
  ⟨by decide, rfl, keyTupleIndex_key (by decide) rfl⟩

end Key

end BottledWater
