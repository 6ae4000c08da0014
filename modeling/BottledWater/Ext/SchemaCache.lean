import BottledWater.Ext.RowValues

set_option autoImplicit false

/-! # The schema cache (`ext/schema_cache.c`)

The extension keeps, for every table it has sent rows of, an entry with the table's Avro key
and row schemas, the generic interfaces made from them and a value of each to encode rows into.
`schema_cache_lookup` finds the entry of a relation through the hash table, and rebuilds it with
`schema_cache_entry_update` when `schema_cache_entry_changed` finds that the relation is not the
one the entry was built from: it compares the names and oids of the table, of its namespace and
of its key index, and copies of the tuple descriptors.

The catalog is a parameter: `getNamespaceName` is `get_namespace_name`, and `genericClass`
says whether `avro_generic_class_from_schema` makes an interface for a schema. An interface is
represented by the schema it was made from, and a value by the fresh value of that schema; the
reference counts that `schema_cache_entry_decrefs` drops are not modelled, its `memset` is.

`hash_search` with `HASH_ENTER` puts the entry in the table before it is built, and nothing
takes it out again when the build fails. The entry then holds the fields the change test reads,
but not the interfaces and values: `schemaCacheLookup_after_error` shows that the next lookup of
an unchanged relation answers `0` with that entry. On runs where no build fails, every answer
is an entry built from the relation's current state (`schemaCacheLookup_current_of_run`).
-/

namespace BottledWater

open Avro

/-- `schema_cache_entry`. `NameData` fields are byte strings, `InvalidOid` is `0`, and a `NULL`
descriptor, schema, interface or value is `none`; the defaults make the zeroed entry. -/
structure SchemaCacheEntry where
  relid : Nat := 0
  relname : List UInt8 := []
  nsId : Nat := 0
  nsName : List UInt8 := []
  keyId : Nat := 0
  keyName : List UInt8 := []
  keynsId : Nat := 0
  keynsName : List UInt8 := []
  keyTupdesc : Option (List Attribute) := none
  rowTupdesc : Option (List Attribute) := none
  keySchema : Option Schema := none
  rowSchema : Option Schema := none
  keyIface : Option Schema := none
  rowIface : Option Schema := none
  keyValue : Option Value := none
  rowValue : Option Value := none

/-- `schema_cache`: its hash table, the entry stored under each relid. The memory context is not
modelled. -/
structure SchemaCache where
  entries : Nat → Option SchemaCacheEntry

/-- `schema_cache_new`: an empty table. -/
def schemaCacheNew : SchemaCache := ⟨fun _ => none⟩

/-- The table with `entry` stored under `relid`: the element `hash_search` returned, as the
code leaves it. -/
def SchemaCache.set (cache : SchemaCache) (relid : Nat) (entry : SchemaCacheEntry) :
    SchemaCache :=
  ⟨Function.update cache.entries relid (some entry)⟩

@[simp] theorem SchemaCache.set_entries_self (cache : SchemaCache) (relid : Nat)
    (entry : SchemaCacheEntry) : (cache.set relid entry).entries relid = some entry := by
  simp [SchemaCache.set]

theorem SchemaCache.set_entries_of_ne (cache : SchemaCache) {relid relid' : Nat}
    (entry : SchemaCacheEntry) (h : relid' ≠ relid) :
    (cache.set relid entry).entries relid' = cache.entries relid' := by
  simp [SchemaCache.set, h]

/-- `equalTupleDescs` of an entry's copy of a descriptor and the relation's, on the attribute
fields the model keeps. The code never passes a `NULL` copy: the key's is compared only when
the entry names a key index, and then it was copied with it; the model counts one as unequal. -/
def equalTupleDescs (copy : Option (List Attribute)) (tupdesc : List Attribute) : Bool :=
  copy == some tupdesc

section Cache

variable (genericClass : Schema → Bool) (getNamespaceName : Nat → List UInt8)

/-- `schema_cache_entry_update`: the fields the change test compares and the copies of the
descriptors are written first, then the key and row schemas, the row's interface and value, and
the key's when there is a key schema. Each error returns at once, with the entry as far as it
got. The return value of `avro_generic_value_new` is not checked by the code. -/
def schemaCacheEntryUpdate (entry : SchemaCacheEntry) (rel : TableData) :
    Int × SchemaCacheEntry :=
  let entry := { entry with
    relid := rel.rdId, nsId := rel.relnamespace, relname := rel.relname,
    nsName := getNamespaceName rel.relnamespace }
  let indexRel := tableKeyIndex rel
  -- without a key index `key_name` and `keyns_name` are left as they were
  let entry := match indexRel with
    | some index => { entry with
        keyId := index.rdId, keynsId := index.relnamespace, keyName := index.relname,
        keynsName := getNamespaceName index.relnamespace }
    | none => { entry with keyId := 0, keynsId := 0 }
  let entry := { entry with
    keyTupdesc := indexRel.map fun (index : IndexData) => index.tupdesc,
    rowTupdesc := some rel.tupdesc }
  let (err, keySchema) := schemaForTableKey getNamespaceName rel
  let entry := { entry with keySchema }
  if err ≠ 0 then (err, entry) else
  let (err, rowSchema) := schemaForTableRow (rel.toRelation getNamespaceName)
  let entry := { entry with rowSchema }
  if err ≠ 0 then (err, entry) else
  let rowIface := rowSchema.filter genericClass
  let entry := { entry with rowIface }
  match rowIface with
  | none => (einval, entry)
  | some rowIface =>
    let entry := { entry with rowValue := some (fresh rowIface) }
    match keySchema with
    | none => (0, entry)
    | some keySchema =>
      let keyIface := if genericClass keySchema then some keySchema else none
      let entry := { entry with keyIface }
      match keyIface with
      | none => (einval, entry)
      | some keyIface => (0, { entry with keyValue := some (fresh keyIface) })

/-- `schema_cache_entry_changed`: whether the relation differs from the one the entry was built
from, in its oid, namespace, name or namespace name, in whether it has a key index and that
index's oid, namespace, name, namespace name and descriptor, or in its descriptor. -/
def schemaCacheEntryChanged (entry : SchemaCacheEntry) (rel : TableData) : Bool :=
  if entry.relid ≠ rel.rdId then true
  else if entry.nsId ≠ rel.relnamespace then true
  else if entry.relname ≠ rel.relname then true
  else if entry.nsName ≠ getNamespaceName entry.nsId then true
  else
    let changed :=
      match tableKeyIndex rel with
      | some index =>
        if entry.keyId ≠ 0 then
          entry.keyId ≠ index.rdId || entry.keynsId ≠ index.relnamespace ||
            entry.keyName ≠ index.relname ||
            entry.keynsName ≠ getNamespaceName entry.keynsId ||
            !equalTupleDescs entry.keyTupdesc index.tupdesc
        else true
      | none => entry.keyId ≠ 0
    if changed then true else !equalTupleDescs entry.rowTupdesc rel.tupdesc

/-- `schema_cache_entry_decrefs`: the reference counts are not modelled, and the `memset` leaves
the zeroed entry. -/
def schemaCacheEntryDecrefs (_entry : SchemaCacheEntry) : SchemaCacheEntry := {}

/-- `schema_cache_lookup`: the code it returns, the entry it gives back (`NULL` after an error)
and the cache after it. A new element of the hash table has only its key set; its other fields,
which the code does not initialise, are modelled as zero. -/
def schemaCacheLookup (cache : SchemaCache) (rel : TableData) :
    Int × Option SchemaCacheEntry × SchemaCache :=
  let relid := rel.rdId
  match cache.entries relid with
  | some entry =>
    if !schemaCacheEntryChanged getNamespaceName entry rel then (0, some entry, cache)
    else
      let (err, entry) :=
        schemaCacheEntryUpdate genericClass getNamespaceName (schemaCacheEntryDecrefs entry) rel
      if err ≠ 0 then (-1, none, cache.set relid entry) else (1, some entry, cache.set relid entry)
  | none =>
    let (err, entry) := schemaCacheEntryUpdate genericClass getNamespaceName { relid } rel
    if err ≠ 0 then (-2, none, cache.set relid entry) else (2, some entry, cache.set relid entry)

/-! ## What an entry records of a relation -/

/-- What an entry records of the key index `table_key_index` finds: its oid, namespace, name,
namespace name and a copy of its descriptor; `InvalidOid` when there is none. -/
def KeyRecorded : Option IndexData → SchemaCacheEntry → Prop
  | some index, entry =>
    entry.keyId = index.rdId ∧ entry.keynsId = index.relnamespace ∧
      entry.keyName = index.relname ∧
      entry.keynsName = getNamespaceName index.relnamespace ∧
      entry.keyTupdesc = some index.tupdesc
  | none, entry => entry.keyId = 0

/-- The fields `schema_cache_entry_changed` compares hold what `rel` has now. -/
@[mk_iff] structure Recorded (rel : TableData) (entry : SchemaCacheEntry) : Prop where
  relid : entry.relid = rel.rdId
  nsId : entry.nsId = rel.relnamespace
  relname : entry.relname = rel.relname
  nsName : entry.nsName = getNamespaceName rel.relnamespace
  key : KeyRecorded getNamespaceName (tableKeyIndex rel) entry
  rowTupdesc : entry.rowTupdesc = some rel.tupdesc

/-- **The update records the relation whatever happens**: every field the change test reads is
written before the first step that can fail. -/
theorem recorded_schemaCacheEntryUpdate (entry : SchemaCacheEntry) (rel : TableData) :
    Recorded getNamespaceName rel
      (schemaCacheEntryUpdate genericClass getNamespaceName entry rel).2 := by
  unfold schemaCacheEntryUpdate
  -- the later steps write only the schemas, interfaces and values, in each of their branches
  cases hidx : tableKeyIndex rel with
  | none =>
    have hkey : ∀ e : SchemaCacheEntry, e.keyId = 0 →
        KeyRecorded getNamespaceName (tableKeyIndex rel) e := by
      rw [hidx]
      exact fun _ h => h
    rcases schemaForTableKey getNamespaceName rel with ⟨err, keySchema⟩
    dsimp only
    repeat' split
    all_goals exact ⟨rfl, rfl, rfl, rfl, hkey _ rfl, rfl⟩
  | some index =>
    have hkey : ∀ e : SchemaCacheEntry, e.keyId = index.rdId → e.keynsId = index.relnamespace →
        e.keyName = index.relname → e.keynsName = getNamespaceName index.relnamespace →
        e.keyTupdesc = some index.tupdesc → KeyRecorded getNamespaceName (tableKeyIndex rel) e := by
      rw [hidx]
      exact fun _ h₁ h₂ h₃ h₄ h₅ => ⟨h₁, h₂, h₃, h₄, h₅⟩
    rcases schemaForTableKey getNamespaceName rel with ⟨err, keySchema⟩
    dsimp only
    repeat' split
    all_goals exact ⟨rfl, rfl, rfl, rfl, hkey _ rfl rfl rfl rfl rfl, rfl⟩

/-- **The change test is exact**: it reports an entry unchanged exactly when the entry records
the relation as it is now. -/
theorem schemaCacheEntryChanged_eq_false_iff {entry : SchemaCacheEntry} {rel : TableData} :
    schemaCacheEntryChanged getNamespaceName entry rel = false ↔
      Recorded getNamespaceName rel entry := by
  rw [recorded_iff]
  unfold schemaCacheEntryChanged
  cases hidx : tableKeyIndex rel with
  | none =>
    simp only [ne_eq, decide_not, Bool.not_eq_eq_eq_not, Bool.not_true, decide_eq_false_iff_not,
      equalTupleDescs, ite_not, Bool.if_true_right, Bool.or_eq_false_iff, Bool.not_false,
      decide_eq_true_eq, beq_iff_eq, KeyRecorded, and_congr_right_iff, and_congr_left_iff, and_imp]
    -- the namespace name is looked up by the entry's namespace oid, which is the relation's
    intro _ hns _ _ _
    rw [hns]
  | some index =>
    simp only [ne_eq, decide_not, equalTupleDescs, ite_not, Bool.if_true_left, Bool.or_eq_true,
      decide_eq_true_eq, Bool.not_eq_eq_eq_not, Bool.not_true, decide_eq_false_iff_not,
      beq_eq_false_iff_ne, Bool.decide_or, Bool.if_true_right, Bool.or_eq_false_iff,
      Bool.not_false, beq_iff_eq, KeyRecorded, and_congr_right_iff]
    intro _ hns _
    rw [hns]
    have hnsName : ∀ keynsId, keynsId = index.relnamespace →
        (entry.keynsName = getNamespaceName keynsId ↔
          entry.keynsName = getNamespaceName index.relnamespace) := by
      rintro _ rfl
      rfl
    constructor
    · rintro ⟨hname, ⟨-, ⟨⟨⟨hid, hnsid⟩, hkname⟩, hkns⟩, hktup⟩, hrow⟩
      exact ⟨hname, ⟨hid, hnsid, hkname, (hnsName _ hnsid).mp hkns, hktup⟩, hrow⟩
    · -- an index that is open has a valid oid, so the entry's key oid is valid
      rintro ⟨hname, ⟨hid, hnsid, hkname, hkns, hktup⟩, hrow⟩
      have hvalid : entry.keyId ≠ 0 := hid ▸ index.rdId_valid
      exact ⟨hname, ⟨hvalid, ⟨⟨⟨hid, hnsid⟩, hkname⟩, (hnsName _ hnsid).mpr hkns⟩, hktup⟩, hrow⟩

end Cache

/-! ## What the schemas depend on -/

/-- The relation an entry records: its namespace name, its name and its copy of the
descriptor. -/
def SchemaCacheEntry.rowRelation (entry : SchemaCacheEntry) : Relation :=
  ⟨some entry.nsName, entry.relname, entry.rowTupdesc.getD []⟩

/-- The key index an entry records, when its key oid is valid. -/
def SchemaCacheEntry.keyRelation (entry : SchemaCacheEntry) : Option Relation :=
  if entry.keyId = 0 then none
  else some ⟨some entry.keynsName, entry.keyName, entry.keyTupdesc.getD []⟩

section Recorded

variable {getNamespaceName : Nat → List UInt8} {rel : TableData} {entry : SchemaCacheEntry}

/-- What `schema_for_table_row` reads of a relation that an entry records is what the entry
holds. -/
theorem Recorded.toRelation_eq (h : Recorded getNamespaceName rel entry) :
    rel.toRelation getNamespaceName = entry.rowRelation := by
  simp [RelationData.toRelation, SchemaCacheEntry.rowRelation, h.nsName, h.relname,
    h.rowTupdesc]

/-- What `schema_for_table_key` reads of a relation that an entry records is what the entry
holds of its key index. -/
theorem Recorded.keyRelation_eq (h : Recorded getNamespaceName rel entry) :
    (tableKeyIndex rel).map (fun index : IndexData => index.toRelation getNamespaceName) =
      entry.keyRelation := by
  have hkey := h.key
  unfold SchemaCacheEntry.keyRelation
  cases hidx : tableKeyIndex rel with
  | none =>
    rw [hidx] at hkey
    simp only [KeyRecorded] at hkey
    simp [hkey]
  | some index =>
    rw [hidx] at hkey
    obtain ⟨hid, hnsid, hname, hnsname, htup⟩ := hkey
    have hvalid : entry.keyId ≠ 0 := hid ▸ index.rdId_valid
    simp [hvalid, RelationData.toRelation, hname, hnsname, htup]

/-- `schema_for_table_key` of a relation that an entry records is a function of the entry. -/
theorem Recorded.schemaForTableKey_eq (h : Recorded getNamespaceName rel entry) :
    schemaForTableKey getNamespaceName rel =
      match entry.keyRelation with
      | none => (0, none)
      | some index => schemaForTableRow index := by
  rw [← h.keyRelation_eq, schemaForTableKey]
  cases tableKeyIndex rel <;> rfl

end Recorded

/-! ## Built entries -/

/-- An entry that is fully built: a row schema with its interface and value, and a key interface
and value exactly for a key schema. -/
structure EntryComplete (entry : SchemaCacheEntry) : Prop where
  rowSchema_isSome : entry.rowSchema.isSome
  rowIface : entry.rowIface = entry.rowSchema
  rowValue : entry.rowValue = entry.rowSchema.map fresh
  keyIface : entry.keyIface = entry.keySchema
  keyValue : entry.keyValue = entry.keySchema.map fresh

/-- An entry with no row interface is not fully built. -/
theorem not_entryComplete_of_rowIface {entry : SchemaCacheEntry} (h : entry.rowIface = none) :
    ¬ EntryComplete entry := by
  intro hc
  have hsome := hc.rowSchema_isSome
  rw [← hc.rowIface, h] at hsome
  exact absurd hsome (by decide)

section Built

variable (genericClass : Schema → Bool) (getNamespaceName : Nat → List UInt8)

/-- An entry fit to encode the rows of `rel` now: fully built, with the key and row schemas that
`schema_for_table_key` and `schema_for_table_row` generate from the relation's current state,
and a key schema exactly when `table_key_index` finds an index. -/
structure EntryCurrent (rel : TableData) (entry : SchemaCacheEntry) : Prop
    extends EntryComplete entry where
  keySchema_eq : entry.keySchema = (schemaForTableKey getNamespaceName rel).2
  rowSchema_eq : entry.rowSchema = (schemaForTableRow (rel.toRelation getNamespaceName)).2
  keySchema_isSome : entry.keySchema.isSome = (tableKeyIndex rel).isSome

/-- **A build that succeeds gives the current entry**, from an entry with no key interface or
value, as the zeroed entry and a new one are. -/
theorem schemaCacheEntryUpdate_current {entry : SchemaCacheEntry} {rel : TableData}
    (hkeyIface : entry.keyIface = none) (hkeyValue : entry.keyValue = none)
    (hok : (schemaCacheEntryUpdate genericClass getNamespaceName entry rel).1 = 0) :
    EntryCurrent getNamespaceName rel
      (schemaCacheEntryUpdate genericClass getNamespaceName entry rel).2 := by
  -- once its generation returns `0`, the key schema is there exactly for a key index
  have hkeyIsSome : (schemaForTableKey getNamespaceName rel).1 = 0 →
      (schemaForTableKey getNamespaceName rel).2.isSome = (tableKeyIndex rel).isSome := by
    unfold schemaForTableKey
    cases tableKeyIndex rel with
    | none => exact fun _ => rfl
    | some index => exact schemaForTableRow_isSome_of_ok
  revert hok
  unfold schemaCacheEntryUpdate
  rcases hkey : schemaForTableKey getNamespaceName rel with ⟨keyErr, keySchema⟩
  rcases hrow : schemaForTableRow (rel.toRelation getNamespaceName) with ⟨rowErr, rowSchema⟩
  rw [hkey] at hkeyIsSome
  dsimp only at hkeyIsSome ⊢
  split_ifs with hke hre
  · exact fun h => absurd h hke
  · exact fun h => absurd h hre
  · have hkeyOk := hkeyIsSome (not_not.mp hke)
    cases hf : rowSchema.filter genericClass with
    | none => simp [einval]
    | some rowIface =>
      obtain ⟨rfl, -⟩ := Option.filter_eq_some_iff.mp hf
      cases keySchema with
      | none =>
        -- the key interface and value are the entry's, past the match on the key index
        intro _
        refine ⟨⟨rfl, rfl, rfl, ?_, ?_⟩, by rw [hkey], by rw [hrow], hkeyOk⟩
        · cases tableKeyIndex rel <;> exact hkeyIface
        · cases tableKeyIndex rel <;> exact hkeyValue
      | some keySchema =>
        cases hg : genericClass keySchema with
        | false => simp [einval, hg]
        | true =>
          intro _
          dsimp only
          rw [if_pos hg]
          exact ⟨⟨rfl, rfl, rfl, rfl, rfl⟩, by rw [hkey], by rw [hrow], hkeyOk⟩

/-- **A build that fails leaves an entry that is not fully built**, from an entry with no row
interface: the row interface is missing, or the key's is. -/
theorem schemaCacheEntryUpdate_incomplete {entry : SchemaCacheEntry} {rel : TableData}
    (hrowIface : entry.rowIface = none)
    (herr : (schemaCacheEntryUpdate genericClass getNamespaceName entry rel).1 ≠ 0) :
    ¬ EntryComplete (schemaCacheEntryUpdate genericClass getNamespaceName entry rel).2 := by
  revert herr
  unfold schemaCacheEntryUpdate
  rcases schemaForTableKey getNamespaceName rel with ⟨keyErr, keySchema⟩
  rcases schemaForTableRow (rel.toRelation getNamespaceName) with ⟨rowErr, rowSchema⟩
  dsimp only
  -- an error before the row interface leaves the entry's, past the match on the key index
  split_ifs with hke hre
  · exact fun _ => not_entryComplete_of_rowIface (by cases tableKeyIndex rel <;> exact hrowIface)
  · exact fun _ => not_entryComplete_of_rowIface (by cases tableKeyIndex rel <;> exact hrowIface)
  · cases hf : rowSchema.filter genericClass with
    | none => exact fun _ => not_entryComplete_of_rowIface rfl
    | some rowIface =>
      cases keySchema with
      | none => exact fun h => absurd rfl h
      | some keySchema =>
        cases hg : genericClass keySchema with
        | false =>
          -- the key schema is there and its interface is not
          intro _ hc
          have hkeyIface := hc.keyIface
          simp [hg] at hkeyIface
        | true => simp [hg]

end Built

/-- **An entry stays current while the change test finds nothing**: a current entry that records
`rel` under one catalog is current for every state `rel'` under any catalog that it records. -/
theorem EntryCurrent.of_recorded {getNamespaceName getNamespaceName' : Nat → List UInt8}
    {rel rel' : TableData} {entry : SchemaCacheEntry}
    (hcur : EntryCurrent getNamespaceName rel entry) (h : Recorded getNamespaceName rel entry)
    (h' : Recorded getNamespaceName' rel' entry) : EntryCurrent getNamespaceName' rel' entry where
  toEntryComplete := hcur.toEntryComplete
  keySchema_eq := by rw [hcur.keySchema_eq, h.schemaForTableKey_eq, h'.schemaForTableKey_eq]
  rowSchema_eq := by rw [hcur.rowSchema_eq, h.toRelation_eq, h'.toRelation_eq]
  keySchema_isSome := by
    -- both states have a key index exactly when the entry records one
    have hsame := congrArg Option.isSome (h.keyRelation_eq.trans h'.keyRelation_eq.symm)
    rw [hcur.keySchema_isSome]
    simpa using hsame

/-! ## Lookups -/

section Lookup

variable (genericClass : Schema → Bool) (getNamespaceName : Nat → List UInt8)

/-- A lookup that finds an entry the change test passes answers `0` with it. -/
theorem schemaCacheLookup_of_unchanged {cache : SchemaCache} {rel : TableData}
    {entry : SchemaCacheEntry} (hentry : cache.entries rel.rdId = some entry)
    (hchanged : schemaCacheEntryChanged getNamespaceName entry rel = false) :
    schemaCacheLookup genericClass getNamespaceName cache rel = (0, some entry, cache) := by
  simp [schemaCacheLookup, hentry, hchanged]

/-- **What a lookup can do**: answer `0` with the stored entry when the change test finds
nothing; or build from an entry with no interfaces or values and store the result, answering `1`
or `2` with it after a success, and a negative code with no entry after an error. -/
theorem schemaCacheLookup_cases (cache : SchemaCache) (rel : TableData) :
    (∃ entry, cache.entries rel.rdId = some entry ∧
        schemaCacheEntryChanged getNamespaceName entry rel = false ∧
        schemaCacheLookup genericClass getNamespaceName cache rel = (0, some entry, cache)) ∨
    (∃ (cleared : SchemaCacheEntry) (err : Int) (built : SchemaCacheEntry),
      cleared.rowIface = none ∧ cleared.keyIface = none ∧ cleared.keyValue = none ∧
      schemaCacheEntryUpdate genericClass getNamespaceName cleared rel = (err, built) ∧
      (schemaCacheLookup genericClass getNamespaceName cache rel).2.2 =
        cache.set rel.rdId built ∧
      (err ≠ 0 → (schemaCacheLookup genericClass getNamespaceName cache rel).1 < 0 ∧
        (schemaCacheLookup genericClass getNamespaceName cache rel).2.1 = none) ∧
      (err = 0 → ((schemaCacheLookup genericClass getNamespaceName cache rel).1 = 1 ∨
          (schemaCacheLookup genericClass getNamespaceName cache rel).1 = 2) ∧
        (schemaCacheLookup genericClass getNamespaceName cache rel).2.1 = some built)) := by
  unfold schemaCacheLookup
  dsimp only
  cases hentry : cache.entries rel.rdId with
  | some entry =>
    dsimp only
    cases hchanged : schemaCacheEntryChanged getNamespaceName entry rel with
    | false => exact .inl ⟨entry, rfl, hchanged, rfl⟩
    | true =>
      -- a changed entry is zeroed and rebuilt
      right
      rcases hup : schemaCacheEntryUpdate genericClass getNamespaceName
        (schemaCacheEntryDecrefs entry) rel with ⟨err, built⟩
      refine ⟨schemaCacheEntryDecrefs entry, err, built, rfl, rfl, rfl, hup, ?_, ?_, ?_⟩
      all_goals by_cases herr : err = 0 <;> simp [herr]
  | none =>
    dsimp only
    right
    rcases hup : schemaCacheEntryUpdate genericClass getNamespaceName { relid := rel.rdId } rel
      with ⟨err, built⟩
    refine ⟨{ relid := rel.rdId }, err, built, rfl, rfl, rfl, hup, ?_, ?_, ?_⟩
    all_goals by_cases herr : err = 0 <;> simp [herr]

/-- **A lookup that answered with an entry** either answered `0` with the entry stored and left
the cache as it was, or answered a change and stored the entry it answered with. -/
theorem schemaCacheLookup_of_some {cache cache' : SchemaCache} {rel : TableData} {changed : Int}
    {entry : SchemaCacheEntry}
    (h : schemaCacheLookup genericClass getNamespaceName cache rel =
      (changed, some entry, cache')) :
    (changed = 0 ∧ cache.entries rel.rdId = some entry ∧ cache' = cache) ∨
      (changed ≠ 0 ∧ cache' = cache.set rel.rdId entry) := by
  rcases schemaCacheLookup_cases genericClass getNamespaceName cache rel with
    ⟨found, hfound, -, hlookup⟩ | ⟨cleared, err, built, -, -, -, -, hset, herr, hok⟩
  · rw [h] at hlookup
    simp only [Prod.mk.injEq, Option.some.injEq] at hlookup
    obtain ⟨rfl, rfl, rfl⟩ := hlookup
    exact .inl ⟨rfl, hfound, rfl⟩
  · rw [h] at hset herr hok
    by_cases hbuilt : err = 0
    · -- the rebuilt entry is the one answered and stored
      obtain ⟨hcode, hentry⟩ := hok hbuilt
      simp only [Option.some.injEq] at hcode hentry hset
      subst hentry
      exact .inr ⟨by omega, hset⟩
    · -- a failed build answers no entry
      exact absurd (herr hbuilt).2 (by simp)

/-- **A lookup that answers `1` or `2` has just rebuilt the entry from the relation's current
state**, whatever the cache held, and stored it. -/
theorem schemaCacheLookup_rebuilt {cache : SchemaCache} {rel : TableData}
    (hcode : (schemaCacheLookup genericClass getNamespaceName cache rel).1 = 1 ∨
      (schemaCacheLookup genericClass getNamespaceName cache rel).1 = 2) :
    ∃ entry, (schemaCacheLookup genericClass getNamespaceName cache rel).2.1 = some entry ∧
      (schemaCacheLookup genericClass getNamespaceName cache rel).2.2.entries rel.rdId =
        some entry ∧
      Recorded getNamespaceName rel entry ∧ EntryCurrent getNamespaceName rel entry := by
  rcases schemaCacheLookup_cases genericClass getNamespaceName cache rel with
    ⟨entry, -, -, hlookup⟩ | ⟨cleared, err, built, -, hkeyIface, hkeyValue, hup, hcache, herr, hok⟩
  · rw [hlookup] at hcode
    simp at hcode
  · -- the answer is not an error, so the build succeeded
    rcases eq_or_ne err 0 with h0 | hne
    swap
    · have hneg := (herr hne).1
      omega
    have hbuilt : (schemaCacheEntryUpdate genericClass getNamespaceName cleared rel).1 = 0 := by
      rw [hup]
      exact h0
    have hcurrent := schemaCacheEntryUpdate_current genericClass getNamespaceName hkeyIface
      hkeyValue hbuilt
    have hrecorded := recorded_schemaCacheEntryUpdate genericClass getNamespaceName cleared rel
    rw [hup] at hcurrent hrecorded
    exact ⟨built, (hok h0).2, by rw [hcache]; simp, hrecorded, hcurrent⟩

/-- **After an error the half-built entry is taken for the current one**: the entry the failed
build left stays in the table, and a lookup of the relation in the same state answers `0` with
it, although it is not fully built. -/
theorem schemaCacheLookup_after_error {cache : SchemaCache} {rel : TableData}
    (herr : (schemaCacheLookup genericClass getNamespaceName cache rel).1 < 0) :
    ∃ entry, schemaCacheLookup genericClass getNamespaceName
        (schemaCacheLookup genericClass getNamespaceName cache rel).2.2 rel =
      (0, some entry, (schemaCacheLookup genericClass getNamespaceName cache rel).2.2) ∧
      ¬ EntryComplete entry := by
  rcases schemaCacheLookup_cases genericClass getNamespaceName cache rel with
    ⟨entry, -, -, hlookup⟩ | ⟨cleared, err, built, hrowIface, -, -, hup, hcache, -, hok⟩
  · rw [hlookup] at herr
    simp at herr
  · -- the build failed: an answer after a success is positive
    have hne : err ≠ 0 := by
      intro h0
      rcases (hok h0).1 with h | h <;> omega
    -- the entry it left records the relation, so the change test passes it
    have hrecorded := recorded_schemaCacheEntryUpdate genericClass getNamespaceName cleared rel
    rw [hup] at hrecorded
    have hunchanged := (schemaCacheEntryChanged_eq_false_iff getNamespaceName).mpr hrecorded
    have hfailed : (schemaCacheEntryUpdate genericClass getNamespaceName cleared rel).1 ≠ 0 := by
      rw [hup]
      exact hne
    have hincomplete := schemaCacheEntryUpdate_incomplete genericClass getNamespaceName hrowIface
      hfailed
    rw [hup] at hincomplete
    rw [hcache]
    exact ⟨built, schemaCacheLookup_of_unchanged _ _ (by simp) hunchanged, hincomplete⟩

/-- An `avro_generic_class_from_schema` that makes no interface for a record without fields, the
schemas the comment in `schema_for_table_row` says avro-c does not accept. -/
def fieldsRequiredClass : Schema → Bool
  | .record _ _ [] => false
  | _ => true

/-- A catalog in which every namespace is `public`. -/
def publicNamespace (_nspid : Nat) : List UInt8 := bytesOf "public"

/-- The table `t` with one column `a` of type `int4`, and no key. -/
def oneColumnTable : TableData :=
  { rdId := 16384, relname := bytesOf "t", relnamespace := 2200,
    tupdesc := [{ attname := bytesOf "a", atttypid := 23, attisdropped := false }],
    rdId_valid := (by decide), relreplident := .default, replicaIndex := none, indexList := [] }

/-- The table after its only column is dropped: the attribute stays, renamed and dropped. -/
def lastColumnDropped : TableData :=
  { oneColumnTable with
    tupdesc := [⟨bytesOf "........pg.dropped.1........", 0, true⟩] }

/-- The table is cached (`2`); its last column is dropped, and the rebuild fails (`-1`); the next
lookup of the unchanged table answers `0` with an entry that has no row interface. -/
theorem dropped_column_entry_unbuilt :
    let lookup := schemaCacheLookup fieldsRequiredClass publicNamespace
    let first := lookup schemaCacheNew oneColumnTable
    let second := lookup first.2.2 lastColumnDropped
    let third := lookup second.2.2 lastColumnDropped
    first.1 = 2 ∧ second.1 = -1 ∧ third.1 = 0 ∧
      third.2.1.map (fun entry => entry.rowIface.isSome) = some false := by
  decide

end Lookup

/-! ## Runs without errors -/

/-- Every entry of the cache was built without an error from some state of its relation under
some catalog: it records that state and is current for it. -/
def CacheBuilt (cache : SchemaCache) : Prop :=
  ∀ relid entry, cache.entries relid = some entry →
    ∃ (getNamespaceName : Nat → List UInt8) (rel : TableData),
      Recorded getNamespaceName rel entry ∧ EntryCurrent getNamespaceName rel entry

theorem cacheBuilt_new : CacheBuilt schemaCacheNew := by
  intro relid entry h
  cases h

section Run

variable (genericClass : Schema → Bool) (getNamespaceName : Nat → List UInt8)

/-- **Without errors the cache answers with current entries**: when every entry was built
without an error, a lookup that does not fail answers with an entry that is current for the
relation's state now. -/
theorem schemaCacheLookup_current {cache : SchemaCache} (hcache : CacheBuilt cache)
    {rel : TableData} (hcode : 0 ≤ (schemaCacheLookup genericClass getNamespaceName cache rel).1) :
    ∃ entry, (schemaCacheLookup genericClass getNamespaceName cache rel).2.1 = some entry ∧
      EntryCurrent getNamespaceName rel entry := by
  rcases schemaCacheLookup_cases genericClass getNamespaceName cache rel with
    ⟨entry, hentry, hunchanged, hlookup⟩ | ⟨cleared, err, built, -, -, -, -, -, herr, hok⟩
  · -- the stored entry records a past state; the change test finds the present one the same
    obtain ⟨getNamespaceName₀, rel₀, hrecorded₀, hcurrent₀⟩ := hcache _ _ hentry
    have hrecorded := (schemaCacheEntryChanged_eq_false_iff getNamespaceName).mp hunchanged
    rw [hlookup]
    exact ⟨entry, rfl, hcurrent₀.of_recorded hrecorded₀ hrecorded⟩
  · rcases eq_or_ne err 0 with h0 | hne
    swap
    · have hneg := (herr hne).1
      omega
    obtain ⟨entry, hout, -, -, hcurrent⟩ :=
      schemaCacheLookup_rebuilt genericClass getNamespaceName (hok h0).1
    exact ⟨entry, hout, hcurrent⟩

/-- A lookup that does not fail keeps every entry built without an error: it stores nothing, or
the entry it has just rebuilt under the relation's oid. -/
theorem cacheBuilt_schemaCacheLookup {cache : SchemaCache} (hcache : CacheBuilt cache)
    {rel : TableData} (hcode : 0 ≤ (schemaCacheLookup genericClass getNamespaceName cache rel).1) :
    CacheBuilt (schemaCacheLookup genericClass getNamespaceName cache rel).2.2 := by
  rcases schemaCacheLookup_cases genericClass getNamespaceName cache rel with
    ⟨entry, -, -, hlookup⟩ | ⟨cleared, err, built, -, -, -, -, hset, herr, hok⟩
  · rw [hlookup]
    exact hcache
  · rcases eq_or_ne err 0 with h0 | hne
    swap
    · have hneg := (herr hne).1
      omega
    obtain ⟨entry, -, hstored, hrecorded, hcurrent⟩ :=
      schemaCacheLookup_rebuilt genericClass getNamespaceName (hok h0).1
    intro relid entry' hentry'
    by_cases hrelid : relid = rel.rdId
    · subst hrelid
      rw [hstored] at hentry'
      cases hentry'
      exact ⟨getNamespaceName, rel, hrecorded, hcurrent⟩
    · rw [hset, SchemaCache.set_entries_of_ne _ _ hrelid] at hentry'
      exact hcache _ _ hentry'

/-- One lookup that does not fail, under any catalog and for any state of any relation. -/
def LookupOk (cache cache' : SchemaCache) : Prop :=
  ∃ (getNamespaceName : Nat → List UInt8) (rel : TableData),
    0 ≤ (schemaCacheLookup genericClass getNamespaceName cache rel).1 ∧
      (schemaCacheLookup genericClass getNamespaceName cache rel).2.2 = cache'

/-- Along lookups that do not fail, every entry stays built without an error. -/
theorem cacheBuilt_run {cache : SchemaCache}
    (hrun : Relation.ReflTransGen (LookupOk genericClass) schemaCacheNew cache) :
    CacheBuilt cache := by
  induction hrun with
  | refl => exact cacheBuilt_new
  | tail _ hstep ih =>
    obtain ⟨getNamespaceName, rel, hcode, rfl⟩ := hstep
    exact cacheBuilt_schemaCacheLookup genericClass getNamespaceName ih hcode

/-- **The cache is coherent on runs without errors**: after any run of lookups none of which
failed, whatever the catalog and the relations did between them, a lookup that does not fail
answers with an entry that is fully built and holds the schemas the relation generates now. -/
theorem schemaCacheLookup_current_of_run {cache : SchemaCache}
    (hrun : Relation.ReflTransGen (LookupOk genericClass) schemaCacheNew cache) (rel : TableData)
    (hcode : 0 ≤ (schemaCacheLookup genericClass getNamespaceName cache rel).1) :
    ∃ entry, (schemaCacheLookup genericClass getNamespaceName cache rel).2.1 = some entry ∧
      EntryCurrent getNamespaceName rel entry :=
  schemaCacheLookup_current genericClass getNamespaceName (cacheBuilt_run genericClass hrun) hcode

end Run

/-! ## What a lookup leaves behind -/

section Leaves

variable (genericClass : Schema → Bool) (getNamespaceName : Nat → List UInt8)

/-- A lookup leaves the entries of the other relids as they were. -/
theorem schemaCacheLookup_entries_of_ne (cache : SchemaCache) (rel : TableData) {relid : Nat}
    (h : relid ≠ rel.rdId) :
    (schemaCacheLookup genericClass getNamespaceName cache rel).2.2.entries relid =
      cache.entries relid := by
  rcases schemaCacheLookup_cases genericClass getNamespaceName cache rel with
    ⟨entry, -, -, hlookup⟩ | ⟨cleared, err, built, -, -, -, -, hset, -, -⟩
  · rw [hlookup]
  · rw [hset, SchemaCache.set_entries_of_ne _ _ h]

/-- **Whatever a lookup answers, the cache then holds an entry that records the relation as it
is**: the one it found unchanged, or the one it built, also when the build failed. -/
theorem schemaCacheLookup_recorded (cache : SchemaCache) (rel : TableData) :
    ∃ entry, (schemaCacheLookup genericClass getNamespaceName cache rel).2.2.entries rel.rdId =
      some entry ∧ Recorded getNamespaceName rel entry := by
  rcases schemaCacheLookup_cases genericClass getNamespaceName cache rel with
    ⟨entry, hentry, hunchanged, hlookup⟩ | ⟨cleared, err, built, -, -, -, hup, hset, -, -⟩
  · rw [hlookup]
    exact ⟨entry, hentry, (schemaCacheEntryChanged_eq_false_iff getNamespaceName).mp hunchanged⟩
  · have hrecorded := recorded_schemaCacheEntryUpdate genericClass getNamespaceName cleared rel
    rw [hup] at hrecorded
    exact ⟨built, by rw [hset]; simp, hrecorded⟩

/-- A relation the cache has no entry for is new: the lookup answers `2`, or fails. -/
theorem schemaCacheLookup_of_none {cache : SchemaCache} {rel : TableData}
    (h : cache.entries rel.rdId = none) :
    (schemaCacheLookup genericClass getNamespaceName cache rel).1 = 2 ∨
      (schemaCacheLookup genericClass getNamespaceName cache rel).1 < 0 := by
  unfold schemaCacheLookup
  dsimp only
  rw [h]
  rcases schemaCacheEntryUpdate genericClass getNamespaceName { relid := rel.rdId } rel with
    ⟨err, built⟩
  dsimp only
  split_ifs
  · exact .inr (show (-2 : Int) < 0 by decide)
  · exact .inl rfl

/-- The entry a lookup answers with is the relation's own. -/
theorem schemaCacheLookup_relid {cache : SchemaCache} {rel : TableData} {entry : SchemaCacheEntry}
    (h : (schemaCacheLookup genericClass getNamespaceName cache rel).2.1 = some entry) :
    entry.relid = rel.rdId := by
  rcases schemaCacheLookup_cases genericClass getNamespaceName cache rel with
    ⟨found, -, hunchanged, hlookup⟩ | ⟨cleared, err, built, -, -, -, hup, -, herr, hok⟩
  · rw [hlookup] at h
    cases h
    exact ((schemaCacheEntryChanged_eq_false_iff getNamespaceName).mp hunchanged).relid
  · by_cases h0 : err = 0
    · -- the answer is the entry just built, which records the relation
      rw [(hok h0).2] at h
      cases h
      have hrecorded := recorded_schemaCacheEntryUpdate genericClass getNamespaceName cleared rel
      rw [hup] at hrecorded
      exact hrecorded.relid
    · rw [(herr h0).2] at h
      cases h

end Leaves

end BottledWater
