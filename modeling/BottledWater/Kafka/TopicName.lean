import BottledWater.Ext.RowValues
import BottledWater.Kafka.TableMapper
import BottledWater.Lib.CString

set_option autoImplicit false

/-! # Topic names

The topic a table's rows go to is named in three stages. The extension names the row schema
after the table and puts the Postgres schema name into its namespace, both passed through
`make_avro_safe` (`schema_for_table_row`). The client reads them back from the schema and
builds a topic name in a buffer of `TABLE_NAME_BUFFER_LENGTH` bytes
(`topic_name_from_avro_schema`). The table mapper puts the topic prefix in front
(`table_metadata_update_topic`).

Where a stage writes past the end of a buffer, or reads one that nothing wrote, the model
returns `none`.
-/

namespace BottledWater

open Avro

/-- `TABLE_NAME_BUFFER_LENGTH`: the size of the client's buffer for a topic name. -/
def tableNameBufferLength : Nat := 128

/-- `topic_name_from_avro_schema`, of the row schema's name and namespace. `sscanf` stores the
namespace after `GENERATED_SCHEMA_NAMESPACE "."` into `topic_name`; when the namespace does not
match, or names the schema `public`, the table name is copied instead, and otherwise a dot and
the table name are appended; each copy is cut to the room the buffer has left. `none` when the
`%s` conversion stores more than `TABLE_NAME_BUFFER_LENGTH` bytes, or when `sscanf` returns
`EOF` and `strcmp` reads a buffer that nothing wrote. -/
def topicNameFromAvroSchema (tableName space : List UInt8) : Option (List UInt8) :=
  let (matched, scanned) := CString.scanLiteralString (generatedSchemaNamespace ++ [46]) space
  if CString.scanStored scanned > tableNameBufferLength then none
  else if matched = 0 ∨ (matched = 1 ∧ scanned = bytesOf "public") then
    some (CString.strncpyTerminated tableName tableNameBufferLength)
  else if matched = 1 then
    let topicName := CString.strncat scanned [46] (tableNameBufferLength - scanned.length - 1)
    some (CString.strncat topicName tableName (tableNameBufferLength - topicName.length - 1))
  else none

/-- The topic the client opens for a table it has not seen: the schema the extension builds for
the relation (`schema_for_table_row`), the topic name the client makes of the schema's name and
namespace, and `table_metadata_update_topic` on a new record (`table_metadata_new`). The result
is the update's error code and the topic it leaves in the record; `none` where building the
schema fails or a stage's behaviour is undefined. -/
def tableTopic (topicPrefix : Option (List UInt8)) (relid : Nat) (rel : Relation) :
    Option (Int × Option (List UInt8)) :=
  match schemaForTableRow rel with
  | (0, some schema) =>
    match schema.name?, schema.space? with
    | some name, some space =>
      (topicNameFromAvroSchema name space).map fun topicName =>
        let (err, table) := tableMetadataUpdateTopic topicPrefix (tableMetadataNew relid) topicName
        (err, table.topic)
    | _, _ => none
  | _ => none

/-- The schema name as the namespace carries it: what follows the generated namespace and its
dot in `make_avro_safe(GENERATED_SCHEMA_NAMESPACE "." nspname, true)`. -/
def safeSchemaName (nspname : List UInt8) : List UInt8 :=
  (makeAvroSafe (generatedSchemaNamespace ++ 46 :: nspname) true).drop
    (generatedSchemaNamespace.length + 1)

/-- The topic name the naming convention of `table_metadata_update_topic` gives a table,
before the prefix: the schema name and a dot unless the schema is `public`, then the table name,
both as `make_avro_safe` makes them. -/
def conventionalTableName (nspname relname : List UInt8) : List UInt8 :=
  (if nspname = bytesOf "public" then [] else safeSchemaName nspname ++ [46]) ++
    makeAvroSafe relname false

/-- The topic the naming convention gives a table: the prefix and a dot when there is a prefix,
then the conventional name; the update fails when the name has more than
`TABLE_MAPPER_MAX_TOPIC_LEN - 1` bytes. -/
def conventionalTopic (topicPrefix : Option (List UInt8)) (nspname relname : List UInt8) :
    Int × Option (List UInt8) :=
  let name := (match topicPrefix with
    | some pfx => pfx ++ [46]
    | none => []) ++ conventionalTableName nspname relname
  if tableMapperMaxTopicLen - 1 < name.length then (-1, none) else (0, some name)

/-- What `table_metadata_update_topic` does to a new record: the topic opened under the name,
after the prefix and a dot, or the error when that does not fit `TABLE_MAPPER_MAX_TOPIC_LEN`. -/
def prefixedTopic (topicPrefix : Option (List UInt8)) (name : List UInt8) :
    Int × Option (List UInt8) :=
  match topicPrefix with
  | some pfx =>
    if pfx.length + 1 + name.length ≥ tableMapperMaxTopicLen then (-1, none)
    else (0, some (pfx ++ [46] ++ name))
  | none => (0, some name)

theorem tableMetadataUpdateTopic_new (topicPrefix : Option (List UInt8)) (relid : Nat)
    (name : List UInt8) :
    (let (err, table) := tableMetadataUpdateTopic topicPrefix (tableMetadataNew relid) name
     (err, table.topic)) = prefixedTopic topicPrefix name := by
  cases topicPrefix with
  | none => rfl
  | some pfx =>
    -- a new record has no topic, so the name is always registered
    simp only [tableMetadataUpdateTopic, tableMetadataNew, prefixedTopic, Option.isSome_none,
      Bool.false_eq_true, false_and, if_false]
    split_ifs <;> rfl

/-! ### The namespace the extension writes -/

theorem length_generatedSchemaNamespace_dot : (generatedSchemaNamespace ++ [46]).length = 35 := by
  decide

/-- Every byte of the generated namespace and its dot is kept when something follows them. -/
theorem avroSafeKeeps_generatedSchemaNamespace {length i : Nat} (hlen : 35 < length)
    (h : i < (generatedSchemaNamespace ++ [46]).length) :
    avroSafeKeeps true length i (generatedSchemaNamespace ++ [46])[i] = true := by
  have hall : ∀ (i : Nat) (h : i < (generatedSchemaNamespace ++ [46]).length),
      avroSafeKeeps true 36 i (generatedSchemaNamespace ++ [46])[i] = true := by decide
  have hi : i < 35 := length_generatedSchemaNamespace_dot ▸ h
  rw [avroSafeKeeps_length 36 (by omega) (by omega)]
  exact hall i h

/-- The schema name part of the namespace: the schema name's bytes encoded at their positions
after the generated namespace and its dot. -/
theorem safeSchemaName_eq {nspname : List UInt8} (hne : nspname ≠ []) :
    makeAvroSafe (generatedSchemaNamespace ++ 46 :: nspname) true =
        generatedSchemaNamespace ++ [46] ++ safeSchemaName nspname ∧
      safeSchemaName nspname = (nspname.mapIdx fun i c =>
        avroSafeEncode true (generatedSchemaNamespace ++ 46 :: nspname).length
          (i + (generatedSchemaNamespace ++ [46]).length) c).flatten := by
  have hsplit : generatedSchemaNamespace ++ 46 :: nspname =
      (generatedSchemaNamespace ++ [46]) ++ nspname := by simp
  have hlen : 35 < (generatedSchemaNamespace ++ 46 :: nspname).length := by
    have := List.length_pos_iff.mpr hne
    rw [hsplit, List.length_append, length_generatedSchemaNamespace_dot]
    omega
  -- the generated namespace and its dot come out as they are
  have hkept := flatten_avroSafeEncode_of_keeps (fun i => i)
    fun i h => avroSafeKeeps_generatedSchemaNamespace (hsplit ▸ hlen) h
  have hmake := makeAvroSafe_append (generatedSchemaNamespace ++ [46]) nspname true
  rw [hkept, ← hsplit] at hmake
  have hdrop : safeSchemaName nspname = (nspname.mapIdx fun i c =>
      avroSafeEncode true (generatedSchemaNamespace ++ 46 :: nspname).length
        (i + (generatedSchemaNamespace ++ [46]).length) c).flatten := by
    rw [safeSchemaName, hmake, List.drop_left' (by simp)]
  exact ⟨by rw [hmake, hdrop], hdrop⟩

theorem relNamespace_eq {rel : Relation} {nspname : List UInt8} (hnsp : rel.nspname = some nspname)
    (hne : nspname ≠ []) :
    relNamespace rel = generatedSchemaNamespace ++ [46] ++ safeSchemaName nspname := by
  rw [relNamespace, hnsp]
  exact (safeSchemaName_eq hne).1

theorem isSpace_hexDigit {n : Nat} (h : n < 16) : CString.isSpace (hexDigit n) = false := by
  revert n
  decide

theorem isSpace_of_avroSafeKeeps {isNamespace : Bool} {length index : Nat} {c : UInt8}
    (h : avroSafeKeeps isNamespace length index c = true) : CString.isSpace c = false := by
  simp only [avroSafeKeeps, Bool.or_eq_true, Bool.and_eq_true, decide_eq_true_eq,
    beq_iff_eq] at h
  simp only [CString.isSpace, Bool.or_eq_false_iff, Bool.and_eq_false_imp, decide_eq_true_eq,
    beq_eq_false_iff_ne, decide_eq_false_iff_not]
  grind

/-- `make_avro_safe` writes no white space: kept bytes are letters, digits, `_` and dots, and an
escape is underscores and hexadecimal digits. -/
theorem isSpace_of_mem_avroSafeEncode {isNamespace : Bool} {length index : Nat} {b c : UInt8}
    (h : c ∈ avroSafeEncode isNamespace length index b) : CString.isSpace c = false := by
  unfold avroSafeEncode at h
  split_ifs at h with hk
  · rw [List.mem_singleton.mp h]
    exact isSpace_of_avroSafeKeeps hk
  · have hb := b.toNat_lt
    simp only [List.mem_cons, List.not_mem_nil, or_false] at h
    rcases h with rfl | rfl | rfl | rfl
    · decide
    · exact isSpace_hexDigit (by omega)
    · exact isSpace_hexDigit (by omega)
    · decide

theorem safeSchemaName_word {nspname : List UInt8} (hne : nspname ≠ []) :
    safeSchemaName nspname ≠ [] ∧ ∀ c ∈ safeSchemaName nspname, CString.isSpace c = false := by
  rw [(safeSchemaName_eq hne).2]
  constructor
  · obtain ⟨c, cs, rfl⟩ := List.exists_cons_of_ne_nil hne
    simp [List.mapIdx_cons, avroSafeEncode_ne_nil]
  · intro c hc
    obtain ⟨chunk, hchunk, hc⟩ := List.mem_flatten.mp hc
    obtain ⟨i, hi, rfl⟩ := List.mem_mapIdx.mp hchunk
    exact isSpace_of_mem_avroSafeEncode hc

/-- The namespace names the schema `public` exactly when the schema is `public`: any other
schema name either differs in a kept byte or has an escape, whose underscore `public` lacks. -/
theorem safeSchemaName_eq_public_iff {nspname : List UInt8} (hne : nspname ≠ []) :
    safeSchemaName nspname = bytesOf "public" ↔ nspname = bytesOf "public" := by
  constructor
  · intro hpub
    have heq := (safeSchemaName_eq hne).2
    by_cases hall : ∀ (i : Nat) (h : i < nspname.length),
        avroSafeKeeps true (generatedSchemaNamespace ++ 46 :: nspname).length
          (i + (generatedSchemaNamespace ++ [46]).length) nspname[i] = true
    · rw [flatten_avroSafeEncode_of_keeps _ hall] at heq
      rw [← heq, hpub]
    · push Not at hall
      obtain ⟨i, hi, hk⟩ := hall
      have hmem := underscore_mem_of_not_keeps
        (fun i => i + (generatedSchemaNamespace ++ [46]).length) hi (Bool.eq_false_iff.mpr hk)
      rw [← heq, hpub] at hmem
      exact absurd hmem (by decide)
  · rintro rfl
    decide

/-! ### The client's topic name -/

/-- A namespace that names the schema `public`: the table name, cut to the buffer. -/
theorem topicNameFromAvroSchema_public (tableName : List UInt8) :
    topicNameFromAvroSchema tableName (generatedSchemaNamespace ++ [46] ++ bytesOf "public") =
      some (tableName.take (tableNameBufferLength - 1)) := by
  -- checked as one `List.all`: the bounded quantifier over a literal is too deep for `decide`
  have hword : ∀ c ∈ bytesOf "public", CString.isSpace c = false := by
    have hall : (bytesOf "public").all (fun c => !CString.isSpace c) = true := by decide
    simpa using hall
  have hscan : CString.scanLiteralString (generatedSchemaNamespace ++ [46])
      (generatedSchemaNamespace ++ [46] ++ bytesOf "public") = (1, bytesOf "public") :=
    CString.scanLiteralString_append (by decide) hword
  have hstored : ¬ CString.scanStored (bytesOf "public") > tableNameBufferLength := by decide
  simp only [topicNameFromAvroSchema, hscan, hstored, if_false, and_self, or_true, if_true,
    CString.strncpyTerminated]

/-- A namespace that names another schema, in one word that fits the buffer: the schema name, a
dot and the table name, cut to the buffer. -/
theorem topicNameFromAvroSchema_qualified {tableName schemaName : List UInt8}
    (hne : schemaName ≠ []) (hword : ∀ c ∈ schemaName, CString.isSpace c = false)
    (hpublic : schemaName ≠ bytesOf "public") (hfits : schemaName.length < tableNameBufferLength) :
    topicNameFromAvroSchema tableName (generatedSchemaNamespace ++ [46] ++ schemaName) =
      some ((schemaName ++ [46] ++ tableName).take (tableNameBufferLength - 1)) := by
  have hscan := @CString.scanLiteralString_append (generatedSchemaNamespace ++ [46]) _ hne hword
  have hstored : ¬ CString.scanStored schemaName > tableNameBufferLength := by
    unfold CString.scanStored
    omega
  simp only [topicNameFromAvroSchema, hscan, hstored, if_false, one_ne_zero, false_or, true_and,
    hpublic, if_true]
  rw [CString.strncat_strncat hfits]

/-- A namespace whose schema name does not fit the buffer: `%s` writes past its end. -/
theorem topicNameFromAvroSchema_overflow {tableName schemaName : List UInt8}
    (hne : schemaName ≠ []) (hword : ∀ c ∈ schemaName, CString.isSpace c = false)
    (hlong : tableNameBufferLength ≤ schemaName.length) :
    topicNameFromAvroSchema tableName (generatedSchemaNamespace ++ [46] ++ schemaName) = none := by
  have hscan := @CString.scanLiteralString_append (generatedSchemaNamespace ++ [46]) _ hne hword
  have hstored : CString.scanStored schemaName > tableNameBufferLength := by
    unfold CString.scanStored
    omega
  simp only [topicNameFromAvroSchema, hscan, hstored, if_true]

/-! ### The topic of a table -/

/-- The client's topic name for a table whose namespace names a schema: the conventional name,
cut to the client's buffer. -/
theorem topicNameFromAvroSchema_relNamespace {rel : Relation} {nspname : List UInt8}
    (hnsp : rel.nspname = some nspname) (hne : nspname ≠ [])
    (hfits : (safeSchemaName nspname).length < tableNameBufferLength) :
    topicNameFromAvroSchema (makeAvroSafe rel.relname false) (relNamespace rel) =
      some ((conventionalTableName nspname rel.relname).take (tableNameBufferLength - 1)) := by
  obtain ⟨hword_ne, hword⟩ := safeSchemaName_word hne
  rw [relNamespace_eq hnsp hne, conventionalTableName]
  by_cases hpub : nspname = bytesOf "public"
  · have hsafe := (safeSchemaName_eq_public_iff hne).mpr hpub
    rw [if_pos hpub, List.nil_append, hsafe]
    exact topicNameFromAvroSchema_public _
  · rw [if_neg hpub]
    exact topicNameFromAvroSchema_qualified hword_ne hword
      (mt (safeSchemaName_eq_public_iff hne).mp hpub) hfits

/-- **The topic the client opens for a table**, when the schema name fits the client's buffer:
the conventional name cut to `TABLE_NAME_BUFFER_LENGTH - 1` bytes, behind the prefix. -/
theorem tableTopic_eq {rel : Relation} {nspname : List UInt8} (hname : rel.relname ≠ [])
    (hnames : ∀ attr ∈ rel.tupdesc, attr.attisdropped = false → attr.attname ≠ [])
    (hnsp : rel.nspname = some nspname) (hne : nspname ≠ [])
    (hfits : (safeSchemaName nspname).length < tableNameBufferLength)
    (topicPrefix : Option (List UInt8)) (relid : Nat) :
    tableTopic topicPrefix relid rel = some (prefixedTopic topicPrefix
      ((conventionalTableName nspname rel.relname).take (tableNameBufferLength - 1))) := by
  rw [tableTopic, schemaForTableRow_eq hname hnames]
  simp only [Schema.name?, Schema.space?,
    topicNameFromAvroSchema_relNamespace hnsp hne hfits, Option.map_some]
  exact congrArg some (tableMetadataUpdateTopic_new topicPrefix relid _)

/-- Where the conventional name fits the client's buffer, the table gets the conventional
topic. -/
theorem tableTopic_conventional {rel : Relation} {nspname : List UInt8}
    (hname : rel.relname ≠ [])
    (hnames : ∀ attr ∈ rel.tupdesc, attr.attisdropped = false → attr.attname ≠ [])
    (hnsp : rel.nspname = some nspname) (hne : nspname ≠ [])
    (hshort : (conventionalTableName nspname rel.relname).length ≤ tableNameBufferLength - 1)
    (topicPrefix : Option (List UInt8)) (relid : Nat) :
    tableTopic topicPrefix relid rel =
      some (conventionalTopic topicPrefix nspname rel.relname) := by
  have hfits : (safeSchemaName nspname).length < tableNameBufferLength := by
    by_cases hpub : nspname = bytesOf "public"
    · rw [(safeSchemaName_eq_public_iff hne).mpr hpub]
      decide
    · -- the schema name is part of the conventional name
      have hpart : (safeSchemaName nspname).length ≤
          (conventionalTableName nspname rel.relname).length := by
        simp only [conventionalTableName, if_neg hpub, List.length_append]
        omega
      unfold tableNameBufferLength at hshort ⊢
      omega
  rw [tableTopic_eq hname hnames hnsp hne hfits, List.take_of_length_le hshort]
  cases topicPrefix with
  | none =>
    have : ¬ tableMapperMaxTopicLen - 1 < (conventionalTableName nspname rel.relname).length := by
      unfold tableMapperMaxTopicLen tableNameBufferLength at *
      omega
    simp [prefixedTopic, conventionalTopic, this]
  | some pfx =>
    simp only [prefixedTopic, conventionalTopic, List.length_append, List.length_singleton]
    split_ifs <;> first | rfl | (unfold tableMapperMaxTopicLen at *; omega)

/-- A table of the `public` schema whose name is an `a` and forty spaces, as a quoted identifier
allows. -/
def spacedTable : Relation :=
  { nspname := some (bytesOf "public"), relname := 97 :: List.replicate 40 32,
    tupdesc := [{ attname := bytesOf "id", atttypid := 23, attisdropped := false }] }

/-- The client cuts the topic name of a table in `public` to 127 bytes: the name `make_avro_safe`
makes is 161 bytes long, within `TABLE_MAPPER_MAX_TOPIC_LEN`, and the convention names the topic
after all of it. -/
theorem spaced_table_topic_truncated :
    conventionalTopic none (bytesOf "public") spacedTable.relname =
        (0, some (makeAvroSafe spacedTable.relname false)) ∧
      (makeAvroSafe spacedTable.relname false).length = 161 ∧
      tableTopic none 1 spacedTable =
        some (0, some ((makeAvroSafe spacedTable.relname false).take 127)) := by
  -- the `a` is kept, and each space becomes the four bytes `_20_`
  have hlen : (makeAvroSafe spacedTable.relname false).length = 161 := by
    have hsplit : spacedTable.relname = [97] ++ List.replicate 40 32 := rfl
    rw [hsplit, makeAvroSafe_append, List.length_append,
      flatten_avroSafeEncode_of_keeps (fun i => i) (by decide),
      length_flatten_avroSafeEncode_of_encoded (fun i => i + [97].length)
        fun i h => by rw [List.getElem_replicate, avroSafeKeeps_space]]
    rfl
  have hpublic : conventionalTableName (bytesOf "public") spacedTable.relname =
      makeAvroSafe spacedTable.relname false := by
    rw [conventionalTableName, if_pos rfl, List.nil_append]
  refine ⟨?_, hlen, ?_⟩
  · rw [conventionalTopic, List.nil_append, hpublic, hlen]
    rfl
  · rw [tableTopic_eq (by decide) (by decide) rfl (by decide) (by decide), hpublic]
    rfl

/-- Where the schema name does not fit the client's buffer, `sscanf` writes past its end. -/
theorem tableTopic_scan_overflow {rel : Relation} {nspname : List UInt8}
    (hname : rel.relname ≠ [])
    (hnames : ∀ attr ∈ rel.tupdesc, attr.attisdropped = false → attr.attname ≠ [])
    (hnsp : rel.nspname = some nspname) (hne : nspname ≠ [])
    (hlong : tableNameBufferLength ≤ (safeSchemaName nspname).length)
    (topicPrefix : Option (List UInt8)) (relid : Nat) :
    tableTopic topicPrefix relid rel = none := by
  obtain ⟨hword_ne, hword⟩ := safeSchemaName_word hne
  rw [tableTopic, schemaForTableRow_eq hname hnames]
  simp only [Schema.name?, Schema.space?, relNamespace_eq hnsp hne,
    topicNameFromAvroSchema_overflow hword_ne hword hlong, Option.map_none]

/-- A table of a schema whose name is forty spaces. -/
def spacedSchemaTable : Relation :=
  { nspname := some (List.replicate 40 32), relname := bytesOf "t",
    tupdesc := [{ attname := bytesOf "id", atttypid := 23, attisdropped := false }] }

/-- The `%s` conversion for its namespace stores 161 bytes into the 128 of `topic_name`. -/
theorem spaced_schema_overflows_topic_name :
    CString.scanStored (safeSchemaName (List.replicate 40 32)) = 161 ∧
      tableTopic none 1 spacedSchemaTable = none := by
  have hlen : (safeSchemaName (List.replicate 40 32)).length = 160 := by
    rw [(safeSchemaName_eq (by simp)).2,
      length_flatten_avroSafeEncode_of_encoded _
        fun i h => by rw [List.getElem_replicate, avroSafeKeeps_space], List.length_replicate]
  refine ⟨by rw [CString.scanStored, hlen], ?_⟩
  exact tableTopic_scan_overflow (by decide) (by decide) rfl (by simp) (by rw [hlen]; decide)
    none 1

end BottledWater
