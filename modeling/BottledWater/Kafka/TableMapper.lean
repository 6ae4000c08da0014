import BottledWater.Lib.AvroSchema
import BottledWater.Lib.KeyedList

set_option autoImplicit false

/-! # The table mapper (`kafka/table_mapper.c`)

For every table the client has seen a `TableSchema` message for, the mapper keeps what
writing its rows to Kafka needs: the topic, the schema ids the registry assigned to the key
and row schemas, and the parsed schemas. Entries are never removed from the array: a failed
update marks the entry `deleted`, and lookups skip deleted entries.

A Kafka topic handle is represented by the name it was opened with.
-/

namespace BottledWater

/-- `TABLE_MAPPER_SCHEMA_ID_MISSING`. -/
def tableMapperSchemaIdMissing : Int := -1

/-- `table_metadata`. -/
structure TableMetadata where
  relid : Nat
  tableName : List UInt8
  topic : Option (List UInt8)
  keySchemaId : Int
  keySchema : Option Avro.Schema
  rowSchemaId : Int
  rowSchema : Option Avro.Schema
  deleted : Bool
  deriving Repr

/-- `table_mapper`: the array of table records and the topic prefix. -/
structure TableMapper where
  tables : List TableMetadata
  topicPrefix : Option (List UInt8)
  deriving Repr

/-- `table_mapper_new`: no tables yet. -/
def tableMapperNew (topicPrefix : Option (List UInt8)) : TableMapper :=
  { tables := [], topicPrefix }

/-- `table_mapper_lookup`: the first table record for `relid` that is not deleted. -/
def tableMapperLookup (mapper : TableMapper) (relid : Nat) : Option TableMetadata :=
  mapper.tables.find? (fun table => !table.deleted && table.relid == relid)

/-- `table_metadata_new`: a record for `relid` with no table name, no topic and no schemas. -/
def tableMetadataNew (relid : Nat) : TableMetadata :=
  { relid, tableName := [], topic := none, keySchemaId := tableMapperSchemaIdMissing,
    keySchema := none, rowSchemaId := tableMapperSchemaIdMissing, rowSchema := none,
    deleted := false }

/-- `TABLE_MAPPER_MAX_TOPIC_LEN`: the size of the buffer for a prefixed topic name. -/
def tableMapperMaxTopicLen : Nat := 256 + 1

/-- `table_metadata_update_topic`: the error code and the table record. A record whose topic is
open under the same table name stays as it is. Otherwise the table name is recorded, and the
topic is opened under it, after the prefix and a dot when there is a prefix; a prefixed name
that `snprintf` cannot fit in `TABLE_MAPPER_MAX_TOPIC_LEN` bytes is an error, which leaves the
old topic's name in the record (its handle already destroyed). Opening the topic is taken to
succeed. -/
def tableMetadataUpdateTopic (topicPrefix : Option (List UInt8)) (table : TableMetadata)
    (tableName : List UInt8) : Int × TableMetadata :=
  if table.topic.isSome ∧ tableName = table.tableName then (0, table)
  else
    let table := { table with tableName }
    match topicPrefix with
    | some pfx =>
      if pfx.length + 1 + tableName.length ≥ tableMapperMaxTopicLen then (-1, table)
      else (0, { table with topic := some (pfx ++ [46] ++ tableName) })
    | none => (0, { table with topic := some tableName })

/-! ## `table_mapper_update` -/

/-- `rd_kafka_topic_new` in `table_metadata_update_topic`: the record holds the topic, or `NULL`
when librdkafka cannot open it. -/
def tableMetadataOpenTopic (topicOpens : Bool) (table : TableMetadata) (topicName : List UInt8) :
    Int × TableMetadata :=
  if topicOpens then (0, { table with topic := some topicName })
  else (-1, { table with topic := none })

/-- `table_metadata_update_topic`, with whether `rd_kafka_topic_new` opens the topic as a
parameter. -/
def tableMetadataUpdateTopicWith (topicOpens : Bool) (topicPrefix : Option (List UInt8))
    (table : TableMetadata) (tableName : List UInt8) : Int × TableMetadata :=
  if table.topic.isSome ∧ tableName = table.tableName then (0, table)
  else
    let table := { table with tableName }
    match topicPrefix with
    | some pfx =>
      if pfx.length + 1 + tableName.length ≥ tableMapperMaxTopicLen then (-1, table)
      else tableMetadataOpenTopic topicOpens table (pfx ++ [46] ++ tableName)
    | none => tableMetadataOpenTopic topicOpens table tableName

/-- What the schema registry answers a request for a topic's key or value schema with a schema
text: the error code of the request and of reading the response, and the id the response
carries. -/
abbrev RegistryAnswer := List UInt8 → Bool → List UInt8 → Int × Int

/-- `schema_registry_request`: its error code, and the id it stores in `*schema_id_out`. A
missing or empty text is nothing to do. -/
def schemaRegistryRequest (registry : RegistryAnswer) (name : List UInt8) (isKey : Bool)
    (schemaJson : Option (List UInt8)) : Int × Option Int :=
  match schemaJson with
  | some json =>
    if json.length = 0 then (0, none)
    else
      let (err, schemaId) := registry name isKey json
      if err = 0 then (0, some schemaId) else (err, none)
  | none => (0, none)

/-- `table_metadata_set_schema_id`. -/
def tableMetadataSetSchemaId (table : TableMetadata) (isKey : Bool) (schemaId : Int) :
    TableMetadata :=
  if isKey then { table with keySchemaId := schemaId } else { table with rowSchemaId := schemaId }

/-- `table_metadata_set_schema`: the record holds the new schema, or none; the reference counts
the C code adjusts do not change what it holds. -/
def tableMetadataSetSchema (table : TableMetadata) (isKey : Bool)
    (newSchema : Option Avro.Schema) : TableMetadata :=
  if isKey then { table with keySchema := newSchema } else { table with rowSchema := newSchema }

/-- The parse in `table_metadata_update_schema`: the schema of the text, or none without a text,
goes into the record (`table_metadata_set_schema`); a text that does not parse is the error. -/
def tableMetadataParseSchema (parseSchema : List UInt8 → Except Int Avro.Schema)
    (table : TableMetadata) (isKey : Bool) (schemaJson : Option (List UInt8)) :
    Int × TableMetadata :=
  match schemaJson with
  | some json =>
    match parseSchema json with
    | .error err => (err, table)
    | .ok schema => (0, tableMetadataSetSchema table isKey (some schema))
  | none => (0, tableMetadataSetSchema table isKey none)

/-- `table_metadata_update_schema`, with the registry's answers when the mapper has a registry
and `avro_schema_from_json_length` as `parseSchema`. With a registry, the id it returns is
recorded first; the text is parsed only when the previous id was
`TABLE_MAPPER_SCHEMA_ID_MISSING` or differs from the new one, and otherwise the schema the record
holds is kept. -/
def tableMetadataUpdateSchema (registry : Option RegistryAnswer)
    (parseSchema : List UInt8 → Except Int Avro.Schema) (table : TableMetadata) (isKey : Bool)
    (schemaJson : Option (List UInt8)) : Int × TableMetadata :=
  let prevSchemaId := if isKey then table.keySchemaId else table.rowSchemaId
  let (err, schemaId, table) : Int × Int × TableMetadata :=
    match registry with
    | some registry =>
      let (err, schemaId) :=
        schemaRegistryRequest registry (table.topic.getD []) isKey schemaJson
      let schemaId := schemaId.getD tableMapperSchemaIdMissing
      if err ≠ 0 then (err, schemaId, table)
      else (0, schemaId, tableMetadataSetSchemaId table isKey schemaId)
    | none => (0, tableMapperSchemaIdMissing, table)
  if err ≠ 0 then (err, table)
  else if prevSchemaId = tableMapperSchemaIdMissing ∨ prevSchemaId ≠ schemaId then
    tableMetadataParseSchema parseSchema table isKey schemaJson
  else (0, table)

/-- The three steps of `table_mapper_update` on the table's record: the topic, the key schema
and the row schema, each run when the one before returned `0`. -/
def tableMetadataUpdate (topicOpens : Bool) (registry : Option RegistryAnswer)
    (parseSchema : List UInt8 → Except Int Avro.Schema) (topicPrefix : Option (List UInt8))
    (table : TableMetadata) (tableName : List UInt8)
    (keySchemaJson rowSchemaJson : Option (List UInt8)) : Int × TableMetadata :=
  let (err, table) := tableMetadataUpdateTopicWith topicOpens topicPrefix table tableName
  if err ≠ 0 then (err, table)
  else
    let (err, table) := tableMetadataUpdateSchema registry parseSchema table true keySchemaJson
    if err ≠ 0 then (err, table)
    else tableMetadataUpdateSchema registry parseSchema table false rowSchemaJson

/-- `table_mapper_update`: the record it returns, `NULL` on failure, and the mapper. The record
lookup finds for the relid, or a new one that `table_metadata_new` appends, is updated in place;
a step that fails marks it deleted. Allocating the record is taken to succeed. -/
def tableMapperUpdate (topicOpens : Bool) (registry : Option RegistryAnswer)
    (parseSchema : List UInt8 → Except Int Avro.Schema) (mapper : TableMapper) (relid : Nat)
    (tableName : List UInt8) (keySchemaJson rowSchemaJson : Option (List UInt8)) :
    Option TableMetadata × TableMapper :=
  let table := (tableMapperLookup mapper relid).getD (tableMetadataNew relid)
  let (err, table) := tableMetadataUpdate topicOpens registry parseSchema mapper.topicPrefix table
    tableName keySchemaJson rowSchemaJson
  let table := if err ≠ 0 then { table with deleted := true } else table
  (if err ≠ 0 then none else some table,
    { mapper with
      tables := KeyedList.replace (fun table => !table.deleted && table.relid == relid) table
        mapper.tables })

/-! ### The steps of an update -/

namespace TableMetadata

/-- The schema id a record holds for the key (`is_key`) or for the row. -/
def idFor (table : TableMetadata) (isKey : Bool) : Int :=
  if isKey then table.keySchemaId else table.rowSchemaId

/-- The schema a record holds for the key or for the row. -/
def schemaFor (table : TableMetadata) (isKey : Bool) : Option Avro.Schema :=
  if isKey then table.keySchema else table.rowSchema

end TableMetadata

section SetFields

variable (table : TableMetadata) (isKey : Bool)

@[simp] theorem tableMetadataSetSchemaId_relid (schemaId : Int) :
    (tableMetadataSetSchemaId table isKey schemaId).relid = table.relid := by cases isKey <;> rfl

@[simp] theorem tableMetadataSetSchemaId_tableName (schemaId : Int) :
    (tableMetadataSetSchemaId table isKey schemaId).tableName = table.tableName := by
  cases isKey <;> rfl

@[simp] theorem tableMetadataSetSchemaId_topic (schemaId : Int) :
    (tableMetadataSetSchemaId table isKey schemaId).topic = table.topic := by cases isKey <;> rfl

@[simp] theorem tableMetadataSetSchemaId_deleted (schemaId : Int) :
    (tableMetadataSetSchemaId table isKey schemaId).deleted = table.deleted := by
  cases isKey <;> rfl

@[simp] theorem idFor_tableMetadataSetSchemaId (schemaId : Int) (isKey' : Bool) :
    (tableMetadataSetSchemaId table isKey schemaId).idFor isKey' =
      if isKey' = isKey then schemaId else table.idFor isKey' := by
  cases isKey <;> cases isKey' <;> rfl

@[simp] theorem schemaFor_tableMetadataSetSchemaId (schemaId : Int) (isKey' : Bool) :
    (tableMetadataSetSchemaId table isKey schemaId).schemaFor isKey' = table.schemaFor isKey' := by
  cases isKey <;> cases isKey' <;> rfl

@[simp] theorem tableMetadataSetSchema_relid (schema : Option Avro.Schema) :
    (tableMetadataSetSchema table isKey schema).relid = table.relid := by cases isKey <;> rfl

@[simp] theorem tableMetadataSetSchema_tableName (schema : Option Avro.Schema) :
    (tableMetadataSetSchema table isKey schema).tableName = table.tableName := by
  cases isKey <;> rfl

@[simp] theorem tableMetadataSetSchema_topic (schema : Option Avro.Schema) :
    (tableMetadataSetSchema table isKey schema).topic = table.topic := by cases isKey <;> rfl

@[simp] theorem tableMetadataSetSchema_deleted (schema : Option Avro.Schema) :
    (tableMetadataSetSchema table isKey schema).deleted = table.deleted := by cases isKey <;> rfl

@[simp] theorem idFor_tableMetadataSetSchema (schema : Option Avro.Schema) (isKey' : Bool) :
    (tableMetadataSetSchema table isKey schema).idFor isKey' = table.idFor isKey' := by
  cases isKey <;> cases isKey' <;> rfl

@[simp] theorem schemaFor_tableMetadataSetSchema (schema : Option Avro.Schema) (isKey' : Bool) :
    (tableMetadataSetSchema table isKey schema).schemaFor isKey' =
      if isKey' = isKey then schema else table.schemaFor isKey' := by
  cases isKey <;> cases isKey' <;> rfl

/-- Setting a half of the record to what it holds changes nothing. -/
theorem tableMetadataSetSchemaId_self :
    tableMetadataSetSchemaId table isKey (table.idFor isKey) = table := by
  cases isKey <;> rfl

theorem tableMetadataSetSchema_self :
    tableMetadataSetSchema table isKey (table.schemaFor isKey) = table := by
  cases isKey <;> rfl

end SetFields

/-- **What the topic step changes**: the table name and the topic, which is open when the step
returns `0`. -/
theorem tableMetadataUpdateTopicWith_eq (topicOpens : Bool) (topicPrefix : Option (List UInt8))
    (table : TableMetadata) (tableName : List UInt8) :
    ∃ topic, (tableMetadataUpdateTopicWith topicOpens topicPrefix table tableName).2 =
        { table with tableName, topic } ∧
      ((tableMetadataUpdateTopicWith topicOpens topicPrefix table tableName).1 = 0 →
        topic.isSome) := by
  unfold tableMetadataUpdateTopicWith
  by_cases hsame : table.topic.isSome ∧ tableName = table.tableName
  · -- the topic is open under this name already
    rw [if_pos hsame, hsame.2]
    exact ⟨table.topic, rfl, fun _ => hsame.1⟩
  · rw [if_neg hsame]
    have hopen : ∀ name, ∃ topic,
        (tableMetadataOpenTopic topicOpens { table with tableName } name).2 =
          { table with tableName, topic } ∧
        ((tableMetadataOpenTopic topicOpens { table with tableName } name).1 = 0 →
          topic.isSome) := by
      intro name
      cases topicOpens with
      | true => exact ⟨some name, rfl, fun _ => rfl⟩
      | false => exact ⟨none, rfl, fun h => by simp [tableMetadataOpenTopic] at h⟩
    cases topicPrefix with
    | none => exact hopen tableName
    | some pfx =>
      dsimp only
      split_ifs
      · exact ⟨table.topic, rfl, fun h => by simp at h⟩
      · exact hopen _

/-- The parse writes the schema half of the record, and nothing else. -/
theorem tableMetadataParseSchema_eq (parseSchema : List UInt8 → Except Int Avro.Schema)
    (table : TableMetadata) (isKey : Bool) (schemaJson : Option (List UInt8)) :
    ∃ schema, (tableMetadataParseSchema parseSchema table isKey schemaJson).2 =
      tableMetadataSetSchema table isKey schema := by
  unfold tableMetadataParseSchema
  cases schemaJson with
  | none => exact ⟨none, rfl⟩
  | some json =>
    dsimp only
    cases parseSchema json with
    | error err => exact ⟨table.schemaFor isKey, (tableMetadataSetSchema_self table isKey).symm⟩
    | ok schema => exact ⟨some schema, rfl⟩

/-- A text that parses, or no text: the record holds its schema. -/
theorem tableMetadataParseSchema_of_mapM {parseSchema : List UInt8 → Except Int Avro.Schema}
    {schemaJson : Option (List UInt8)} {schema : Option Avro.Schema}
    (h : schemaJson.mapM parseSchema = .ok schema) (table : TableMetadata) (isKey : Bool) :
    tableMetadataParseSchema parseSchema table isKey schemaJson =
      (0, tableMetadataSetSchema table isKey schema) := by
  unfold tableMetadataParseSchema
  cases schemaJson with
  | none => rw [← Except.ok.inj h]
  | some json =>
    change some <$> parseSchema json = .ok schema at h
    dsimp only
    cases hp : parseSchema json with
    | error err =>
      rw [hp] at h
      cases h
    | ok s =>
      rw [hp] at h
      rw [← Except.ok.inj h]

/-- A parse that returned `0` parsed the text, when no failed parse returns `0`. -/
theorem tableMetadataParseSchema_mapM {parseSchema : List UInt8 → Except Int Avro.Schema}
    (hparse : ∀ json, parseSchema json ≠ .error 0) {table : TableMetadata} {isKey : Bool}
    {schemaJson : Option (List UInt8)}
    (h : (tableMetadataParseSchema parseSchema table isKey schemaJson).1 = 0) :
    ∃ schema, schemaJson.mapM parseSchema = .ok schema := by
  unfold tableMetadataParseSchema at h
  cases schemaJson with
  | none => exact ⟨none, rfl⟩
  | some json =>
    dsimp only at h
    cases hp : parseSchema json with
    | error err =>
      rw [hp] at h
      exact absurd (h ▸ hp) (hparse json)
    | ok s =>
      refine ⟨some s, ?_⟩
      change some <$> parseSchema json = _
      rw [hp]
      rfl

/-- **What a schema step changes**: one half of the record, its schema id and its schema. -/
theorem tableMetadataUpdateSchema_eq (registry : Option RegistryAnswer)
    (parseSchema : List UInt8 → Except Int Avro.Schema) (table : TableMetadata) (isKey : Bool)
    (schemaJson : Option (List UInt8)) :
    ∃ schemaId schema,
      (tableMetadataUpdateSchema registry parseSchema table isKey schemaJson).2 =
        tableMetadataSetSchema (tableMetadataSetSchemaId table isKey schemaId) isKey schema := by
  -- the record with a new id (perhaps its own) and the schema it holds, or the parse's schema
  have hid : ∀ schemaId, ∃ schemaId' schema,
      tableMetadataSetSchemaId table isKey schemaId =
        tableMetadataSetSchema (tableMetadataSetSchemaId table isKey schemaId') isKey schema :=
    fun schemaId => ⟨schemaId, table.schemaFor isKey, by
      rw [← schemaFor_tableMetadataSetSchemaId table isKey schemaId, tableMetadataSetSchema_self]⟩
  have hparsed : ∀ schemaId, ∃ schemaId' schema,
      (tableMetadataParseSchema parseSchema (tableMetadataSetSchemaId table isKey schemaId) isKey
        schemaJson).2 =
        tableMetadataSetSchema (tableMetadataSetSchemaId table isKey schemaId') isKey schema :=
    fun schemaId => ⟨schemaId, tableMetadataParseSchema_eq parseSchema _ isKey schemaJson⟩
  unfold tableMetadataUpdateSchema
  generalize (if isKey then table.keySchemaId else table.rowSchemaId) = prevSchemaId
  cases registry with
  | none =>
    -- without a registry the text is always parsed
    dsimp only
    rw [if_neg (not_not.mpr rfl), if_pos (em _)]
    have := hparsed (table.idFor isKey)
    rwa [tableMetadataSetSchemaId_self] at this
  | some registry =>
    cases hreq : schemaRegistryRequest registry (table.topic.getD []) isKey schemaJson with
    | mk err schemaId =>
      simp only [hreq]
      split_ifs <;> dsimp only
      · have := hid (table.idFor isKey)
        rwa [tableMetadataSetSchemaId_self] at this
      · exact hid _
      · exact hparsed _
      · exact hid _

/-- A schema step leaves the relid, the table name, the topic, whether the record is deleted, and
the other half of the record as they were. -/
theorem tableMetadataUpdateSchema_frame (registry : Option RegistryAnswer)
    (parseSchema : List UInt8 → Except Int Avro.Schema) (table : TableMetadata) (isKey : Bool)
    (schemaJson : Option (List UInt8)) :
    let t := (tableMetadataUpdateSchema registry parseSchema table isKey schemaJson).2
    t.relid = table.relid ∧ t.tableName = table.tableName ∧ t.topic = table.topic ∧
      t.deleted = table.deleted ∧ t.idFor (!isKey) = table.idFor (!isKey) ∧
      t.schemaFor (!isKey) = table.schemaFor (!isKey) := by
  obtain ⟨schemaId, schema, h⟩ :=
    tableMetadataUpdateSchema_eq registry parseSchema table isKey schemaJson
  simp [h]

section Steps

variable (topicOpens : Bool) (registry : Option RegistryAnswer)
  (parseSchema : List UInt8 → Except Int Avro.Schema) (topicPrefix : Option (List UInt8))
  (table : TableMetadata) (tableName : List UInt8)
    (keySchemaJson rowSchemaJson : Option (List UInt8))

/-- The steps of an update keep the record's relid and whether it is deleted. -/
theorem tableMetadataUpdate_keeps :
    (tableMetadataUpdate topicOpens registry parseSchema topicPrefix table tableName keySchemaJson
        rowSchemaJson).2.relid = table.relid ∧
      (tableMetadataUpdate topicOpens registry parseSchema topicPrefix table tableName keySchemaJson
        rowSchemaJson).2.deleted = table.deleted := by
  obtain ⟨topic, htopic, -⟩ :=
    tableMetadataUpdateTopicWith_eq topicOpens topicPrefix table tableName
  rcases h₁ : tableMetadataUpdateTopicWith topicOpens topicPrefix table tableName with ⟨err₁, t₁⟩
  rw [h₁] at htopic
  have ht₁ : t₁.relid = table.relid ∧ t₁.deleted = table.deleted := by
    rw [show t₁ = _ from htopic]
    exact ⟨rfl, rfl⟩
  obtain ⟨id₂, schema₂, hkey⟩ := tableMetadataUpdateSchema_eq registry parseSchema t₁ true
    keySchemaJson
  rcases h₂ : tableMetadataUpdateSchema registry parseSchema t₁ true keySchemaJson with ⟨err₂, t₂⟩
  rw [h₂] at hkey
  have ht₂ : t₂.relid = table.relid ∧ t₂.deleted = table.deleted := by
    rw [show t₂ = _ from hkey]
    simpa using ht₁
  obtain ⟨id₃, schema₃, hrow⟩ := tableMetadataUpdateSchema_eq registry parseSchema t₂ false
    rowSchemaJson
  unfold tableMetadataUpdate
  rw [h₁]
  dsimp only
  split_ifs
  · exact ht₁
  · rw [h₂]
    exact ht₂
  · rw [h₂]
    dsimp only
    rw [hrow]
    simpa using ht₂

/-- **An update that returns `0` ran its three steps**, each returning `0`. -/
theorem tableMetadataUpdate_of_ok
    (h : (tableMetadataUpdate topicOpens registry parseSchema topicPrefix table tableName
      keySchemaJson rowSchemaJson).1 = 0) :
    ∃ t₁ t₂, tableMetadataUpdateTopicWith topicOpens topicPrefix table tableName = (0, t₁) ∧
      tableMetadataUpdateSchema registry parseSchema t₁ true keySchemaJson = (0, t₂) ∧
      tableMetadataUpdateSchema registry parseSchema t₂ false rowSchemaJson =
        (0, (tableMetadataUpdate topicOpens registry parseSchema topicPrefix table tableName
          keySchemaJson rowSchemaJson).2) := by
  unfold tableMetadataUpdate at h ⊢
  rcases h₁ : tableMetadataUpdateTopicWith topicOpens topicPrefix table tableName with ⟨err₁, t₁⟩
  rw [h₁] at h
  dsimp only at h ⊢
  by_cases herr₁ : err₁ = 0
  · subst herr₁
    rw [if_neg (not_not.mpr rfl)] at h ⊢
    rcases h₂ : tableMetadataUpdateSchema registry parseSchema t₁ true keySchemaJson with
      ⟨err₂, t₂⟩
    rw [h₂] at h
    dsimp only at h ⊢
    by_cases herr₂ : err₂ = 0
    · subst herr₂
      rw [if_neg (not_not.mpr rfl)] at h ⊢
      refine ⟨t₁, t₂, rfl, h₂, ?_⟩
      rw [← h]
    · rw [if_pos herr₂] at h
      exact absurd h herr₂
  · rw [if_pos herr₁] at h
    exact absurd h herr₁

end Steps

/-! ### What a successful update records -/

section Registered

variable (schemaId : List UInt8 → Int) (parseSchema : List UInt8 → Except Int Avro.Schema)

/-- The registry gives every text it registers the id `schemaId` assigns the text: the same id
for identical texts. -/
def RegistryConsistent (registry : RegistryAnswer) : Prop :=
  ∀ name isKey json, (registry name isKey json).1 = 0 → (registry name isKey json).2 = schemaId json

/-- The id a successful update records for a schema text: with a registry, the id of a text that
is there and not empty, and otherwise `TABLE_MAPPER_SCHEMA_ID_MISSING`. -/
def registeredSchemaId (hasRegistry : Bool) (schemaJson : Option (List UInt8)) : Int :=
  match hasRegistry, schemaJson with
  | true, some json => if json.length = 0 then tableMapperSchemaIdMissing else schemaId json
  | _, _ => tableMapperSchemaIdMissing

/-- A record's schema id and schema agree: an id other than `TABLE_MAPPER_SCHEMA_ID_MISSING` is
that of a text that parses to the schema. -/
def SchemaCoherent (id : Int) (schema : Option Avro.Schema) : Prop :=
  id ≠ tableMapperSchemaIdMissing →
    ∃ json s, schemaId json = id ∧ parseSchema json = .ok s ∧ schema = some s

/-- A registered id other than `TABLE_MAPPER_SCHEMA_ID_MISSING` is the id of a text that was
there. -/
theorem registeredSchemaId_eq {schemaJson : Option (List UInt8)}
    (h : registeredSchemaId schemaId true schemaJson ≠ tableMapperSchemaIdMissing) :
    ∃ json, schemaJson = some json ∧
      schemaId json = registeredSchemaId schemaId true schemaJson := by
  cases schemaJson with
  | none => exact absurd rfl h
  | some json =>
    refine ⟨json, rfl, ?_⟩
    by_cases hlen : json.length = 0
    · simp [registeredSchemaId, hlen] at h
    · simp [registeredSchemaId, hlen]

/-- A request that returned `0` stored the id the registry assigns the text, or none. -/
theorem schemaRegistryRequest_of_ok {registry : RegistryAnswer}
    (hreg : RegistryConsistent schemaId registry) (name : List UInt8) (isKey : Bool)
    {schemaJson : Option (List UInt8)} {err : Int} {stored : Option Int}
    (h : schemaRegistryRequest registry name isKey schemaJson = (err, stored)) (herr : err = 0) :
    stored.getD tableMapperSchemaIdMissing = registeredSchemaId schemaId true schemaJson := by
  unfold schemaRegistryRequest at h
  cases schemaJson with
  | none =>
    cases h
    rfl
  | some json =>
    dsimp only at h
    by_cases hlen : json.length = 0
    · rw [if_pos hlen] at h
      cases h
      simp [registeredSchemaId, hlen]
    · rw [if_neg hlen] at h
      rcases hanswer : registry name isKey json with ⟨err', id⟩
      rw [hanswer] at h
      dsimp only at h
      by_cases herr' : err' = 0
      · -- the registry answered with the text's id
        have hid : id = schemaId json := by
          simpa [hanswer] using hreg name isKey json (by simp [hanswer, herr'])
        rw [if_pos herr'] at h
        cases h
        simp [registeredSchemaId, hlen, hid]
      · rw [if_neg herr'] at h
        cases h
        exact absurd herr herr'

/-- **What a successful schema step records**: the registered id, and the schema the text parses
to (none without a text). A schema kept because the id did not change is the one the text parses
to, when the previous id and schema agree and ids identify what their texts parse to. -/
theorem tableMetadataUpdateSchema_of_ok
    (hinj : ∀ json json', schemaId json = schemaId json' → parseSchema json = parseSchema json')
    (hparse : ∀ json, parseSchema json ≠ .error 0) {registry : Option RegistryAnswer}
    (hreg : ∀ answer, registry = some answer → RegistryConsistent schemaId answer)
    {table : TableMetadata} {isKey : Bool} {schemaJson : Option (List UInt8)}
    (hcoh : SchemaCoherent schemaId parseSchema (table.idFor isKey) (table.schemaFor isKey))
    (hmissing : registry = none → table.idFor isKey = tableMapperSchemaIdMissing)
    (h : (tableMetadataUpdateSchema registry parseSchema table isKey schemaJson).1 = 0) :
    (tableMetadataUpdateSchema registry parseSchema table isKey schemaJson).2.idFor isKey =
        registeredSchemaId schemaId registry.isSome schemaJson ∧
      schemaJson.mapM parseSchema =
        .ok ((tableMetadataUpdateSchema registry parseSchema table isKey schemaJson).2.schemaFor
          isKey) := by
  unfold tableMetadataUpdateSchema at h ⊢
  generalize hprev : (if isKey then table.keySchemaId else table.rowSchemaId) = prev at h ⊢
  replace hprev : table.idFor isKey = prev := hprev
  cases registry with
  | none =>
    -- without a registry the id stays missing and the text is always parsed
    have hm := hmissing rfl
    dsimp only at h ⊢
    rw [if_neg (not_not.mpr rfl), if_pos (em _)] at h ⊢
    obtain ⟨schema, hschema⟩ := tableMetadataParseSchema_mapM hparse h
    rw [tableMetadataParseSchema_of_mapM hschema]
    exact ⟨by simp [registeredSchemaId, hm], by simpa using hschema⟩
  | some answer =>
    cases hreq : schemaRegistryRequest answer (table.topic.getD []) isKey schemaJson with
    | mk err stored =>
      simp only [hreq] at h ⊢
      by_cases herr : err = 0
      · have hid := schemaRegistryRequest_of_ok schemaId (hreg answer rfl) _ _ hreq herr
        subst herr
        rw [if_neg (not_not.mpr rfl)] at h ⊢
        dsimp only at h ⊢
        rw [if_neg (not_not.mpr rfl)] at h ⊢
        by_cases hcond : prev = tableMapperSchemaIdMissing ∨
            prev ≠ stored.getD tableMapperSchemaIdMissing
        · -- the text is parsed, after the id was recorded
          rw [if_pos hcond] at h ⊢
          obtain ⟨schema, hschema⟩ := tableMetadataParseSchema_mapM hparse h
          rw [tableMetadataParseSchema_of_mapM hschema]
          exact ⟨by simpa using hid, by simpa using hschema⟩
        · -- the id did not change: the schema is kept
          rw [if_neg hcond]
          have hsame : prev ≠ tableMapperSchemaIdMissing ∧
              prev = stored.getD tableMapperSchemaIdMissing := by tauto
          obtain ⟨json₀, schema₀, hid₀, hp₀, hschema₀⟩ := hcoh (hprev ▸ hsame.1)
          obtain ⟨json, rfl, hjson⟩ := registeredSchemaId_eq schemaId
            (show registeredSchemaId schemaId true schemaJson ≠ tableMapperSchemaIdMissing by
              rw [← hid, ← hsame.2]; exact hsame.1)
          have hp : parseSchema json = .ok schema₀ := by
            rw [hinj json json₀ (by rw [hjson, ← hid, ← hsame.2, ← hprev, hid₀]), hp₀]
          refine ⟨by simpa using hid, ?_⟩
          show some <$> parseSchema json = _
          rw [hp, schemaFor_tableMetadataSetSchemaId, hschema₀]
          rfl
      · simp [herr] at h

/-- A schema step that returned `0` with a registry had its request return `0`. -/
theorem tableMetadataUpdateSchema_request {answer : RegistryAnswer} {table : TableMetadata}
    {isKey : Bool} {schemaJson : Option (List UInt8)}
    (h : (tableMetadataUpdateSchema (some answer) parseSchema table isKey schemaJson).1 = 0) :
    (schemaRegistryRequest answer (table.topic.getD []) isKey schemaJson).1 = 0 := by
  unfold tableMetadataUpdateSchema at h
  cases hreq : schemaRegistryRequest answer (table.topic.getD []) isKey schemaJson with
  | mk err stored =>
    simp only [hreq] at h
    show err = 0
    by_contra herr
    simp [herr] at h

/-- What a successful update recorded in one half of a record for the text it was given: the
registered id, the schema the text parses to, and, with a registry, a request for the text under
the record's topic that returned `0`. -/
structure HalfRecorded (registry : Option RegistryAnswer) (table : TableMetadata) (isKey : Bool)
    (schemaJson : Option (List UInt8)) : Prop where
  id : table.idFor isKey = registeredSchemaId schemaId registry.isSome schemaJson
  schema : schemaJson.mapM parseSchema = .ok (table.schemaFor isKey)
  request : ∀ answer, registry = some answer →
    (schemaRegistryRequest answer (table.topic.getD []) isKey schemaJson).1 = 0

/-- A half recorded stays recorded in a record that holds the same half and topic. -/
theorem HalfRecorded.of_eq {registry : Option RegistryAnswer} {table table' : TableMetadata}
    {isKey : Bool} {schemaJson : Option (List UInt8)}
    (h : HalfRecorded schemaId parseSchema registry table isKey schemaJson)
    (hid : table'.idFor isKey = table.idFor isKey)
    (hschema : table'.schemaFor isKey = table.schemaFor isKey)
    (htopic : table'.topic = table.topic) :
    HalfRecorded schemaId parseSchema registry table' isKey schemaJson where
  id := hid.trans h.id
  schema := hschema ▸ h.schema
  request := htopic ▸ h.request

/-- **A schema step over what the same text recorded changes nothing**: the registry returns the
id the record holds, so the schema is kept, or the text parses again to the schema the record
holds. -/
theorem tableMetadataUpdateSchema_repeat {registry : Option RegistryAnswer}
    (hreg : ∀ answer, registry = some answer → RegistryConsistent schemaId answer)
    {table : TableMetadata} {isKey : Bool} {schemaJson : Option (List UInt8)}
    (hrecorded : HalfRecorded schemaId parseSchema registry table isKey schemaJson) :
    tableMetadataUpdateSchema registry parseSchema table isKey schemaJson = (0, table) := by
  -- parsing the text again writes the schema the record holds
  have hparsed : tableMetadataParseSchema parseSchema table isKey schemaJson = (0, table) := by
    rw [tableMetadataParseSchema_of_mapM hrecorded.schema, tableMetadataSetSchema_self]
  unfold tableMetadataUpdateSchema
  generalize (if isKey then table.keySchemaId else table.rowSchemaId) = prev
  cases registry with
  | none =>
    dsimp only
    rw [if_neg (not_not.mpr rfl), if_pos (em _)]
    exact hparsed
  | some answer =>
    cases hreq : schemaRegistryRequest answer (table.topic.getD []) isKey schemaJson with
    | mk err stored =>
      have herr : err = 0 := by simpa [hreq] using hrecorded.request answer rfl
      subst herr
      -- the registry returns the id the record holds
      have hsame : stored.getD tableMapperSchemaIdMissing = table.idFor isKey := by
        rw [schemaRegistryRequest_of_ok schemaId (hreg answer rfl) _ _ hreq rfl, hrecorded.id]
        rfl
      simp only [hreq]
      rw [if_neg (not_not.mpr rfl)]
      dsimp only
      rw [if_neg (not_not.mpr rfl), hsame, tableMetadataSetSchemaId_self]
      split_ifs
      · exact hparsed
      · rfl

/-- **A successful schema step records its half.** -/
theorem tableMetadataUpdateSchema_recorded
    (hinj : ∀ json json', schemaId json = schemaId json' → parseSchema json = parseSchema json')
    (hparse : ∀ json, parseSchema json ≠ .error 0) {registry : Option RegistryAnswer}
    (hreg : ∀ answer, registry = some answer → RegistryConsistent schemaId answer)
    {table : TableMetadata} {isKey : Bool} {schemaJson : Option (List UInt8)}
    (hcoh : SchemaCoherent schemaId parseSchema (table.idFor isKey) (table.schemaFor isKey))
    (hmissing : registry = none → table.idFor isKey = tableMapperSchemaIdMissing)
    (h : (tableMetadataUpdateSchema registry parseSchema table isKey schemaJson).1 = 0) :
    HalfRecorded schemaId parseSchema registry
      (tableMetadataUpdateSchema registry parseSchema table isKey schemaJson).2 isKey schemaJson where
  id := (tableMetadataUpdateSchema_of_ok schemaId parseSchema hinj hparse hreg hcoh hmissing h).1
  schema := (tableMetadataUpdateSchema_of_ok schemaId parseSchema hinj hparse hreg hcoh hmissing h).2
  request answer hsome := by
    subst hsome
    -- the step keeps the topic the request was made under
    rw [(tableMetadataUpdateSchema_frame (some answer) parseSchema table isKey schemaJson).2.2.1]
    exact tableMetadataUpdateSchema_request parseSchema h

/-- The half of a record a successful step writes agrees. -/
theorem schemaCoherent_registered {hasRegistry : Bool} {schemaJson : Option (List UInt8)}
    {schema : Option Avro.Schema} (h : schemaJson.mapM parseSchema = .ok schema) :
    SchemaCoherent schemaId parseSchema (registeredSchemaId schemaId hasRegistry schemaJson)
      schema := by
  intro hid
  cases hasRegistry with
  | false => exact absurd rfl hid
  | true =>
    obtain ⟨json, rfl, hjson⟩ := registeredSchemaId_eq schemaId hid
    -- the text parsed, to the schema
    change some <$> parseSchema json = .ok schema at h
    cases hp : parseSchema json with
    | error err =>
      rw [hp] at h
      cases h
    | ok s =>
      rw [hp] at h
      exact ⟨json, s, hjson, hp, (Except.ok.inj h).symm⟩

/-- What every visible record of the mapper satisfies: each half's id and schema agree, and
without a registry no id is recorded. -/
structure RecordCoherent (hasRegistry : Bool) (table : TableMetadata) : Prop where
  agree : ∀ isKey, SchemaCoherent schemaId parseSchema (table.idFor isKey) (table.schemaFor isKey)
  missing : hasRegistry = false → ∀ isKey, table.idFor isKey = tableMapperSchemaIdMissing

theorem recordCoherent_new (hasRegistry : Bool) (relid : Nat) :
    RecordCoherent schemaId parseSchema hasRegistry (tableMetadataNew relid) where
  agree isKey hid := absurd (by cases isKey <;> rfl) hid
  missing _ isKey := by cases isKey <;> rfl

/-- **What a successful update records**: the call's table name, an open topic, and in each half
the registered id and the schema the text parses to; the record stays coherent. -/
theorem tableMetadataUpdate_spec
    (hinj : ∀ json json', schemaId json = schemaId json' → parseSchema json = parseSchema json')
    (hparse : ∀ json, parseSchema json ≠ .error 0) {topicOpens : Bool}
    {registry : Option RegistryAnswer}
    (hreg : ∀ answer, registry = some answer → RegistryConsistent schemaId answer)
    {topicPrefix : Option (List UInt8)} {table : TableMetadata} {tableName : List UInt8}
    {keySchemaJson rowSchemaJson : Option (List UInt8)}
    (hcoh : RecordCoherent schemaId parseSchema registry.isSome table)
    (h : (tableMetadataUpdate topicOpens registry parseSchema topicPrefix table tableName
      keySchemaJson rowSchemaJson).1 = 0) :
    let t := (tableMetadataUpdate topicOpens registry parseSchema topicPrefix table tableName
      keySchemaJson rowSchemaJson).2
    t.tableName = tableName ∧ t.topic.isSome ∧
      (∀ isKey, HalfRecorded schemaId parseSchema registry t isKey
        (if isKey then keySchemaJson else rowSchemaJson)) ∧
      RecordCoherent schemaId parseSchema registry.isSome t := by
  obtain ⟨t₁, t₂, h₁, h₂, h₃⟩ := tableMetadataUpdate_of_ok topicOpens registry parseSchema
    topicPrefix table tableName keySchemaJson rowSchemaJson h
  intro t
  -- the topic step: the name and an open topic, the halves as they were
  obtain ⟨topic, htopic, hopen⟩ := tableMetadataUpdateTopicWith_eq topicOpens topicPrefix table
    tableName
  rw [h₁] at htopic hopen
  have ht₁ : t₁ = { table with tableName, topic } := htopic
  have hmissing₁ : registry = none → ∀ isKey, t₁.idFor isKey = tableMapperSchemaIdMissing :=
    fun hnone isKey => by
      rw [ht₁]
      exact hcoh.missing (by simp [hnone]) isKey
  -- the key step, from the key half as it was
  have hkey := tableMetadataUpdateSchema_recorded schemaId parseSchema hinj hparse hreg
    (show SchemaCoherent schemaId parseSchema (t₁.idFor true) (t₁.schemaFor true) by
      rw [ht₁]; exact hcoh.agree true)
    (fun hnone => hmissing₁ hnone true)
    (show (tableMetadataUpdateSchema registry parseSchema t₁ true keySchemaJson).1 = 0 by rw [h₂])
  have hframe₂ := tableMetadataUpdateSchema_frame registry parseSchema t₁ true keySchemaJson
  simp only [h₂] at hkey hframe₂
  obtain ⟨-, hname₂, htopic₂, -, hrowId₂, hrowSchema₂⟩ := hframe₂
  -- the row step, from the row half as it was
  have hrow := tableMetadataUpdateSchema_recorded schemaId parseSchema hinj hparse hreg
    (show SchemaCoherent schemaId parseSchema (t₂.idFor false) (t₂.schemaFor false) by
      rw [show false = !true from rfl, hrowId₂, hrowSchema₂, ht₁]; exact hcoh.agree false)
    (fun hnone => by rw [show false = !true from rfl, hrowId₂]; exact hmissing₁ hnone false)
    (show (tableMetadataUpdateSchema registry parseSchema t₂ false rowSchemaJson).1 = 0 by
      rw [h₃])
  have hframe₃ := tableMetadataUpdateSchema_frame registry parseSchema t₂ false rowSchemaJson
  simp only [h₃] at hrow hframe₃
  obtain ⟨-, hname₃, htopic₃, -, hkeyId₃, hkeySchema₃⟩ := hframe₃
  have hhalves : ∀ isKey, HalfRecorded schemaId parseSchema registry t isKey
      (if isKey then keySchemaJson else rowSchemaJson) := by
    intro isKey
    cases isKey with
    | false => exact hrow
    | true => exact hkey.of_eq schemaId parseSchema hkeyId₃ hkeySchema₃ htopic₃
  refine ⟨by rw [hname₃, hname₂, ht₁], by rw [htopic₃, htopic₂, ht₁]; exact hopen rfl, hhalves, ?_⟩
  -- both halves were written by the call, so they agree
  refine ⟨fun isKey => ?_, fun hnone isKey => ?_⟩
  · rw [(hhalves isKey).id]
    exact schemaCoherent_registered schemaId parseSchema (hhalves isKey).schema
  · rw [(hhalves isKey).id, hnone]
    rfl

/-- **Repeating an update over the record it wrote changes nothing**: the topic is open under the
name, and each half holds what its text recorded. -/
theorem tableMetadataUpdate_repeat {topicOpens : Bool} {registry : Option RegistryAnswer}
    (hreg : ∀ answer, registry = some answer → RegistryConsistent schemaId answer)
    {topicPrefix : Option (List UInt8)} {table : TableMetadata} {tableName : List UInt8}
    {keySchemaJson rowSchemaJson : Option (List UInt8)} (hname : table.tableName = tableName)
    (htopic : table.topic.isSome)
    (hhalves : ∀ isKey, HalfRecorded schemaId parseSchema registry table isKey
      (if isKey then keySchemaJson else rowSchemaJson)) :
    tableMetadataUpdate topicOpens registry parseSchema topicPrefix table tableName keySchemaJson
      rowSchemaJson = (0, table) := by
  have htopicStep : tableMetadataUpdateTopicWith topicOpens topicPrefix table tableName =
      (0, table) := by
    rw [tableMetadataUpdateTopicWith, if_pos ⟨htopic, hname.symm⟩]
  have hkey : tableMetadataUpdateSchema registry parseSchema table true keySchemaJson =
      (0, table) := tableMetadataUpdateSchema_repeat schemaId parseSchema hreg (hhalves true)
  have hrow : tableMetadataUpdateSchema registry parseSchema table false rowSchemaJson =
      (0, table) := tableMetadataUpdateSchema_repeat schemaId parseSchema hreg (hhalves false)
  unfold tableMetadataUpdate
  rw [htopicStep]
  dsimp only
  rw [if_neg (not_not.mpr rfl), hkey]
  dsimp only
  rw [if_neg (not_not.mpr rfl), hrow]

end Registered

/-! ### The mapper -/

/-- A record that lookup finds is in the array, not deleted, and of the relid. -/
theorem tableMapperLookup_some {mapper : TableMapper} {relid : Nat} {table : TableMetadata}
    (h : tableMapperLookup mapper relid = some table) :
    table ∈ mapper.tables ∧ table.deleted = false ∧ table.relid = relid := by
  have hp := List.find?_some h
  simp only [Bool.and_eq_true, Bool.not_eq_true', beq_iff_eq] at hp
  exact ⟨List.mem_of_find?_eq_some h, hp.1, hp.2⟩

/-- The record an update starts from, the one lookup finds or a new one, is of the relid and not
deleted. -/
theorem tableMapperLookup_getD (mapper : TableMapper) (relid : Nat) :
    ((tableMapperLookup mapper relid).getD (tableMetadataNew relid)).relid = relid ∧
      ((tableMapperLookup mapper relid).getD (tableMetadataNew relid)).deleted = false := by
  cases hlook : tableMapperLookup mapper relid with
  | none => exact ⟨rfl, rfl⟩
  | some table => exact ⟨(tableMapperLookup_some hlook).2.2, (tableMapperLookup_some hlook).2.1⟩

section Update

variable (topicOpens : Bool) (registry : Option RegistryAnswer)
  (parseSchema : List UInt8 → Except Int Avro.Schema) (mapper : TableMapper) (relid : Nat)
  (tableName : List UInt8) (keySchemaJson rowSchemaJson : Option (List UInt8))

/-- **What an update does to the mapper**: it writes one record of the relid, over the one lookup
found or at the end of the array; the record is returned, or marked deleted when a step
failed. -/
theorem tableMapperUpdate_eq :
    ∃ stored : TableMetadata, stored.relid = relid ∧
      (tableMapperUpdate topicOpens registry parseSchema mapper relid tableName keySchemaJson
          rowSchemaJson).2 =
        { mapper with
          tables := KeyedList.replace (fun table => !table.deleted && table.relid == relid) stored
            mapper.tables } ∧
      ((tableMapperUpdate topicOpens registry parseSchema mapper relid tableName keySchemaJson
          rowSchemaJson).1 = some stored ∧ stored.deleted = false ∨
        (tableMapperUpdate topicOpens registry parseSchema mapper relid tableName keySchemaJson
          rowSchemaJson).1 = none ∧ stored.deleted = true) := by
  obtain ⟨hrelid₀, hdeleted₀⟩ := tableMapperLookup_getD mapper relid
  obtain ⟨hrelid, hdeleted⟩ := tableMetadataUpdate_keeps topicOpens registry parseSchema
    mapper.topicPrefix ((tableMapperLookup mapper relid).getD (tableMetadataNew relid)) tableName
    keySchemaJson rowSchemaJson
  unfold tableMapperUpdate
  dsimp only
  rcases hu : tableMetadataUpdate topicOpens registry parseSchema mapper.topicPrefix
    ((tableMapperLookup mapper relid).getD (tableMetadataNew relid)) tableName keySchemaJson
    rowSchemaJson with ⟨err, t⟩
  rw [hu] at hrelid hdeleted
  dsimp only at hrelid hdeleted ⊢
  by_cases herr : err = 0
  · -- every step succeeded: the record is returned
    rw [if_neg (not_not.mpr herr), if_neg (not_not.mpr herr)]
    exact ⟨t, hrelid.trans hrelid₀, rfl, .inl ⟨rfl, hdeleted.trans hdeleted₀⟩⟩
  · rw [if_pos herr, if_pos herr]
    exact ⟨{ t with deleted := true }, hrelid.trans hrelid₀, rfl, .inr ⟨rfl, rfl⟩⟩

/-- A record an update returns is what its steps left of the record it started from. -/
theorem tableMapperUpdate_of_some {t : TableMetadata}
    (h : (tableMapperUpdate topicOpens registry parseSchema mapper relid tableName keySchemaJson
      rowSchemaJson).1 = some t) :
    tableMetadataUpdate topicOpens registry parseSchema mapper.topicPrefix
      ((tableMapperLookup mapper relid).getD (tableMetadataNew relid)) tableName keySchemaJson
      rowSchemaJson = (0, t) := by
  unfold tableMapperUpdate at h
  dsimp only at h
  rcases hu : tableMetadataUpdate topicOpens registry parseSchema mapper.topicPrefix
    ((tableMapperLookup mapper relid).getD (tableMetadataNew relid)) tableName keySchemaJson
    rowSchemaJson with ⟨err, t'⟩
  rw [hu] at h
  dsimp only at h
  by_cases herr : err = 0
  · rw [if_neg (not_not.mpr herr), if_neg (not_not.mpr herr)] at h
    rw [herr, Option.some.inj h]
  · rw [if_pos herr] at h
    cases h

/-- **Lookups after an update**: the relid finds what the update returned, `NULL` when it failed,
and every other relid finds what it found before; needs one visible record per relid. -/
theorem tableMapperLookup_update
    (hunique : ((mapper.tables.filter fun table => !table.deleted).map
      fun table => table.relid).Nodup) (relid' : Nat) :
    tableMapperLookup (tableMapperUpdate topicOpens registry parseSchema mapper relid tableName
        keySchemaJson rowSchemaJson).2 relid' =
      if relid' = relid then
        (tableMapperUpdate topicOpens registry parseSchema mapper relid tableName keySchemaJson
          rowSchemaJson).1
      else tableMapperLookup mapper relid' := by
  obtain ⟨stored, hrelid, heq, hresult⟩ := tableMapperUpdate_eq topicOpens registry parseSchema
    mapper relid tableName keySchemaJson rowSchemaJson
  -- lookup selects the visible records of the relid the stored record has
  have hp : ∀ table : TableMetadata, (!table.deleted && table.relid == relid) = true ↔
      (!table.deleted) = true ∧ table.relid = stored.relid := by
    intro table
    simp [hrelid]
  rw [heq]
  unfold tableMapperLookup
  split_ifs with hr
  · subst hr
    rcases hresult with ⟨hsome, hdeleted⟩ | ⟨hnone, hdeleted⟩
    · rw [hsome]
      exact KeyedList.find?_replace_self (by simp [hdeleted, hrelid]) _
    · rw [hnone]
      exact KeyedList.find?_replace_of_not (fun table => !table.deleted) (fun table => table.relid)
        hp (by simp [hdeleted]) hunique
  · refine KeyedList.find?_replace_of_disjoint (fun table htable => ?_)
      (by simp [hrelid, Ne.symm hr]) _
    simp only [Bool.and_eq_true, Bool.not_eq_true', beq_iff_eq] at htable
    simp [htable.2, hr]

end Update

/-! ### Runs of updates -/

section Run

variable (schemaId : List UInt8 → Int) (parseSchema : List UInt8 → Except Int Avro.Schema)

/-- The invariant of the mapper along every run of updates: one visible record per relid, and
every visible record coherent. -/
structure MapperInv (hasRegistry : Bool) (mapper : TableMapper) : Prop where
  unique : ((mapper.tables.filter fun table => !table.deleted).map fun table => table.relid).Nodup
  coherent : ∀ table ∈ mapper.tables, table.deleted = false →
    RecordCoherent schemaId parseSchema hasRegistry table

theorem mapperInv_new (hasRegistry : Bool) (topicPrefix : Option (List UInt8)) :
    MapperInv schemaId parseSchema hasRegistry (tableMapperNew topicPrefix) where
  unique := List.nodup_nil
  coherent _ h := absurd h List.not_mem_nil

/-- The record an update starts from is coherent. -/
theorem recordCoherent_getD {hasRegistry : Bool} {mapper : TableMapper}
    (hinv : MapperInv schemaId parseSchema hasRegistry mapper) (relid : Nat) :
    RecordCoherent schemaId parseSchema hasRegistry
      ((tableMapperLookup mapper relid).getD (tableMetadataNew relid)) := by
  cases hlook : tableMapperLookup mapper relid with
  | none => exact recordCoherent_new schemaId parseSchema hasRegistry relid
  | some table =>
    obtain ⟨hmem, hdeleted, -⟩ := tableMapperLookup_some hlook
    exact hinv.coherent table hmem hdeleted

section Consistent

variable
  (hinj : ∀ json json', schemaId json = schemaId json' → parseSchema json = parseSchema json')
  (hparse : ∀ json, parseSchema json ≠ .error 0) {registry : Option RegistryAnswer}
  (hreg : ∀ answer, registry = some answer → RegistryConsistent schemaId answer)
  {topicOpens : Bool} {mapper : TableMapper} {relid : Nat} {tableName : List UInt8}
  {keySchemaJson rowSchemaJson : Option (List UInt8)}
include hinj hparse hreg

/-- **What a successful update returns**: a visible record of the relid with the call's table
name, an open topic, and both halves recorded from the call's texts; it is coherent. -/
theorem tableMapperUpdate_spec (hinv : MapperInv schemaId parseSchema registry.isSome mapper)
    {t : TableMetadata}
    (h : (tableMapperUpdate topicOpens registry parseSchema mapper relid tableName keySchemaJson
      rowSchemaJson).1 = some t) :
    t.relid = relid ∧ t.deleted = false ∧ t.tableName = tableName ∧ t.topic.isSome ∧
      (∀ isKey, HalfRecorded schemaId parseSchema registry t isKey
        (if isKey then keySchemaJson else rowSchemaJson)) ∧
      RecordCoherent schemaId parseSchema registry.isSome t := by
  have hsteps := tableMapperUpdate_of_some topicOpens registry parseSchema mapper relid tableName
    keySchemaJson rowSchemaJson h
  obtain ⟨hrelid, hdeleted⟩ := tableMetadataUpdate_keeps topicOpens registry parseSchema
    mapper.topicPrefix ((tableMapperLookup mapper relid).getD (tableMetadataNew relid)) tableName
    keySchemaJson rowSchemaJson
  have hspec := tableMetadataUpdate_spec schemaId parseSchema hinj hparse hreg
    (recordCoherent_getD schemaId parseSchema hinv relid) (by rw [hsteps])
  obtain ⟨hrelid₀, hdeleted₀⟩ := tableMapperLookup_getD mapper relid
  rw [hsteps] at hrelid hdeleted hspec
  exact ⟨hrelid.trans hrelid₀, hdeleted.trans hdeleted₀, hspec⟩

/-- **An update keeps the invariant**, whatever it returns. -/
theorem mapperInv_update (hinv : MapperInv schemaId parseSchema registry.isSome mapper) :
    MapperInv schemaId parseSchema registry.isSome
      (tableMapperUpdate topicOpens registry parseSchema mapper relid tableName keySchemaJson
        rowSchemaJson).2 := by
  obtain ⟨stored, hrelid, heq, hresult⟩ := tableMapperUpdate_eq topicOpens registry parseSchema
    mapper relid tableName keySchemaJson rowSchemaJson
  have hp : ∀ table : TableMetadata, (!table.deleted && table.relid == relid) = true ↔
      (!table.deleted) = true ∧ table.relid = stored.relid := by
    intro table
    simp [hrelid]
  rw [heq]
  constructor
  · exact KeyedList.nodup_filter_replace (fun table : TableMetadata => !table.deleted)
      (fun table => table.relid) hp hinv.unique
  · -- a visible record is an old one, or the one the update returned
    intro table hmem hdeleted
    rcases KeyedList.mem_replace hmem with hold | rfl
    · exact hinv.coherent table hold hdeleted
    · rcases hresult with ⟨hsome, -⟩ | ⟨-, hdeleted'⟩
      · exact (tableMapperUpdate_spec schemaId parseSchema hinj hparse hreg hinv hsome).2.2.2.2.2
      · rw [hdeleted'] at hdeleted
        cases hdeleted

/-- **Repeating a successful update changes nothing**: it returns the same record and leaves the
mapper as the first left it. -/
theorem tableMapperUpdate_repeat (hinv : MapperInv schemaId parseSchema registry.isSome mapper)
    {t : TableMetadata}
    (h : (tableMapperUpdate topicOpens registry parseSchema mapper relid tableName keySchemaJson
      rowSchemaJson).1 = some t) :
    tableMapperUpdate topicOpens registry parseSchema
        (tableMapperUpdate topicOpens registry parseSchema mapper relid tableName keySchemaJson
          rowSchemaJson).2 relid tableName keySchemaJson rowSchemaJson =
      (some t, (tableMapperUpdate topicOpens registry parseSchema mapper relid tableName
        keySchemaJson rowSchemaJson).2) := by
  obtain ⟨hrelid, hdeleted, hname, htopic, hhalves, -⟩ :=
    tableMapperUpdate_spec schemaId parseSchema hinj hparse hreg hinv h
  have hlook := tableMapperLookup_update topicOpens registry parseSchema mapper relid tableName
    keySchemaJson rowSchemaJson hinv.unique relid
  rw [if_pos rfl, h] at hlook
  obtain ⟨stored, -, heq, hresult⟩ := tableMapperUpdate_eq topicOpens registry parseSchema mapper
    relid tableName keySchemaJson rowSchemaJson
  have hstored : stored = t := by
    rcases hresult with ⟨hsome, -⟩ | ⟨hnone, -⟩
    · rw [h] at hsome
      exact (Option.some.inj hsome).symm
    · rw [h] at hnone
      cases hnone
  subst hstored
  generalize (tableMapperUpdate topicOpens registry parseSchema mapper relid tableName
    keySchemaJson rowSchemaJson).2 = mapper' at hlook heq ⊢
  -- the second call starts from the record the first returned, and its steps change nothing
  unfold tableMapperUpdate
  rw [hlook, Option.getD_some]
  dsimp only
  rw [tableMetadataUpdate_repeat schemaId parseSchema hreg hname htopic hhalves]
  simp only [ne_eq, not_true_eq_false, if_false]
  rw [heq, KeyedList.replace_replace (by simp [hdeleted, hrelid])]

end Consistent

/-- One call of `table_mapper_update`, with what the environment answered during it: whether
librdkafka opened the topic, and the registry's answers. -/
structure UpdateCall where
  relid : Nat
  tableName : List UInt8
  keySchemaJson : Option (List UInt8)
  rowSchemaJson : Option (List UInt8)
  topicOpens : Bool
  answer : RegistryAnswer

/-- The mapper's registry during a call: the call's answers, when the mapper has a registry. -/
def UpdateCall.registry (hasRegistry : Bool) (c : UpdateCall) : Option RegistryAnswer :=
  if hasRegistry then some c.answer else none

/-- The call on a mapper. -/
def UpdateCall.run (hasRegistry : Bool) (c : UpdateCall) (mapper : TableMapper) :
    Option TableMetadata × TableMapper :=
  tableMapperUpdate c.topicOpens (c.registry hasRegistry) parseSchema mapper c.relid c.tableName
    c.keySchemaJson c.rowSchemaJson

theorem UpdateCall.isSome_registry (hasRegistry : Bool) (c : UpdateCall) :
    (c.registry hasRegistry).isSome = hasRegistry := by
  cases hasRegistry <;> rfl

theorem UpdateCall.registry_consistent (hasRegistry : Bool) {c : UpdateCall}
    (hc : RegistryConsistent schemaId c.answer) :
    ∀ answer, c.registry hasRegistry = some answer → RegistryConsistent schemaId answer := by
  intro answer h
  cases hasRegistry with
  | false => cases h
  | true =>
    cases h
    exact hc

/-- A step of a run: a call whose registry gives every text the id `schemaId` assigns it. -/
def MapperStep (hasRegistry : Bool) (mapper mapper' : TableMapper) : Prop :=
  ∃ c : UpdateCall, RegistryConsistent schemaId c.answer ∧
    mapper' = (c.run parseSchema hasRegistry mapper).2

/-- **The invariant holds along every run**, by induction on the run. -/
theorem mapperInv_run
    (hinj : ∀ json json', schemaId json = schemaId json' → parseSchema json = parseSchema json')
    (hparse : ∀ json, parseSchema json ≠ .error 0) {hasRegistry : Bool}
    {topicPrefix : Option (List UInt8)} {mapper : TableMapper}
    (hrun : Relation.ReflTransGen (MapperStep schemaId parseSchema hasRegistry)
      (tableMapperNew topicPrefix) mapper) :
    MapperInv schemaId parseSchema hasRegistry mapper := by
  induction hrun with
  | refl => exact mapperInv_new schemaId parseSchema hasRegistry topicPrefix
  | @tail mid last _ hstep ih =>
    obtain ⟨c, hc, rfl⟩ := hstep
    have hinv : MapperInv schemaId parseSchema (c.registry hasRegistry).isSome mid := by
      rwa [UpdateCall.isSome_registry]
    have hupdate : MapperInv schemaId parseSchema (c.registry hasRegistry).isSome
        (c.run parseSchema hasRegistry mid).2 :=
      mapperInv_update schemaId parseSchema hinj hparse
        (UpdateCall.registry_consistent schemaId hasRegistry hc) hinv
    rwa [UpdateCall.isSome_registry] at hupdate

/-- **The table mapper along any run**, when the registry gives every text the id `schemaId`
assigns it and ids tell apart what their texts parse to. From any mapper a run of updates
reaches, an update keeps at most one visible record per relid. Lookup of its relid then finds
what it returned, `NULL` when it failed, and every other relid finds what it found before. A
record it returns has the call's relid and table name, and for the key and the row the id
registered for the call's text and the schema the text parses to: no key schema, and
`TABLE_MAPPER_SCHEMA_ID_MISSING`, without a key text. Repeating a successful update changes
nothing. -/
theorem tableMapperUpdate_of_reachable
    (hinj : ∀ json json', schemaId json = schemaId json' → parseSchema json = parseSchema json')
    (hparse : ∀ json, parseSchema json ≠ .error 0) {hasRegistry : Bool}
    {topicPrefix : Option (List UInt8)} {mapper : TableMapper}
    (hrun : Relation.ReflTransGen (MapperStep schemaId parseSchema hasRegistry)
      (tableMapperNew topicPrefix) mapper)
    (c : UpdateCall) (hc : RegistryConsistent schemaId c.answer) :
    (((c.run parseSchema hasRegistry mapper).2.tables.filter fun table => !table.deleted).map
        fun table => table.relid).Nodup ∧
      (∀ relid, tableMapperLookup (c.run parseSchema hasRegistry mapper).2 relid =
        if relid = c.relid then (c.run parseSchema hasRegistry mapper).1
        else tableMapperLookup mapper relid) ∧
      (∀ t, (c.run parseSchema hasRegistry mapper).1 = some t →
        t.relid = c.relid ∧ t.tableName = c.tableName ∧
        t.keySchemaId = registeredSchemaId schemaId hasRegistry c.keySchemaJson ∧
        c.keySchemaJson.mapM parseSchema = .ok t.keySchema ∧
        t.rowSchemaId = registeredSchemaId schemaId hasRegistry c.rowSchemaJson ∧
        c.rowSchemaJson.mapM parseSchema = .ok t.rowSchema) ∧
      (∀ t, (c.run parseSchema hasRegistry mapper).1 = some t →
        c.run parseSchema hasRegistry (c.run parseSchema hasRegistry mapper).2 =
          (some t, (c.run parseSchema hasRegistry mapper).2)) := by
  have hinv₀ := mapperInv_run schemaId parseSchema hinj hparse hrun
  have hinv : MapperInv schemaId parseSchema (c.registry hasRegistry).isSome mapper := by
    rwa [UpdateCall.isSome_registry]
  have hreg := UpdateCall.registry_consistent schemaId hasRegistry hc
  refine ⟨?_, tableMapperLookup_update _ _ _ _ _ _ _ _ hinv.unique, fun t ht => ?_,
    fun t ht => tableMapperUpdate_repeat schemaId parseSchema hinj hparse hreg hinv ht⟩
  · exact (mapperInv_update schemaId parseSchema hinj hparse hreg hinv).unique
  · -- the record's halves, read as its fields
    obtain ⟨hrelid, -, hname, -, hhalves, -⟩ :=
      tableMapperUpdate_spec schemaId parseSchema hinj hparse hreg hinv ht
    have hkey := hhalves true
    have hrow := hhalves false
    have hkeyId := hkey.id
    have hrowId := hrow.id
    rw [UpdateCall.isSome_registry] at hkeyId hrowId
    exact ⟨hrelid, hname, hkeyId, hkey.schema, hrowId, hrow.schema⟩

end Run

/-- An id for every text, a different one for each: its bytes, each plus one, as the digits of
a number in base `257`. -/
def textSchemaId : List UInt8 → Int
  | [] => 0
  | b :: json => (b.toNat + 1 : Int) + 257 * textSchemaId json

theorem textSchemaId_injective : ∀ {json json' : List UInt8},
    textSchemaId json = textSchemaId json' → json = json'
  | [], [], _ => rfl
  | [], b :: json', h => by
    have hpos : 0 ≤ textSchemaId json' := textSchemaId_nonneg json'
    simp only [textSchemaId] at h
    omega
  | b :: json, [], h => by
    have hpos : 0 ≤ textSchemaId json := textSchemaId_nonneg json
    simp only [textSchemaId] at h
    omega
  | b :: json, b' :: json', h => by
    -- the first digits agree, being below the base, and then the rest
    have hb := b.toNat_lt
    have hb' := b'.toNat_lt
    simp only [textSchemaId] at h
    have hdigit : b.toNat = b'.toNat := by omega
    have hrest : textSchemaId json = textSchemaId json' := by omega
    rw [UInt8.toNat_inj.mp hdigit, textSchemaId_injective hrest]
where
  textSchemaId_nonneg : ∀ json, 0 ≤ textSchemaId json
    | [] => le_refl 0
    | b :: json => by
      have := textSchemaId_nonneg json
      simp only [textSchemaId]
      omega

/-- Every text parses, to a record named by the text. -/
def textRecordSchema (json : List UInt8) : Except Int Avro.Schema := .ok (.record json none [])

/-- A registry that has every text under its own id. -/
def textIdRegistry : RegistryAnswer := fun _ _ json => (0, textSchemaId json)

/-- A registry that fails every request with the code `5`. -/
def failingRegistry : RegistryAnswer := fun _ _ _ => (5, 0)

/-- Three updates from a new mapper: table `1` with the row schema text `a`, which succeeds;
table `2`, whose registration fails; and table `3`, whose topic does not open. -/
def earlierUpdates : List UpdateCall :=
  [{ relid := 1, tableName := [116], keySchemaJson := none, rowSchemaJson := some [97],
      topicOpens := true, answer := textIdRegistry },
    { relid := 2, tableName := [117], keySchemaJson := some [107], rowSchemaJson := some [98],
      topicOpens := true, answer := failingRegistry },
    { relid := 3, tableName := [118], keySchemaJson := none, rowSchemaJson := some [99],
      topicOpens := false, answer := textIdRegistry }]

/-- The mapper the three updates leave. -/
def earlierMapper : TableMapper :=
  earlierUpdates.foldl (fun mapper c => (c.run textRecordSchema true mapper).2) (tableMapperNew none)

theorem earlierMapper_reachable :
    Relation.ReflTransGen (MapperStep textSchemaId textRecordSchema true) (tableMapperNew none)
      earlierMapper := by
  -- each of the three calls is a step, with a registry that is consistent or fails
  have hok : RegistryConsistent textSchemaId textIdRegistry := fun _ _ _ _ => rfl
  have hfail : RegistryConsistent textSchemaId failingRegistry := by
    intro _ _ _ h
    simp [failingRegistry] at h
  refine .tail (.tail (.tail .refl ⟨_, hok, rfl⟩) ⟨_, hfail, rfl⟩) ⟨_, hok, rfl⟩

/-- Of the three updates, only the first left a record. -/
example : (tableMapperLookup earlierMapper 1).isSome ∧ (tableMapperLookup earlierMapper 2).isNone ∧
    (tableMapperLookup earlierMapper 3).isNone := by
  decide

/-- Table `1` updated again, now with the row schema text `b`. -/
def secondUpdateCall : UpdateCall :=
  { relid := 1, tableName := [116], keySchemaJson := none, rowSchemaJson := some [98],
    topicOpens := true, answer := textIdRegistry }

theorem tableMapperUpdate_of_reachable_second :
    (((secondUpdateCall.run textRecordSchema true earlierMapper).2.tables.filter
        fun table => !table.deleted).map fun table => table.relid).Nodup ∧
      (∀ relid, tableMapperLookup (secondUpdateCall.run textRecordSchema true earlierMapper).2
          relid =
        if relid = secondUpdateCall.relid then
          (secondUpdateCall.run textRecordSchema true earlierMapper).1
        else tableMapperLookup earlierMapper relid) ∧
      (∀ t, (secondUpdateCall.run textRecordSchema true earlierMapper).1 = some t →
        t.relid = secondUpdateCall.relid ∧ t.tableName = secondUpdateCall.tableName ∧
        t.keySchemaId = registeredSchemaId textSchemaId true secondUpdateCall.keySchemaJson ∧
        secondUpdateCall.keySchemaJson.mapM textRecordSchema = .ok t.keySchema ∧
        t.rowSchemaId = registeredSchemaId textSchemaId true secondUpdateCall.rowSchemaJson ∧
        secondUpdateCall.rowSchemaJson.mapM textRecordSchema = .ok t.rowSchema) ∧
      (∀ t, (secondUpdateCall.run textRecordSchema true earlierMapper).1 = some t →
        secondUpdateCall.run textRecordSchema true
            (secondUpdateCall.run textRecordSchema true earlierMapper).2 =
          (some t, (secondUpdateCall.run textRecordSchema true earlierMapper).2)) :=
  tableMapperUpdate_of_reachable textSchemaId textRecordSchema
    (fun _ _ h => by rw [textSchemaId_injective h]) (fun _ h => by cases h) earlierMapper_reachable
    secondUpdateCall (fun _ _ _ _ => rfl)

/-- A registry that answers every request with the id `7`: identical schemas do get the same
id. -/
def constantIdRegistry : RegistryAnswer := fun _ _ _ => (0, 7)

/-- **A schema that gets the previous id is not parsed.** Table `1` is updated with the row schema
text `a`, then with `b`, through a registry that returns the id `7` for both. The second update
succeeds and returns the record with the schema of `a`. -/
theorem stale_row_schema_kept :
    ((tableMapperUpdate true (some constantIdRegistry) textRecordSchema
        (tableMapperUpdate true (some constantIdRegistry) textRecordSchema (tableMapperNew none) 1
          [116] none (some [97])).2 1 [116] none (some [98])).1.map
      fun t => (t.rowSchemaId, t.rowSchema)) = some (7, some (.record [97] none [])) := by
  rfl

end BottledWater
