import BottledWater.Ext.ChangeFrames

set_option autoImplicit false

/-! # Schemas before rows, over a decoding session

The client decodes a row with the key and row schemas of the last `TableSchema` message it
received for the row's table (`lastTableSchema`, its view of the stream). The output plugin sends
a table's schemas when its schema cache reports the table new or changed, and from then on counts
them as sent. Whether the two agree depends on the error policy.

Under the exit policy they do: every conversion or write that fails ends the decoding, so every
`TableSchema` the cache counts as sent reached the client. `Announced` is that agreement between
the cache and the messages sent, and every callback keeps it; so along every session, with any
changes to any tables and to the catalog between them, every change's rows are encoded under the
schemas the relation generates at that point, and the last `TableSchema` sent for the table
announced exactly those (`decodingRun_followsSchemas`, with the protocol `FollowsSchemas`).

Under the log policy the plugin goes on after a frame it could not write. A change's lookup leaves
an entry that records the relation whatever it answered (`schemaCacheLookup_recorded`), so every
later lookup of the unchanged table answers `0`, and no later frame carries the table's schemas
(`schemas_not_resent`): when the frame that carried them was dropped, the client never gets them.
A row just under `try_writing`'s limit drops it: the row fits, the frame with the schemas before it
does not.
-/

namespace BottledWater

open Avro

/-! ## What the client learns from the stream -/

/-- The schemas a message announces for a relid: those of a `TableSchema` for it. -/
def Message.tableSchemaOf (relid : UInt32) : Message → Option (Option Schema × Schema)
  | .tableSchema r keySchema rowSchema => if r = relid then some (keySchema, rowSchema) else none
  | _ => none

/-- The schemas that the last `TableSchema` for a relid among the messages announced. -/
def lastTableSchema (sent : List Message) (relid : UInt32) : Option (Option Schema × Schema) :=
  (sent.filterMap (Message.tableSchemaOf relid)).getLast?

/-- The last announcement in a stream is the last one of its later part, or else of its earlier
part. -/
theorem lastTableSchema_append (sent ms : List Message) (relid : UInt32) :
    lastTableSchema (sent ++ ms) relid =
      (lastTableSchema ms relid).or (lastTableSchema sent relid) := by
  simp [lastTableSchema, List.filterMap_append, List.getLast?_append]

/-- Messages that announce nothing for the relid leave the client's view of it as it was. -/
theorem lastTableSchema_append_of_none {ms : List Message} {relid : UInt32}
    (h : ∀ m ∈ ms, m.tableSchemaOf relid = none) (sent : List Message) :
    lastTableSchema (sent ++ ms) relid = lastTableSchema sent relid := by
  have hnil : ms.filterMap (Message.tableSchemaOf relid) = [] := List.filterMap_eq_nil_iff.mpr h
  rw [lastTableSchema_append]
  simp [lastTableSchema, hnil]

theorem tableSchemaOf_of_not_isTableSchema {m : Message} (h : m.isTableSchema = false)
    (relid : UInt32) : m.tableSchemaOf relid = none := by
  cases m <;> first | rfl | cases h

theorem lastTableSchema_append_tableSchema (sent : List Message) (relid : UInt32)
    (keySchema : Option Schema) (rowSchema : Schema) :
    lastTableSchema (sent ++ [.tableSchema relid keySchema rowSchema]) relid =
      some (keySchema, rowSchema) := by
  rw [lastTableSchema_append]
  simp [lastTableSchema, Message.tableSchemaOf]

/-- Different oids below `2 ^ 32` are different relids on the wire. -/
theorem uint32_ofNat_ne {a b : Nat} (ha : a < 2 ^ 32) (hb : b < 2 ^ 32) (h : a ≠ b) :
    UInt32.ofNat a ≠ UInt32.ofNat b := by
  intro heq
  have hnat := congrArg UInt32.toNat heq
  simp only [UInt32.toNat_ofNat'] at hnat
  omega

/-- A change's messages announce no schemas. -/
theorem tableSchemaOf_messagesWith (A : AvroC) {δ : Type} (pg : PgDatum δ)
    (indkey : IndexData → List Nat) (keySchema : Option Schema) (rowSchema : Schema)
    (rel : TableData) (ch : Change δ) (relid : UInt32) :
    ∀ m ∈ (ch.messagesWith A pg indkey keySchema rowSchema rel).getD [],
      m.tableSchemaOf relid = none := by
  intro m hm
  -- an update's messages are a delete and an insert, or an update
  have hupdate : ∀ relid' oldKeyBin oldBin newKeyBin newBin,
      m ∈ updateMessages relid' oldKeyBin oldBin newKeyBin newBin →
        m.tableSchemaOf relid = none := by
    intro relid' oldKeyBin oldBin newKeyBin newBin hm'
    unfold updateMessages at hm'
    split at hm' <;> simp at hm' <;> rcases hm' with rfl | rfl <;> rfl
  cases ch with
  | insert newtuple =>
    cases h : tupleBytesWith A pg indkey keySchema rowSchema rel rel.tupdesc newtuple <;>
      simp [Change.messagesWith, h] at hm
    rw [hm]
    rfl
  | update oldtuple newtuple =>
    cases oldtuple with
    | some oldtuple =>
      cases h : tupleBytesWith A pg indkey keySchema rowSchema rel rel.tupdesc oldtuple <;>
        cases h' : tupleBytesWith A pg indkey keySchema rowSchema rel rel.tupdesc newtuple <;>
        simp [Change.messagesWith, h, h'] at hm
      exact hupdate _ _ _ _ _ hm
    | none =>
      cases h : tupleBytesWith A pg indkey keySchema rowSchema rel rel.tupdesc newtuple <;>
        simp [Change.messagesWith, h] at hm
      exact hupdate _ _ _ _ _ hm
  | delete oldtuple =>
    cases oldtuple with
    | some oldtuple =>
      cases h : tupleBytesWith A pg indkey keySchema rowSchema rel rel.tupdesc oldtuple <;>
        simp [Change.messagesWith, h] at hm
      rw [hm]
      rfl
    | none =>
      simp [Change.messagesWith] at hm
      rw [hm]
      rfl

/-! ## The exit policy -/

/-- **The cache agrees with what has been sent**: every entry was built without an error, sits
under its own relid, which is an `Oid`, and holds the schemas that the last `TableSchema` sent for
the relid announced. -/
structure Announced (cache : SchemaCache) (sent : List Message) : Prop where
  built : CacheBuilt cache
  announced : ∀ relid entry, cache.entries relid = some entry →
    relid < 2 ^ 32 ∧ entry.relid = relid ∧ ∃ rowSchema, entry.rowSchema = some rowSchema ∧
      lastTableSchema sent (UInt32.ofNat relid) = some (entry.keySchema, rowSchema)

theorem announced_new : Announced schemaCacheNew [] where
  built := cacheBuilt_new
  announced := fun _ _ h => by cases h

/-- Messages that announce nothing keep the agreement. -/
theorem Announced.append {cache : SchemaCache} {sent ms : List Message} (h : Announced cache sent)
    (hms : ∀ m ∈ ms, ∀ relid, m.tableSchemaOf relid = none) : Announced cache (sent ++ ms) where
  built := h.built
  announced := by
    intro relid entry hentry
    rw [lastTableSchema_append_of_none (fun m hm => hms m hm _)]
    exact h.announced relid entry hentry

/-- Storing a table's entry and sending the `TableSchema` that announces its schemas, then
messages that announce nothing, keeps the agreement. -/
theorem Announced.set {cache : SchemaCache} {sent ms : List Message} (h : Announced cache sent)
    {relid : Nat} (hoid : relid < 2 ^ 32) {entry : SchemaCacheEntry} {rowSchema : Schema}
    (hrelid : entry.relid = relid) (hrow : entry.rowSchema = some rowSchema)
    (hbuilt : CacheBuilt (cache.set relid entry))
    (hms : ∀ m ∈ ms, ∀ relid, m.tableSchemaOf relid = none) :
    Announced (cache.set relid entry)
      (sent ++ ([.tableSchema (UInt32.ofNat relid) entry.keySchema rowSchema] ++ ms)) where
  built := hbuilt
  announced := by
    intro relid' entry' hentry'
    rw [← List.append_assoc, lastTableSchema_append_of_none (fun m hm => hms m hm _)]
    by_cases hsame : relid' = relid
    · -- the entry just stored, whose schemas the new `TableSchema` announces
      subst hsame
      rw [SchemaCache.set_entries_self] at hentry'
      cases hentry'
      exact ⟨hoid, hrelid, rowSchema, hrow, lastTableSchema_append_tableSchema _ _ _ _⟩
    · -- another table's entry, whose announcement the new message leaves alone
      rw [SchemaCache.set_entries_of_ne _ _ hsame] at hentry'
      obtain ⟨hlt, hrelid', rowSchema', hrow', hlast⟩ := h.announced relid' entry' hentry'
      refine ⟨hlt, hrelid', rowSchema', hrow', ?_⟩
      rw [lastTableSchema_append_of_none ?_, hlast]
      intro m hm
      simp only [List.mem_singleton] at hm
      subst hm
      simp [Message.tableSchemaOf, uint32_ofNat_ne hoid hlt (Ne.symm hsame)]

section Session

variable {A : AvroC} (toJson : Schema → List UInt8) (genericClass : Schema → Bool) {δ : Type}
  (pg : PgDatum δ) (indkey : IndexData → List Nat)

variable (A) in
/-- **Schemas before rows**: the frames of a session, each as its messages, as the protocol wants
them. A transaction's begin and commit go alone in their frames. A change's frame holds its
table's schemas or nothing, then the change's messages, its tuples encoded under the key and row
schemas the relation generates at that point; and the last `TableSchema` for the table sent
before those messages announced exactly these schemas. -/
def FollowsSchemas : List Message → List (DecodingEvent δ) → List (List Message) → Prop
  | _, [], [] => True
  | sent, .begin xid :: evs, ms :: mss =>
    ms = [.beginTxn xid] ∧ FollowsSchemas (sent ++ ms) evs mss
  | sent, .commit xid commitLsn :: evs, ms :: mss =>
    ms = [.commitTxn xid commitLsn] ∧ FollowsSchemas (sent ++ ms) evs mss
  | sent, .change getNamespaceName rel ch :: evs, ms :: mss =>
    ∃ pre rowSchema, (schemaForTableRow (rel.toRelation getNamespaceName)).2 = some rowSchema ∧
      (pre = [] ∨ pre = [.tableSchema (UInt32.ofNat rel.rdId)
        (schemaForTableKey getNamespaceName rel).2 rowSchema]) ∧
      lastTableSchema (sent ++ pre) (UInt32.ofNat rel.rdId) =
        some ((schemaForTableKey getNamespaceName rel).2, rowSchema) ∧
      ms = pre ++ (ch.messagesWith A pg indkey (schemaForTableKey getNamespaceName rel).2 rowSchema
        rel).getD [] ∧
      FollowsSchemas (sent ++ ms) evs mss
  | _, _, _ => False

/-- A begin or a commit writes its message alone in a frame and keeps the cache. -/
theorem marker_sent {m : Message} {cache cache' : SchemaCache} {out : Option (List UInt8)}
    (h : (((buildFrame A toJson [m]).bind (writeFrame A)).toOption.map fun bytes =>
      (some bytes, cache)) = some (out, cache')) :
    cache' = cache ∧ ∃ bytes, out = some bytes ∧
      (buildFrame A toJson [m]).bind (writeFrame A) = .ok bytes := by
  obtain ⟨bytes, hbytes, hw⟩ := Option.map_eq_some_iff.mp h
  cases hw
  refine ⟨rfl, bytes, rfl, ?_⟩
  cases hw : (buildFrame A toJson [m]).bind (writeFrame A) <;> rw [hw] at hbytes <;> cases hbytes
  rfl

/-- **One change under the exit policy keeps the agreement**, and sends the table's current
schemas, announced before its messages. -/
theorem announced_outputAvroChange (hA : A.Lawful) {cache cache' : SchemaCache} {sent : List Message}
    (hann : Announced cache sent) {getNamespaceName : Nat → List UInt8} {rel : TableData}
    (hoid : rel.rdId < 2 ^ 32) {ch : Change δ} {out : Option (List UInt8)}
    (h : outputAvroChange A toJson genericClass getNamespaceName pg indkey .exit cache rel ch =
      some (out, cache')) :
    ∃ bytes pre rowSchema, out = some bytes ∧
      (schemaForTableRow (rel.toRelation getNamespaceName)).2 = some rowSchema ∧
      (pre = [] ∨ pre = [.tableSchema (UInt32.ofNat rel.rdId)
        (schemaForTableKey getNamespaceName rel).2 rowSchema]) ∧
      lastTableSchema (sent ++ pre) (UInt32.ofNat rel.rdId) =
        some ((schemaForTableKey getNamespaceName rel).2, rowSchema) ∧
      (buildFrame A toJson (pre ++ (ch.messagesWith A pg indkey
        (schemaForTableKey getNamespaceName rel).2 rowSchema rel).getD [])).bind (writeFrame A) =
        .ok bytes ∧
      Announced cache' (sent ++ (pre ++ (ch.messagesWith A pg indkey
        (schemaForTableKey getNamespaceName rel).2 rowSchema rel).getD [])) := by
  obtain ⟨bytes, changed, entry, rowSchema, rfl, hl, hc, hcur, hrow, hframe⟩ :=
    outputAvroChange_exit toJson genericClass getNamespaceName pg indkey hA hann.built h
  -- the entry holds the schemas the relation generates now
  have hkey : entry.keySchema = (schemaForTableKey getNamespaceName rel).2 := hcur.keySchema_eq
  have hrowSchema : (schemaForTableRow (rel.toRelation getNamespaceName)).2 = some rowSchema := by
    rw [← hcur.rowSchema_eq, hrow]
  have hrelid : entry.relid = rel.rdId :=
    schemaCacheLookup_relid genericClass getNamespaceName (by rw [hl])
  have hrows := tableSchemaOf_messagesWith A pg indkey (schemaForTableKey getNamespaceName rel).2
    rowSchema rel ch
  rw [hkey] at hframe
  rcases schemaCacheLookup_of_some genericClass getNamespaceName hl with
    ⟨rfl, hfound, rfl⟩ | ⟨hchanged, rfl⟩
  · -- the table was unchanged: its schemas were announced before
    obtain ⟨-, -, rowSchema', hrow', hlast⟩ := hann.announced rel.rdId entry hfound
    rw [hrow] at hrow'
    cases hrow'
    refine ⟨bytes, [], rowSchema, rfl, hrowSchema, .inl rfl, ?_, ?_, ?_⟩
    · rw [List.append_nil, hlast, hkey]
    · simpa [schemaPrefix] using hframe
    · rw [List.nil_append]
      exact hann.append fun m hm relid => hrows relid m hm
  · -- the table was new or changed: the entry was rebuilt, and its schemas go first
    have hbuilt : CacheBuilt (cache.set rel.rdId entry) := by
      have hok := cacheBuilt_schemaCacheLookup genericClass getNamespaceName hann.built
        (show 0 ≤ (schemaCacheLookup genericClass getNamespaceName cache rel).1 by
          rw [hl]; exact hc)
      rwa [hl] at hok
    refine ⟨bytes, [.tableSchema (UInt32.ofNat rel.rdId) (schemaForTableKey getNamespaceName rel).2
      rowSchema], rowSchema, rfl, hrowSchema, .inr rfl,
      lastTableSchema_append_tableSchema _ _ _ _, ?_, ?_⟩
    · simpa [schemaPrefix, hchanged, hrelid, hkey] using hframe
    · have hann' := hann.set hoid hrelid hrow hbuilt fun m hm relid => hrows relid m hm
      rwa [hkey] at hann'

/-- The agreement holds along a session under the exit policy, and the frames follow the
protocol, from any cache and messages sent that agree. -/
theorem followsSchemas_of_announced (hA : A.Lawful) {evs : List (DecodingEvent δ)}
    (hoid : ∀ getNamespaceName rel ch, DecodingEvent.change getNamespaceName rel ch ∈ evs →
      rel.rdId < 2 ^ 32) :
    ∀ {cache cache' : SchemaCache} {sent : List Message} {frames : List (Option (List UInt8))},
      Announced cache sent →
      decodingRun A toJson genericClass pg indkey .exit cache evs = some (frames, cache') →
      ∃ mss, List.Forall₂ (fun ms out => ∃ bytes, out = some bytes ∧
          (buildFrame A toJson ms).bind (writeFrame A) = .ok bytes) mss frames ∧
        FollowsSchemas A pg indkey sent evs mss := by
  induction evs with
  | nil =>
    intro cache cache' sent frames _ h
    cases h
    exact ⟨[], .nil, trivial⟩
  | cons ev evs ih =>
    intro cache cache' sent frames hann h
    have hoid' : ∀ getNamespaceName rel ch, DecodingEvent.change getNamespaceName rel ch ∈ evs →
        rel.rdId < 2 ^ 32 := fun g r c hm => hoid g r c (List.mem_cons_of_mem _ hm)
    obtain ⟨out, cache₁, outs, hstep, hrun, rfl⟩ :=
      decodingRun_cons_eq_some _ toJson genericClass pg indkey _ h
    -- a begin or a commit sends its message alone and keeps the cache
    have hmarker : ∀ {m : Message}, m.isTableSchema = false →
        (((buildFrame A toJson [m]).bind (writeFrame A)).toOption.map fun bytes =>
          (some bytes, cache)) = some (out, cache₁) →
        ∃ mss, List.Forall₂ (fun ms out => ∃ bytes, out = some bytes ∧
            (buildFrame A toJson ms).bind (writeFrame A) = .ok bytes) ([m] :: mss) (out :: outs) ∧
          FollowsSchemas A pg indkey (sent ++ [m]) evs mss := by
      intro m hm hw
      obtain ⟨rfl, bytes, rfl, hbytes⟩ := marker_sent toJson hw
      have hnone : ∀ m' ∈ [m], ∀ relid, m'.tableSchemaOf relid = none := by
        intro m' hm' relid
        rw [List.mem_singleton.mp hm']
        exact tableSchemaOf_of_not_isTableSchema hm relid
      obtain ⟨mss, hmss, hfollows⟩ := ih hoid' (hann.append hnone) hrun
      exact ⟨mss, .cons ⟨bytes, rfl, hbytes⟩ hmss, hfollows⟩
    cases ev with
    | begin xid =>
      obtain ⟨mss, hmss, hfollows⟩ := hmarker rfl hstep
      exact ⟨[.beginTxn xid] :: mss, hmss, rfl, hfollows⟩
    | commit xid commitLsn =>
      obtain ⟨mss, hmss, hfollows⟩ := hmarker rfl hstep
      exact ⟨[.commitTxn xid commitLsn] :: mss, hmss, rfl, hfollows⟩
    | change getNamespaceName rel ch =>
      obtain ⟨bytes, pre, rowSchema, rfl, hrowSchema, hpre, hlast, hframe, hann'⟩ :=
        announced_outputAvroChange toJson genericClass pg indkey hA hann
          (hoid getNamespaceName rel ch (List.mem_cons_self ..)) hstep
      obtain ⟨mss, hmss, hfollows⟩ := ih hoid' hann' hrun
      exact ⟨_ :: mss, .cons ⟨bytes, rfl, hframe⟩ hmss,
        pre, rowSchema, hrowSchema, hpre, hlast, rfl, hfollows⟩

/-- **Under the exit policy every row goes out after the schemas it is encoded with**: along any
decoding session from `output_avro_startup`, with any changes to any tables, under any catalog,
and with the tables and the catalog changing between them, as long as the decoding goes on every
frame is written, and the frames are as `FollowsSchemas` wants them. -/
theorem decodingRun_followsSchemas (hA : A.Lawful) {evs : List (DecodingEvent δ)}
    (hoid : ∀ getNamespaceName rel ch, DecodingEvent.change getNamespaceName rel ch ∈ evs →
      rel.rdId < 2 ^ 32)
    {frames : List (Option (List UInt8))} {cache : SchemaCache}
    (h : decodingRun A toJson genericClass pg indkey .exit schemaCacheNew evs =
      some (frames, cache)) :
    ∃ mss, List.Forall₂ (fun ms out => ∃ bytes, out = some bytes ∧
        (buildFrame A toJson ms).bind (writeFrame A) = .ok bytes) mss frames ∧
      FollowsSchemas A pg indkey [] evs mss :=
  followsSchemas_of_announced toJson genericClass pg indkey hA hoid announced_new h

/-- A server whose datums are all `int4` values, read as themselves. -/
def int4Datums : PgDatum Int :=
  { getBool := fun _ => false, getFloat4 := fun _ => 0, getFloat8 := fun _ => 0,
    getInt16 := id, getInt32 := id, getInt64 := id, getCash := id,
    getObjectId := Int.toNat, getTransactionId := Int.toNat, getCommandId := Int.toNat,
    getNumeric := fun _ => 0, getDateADT := id, getTimeADT := id,
    getTimeTzADT := fun d => (d, 0), getTimestamp := id, getTimestampTz := id,
    interval2tm := fun _ => (⟨0, 0, 0, 0, 0, 0⟩, 0), getByteaP := fun _ => [],
    getChar := fun _ => 0, getName := fun _ => [], textDatumGetCString := fun _ => [],
    outputFunctionCall := fun _ _ => [], j2date := fun _ => (0, 0, 0) }

/-- A transaction that inserts the row `a = 1` into the table `t` of `oneColumnTable`. -/
def oneInsertSession (xid : UInt32) (commitLsn : UInt64) : List (DecodingEvent Int) :=
  [.begin xid, .change publicNamespace oneColumnTable (.insert fun _ => some 1),
    .commit xid commitLsn]

theorem change_mem_oneInsertSession {xid : UInt32} {commitLsn : UInt64}
    {getNamespaceName : Nat → List UInt8} {rel : TableData} {ch : Change Int}
    (h : DecodingEvent.change getNamespaceName rel ch ∈ oneInsertSession xid commitLsn) :
    getNamespaceName = publicNamespace ∧ rel = oneColumnTable := by
  simp only [oneInsertSession, List.mem_cons, List.not_mem_nil, reduceCtorEq,
    DecodingEvent.change.injEq, false_or, or_false] at h
  exact ⟨h.1, h.2.1⟩

/-- Two transactions that each insert into the table of `oneColumnTable`: the first change's
frame announces the table's schemas, and the second's frame relies on that announcement. -/
theorem twoInsertSessions_followsSchemas :
    ∃ frames cache, decodingRun AvroC.spec (fun _ => bytesOf "t") fieldsRequiredClass int4Datums
        (fun _ => []) .exit schemaCacheNew (oneInsertSession 7 42 ++ oneInsertSession 8 43) =
          some (frames, cache) ∧
      ∃ mss, List.Forall₂ (fun ms out => ∃ bytes, out = some bytes ∧
          (buildFrame AvroC.spec (fun _ => bytesOf "t") ms).bind (writeFrame AvroC.spec) =
            .ok bytes) mss frames ∧
        FollowsSchemas AvroC.spec int4Datums (fun _ => []) []
          (oneInsertSession 7 42 ++ oneInsertSession 8 43) mss := by
  have hrun : (decodingRun AvroC.spec (fun _ => bytesOf "t") fieldsRequiredClass int4Datums
      (fun _ => []) .exit schemaCacheNew
        (oneInsertSession 7 42 ++ oneInsertSession 8 43)).isSome := by
    decide +kernel
  obtain ⟨⟨frames, cache⟩, h⟩ := Option.isSome_iff_exists.mp hrun
  -- both transactions change the one table, whose oid is an `Oid`
  have hoid : ∀ getNamespaceName rel ch, DecodingEvent.change getNamespaceName rel ch ∈
      oneInsertSession 7 42 ++ oneInsertSession 8 43 → rel.rdId < 2 ^ 32 := by
    intro _ _ _ hmem
    rcases List.mem_append.mp hmem with hmem | hmem <;>
      rw [(change_mem_oneInsertSession hmem).2] <;> decide
  exact ⟨frames, cache, h, decodingRun_followsSchemas (fun _ => bytesOf "t") fieldsRequiredClass
    int4Datums (fun _ => []) AvroC.spec_lawful hoid h⟩

/-! ## Schemas sent once -/

/-- The cache remembers the relation as it is: its entry records it, so that a lookup of the
relation in this state finds it unchanged. -/
def Remembers (getNamespaceName : Nat → List UInt8) (rel : TableData) (cache : SchemaCache) :
    Prop :=
  ∃ entry, cache.entries rel.rdId = some entry ∧ Recorded getNamespaceName rel entry

variable {getNamespaceName : Nat → List UInt8} {rel : TableData} (policy : ErrorPolicy)

/-- A callback that keeps the relation as it is keeps it remembered, and its frame announces no
schemas for the relation: a change of the relation finds it unchanged, and a change of another
table can only announce that table's. -/
theorem remembers_decodingStep {cache cache' : SchemaCache}
    (hrem : Remembers getNamespaceName rel cache) (hoid : rel.rdId < 2 ^ 32) {ev : DecodingEvent δ}
    (hev : ∀ getNamespaceName' rel' ch, ev = .change getNamespaceName' rel' ch →
      rel'.rdId < 2 ^ 32 ∧
        (rel'.rdId = rel.rdId → getNamespaceName' = getNamespaceName ∧ rel' = rel))
    {out : Option (List UInt8)}
    (h : decodingStep A toJson genericClass pg indkey policy cache ev = some (out, cache')) :
    Remembers getNamespaceName rel cache' ∧ ∀ bytes, out = some bytes → ∃ ms,
      (buildFrame A toJson ms).bind (writeFrame A) = .ok bytes ∧
      ∀ m ∈ ms, m.tableSchemaOf (UInt32.ofNat rel.rdId) = none := by
  -- a begin or a commit sends its message alone and keeps the cache
  have hmarker : ∀ {m : Message}, m.isTableSchema = false →
      (((buildFrame A toJson [m]).bind (writeFrame A)).toOption.map fun bytes =>
        (some bytes, cache)) = some (out, cache') →
      Remembers getNamespaceName rel cache' ∧ ∀ bytes, out = some bytes → ∃ ms,
        (buildFrame A toJson ms).bind (writeFrame A) = .ok bytes ∧
        ∀ m ∈ ms, m.tableSchemaOf (UInt32.ofNat rel.rdId) = none := by
    intro m hm hw
    obtain ⟨rfl, bytes, rfl, hbytes⟩ := marker_sent toJson hw
    refine ⟨hrem, fun bytes' hb => ⟨[m], ?_, fun m' hm' => ?_⟩⟩
    · cases hb
      exact hbytes
    · rw [List.mem_singleton.mp hm']
      exact tableSchemaOf_of_not_isTableSchema hm _
  cases ev with
  | begin xid => exact hmarker rfl h
  | commit xid commitLsn => exact hmarker rfl h
  | change getNamespaceName' rel' ch =>
    obtain ⟨hoid', hsame⟩ := hev getNamespaceName' rel' ch rfl
    obtain ⟨hcache, hsent⟩ :=
      outputAvroChange_sends toJson genericClass getNamespaceName' pg indkey h
    obtain ⟨entry, hentry, hrecorded⟩ := hrem
    by_cases hrel : rel'.rdId = rel.rdId
    · -- the relation itself, as it was: the lookup finds its entry unchanged
      obtain ⟨rfl, rfl⟩ := hsame hrel
      have hlookup := schemaCacheLookup_of_unchanged genericClass getNamespaceName' hentry
        ((schemaCacheEntryChanged_eq_false_iff getNamespaceName').mpr hrecorded)
      rw [hlookup] at hcache hsent
      refine ⟨hcache ▸ ⟨entry, hentry, hrecorded⟩, fun bytes hb => ?_⟩
      obtain ⟨ms, hframe, hms⟩ := hsent bytes hb
      refine ⟨ms, hframe, fun m hm => ?_⟩
      rcases hms m hm with hrow | ⟨hne, -⟩
      · exact tableSchemaOf_of_not_isTableSchema hrow _
      · exact absurd rfl hne
    · -- another table: its entry moves, and only its own schemas can go out
      refine ⟨⟨entry, ?_, hrecorded⟩, fun bytes hb => ?_⟩
      · rw [hcache, schemaCacheLookup_entries_of_ne genericClass getNamespaceName' _ _
          (Ne.symm hrel)]
        exact hentry
      · obtain ⟨ms, hframe, hms⟩ := hsent bytes hb
        refine ⟨ms, hframe, fun m hm => ?_⟩
        rcases hms m hm with hrow | ⟨-, entry', rowSchema, hentry', rfl⟩
        · exact tableSchemaOf_of_not_isTableSchema hrow _
        · have hrelid := schemaCacheLookup_relid genericClass getNamespaceName' hentry'
          simp [Message.tableSchemaOf, hrelid, uint32_ofNat_ne hoid' hoid hrel]

/-- Along a run of callbacks that keep the relation as it is, no frame announces its schemas. -/
theorem remembers_decodingRun {evs : List (DecodingEvent δ)} (hoid : rel.rdId < 2 ^ 32)
    (hsame : ∀ getNamespaceName' rel' ch, DecodingEvent.change getNamespaceName' rel' ch ∈ evs →
      rel'.rdId < 2 ^ 32 ∧
        (rel'.rdId = rel.rdId → getNamespaceName' = getNamespaceName ∧ rel' = rel)) :
    ∀ {cache cache' : SchemaCache} {frames : List (Option (List UInt8))},
      Remembers getNamespaceName rel cache →
      decodingRun A toJson genericClass pg indkey policy cache evs = some (frames, cache') →
      ∀ out ∈ frames, ∀ bytes, out = some bytes → ∃ ms,
        (buildFrame A toJson ms).bind (writeFrame A) = .ok bytes ∧
        ∀ m ∈ ms, m.tableSchemaOf (UInt32.ofNat rel.rdId) = none := by
  induction evs with
  | nil =>
    intro cache cache' frames _ h
    cases h
    intro out hout
    cases hout
  | cons ev evs ih =>
    intro cache cache' frames hrem h
    obtain ⟨out, cache₁, outs, hstep, hrun, rfl⟩ :=
      decodingRun_cons_eq_some _ toJson genericClass pg indkey policy h
    obtain ⟨hrem₁, hsent⟩ := remembers_decodingStep toJson genericClass pg indkey policy hrem hoid
      (fun g r c hev => hsame g r c (hev ▸ List.mem_cons_self ..)) hstep
    intro out' hout'
    rcases List.mem_cons.mp hout' with rfl | hmem
    · exact hsent
    · exact ih (fun g r c hm => hsame g r c (List.mem_cons_of_mem _ hm)) hrem₁ hrun out' hmem

/-- **A table's schemas go out at most once while it stays as it is.** After any change of a
table, whatever its lookup answered and whatever happened to its frame, no later frame of the
session announces the table's schemas, under any error policy, as long as the table and the
catalog stay as they were (other tables may change). Under the log policy, when the frame that
carried the schemas was not written, or the lookup failed, the client never receives them, and
the rows that follow are sent against schemas it does not have. -/
theorem schemas_not_resent {cache cache₁ : SchemaCache} {ch : Change δ}
    {out : Option (List UInt8)}
    (hfirst : outputAvroChange A toJson genericClass getNamespaceName pg indkey policy cache
      rel ch = some (out, cache₁))
    (hoid : rel.rdId < 2 ^ 32) {evs : List (DecodingEvent δ)}
    (hsame : ∀ getNamespaceName' rel' ch', DecodingEvent.change getNamespaceName' rel' ch' ∈ evs →
      rel'.rdId < 2 ^ 32 ∧
        (rel'.rdId = rel.rdId → getNamespaceName' = getNamespaceName ∧ rel' = rel))
    {frames : List (Option (List UInt8))} {cache₂ : SchemaCache}
    (hrun : decodingRun A toJson genericClass pg indkey policy cache₁ evs = some (frames, cache₂)) :
    ∀ out' ∈ frames, ∀ bytes, out' = some bytes → ∃ ms,
      (buildFrame A toJson ms).bind (writeFrame A) = .ok bytes ∧
      ∀ m ∈ ms, m.tableSchemaOf (UInt32.ofNat rel.rdId) = none := by
  -- the first change leaves an entry that records the table
  have hrem : Remembers getNamespaceName rel cache₁ := by
    rw [(outputAvroChange_sends toJson genericClass getNamespaceName pg indkey hfirst).1]
    exact schemaCacheLookup_recorded genericClass getNamespaceName cache rel
  exact remembers_decodingRun toJson genericClass pg indkey policy hoid hsame hrem hrun

/-- Under the log policy, a second transaction on the table of `oneInsertSession` after a first
insert into it carries no `TableSchema` for it. -/
theorem oneColumnTable_schemas_sent_once :
    ∃ out cache₁ frames cache₂,
      outputAvroChange AvroC.spec (fun _ => bytesOf "t") fieldsRequiredClass publicNamespace int4Datums
          (fun _ => []) .log schemaCacheNew oneColumnTable (.insert fun _ => some 1) =
        some (out, cache₁) ∧
      decodingRun AvroC.spec (fun _ => bytesOf "t") fieldsRequiredClass int4Datums
        (fun _ => []) .log cache₁
          (oneInsertSession 8 43) = some (frames, cache₂) ∧
      ∀ out' ∈ frames, ∀ bytes, out' = some bytes → ∃ ms,
        (buildFrame AvroC.spec (fun _ => bytesOf "t") ms).bind (writeFrame AvroC.spec) = .ok bytes ∧
        ∀ m ∈ ms, m.tableSchemaOf (UInt32.ofNat oneColumnTable.rdId) = none := by
  have hboth : ((outputAvroChange AvroC.spec (fun _ => bytesOf "t") fieldsRequiredClass publicNamespace
      int4Datums (fun _ => []) .log schemaCacheNew oneColumnTable (.insert fun _ => some 1)).bind
        fun first => decodingRun AvroC.spec (fun _ => bytesOf "t") fieldsRequiredClass int4Datums
          (fun _ => []) .log first.2 (oneInsertSession 8 43)).isSome := by
    decide +kernel
  obtain ⟨⟨out, cache₁⟩, hfirst, hrun⟩ := Option.bind_eq_some_iff.mp
    (Option.isSome_iff_exists.mp hboth).choose_spec
  have hsame : ∀ getNamespaceName' rel' (ch' : Change Int),
      DecodingEvent.change getNamespaceName' rel' ch' ∈ oneInsertSession 8 43 →
      rel'.rdId < 2 ^ 32 ∧
        (rel'.rdId = oneColumnTable.rdId →
          getNamespaceName' = publicNamespace ∧ rel' = oneColumnTable) := by
    intro getNamespaceName' rel' ch' h
    obtain ⟨rfl, rfl⟩ := change_mem_oneInsertSession h
    exact ⟨by decide, fun _ => ⟨rfl, rfl⟩⟩
  exact ⟨out, cache₁, _, _, hfirst, hrun,
    schemas_not_resent (fun _ => bytesOf "t") fieldsRequiredClass int4Datums (fun _ => []) .log
      hfirst (by decide) hsame hrun⟩

end Session

/-! ## A frame too large to write

`try_writing` refuses a frame over `MAX_BUFFER_LENGTH`. A row just under that limit fits its own
buffer, but not the frame that carries the table's schemas before it. Under the log policy the
plugin drops that frame and goes on, while the cache still counts the schemas as sent. -/

/-- A server whose datums are all `bytea` values, read as their bytes. -/
def byteaDatums : PgDatum (List UInt8) :=
  { getBool := fun _ => false, getFloat4 := fun _ => 0, getFloat8 := fun _ => 0,
    getInt16 := fun _ => 0, getInt32 := fun _ => 0, getInt64 := fun _ => 0, getCash := fun _ => 0,
    getObjectId := fun _ => 0, getTransactionId := fun _ => 0, getCommandId := fun _ => 0,
    getNumeric := fun _ => 0, getDateADT := fun _ => 0, getTimeADT := fun _ => 0,
    getTimeTzADT := fun _ => (0, 0), getTimestamp := fun _ => 0, getTimestampTz := fun _ => 0,
    interval2tm := fun _ => (⟨0, 0, 0, 0, 0, 0⟩, 0), getByteaP := id,
    getChar := fun _ => 0, getName := fun _ => [], textDatumGetCString := fun _ => [],
    outputFunctionCall := fun _ _ => [], j2date := fun _ => (0, 0, 0) }

/-- The table `t` (relid 16384) with one `bytea` column `b`, no primary key and the default
replica identity, so its rows are sent without a key. -/
def byteaTable : TableData :=
  { rdId := 16384, relname := bytesOf "t", relnamespace := 2200,
    tupdesc := [{ attname := bytesOf "b", atttypid := 17, attisdropped := false }],
    rdId_valid := (by omega), relreplident := .default, replicaIndex := none, indexList := [] }

/-- The row schema `schema_for_table_row` generates for `byteaTable`. -/
def byteaRowSchema : Schema :=
  .record (bytesOf "t") (some (relNamespace (byteaTable.toRelation publicNamespace)))
    [(bytesOf "b", nullable .bytes)]

/-- The cache after the first lookup of `byteaTable` in a new cache. -/
def byteaCache : SchemaCache :=
  (schemaCacheLookup fieldsRequiredClass publicNamespace schemaCacheNew byteaTable).2.2

/-- The frame with the `TableSchema` of `byteaTable` and an insert of `rowBytes` without a key
does not fit `try_writing`'s buffer when the row takes from 1048555 to 1048571 bytes. -/
theorem byteaFrame_enospc {rowBytes : List UInt8} (hlo : 1048555 ≤ rowBytes.length)
    (hhi : rowBytes.length ≤ 1048571) :
    writeFrame AvroC.spec (frameValue ([Value.union (some (2, Value.record [Value.long 16384,
      Value.union (some (0, Value.null)), Value.string (bytesOf "t")]))] ++
      [.union (some (protocolMsgInsert, .record [.long (UInt32.ofNat byteaTable.rdId).toNat,
        nullableBytesValue none, .bytes rowBytes]))])) = .error Binary.enospc := by
  simp only [writeFrame, AvroC.spec, Binary.write, Binary.writeAll, frameValue,
    nullableBytesValue, Except.bind, Except.map, List.cons_append, List.nil_append,
    List.length_cons]
  rw [tryWriting_ok, if_neg]
  -- the relid and the row's length each take three bytes, every other long one
  have h16384 : (Binary.writeLong 16384).length = 3 :=
    Binary.length_writeLong_three (by omega) (by omega)
  have hrelid : (UInt32.ofNat byteaTable.rdId).toNat = 16384 := rfl
  have hrowl : (Binary.writeLong rowBytes.length).length = 3 :=
    Binary.length_writeLong_three (by omega) (by omega)
  simp only [List.length_append, List.length_cons, List.length_nil, hrelid, h16384, hrowl]
  simp [Binary.writeLong_small, protocolMsgInsert, bytesOf, maxBufferLength, varhdrsz]
  omega

/-- **The first insert of a row just under 1 MiB is dropped.** Under the log policy, from a new
cache, the lookup reports `byteaTable` new; the row of `b.length + 4` bytes fits, the frame with
the table's schemas before it does not, and the plugin sends nothing and keeps the cache the
lookup left. -/
theorem byteaInsert_not_sent (b : List UInt8) (hlo : 1048560 ≤ b.length)
    (hhi : b.length ≤ 1048567) :
    outputAvroChange AvroC.spec (fun _ => bytesOf "t") fieldsRequiredClass publicNamespace
        byteaDatums (fun _ => []) .log schemaCacheNew byteaTable (.insert fun _ => some b) =
      some (none, byteaCache) := by
  obtain ⟨entry, hl, hk, hr, hv, hid⟩ : ∃ entry,
      schemaCacheLookup fieldsRequiredClass publicNamespace schemaCacheNew byteaTable =
        (2, some entry, byteaCache) ∧
      entry.keySchema = none ∧ entry.rowSchema = some byteaRowSchema ∧
      entry.rowValue = some (fresh byteaRowSchema) ∧ entry.relid = 16384 :=
    ⟨_, rfl, rfl, rfl, rfl, rfl⟩
  have hrowLen : (Binary.writeLong 1 ++ (Binary.writeLong b.length ++ b) ++ []).length =
      b.length + 4 := by
    simp [Binary.length_writeLong_three (n := b.length) (by omega) (by omega),
      Binary.writeLong_small]
    omega
  -- the row alone fits `try_writing`'s buffer
  have henc : encodeRow AvroC.spec byteaDatums entry byteaTable.tupdesc (fun _ => some b) =
      some (.ok (Binary.writeLong 1 ++ (Binary.writeLong b.length ++ b) ++ [])) := by
    have hwrite : encodeRow AvroC.spec byteaDatums entry byteaTable.tupdesc (fun _ => some b) =
        some (tryWriting (.ok (Binary.writeLong 1 ++ (Binary.writeLong b.length ++ b) ++ []))) := by
      simp only [encodeRow, hr, hv]
      rfl
    rw [hwrite, tryWriting_ok, if_pos (by rw [hrowLen]; simp [maxBufferLength, varhdrsz]; omega)]
  have hkey : extractTupleKey AvroC.spec byteaDatums (fun _ => []) entry byteaTable
      byteaTable.tupdesc (fun _ => some b) = some (.ok none) := by
    simp [extractTupleKey, hk]
  simp only [outputAvroChange, updateFrameWithInsert, Emit.withEntry, hl]
  rw [hkey, henc, if_neg (by decide), if_pos (by decide)]
  -- the lookup reported a change, so the schemas go into the frame first
  have hts : updateFrameWithTableSchemaOf AvroC.spec (fun _ => bytesOf "t") entry byteaCache
      (frameValue []) = some (byteaCache, frameValue [.union (some (2, .record [.long 16384,
        .union (some (0, .null)), .string (bytesOf "t")]))], 0) := by
    simp only [updateFrameWithTableSchemaOf, hr, hk, hid, Emit.append,
      Message.writer_frame AvroC.spec_lawful]
    rfl
  simp only [Emit.check, hts, Option.bind_some, if_true, Emit.encode, Emit.append,
    Message.writer_frame AvroC.spec_lawful]
  simp only [Message.value, Except.map, writeChangeFrame, Option.bind_some, ne_eq,
    not_true_eq_false, if_false]
  rw [byteaFrame_enospc (by rw [hrowLen]; omega) (by rw [hrowLen]; omega)]
  rfl

/-- The next insert, of a one-byte row, finds the table unchanged and sends its insert alone. -/
theorem byteaInsert_after_lookup :
    (outputAvroChange AvroC.spec (fun _ => bytesOf "t") fieldsRequiredClass publicNamespace
        byteaDatums (fun _ => []) .log byteaCache byteaTable (.insert fun _ => some [1])).map
          Prod.fst = some (some [2, 6, 128, 128, 2, 0, 6, 2, 2, 1, 0]) := by
  decide +kernel

/-- **A row reaches the client before any schema of its table.** Under the log policy, one
transaction inserts into `byteaTable` a row of 1048560 bytes, then the row `b = [1]`. The first
insert's frame is dropped (`byteaInsert_not_sent`), and the second's is the insert alone, since
the cache counts the schemas as sent (`schemas_not_resent`). The client, with the table active and
no schema received, reports an unknown relid on it. -/
theorem oversized_frame_row_without_schema :
    ∃ beginBytes bytes commitBytes cache,
      decodingRun AvroC.spec (fun _ => bytesOf "t") fieldsRequiredClass byteaDatums (fun _ => [])
          .log schemaCacheNew
          [.begin 7,
            .change publicNamespace byteaTable (.insert fun _ => some (List.replicate 1048560 0)),
            .change publicNamespace byteaTable (.insert fun _ => some [1]), .commit 7 42] =
        some ([some beginBytes, none, some bytes, some commitBytes], cache) ∧
      (buildFrame AvroC.spec (fun _ => bytesOf "t") [.insert 16384 none [2, 2, 1]]).bind
          (writeFrame AvroC.spec) = .ok bytes ∧
      (parseFrame AvroC.spec (recording noErrorHandler) (fun _ => .ok idRowSchema) 0 bytes ((), [])
          { frameReaderNew with activeSchemaList := [16384] }).map (fun out => out.1.2) =
        some [.error einval (.unknownRelid .insert 16384)] := by
  have hbig := byteaInsert_not_sent (List.replicate 1048560 0) (by rw [List.length_replicate])
    (by rw [List.length_replicate]; omega)
  obtain ⟨⟨out, cache⟩, hsmall, hout⟩ := Option.map_eq_some_iff.mp byteaInsert_after_lookup
  -- the transaction's begin and commit frames are written
  obtain ⟨beginBytes, hbegin⟩ := Option.isSome_iff_exists.mp
    (show (outputAvroBeginTxn AvroC.spec (fun _ => bytesOf "t") 7).isSome by decide +kernel)
  obtain ⟨commitBytes, hcommit⟩ := Option.isSome_iff_exists.mp
    (show (outputAvroCommitTxn AvroC.spec (fun _ => bytesOf "t") 7 42).isSome by decide +kernel)
  dsimp only at hout
  subst hout
  refine ⟨beginBytes, [2, 6, 128, 128, 2, 0, 6, 2, 2, 1, 0], commitBytes, cache, ?_,
    by decide +kernel, ?_⟩
  · -- the run, one callback at a time
    rw [decodingRun, decodingStep, hbegin, Option.map_some, Option.bind_some]
    dsimp only
    rw [decodingRun, decodingStep, hbig, Option.bind_some]
    dsimp only
    rw [decodingRun, decodingStep, hsmall, Option.bind_some]
    dsimp only
    rw [decodingRun, decodingStep, hcommit, Option.map_some, Option.bind_some]
    dsimp only
    rw [decodingRun]
    rfl
  · set_option maxRecDepth 4000 in rfl

end BottledWater
