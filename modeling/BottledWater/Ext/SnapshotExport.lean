import BottledWater.Ext.DecodingSession

set_option autoImplicit false

/-! # The snapshot export (`ext/snapshot.c`)

`bottledwater_export` is the set-returning function the client's snapshot query calls. It lists
the tables to export (`get_table_list`), then opens each in turn and returns every row of it as a
frame of its own (`format_snapshot_row`), through one schema cache that starts empty.

`get_table_list` accepts the rows of its catalog query exactly when no table comes twice and,
unless unkeyed tables are allowed, every table has a key index (`getTableList_eq_ok`). Under the
exit policy the frames are then exactly what `exportMessages` says: a table's first row goes out
after its key and row schemas, as generated from the relation, and every row as an insert
encoded under them. The first row of a table meets a cache with no entry for it, which is
rebuilt and answers `2`; every later row meets the entry the first left, recorded and unchanged,
which answers `0` (`exportRows_recorded`).
-/

namespace BottledWater

open Avro

/-! ## The table list -/

/-- A row of `get_table_list`'s catalog query: the table's oid, namespace, name and replica
identity, and the name of its key index, `NULL` when the join found none. -/
structure TableListRow where
  oid : Nat
  nspname : List UInt8
  relname : List UInt8
  replIdent : ReplicaIdentity
  indname : Option (List UInt8)
  deriving DecidableEq, Repr

/-- How `get_table_list` ends in `elog(ERROR)`. -/
inductive TableListError
  /-- a table the query returned twice, keyed by two indexes -/
  | ambiguousKey (relname : List UInt8) (indexName otherIndexName : Option (List UInt8))
  /-- the lines listing the unkeyed tables, when these are not allowed -/
  | unkeyed (errors : List UInt8)
  deriving DecidableEq, Repr

section TableList

variable (quote : List UInt8 → List UInt8 → List UInt8)

/-- The line `get_table_list` appends to its errors for a table with no key index, with
`quote` the catalog's `quote_qualified_identifier`; nothing for a keyed table. -/
def unkeyedLine (row : TableListRow) : List UInt8 :=
  match row.indname with
  | some _ => []
  | none =>
    if row.replIdent = .nothing then
      bytesOf "\t" ++ quote row.nspname row.relname ++
        bytesOf " is using REPLICA IDENTITY NOTHING.\n"
    else bytesOf "\t" ++ quote row.nspname row.relname ++ bytesOf " does not have a primary key.\n"

/-- The loop of `get_table_list` over the query's rows, with the tables taken so far and the
errors so far: a table whose oid an earlier row had is `elog(ERROR)`. -/
def getTableListLoop : List TableListRow → List TableListRow → List UInt8 →
    Except TableListError (List TableListRow × List UInt8)
  | [], tables, errors => .ok (tables, errors)
  | row :: rows, tables, errors =>
    let errors := errors ++ unkeyedLine quote row
    match tables.find? fun table => table.oid = row.oid with
    | some other => .error (.ambiguousKey row.relname row.indname other.indname)
    | none => getTableListLoop rows (tables ++ [row]) errors

/-- `get_table_list`: the tables in the query's order; the errors end the export unless unkeyed
tables are allowed. -/
def getTableList (allowUnkeyed : Bool) (rows : List TableListRow) :
    Except TableListError (List TableListRow) :=
  (getTableListLoop quote rows [] []).bind fun listed =>
    if 0 < listed.2.length ∧ allowUnkeyed = false then .error (.unkeyed listed.2) else .ok listed.1

theorem unkeyedLine_eq_nil_iff (row : TableListRow) :
    unkeyedLine quote row = [] ↔ row.indname.isSome := by
  unfold unkeyedLine
  cases row.indname with
  | some _ => simp
  | none =>
    -- both lines start with a tab
    split_ifs <;> simp [bytesOf]

/-- The error lines of the rows are empty exactly when every row has a key index. -/
theorem flatten_unkeyedLine_eq_nil_iff (rows : List TableListRow) :
    (rows.map (unkeyedLine quote)).flatten = [] ↔ ∀ row ∈ rows, row.indname.isSome := by
  simp [List.flatten_eq_nil_iff, unkeyedLine_eq_nil_iff]

/-- A row whose oid no earlier table has is taken, and its line appended. -/
theorem getTableListLoop_cons_of_find? {row : TableListRow} {rows tables : List TableListRow}
    (errors : List UInt8) (h : tables.find? (fun table => table.oid = row.oid) = none) :
    getTableListLoop quote (row :: rows) tables errors =
      getTableListLoop quote rows (tables ++ [row]) (errors ++ unkeyedLine quote row) := by
  simp only [getTableListLoop, h]

theorem find?_oid_eq_none_iff (row : TableListRow) (tables : List TableListRow) :
    tables.find? (fun table => table.oid = row.oid) = none ↔
      row.oid ∉ tables.map TableListRow.oid := by
  simp [List.find?_eq_none]

/-- **Distinct oids go through the loop**: it takes every row in order and appends the line of
each. -/
theorem getTableListLoop_of_nodup {rows tables : List TableListRow} (errors : List UInt8)
    (h : ((tables ++ rows).map TableListRow.oid).Nodup) :
    getTableListLoop quote rows tables errors =
      .ok (tables ++ rows, errors ++ (rows.map (unkeyedLine quote)).flatten) := by
  induction rows generalizing tables errors with
  | nil => simp [getTableListLoop]
  | cons row rows ih =>
    rw [List.map_append, List.map_cons, List.nodup_middle, List.nodup_cons] at h
    obtain ⟨hnotin, hrest⟩ := h
    have hseen : row.oid ∉ tables.map TableListRow.oid :=
      fun hm => hnotin (List.mem_append_left _ hm)
    have hrest' : ((tables ++ [row] ++ rows).map TableListRow.oid).Nodup := by
      rw [List.map_append, List.map_append, List.map_singleton, List.append_assoc,
        List.singleton_append, List.nodup_middle, List.nodup_cons]
      exact ⟨hnotin, hrest⟩
    rw [getTableListLoop_cons_of_find? quote errors ((find?_oid_eq_none_iff row tables).mpr hseen),
      ih _ hrest']
    simp

/-- A repeated oid ends the loop in an error, from tables with distinct oids. -/
theorem getTableListLoop_error_of_not_nodup {rows tables : List TableListRow} (errors : List UInt8)
    (htables : (tables.map TableListRow.oid).Nodup)
    (h : ¬((tables ++ rows).map TableListRow.oid).Nodup) :
    ∃ err, getTableListLoop quote rows tables errors = .error err := by
  induction rows generalizing tables errors with
  | nil => exact absurd (by simpa using htables) h
  | cons row rows ih =>
    cases hfind : tables.find? fun table => table.oid = row.oid with
    | some other =>
      exact ⟨.ambiguousKey row.relname row.indname other.indname,
        by simp only [getTableListLoop, hfind]⟩
    | none =>
      -- the row is new, and the repetition lies further on
      have hseen := (find?_oid_eq_none_iff row tables).mp hfind
      have htables' : ((tables ++ [row]).map TableListRow.oid).Nodup := by
        rw [List.map_append, List.map_singleton, List.nodup_append_comm]
        exact List.nodup_cons.mpr ⟨hseen, htables⟩
      rw [getTableListLoop_cons_of_find? quote errors hfind]
      exact ih _ htables' (by simpa using h)

/-- **What the table list accepts**: the rows of the catalog query, in order, exactly when no
table comes twice and, unless unkeyed tables are allowed, every table has a key index. -/
theorem getTableList_eq_ok {allowUnkeyed : Bool} {rows tables : List TableListRow} :
    getTableList quote allowUnkeyed rows = .ok tables ↔
      tables = rows ∧ (rows.map TableListRow.oid).Nodup ∧
        (allowUnkeyed = false → ∀ row ∈ rows, row.indname.isSome) := by
  by_cases hnodup : (rows.map TableListRow.oid).Nodup
  · rw [getTableList, getTableListLoop_of_nodup quote [] (by simpa using hnodup)]
    simp only [Except.bind, List.nil_append, List.length_pos_iff, ne_eq,
      flatten_unkeyedLine_eq_nil_iff]
    -- the lines end the export exactly when a table is unkeyed and these are not allowed
    split_ifs with hfail
    · simp only [false_iff, not_and]
      exact fun _ _ hkeyed => hfail.1 (hkeyed hfail.2)
    · simp only [Except.ok.injEq, hnodup, true_and]
      constructor
      · rintro rfl
        exact ⟨rfl, fun hno => not_not.mp fun hunkeyed => hfail ⟨hunkeyed, hno⟩⟩
      · rintro ⟨rfl, -⟩
        rfl
  · obtain ⟨err, herr⟩ : ∃ err, getTableListLoop quote rows [] [] = .error err :=
      getTableListLoop_error_of_not_nodup quote [] List.nodup_nil (by simpa using hnodup)
    simp [getTableList, herr, Except.bind, hnodup]

end TableList

/-! ## The export -/

/-- A table as `open_next_table` reads it: the relation `get_table_list` opened, the descriptor
of the cursor's `SELECT *`, without the dropped columns, and the rows the cursor returns. -/
structure ExportTable (δ : Type) where
  rel : TableData
  tupdesc : List Attribute
  rows : List (Nat → Option δ)

section Export

variable (A : AvroC) (toJson : Schema → List UInt8) (genericClass : Schema → Bool)
  (getNamespaceName : Nat → List UInt8) {δ : Type} (pg : PgDatum δ)
  (indkey : IndexData → List Nat)

/-- The rows of the table being exported, each by `format_snapshot_row`: the frames the function
returns, a `NULL` row apart, and the cache; `none` where the export ends in an error. -/
def exportRows (policy : ErrorPolicy) (rel : TableData) (tupdesc : List Attribute) :
    SchemaCache → List (Nat → Option δ) → Option (List (List UInt8) × SchemaCache)
  | cache, [] => some ([], cache)
  | cache, tuple :: tuples =>
    (formatSnapshotRow A toJson genericClass getNamespaceName pg indkey policy cache rel tupdesc
      tuple).bind fun (out, cache) =>
    (exportRows policy rel tupdesc cache tuples).map fun (frames, cache) =>
      (out.toList ++ frames, cache)

/-- The tables one after the other, the loop of `bottledwater_export` that moves to the next
table when the cursor has no more rows. -/
def exportTables (policy : ErrorPolicy) :
    SchemaCache → List (ExportTable δ) → Option (List (List UInt8) × SchemaCache)
  | cache, [] => some ([], cache)
  | cache, table :: tables =>
    (exportRows A toJson genericClass getNamespaceName pg indkey policy table.rel
      table.tupdesc cache table.rows).bind fun (frames, cache) =>
    (exportTables policy cache tables).map fun (frames', cache) => (frames ++ frames', cache)

/-- `bottledwater_export`: the table list, then the tables in its order from the cache
`schema_cache_new` makes; `openTable` is the database in the export's snapshot, the relation,
descriptor and rows each listed table is read with. -/
def bottledwaterExport (quote : List UInt8 → List UInt8 → List UInt8) (policy : ErrorPolicy)
    (allowUnkeyed : Bool) (rows : List TableListRow) (openTable : TableListRow → ExportTable δ) :
    Option (List (List UInt8)) :=
  match getTableList quote allowUnkeyed rows with
  | .error _ => none
  | .ok tables =>
      (exportTables A toJson genericClass getNamespaceName pg indkey policy schemaCacheNew
      (tables.map openTable)).map Prod.fst

/-- **The frames a table's export should return**: none for a table without rows; else its first
row's frame starts with the table's key and row schemas, as the relation generates them, and each
row is an insert encoded under them. `none` when the relation generates no row schema. -/
def ExportTable.messages (table : ExportTable δ) : Option (List (List Message)) :=
  match table.rows with
  | [] => some []
  | tuple :: tuples =>
    (schemaForTableRow (table.rel.toRelation getNamespaceName)).2.map fun rowSchema =>
      let keySchema := (schemaForTableKey getNamespaceName table.rel).2
      let insert := fun tuple =>
        (insertMessagesWith A pg indkey keySchema rowSchema table.rel table.tupdesc tuple).getD []
      ([.tableSchema (UInt32.ofNat table.rel.rdId) keySchema rowSchema] ++ insert tuple) ::
        tuples.map insert

/-- The frames the tables' export should return, table after table. -/
def exportMessages : List (ExportTable δ) → Option (List (List Message))
  | [] => some []
  | table :: tables =>
    (table.messages A getNamespaceName pg indkey).bind fun ms =>
      (exportMessages tables).map (ms ++ ·)

variable {A}

/-- **The rows after a table's first**: with the table's entry in the cache, recorded and current,
every row's frame is the insert of the row under the entry's schemas, and the cache stays as it
is. -/
theorem exportRows_recorded (hA : A.Lawful) {rel : TableData} {tupdesc : List Attribute} {cache : SchemaCache}
    {entry : SchemaCacheEntry} {rowSchema : Schema} (hbuilt : CacheBuilt cache)
    (hentry : cache.entries rel.rdId = some entry) (hrec : Recorded getNamespaceName rel entry)
    (hrow : entry.rowSchema = some rowSchema) :
    ∀ {tuples : List (Nat → Option δ)} {frames : List (List UInt8)} {cache' : SchemaCache},
      exportRows A toJson genericClass getNamespaceName pg indkey .exit rel tupdesc cache tuples =
        some (frames, cache') →
      cache' = cache ∧
        List.Forall₂ (fun ms bytes => (buildFrame A toJson ms).bind (writeFrame A) = .ok bytes)
        (tuples.map fun tuple =>
          (insertMessagesWith A pg indkey entry.keySchema rowSchema rel tupdesc tuple).getD [])
        frames := by
  -- the lookup of every row finds the entry unchanged
  have hlookup :
      schemaCacheLookup genericClass getNamespaceName cache rel = (0, some entry, cache) :=
    schemaCacheLookup_of_unchanged genericClass getNamespaceName hentry
      ((schemaCacheEntryChanged_eq_false_iff getNamespaceName).mpr hrec)
  intro tuples
  induction tuples with
  | nil =>
    intro frames cache' h
    cases h
    exact ⟨rfl, .nil⟩
  | cons tuple tuples ih =>
    intro frames cache' h
    obtain ⟨⟨out, cache₁⟩, hformat, hrest⟩ := Option.bind_eq_some_iff.mp h
    obtain ⟨⟨frames₁, cache₂⟩, hrun, heq⟩ := Option.map_eq_some_iff.mp hrest
    cases heq
    obtain ⟨bytes, changed, entry', rowSchema', rfl, hl, -, -, hrow', hframe⟩ :=
      formatSnapshotRow_exit toJson genericClass getNamespaceName pg indkey hA hbuilt hformat
    rw [hlookup] at hl
    obtain ⟨rfl, rfl, rfl⟩ : 0 = changed ∧ entry = entry' ∧ cache = cache₁ := by simpa using hl
    obtain rfl : rowSchema = rowSchema' := Option.some.inj (hrow.symm.trans hrow')
    obtain ⟨rfl, hframes⟩ := ih hrun
    refine ⟨rfl, .cons ?_ hframes⟩
    simpa [schemaPrefix] using hframe

/-- **A table's export from a cache with no entry for it**: its frames are those
`ExportTable.messages` says; the cache stays built without an error, and only the table's own
entry changes. -/
theorem exportRows_new (hA : A.Lawful) {table : ExportTable δ} {cache cache' : SchemaCache}
    {frames : List (List UInt8)} (hbuilt : CacheBuilt cache)
    (hnone : cache.entries table.rel.rdId = none)
    (h : exportRows A toJson genericClass getNamespaceName pg indkey .exit table.rel
      table.tupdesc cache table.rows = some (frames, cache')) :
    CacheBuilt cache' ∧
      (∀ relid, relid ≠ table.rel.rdId → cache'.entries relid = cache.entries relid) ∧
      ∃ ms, table.messages A getNamespaceName pg indkey = some ms ∧
        List.Forall₂ (fun ms bytes => (buildFrame A toJson ms).bind (writeFrame A) = .ok bytes) ms
          frames := by
  rcases table with ⟨rel, tupdesc, _ | ⟨tuple, tuples⟩⟩
  all_goals dsimp only at hnone h ⊢
  · cases h
    exact ⟨hbuilt, fun _ _ => rfl, [], rfl, .nil⟩
  obtain ⟨⟨out, cache₁⟩, hformat, hrest⟩ := Option.bind_eq_some_iff.mp h
  obtain ⟨⟨frames₁, cache₂⟩, hrun, heq⟩ := Option.map_eq_some_iff.mp hrest
  cases heq
  obtain ⟨bytes, changed, entry, rowSchema, rfl, hl, hc, hcur, hrow, hframe⟩ :=
    formatSnapshotRow_exit toJson genericClass getNamespaceName pg indkey hA hbuilt hformat
  -- the first row's lookup builds the entry: the table is new to the cache
  have hcode : (schemaCacheLookup genericClass getNamespaceName cache rel).1 = 2 := by
    rcases schemaCacheLookup_of_none genericClass getNamespaceName hnone with h2 | hneg
    · exact h2
    · rw [hl] at hneg
      exact absurd hc (not_le.mpr hneg)
  obtain ⟨entry', hentry', hstored, hrec, -⟩ :=
    schemaCacheLookup_rebuilt genericClass getNamespaceName (.inr hcode)
  rw [hl] at hentry' hstored hcode
  obtain rfl := Option.some.inj hentry'
  have hbuilt₁ : CacheBuilt cache₁ := by
    have hcode₀ : 0 ≤ (schemaCacheLookup genericClass getNamespaceName cache rel).1 := by
      rw [hl]
      exact hc
    have := cacheBuilt_schemaCacheLookup genericClass getNamespaceName hbuilt hcode₀
    rwa [hl] at this
  -- the later rows meet the entry the first left
  obtain ⟨rfl, hframes⟩ :=
    exportRows_recorded toJson genericClass getNamespaceName pg indkey hA hbuilt₁ hstored hrec hrow hrun
  refine ⟨hbuilt₁, fun relid hne => ?_, ?_⟩
  · have := schemaCacheLookup_entries_of_ne genericClass getNamespaceName cache rel hne
    rwa [hl] at this
  · -- the entry holds the schemas the relation generates
    have hms : ExportTable.messages A getNamespaceName pg indkey ⟨rel, tupdesc, tuple :: tuples⟩ =
        some (([.tableSchema (UInt32.ofNat rel.rdId) entry.keySchema rowSchema] ++
            (insertMessagesWith A pg indkey entry.keySchema rowSchema rel tupdesc tuple).getD []) ::
          tuples.map fun tuple =>
            (insertMessagesWith A pg indkey entry.keySchema rowSchema rel tupdesc tuple).getD []) := by
      simp [ExportTable.messages, ← hcur.rowSchema_eq, hrow, ← hcur.keySchema_eq]
    have hcode : changed = 2 := hcode
    refine ⟨_, hms, .cons ?_ hframes⟩
    simpa [schemaPrefix, hcode, hrec.relid] using hframe

/-- The tables' export from a cache built without an error with no entry for any of them, their
oids distinct: the frames are those `exportMessages` says. -/
theorem exportTables_exit (hA : A.Lawful) :
    ∀ {tables : List (ExportTable δ)} {cache cache' : SchemaCache} {frames : List (List UInt8)},
      CacheBuilt cache → (tables.map fun table => table.rel.rdId).Nodup →
      (∀ table ∈ tables, cache.entries table.rel.rdId = none) →
      exportTables A toJson genericClass getNamespaceName pg indkey .exit cache tables =
        some (frames, cache') →
      ∃ mss, exportMessages A getNamespaceName pg indkey tables = some mss ∧
        List.Forall₂ (fun ms bytes => (buildFrame A toJson ms).bind (writeFrame A) = .ok bytes) mss frames
  | [], _, _, _, _, _, _, h => by
    cases h
    exact ⟨[], rfl, .nil⟩
  | table :: tables, cache, cache', frames, hbuilt, hnodup, hnone, h => by
    obtain ⟨⟨frames₁, cache₁⟩, hrows, hrest⟩ := Option.bind_eq_some_iff.mp h
    obtain ⟨⟨frames₂, cache₂⟩, hrun, heq⟩ := Option.map_eq_some_iff.mp hrest
    cases heq
    obtain ⟨hfresh, hnodup'⟩ := List.nodup_cons.mp hnodup
    obtain ⟨hbuilt₁, hother, ms, hms, hframes₁⟩ :=
      exportRows_new toJson genericClass getNamespaceName pg indkey hA hbuilt
        (hnone table List.mem_cons_self) hrows
    -- the table's export touched no other table's entry
    have hnone' : ∀ table' ∈ tables, cache₁.entries table'.rel.rdId = none := by
      intro table' hmem
      have hne : table'.rel.rdId ≠ table.rel.rdId := by
        rintro heq
        exact hfresh (List.mem_map.mpr ⟨table', hmem, heq⟩)
      rw [hother _ hne]
      exact hnone table' (List.mem_cons_of_mem _ hmem)
    obtain ⟨mss, hmss, hframes₂⟩ := exportTables_exit hA hbuilt₁ hnodup' hnone' hrun
    refine ⟨ms ++ mss, ?_, List.rel_append hframes₁ hframes₂⟩
    simp [exportMessages, hms, hmss]

/-- **What the snapshot export returns under the exit policy**: when it returns, the catalog
query listed no table twice and, unless unkeyed tables were allowed, only tables with a key
index; and its frames are, table after table in the query's order, the table's schemas with its
first row and an insert for every row, encoded under the schemas the relation generates. -/
theorem bottledwaterExport_frames (hA : A.Lawful) (quote : List UInt8 → List UInt8 → List UInt8)
    {allowUnkeyed : Bool} {rows : List TableListRow} {openTable : TableListRow → ExportTable δ}
    (hopen : ∀ row ∈ rows, (openTable row).rel.rdId = row.oid) {frames : List (List UInt8)}
    (h : bottledwaterExport A toJson genericClass getNamespaceName pg indkey quote .exit
      allowUnkeyed rows openTable = some frames) :
    (rows.map TableListRow.oid).Nodup ∧ (allowUnkeyed = false → ∀ row ∈ rows, row.indname.isSome) ∧
      ∃ mss, exportMessages A getNamespaceName pg indkey (rows.map openTable) = some mss ∧
        List.Forall₂ (fun ms bytes => (buildFrame A toJson ms).bind (writeFrame A) = .ok bytes) mss
          frames := by
  unfold bottledwaterExport at h
  cases hlist : getTableList quote allowUnkeyed rows with
  | error err =>
    rw [hlist] at h
    cases h
  | ok tables =>
    rw [hlist] at h
    obtain ⟨rfl, hnodup, hkeyed⟩ := (getTableList_eq_ok quote).mp hlist
    obtain ⟨⟨frames', cache⟩, hrun, rfl⟩ := Option.map_eq_some_iff.mp h
    -- the opened relations have the listed oids, so distinct ones
    have hoids : ((tables.map openTable).map fun table => table.rel.rdId) =
        tables.map TableListRow.oid := by
      rw [List.map_map]
      exact List.map_congr_left hopen
    refine ⟨hnodup, hkeyed, exportTables_exit toJson genericClass getNamespaceName pg indkey hA
      cacheBuilt_new (hoids ▸ hnodup) (fun _ _ => rfl) hrun⟩

end Export

/-- `quote_qualified_identifier` of names that need no quotes. -/
def qualifiedName (nspname relname : List UInt8) : List UInt8 :=
  nspname ++ bytesOf "." ++ relname

/-- The catalog query's rows for two tables of `public` without a key index: `t` and `u`. -/
def twoTableRows : List TableListRow :=
  [⟨16384, bytesOf "public", bytesOf "t", .default, none⟩,
    ⟨16385, bytesOf "public", bytesOf "u", .default, none⟩]

/-- The table `u`: the columns of `oneColumnTable` under the oid `16385`. -/
def otherColumnTable : TableData :=
  { oneColumnTable with rdId := 16385, relname := bytesOf "u", rdId_valid := by decide }

/-- The listed tables as the export opens them: `t` holding the rows `a = 1` and `a = 2`, and `u`
holding the row `a = 3`. -/
def twoTables (row : TableListRow) : ExportTable Int :=
  if row.oid = 16384 then
    ⟨oneColumnTable, oneColumnTable.tupdesc, [fun _ => some 1, fun _ => some 2]⟩
  else ⟨otherColumnTable, otherColumnTable.tupdesc, [fun _ => some 3]⟩

/-- The export of the two tables: their oids are distinct, and the frames are those of `t`, its
schemas with its first row and then its second row, followed by those of `u`. -/
theorem twoTables_export_frames :
    ∃ frames, bottledwaterExport AvroC.spec (fun _ => bytesOf "t") fieldsRequiredClass
        publicNamespace int4Datums (fun _ => []) qualifiedName .exit true twoTableRows twoTables =
        some frames ∧
      (twoTableRows.map TableListRow.oid).Nodup ∧
      (true = false → ∀ row ∈ twoTableRows, row.indname.isSome) ∧
      ∃ mss, exportMessages AvroC.spec publicNamespace int4Datums (fun _ => [])
          (twoTableRows.map twoTables) = some mss ∧
        List.Forall₂ (fun ms bytes =>
          (buildFrame AvroC.spec (fun _ => bytesOf "t") ms).bind (writeFrame AvroC.spec) =
            .ok bytes) mss frames := by
  have hrun : (bottledwaterExport AvroC.spec (fun _ => bytesOf "t") fieldsRequiredClass
      publicNamespace int4Datums (fun _ => []) qualifiedName .exit true twoTableRows
      twoTables).isSome := by
    decide +kernel
  obtain ⟨frames, h⟩ := Option.isSome_iff_exists.mp hrun
  -- each listed row opens the table of its oid
  have hopen : ∀ row ∈ twoTableRows, (twoTables row).rel.rdId = row.oid := by
    intro row hrow
    simp only [twoTableRows, List.mem_cons, List.not_mem_nil, or_false] at hrow
    rcases hrow with rfl | rfl <;> rfl
  exact ⟨frames, h, bottledwaterExport_frames (fun _ => bytesOf "t") fieldsRequiredClass
    publicNamespace int4Datums (fun _ => []) AvroC.spec_lawful qualifiedName hopen h⟩

end BottledWater
