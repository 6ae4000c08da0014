import BottledWater.Client.Connect
import BottledWater.Client.Replication
import BottledWater.Lib.CFormat
import BottledWater.Lib.Transcript

set_option autoImplicit false

/-! # Starting the client (`client/connect.c`, `client/replication.c`)

`db_client_start` opens the SQL and the replication connection, checks that the replication
connection is bound to a database (`IDENTIFY_SYSTEM`), and asks whether the replication slot
exists. An existing slot is streamed from its `restart_lsn`; otherwise the slot is created, and
the `consistent_point` and the name of the snapshot the server exported with it come back in the
answer. Unless the snapshot is skipped, the SQL connection then opens a transaction in that
snapshot and dispatches `bottledwater_export`; streaming starts only after the export. Both LSNs
come as text, `%X/%X`, and the client writes its start position back in the same form in
`START_REPLICATION`.

Every call to libpq and the application's `on_begin_txn` is a request of a `Transcript`, answered
by `StartEnv`. `dbClientStart_ok` says what every start that succeeds sent and what it leaves;
`scanLsn_formatLsn` that the position the client writes reads back as itself.
-/

namespace BottledWater

open Avro CFormat

/-! ## What libpq answers -/

/-- `ExecStatusType`. -/
inductive ExecStatus
  | emptyQuery
  | commandOk
  | tuplesOk
  | copyOut
  | copyIn
  | badResponse
  | nonfatalError
  | fatalError
  | copyBoth
  | singleTuple
  deriving DecidableEq, Repr

/-- A command's result as the client reads it (`PGresult`): its status, its number of fields, its
rows with a value or `NULL` in each field, and `PQresultErrorMessage`. -/
structure PGResult where
  status : ExecStatus
  nfields : Nat
  rows : List (List (Option (List UInt8)))
  errorMessage : List UInt8
  rows_length : ∀ row ∈ rows, row.length = nfields

/-- `PQntuples`. -/
def PGResult.ntuples (res : PGResult) : Nat := res.rows.length

/-- A field of a row; `none` for `NULL`, and out of range. -/
def PGResult.value? (res : PGResult) (row field : Nat) : Option (List UInt8) :=
  ((res.rows[row]?).bind fun values => values[field]?).join

/-- `PQgetisnull`, which also answers `1` out of range. -/
def PGResult.getisnull (res : PGResult) (row field : Nat) : Bool := (res.value? row field).isNone

/-- `PQgetvalue`: the empty string for `NULL`. -/
def PGResult.getvalue (res : PGResult) (row field : Nat) : List UInt8 :=
  (res.value? row field).getD []

/-- The calls `db_client_start` makes, as requests: the connections libpq opens, the commands
on each connection with their parameters, and the application's `on_begin_txn`. -/
inductive Request
  | connectdb (conninfo : List UInt8)
  | connectdbParams (params : List (List UInt8 × List UInt8))
  | replExec (command : List UInt8)
  | sqlExec (command : List UInt8) (params : List (List UInt8))
  | sqlSend (command : List UInt8) (params : List (List UInt8))
  | setSingleRowMode
  | beginTxn (walPos xid : Nat)
  deriving DecidableEq, Repr

/-- What the calls of the start-up return: whether `PQconnectdb` and `PQconnectdbParams` reach
`CONNECTION_OK`, `PQconninfoParse` (the options with their values, or its error),
`PQerrorMessage` of each connection, the result of each command, whether `PQsendQueryParams` and
`PQsetSingleRowMode` succeed, and the application's `on_begin_txn`, when it has one. -/
structure StartEnv where
  connectdb : List UInt8 → Bool
  conninfoParse : List UInt8 → Except (List UInt8) (List (List UInt8 × Option (List UInt8)))
  connectdbParams : List (List UInt8 × List UInt8) → Bool
  sqlErrorMessage : List UInt8
  replErrorMessage : List UInt8
  replExec : List UInt8 → PGResult
  sqlExec : List UInt8 → List (List UInt8) → PGResult
  sqlSend : List UInt8 → List (List UInt8) → Bool
  setSingleRowMode : Bool
  beginTxn : Option (Nat → Nat → Int)

/-- The fields of `client_context` that `main` sets before `db_client_start`; a `NULL` string is
the empty one. -/
structure ClientConfig where
  conninfo : List UInt8
  appName : List UInt8
  slotName : List UInt8
  outputPlugin : List UInt8
  errorPolicy : List UInt8
  allowUnkeyed : Bool
  skipSnapshot : Bool

/-- How the start fails: the error code, and the text of the context's error buffer; `none` where
the code returns the error of a callback and leaves the buffer as it was. -/
structure StartError where
  code : Int
  error : Option (List UInt8)
  deriving DecidableEq, Repr

/-- What `db_client_start` leaves: the stream at its start position with nothing received or
acknowledged, as `db_client_new` zeroed it, whether a snapshot is being taken, whether the slot
was created, and the name of the snapshot exported with it. -/
structure Started where
  client : ClientContext
  slotCreated : Bool
  snapshotName : Option (List UInt8)
  deriving DecidableEq, Repr

/-- A run of the start-up. -/
abbrev StartRun (α : Type) := Transcript Request StartError α

/-- `CLIENT_CONTEXT_ERROR_LEN`. -/
def clientContextErrorLen : Nat := 512

/-- `REPLICATION_STREAM_ERROR_LEN`. -/
def replicationStreamErrorLen : Nat := 512

/-- `client_error`, and the return of its code. -/
def clientError {α : Type} (code : Int) (text : List UInt8) : StartRun α :=
  .fail ⟨code, some (snprintf clientContextErrorLen text)⟩

/-- `repl_error`, and the `checkRepl` of the caller, which copies the stream's message, shorter
than the context's buffer, into it. -/
def replError {α : Type} (code : Int) (text : List UInt8) : StartRun α :=
  .fail ⟨code, some (snprintf replicationStreamErrorLen text)⟩

/-! ## Positions as text -/

/-- `%X/%X` of the high and the low 32 bits of an LSN, as `replication_stream_start` writes it
and as the server writes `restart_lsn` and `consistent_point`. -/
def formatLsn (lsn : Nat) : List UInt8 :=
  formatHex ((lsn >>> (32 : Nat)) % 2 ^ 32) ++ [47] ++ formatHex (lsn % 2 ^ 32)

/-- `sscanf(text, "%X/%X", &h32, &l32) == 2`, and then `((uint64) h32) << 32 | l32`: how
`replication_slot_create` and `replication_slot_exists` read an LSN. -/
def scanLsn (text : List UInt8) : Option Nat :=
  match scanHex text with
  | some (h32, slash :: rest) =>
    if slash = 47 then (scanHex rest).map fun low => h32 <<< (32 : Nat) ||| low.1 else none
  | _ => none

/-- **The client reads back the position it writes**: `%X/%X` of an LSN scans to the LSN, cut
to the 64 bits of an `XLogRecPtr`. -/
theorem scanLsn_formatLsn (lsn : Nat) : scanLsn (formatLsn lsn) = some (lsn % 2 ^ 64) := by
  have hhigh : (lsn >>> (32 : Nat)) % 2 ^ 32 < 2 ^ 32 := Nat.mod_lt _ (by norm_num)
  have hlow : lsn % 2 ^ 32 < 2 ^ 32 := Nat.mod_lt _ (by norm_num)
  -- the slash ends the high half, and the end of the text the low half
  have hslash : EndsNumber (47 :: formatHex (lsn % 2 ^ 32)) := by
    intro c hc
    obtain rfl : c = 47 := by simpa using hc.symm
    decide
  have hend : EndsNumber [] := fun c hc => by simp at hc
  have hlow' := scanHex_formatHex_append hlow hend
  rw [List.append_nil] at hlow'
  unfold scanLsn formatLsn
  rw [List.append_assoc, List.singleton_append, scanHex_formatHex_append hhigh hslash]
  simp only [if_true, hlow', Option.map_some]
  -- the high half shifted over the low half is the LSN's 64 bits
  rw [← Nat.shiftLeft_add_eq_or_of_lt hlow, Nat.shiftLeft_eq]
  simp only [Nat.shiftRight_eq_div_pow, Option.some.injEq]
  omega

/-! ## The steps of the start -/

namespace Startup

section Steps

variable (env : StartEnv)

/-- The parameters of the replication connection: the options of the conninfo that have a value,
then `replication=database` and the application name as `fallback_application_name`. -/
def replicationParams (options : List (List UInt8 × Option (List UInt8))) (appName : List UInt8) :
    List (List UInt8 × List UInt8) :=
  options.filterMap (fun option => match option.2 with
    | some value => if value ≠ [] then some (option.1, value) else none
    | none => none) ++
  [(bytesOf "replication", bytesOf "database"), (bytesOf "fallback_application_name", appName)]

/-- `client_connect`: the SQL connection, then the replication connection with the conninfo's
options. -/
def clientConnect (config : ClientConfig) : StartRun Unit :=
  if config.conninfo = [] then
    clientError einval (bytesOf "conninfo must be set in client context")
  else if config.appName = [] then
    clientError einval (bytesOf "app_name must be set in client context")
  else
    (Transcript.ask (.connectdb config.conninfo) (env.connectdb config.conninfo)).bind fun sqlOk =>
    if sqlOk = false then
      clientError eio (bytesOf "Connection to database failed: " ++ env.sqlErrorMessage)
    else
      match env.conninfoParse config.conninfo with
      | .error error => clientError eio (bytesOf "Replication connection info: " ++ error)
      | .ok options =>
        let params := replicationParams options config.appName
        (Transcript.ask (.connectdbParams params) (env.connectdbParams params)).bind fun replOk =>
        if replOk = false then
          clientError eio (bytesOf "Replication connection failed: " ++ env.replErrorMessage)
        else Transcript.ret ()

/-- `IDENTIFY_SYSTEM`. -/
def identifySystem : List UInt8 := bytesOf "IDENTIFY_SYSTEM"

/-- `replication_stream_check`: one row of at least four fields, with a database name. -/
def replicationStreamCheck : StartRun Unit :=
  (Transcript.ask (.replExec identifySystem) (env.replExec identifySystem)).bind fun res =>
  if res.status ≠ .tuplesOk then
    replError eio (bytesOf "IDENTIFY_SYSTEM failed: " ++ env.replErrorMessage)
  else if res.ntuples ≠ 1 ∨ res.nfields < 4 then
    replError eio (bytesOf "Unexpected IDENTIFY_SYSTEM result (" ++ formatDecimal res.ntuples ++
      bytesOf " rows, " ++ formatDecimal res.nfields ++ bytesOf " fields).")
  else if res.getisnull 0 3 then
    replError eio (bytesOf "Not using a database-specific replication connection.")
  else Transcript.ret ()

/-- The query of `replication_slot_exists`. -/
def slotExistsQuery : List UInt8 :=
  bytesOf "SELECT restart_lsn FROM pg_replication_slots where slot_name = $1"

/-- A slot query that found the slot with a `restart_lsn` that reads as `lsn`. -/
def SlotFound (res : PGResult) (lsn : Nat) : Prop :=
  0 < res.ntuples ∧ res.getisnull 0 0 = false ∧ scanLsn (res.getvalue 0 0) = some lsn

/-- `replication_slot_exists`: the slot's `restart_lsn` when it exists, `none` when it does not. -/
def replicationSlotExists (slotName : List UInt8) : StartRun (Option Nat) :=
  if slotName = [] then
    clientError einval (bytesOf "repl.slot_name must be set in client context")
  else
    (Transcript.ask (.sqlExec slotExistsQuery [slotName])
      (env.sqlExec slotExistsQuery [slotName])).bind fun res =>
    if res.status ≠ .tuplesOk then
      clientError eio (bytesOf "Could not check for existing replication slot: " ++
        env.sqlErrorMessage)
    else if 0 < res.ntuples ∧ res.getisnull 0 0 = false then
      match scanLsn (res.getvalue 0 0) with
      | some lsn => Transcript.ret (some lsn)
      | none => clientError eio (bytesOf "Could not parse restart LSN: \"" ++ res.getvalue 0 0 ++
          bytesOf "\"")
    else Transcript.ret none

/-- The command of `replication_slot_create`. -/
def createSlotCommand (slotName outputPlugin : List UInt8) : List UInt8 :=
  bytesOf "CREATE_REPLICATION_SLOT \"" ++ slotName ++ bytesOf "\" LOGICAL \"" ++ outputPlugin ++
    bytesOf "\""

/-- `replication_slot_create`: the `consistent_point` of the new slot and the name of the
snapshot exported with it. -/
def replicationSlotCreate (slotName outputPlugin : List UInt8) : StartRun (Nat × List UInt8) :=
  if slotName = [] then
    replError einval (bytesOf "slot_name must be set in replication stream")
  else if outputPlugin = [] then
    replError einval (bytesOf "output_plugin must be set in replication stream")
  else
    let query := createSlotCommand slotName outputPlugin
    (Transcript.ask (.replExec query) (env.replExec query)).bind fun res =>
    if res.status ≠ .tuplesOk then
      replError eio (bytesOf "Command failed: " ++ query ++ bytesOf ": " ++ env.replErrorMessage)
    else if res.ntuples ≠ 1 ∨ res.nfields ≠ 4 then
      replError eio (bytesOf "Unexpected CREATE_REPLICATION_SLOT result (" ++
        formatDecimal res.ntuples ++ bytesOf " rows, " ++ formatDecimal res.nfields ++
        bytesOf " fields)")
    else if res.getisnull 0 1 = true ∨ res.getisnull 0 2 = true then
      replError eio (bytesOf "Unexpected null value in CREATE_REPLICATION_SLOT response")
    else
      match scanLsn (res.getvalue 0 1) with
      | some lsn => Transcript.ret (lsn, res.getvalue 0 2)
      | none => replError eio (bytesOf "Could not parse LSN: \"" ++ res.getvalue 0 1 ++
          bytesOf "\"")

/-- `exec_sql`: a command on the SQL connection that returns no rows. -/
def execSql (query : List UInt8) : StartRun Unit :=
  (Transcript.ask (.sqlExec query []) (env.sqlExec query [])).bind fun res =>
  if res.status = .commandOk then Transcript.ret ()
  else clientError eio (bytesOf "Query failed: " ++ query ++ bytesOf ": " ++ env.sqlErrorMessage)

/-- The command that moves the transaction into the exported snapshot. -/
def setSnapshotCommand (snapshotName : List UInt8) : List UInt8 :=
  bytesOf "SET TRANSACTION SNAPSHOT \x27" ++ snapshotName ++ bytesOf "\x27"

/-- The export query `snapshot_start` dispatches. -/
def exportQuery : List UInt8 :=
  bytesOf "SELECT bottledwater_export(table_pattern " ++
    bytesOf ":= $1, allow_unkeyed := $2, error_policy := $3)"

/-- Its parameters: every table, whether unkeyed tables are allowed, and the error policy. -/
def exportParams (config : ClientConfig) : List (List UInt8) :=
  [bytesOf "%", if config.allowUnkeyed then bytesOf "t" else bytesOf "f", config.errorPolicy]

/-- `snapshot_start`: a repeatable-read transaction in the exported snapshot, the export query
dispatched in single-row mode, and `on_begin_txn` with xid `0` at the start position. -/
def snapshotStart (config : ClientConfig) (snapshotName : List UInt8) (startLsn : Nat) :
    StartRun Unit :=
  if snapshotName = [] then
    clientError einval (bytesOf "snapshot_name must be set in client context")
  else
    (execSql env (bytesOf "BEGIN")).bind fun _ =>
    (execSql env (bytesOf "SET TRANSACTION ISOLATION LEVEL REPEATABLE READ")).bind fun _ =>
    (execSql env (setSnapshotCommand snapshotName)).bind fun _ =>
    (Transcript.ask (.sqlSend exportQuery (exportParams config))
      (env.sqlSend exportQuery (exportParams config))).bind fun dispatched =>
    if dispatched = false then
      clientError eio (bytesOf "Could not dispatch snapshot fetch: " ++ env.sqlErrorMessage)
    else
      (Transcript.ask .setSingleRowMode env.setSingleRowMode).bind fun single =>
      if single = false then clientError eio (bytesOf "Could not activate single-row mode")
      else
        match env.beginTxn with
        | none => Transcript.ret ()
        | some beginTxn =>
          (Transcript.ask (.beginTxn startLsn 0) (beginTxn startLsn 0)).bind fun err =>
          if err ≠ 0 then Transcript.fail ⟨err, none⟩ else Transcript.ret ()

/-- The command of `replication_stream_start`. -/
def startReplicationCommand (slotName : List UInt8) (startLsn : Nat) (errorPolicy : List UInt8) :
    List UInt8 :=
  bytesOf "START_REPLICATION SLOT \"" ++ slotName ++ bytesOf "\" LOGICAL " ++ formatLsn startLsn ++
    bytesOf " (\"error_policy\" \x27" ++ errorPolicy ++ bytesOf "\x27)"

/-- `replication_stream_start`: the server must answer `COPY_BOTH`. -/
def replicationStreamStart (slotName : List UInt8) (startLsn : Nat) (errorPolicy : List UInt8) :
    StartRun Unit :=
  let query := startReplicationCommand slotName startLsn errorPolicy
  (Transcript.ask (.replExec query) (env.replExec query)).bind fun res =>
  if res.status ≠ .copyBoth then
    replError eio (bytesOf "Could not send replication command \"" ++ query ++ bytesOf "\": " ++
      res.errorMessage)
  else Transcript.ret ()

/-- `db_client_start`. An existing slot is streamed from its restart position; a new one is
first exported, unless the snapshot is skipped, and streaming then waits for the export's end. -/
def dbClientStart (config : ClientConfig) : StartRun Started :=
  (clientConnect env config).bind fun _ =>
  (replicationStreamCheck env).bind fun _ =>
  (replicationSlotExists env config.slotName).bind fun restartLsn =>
  match restartLsn with
  | some startLsn =>
    (replicationStreamStart env config.slotName startLsn config.errorPolicy).bind fun _ =>
    Transcript.ret ⟨⟨⟨startLsn, 0, 0⟩, false⟩, false, none⟩
  | none =>
    (replicationSlotCreate env config.slotName config.outputPlugin).bind fun created =>
    if config.skipSnapshot = false then
      (snapshotStart env config created.2 created.1).bind fun _ =>
      Transcript.ret ⟨⟨⟨created.1, 0, 0⟩, true⟩, true, some created.2⟩
    else
      (replicationStreamStart env config.slotName created.1 config.errorPolicy).bind fun _ =>
      Transcript.ret ⟨⟨⟨created.1, 0, 0⟩, false⟩, true, some created.2⟩

/-- A slot query that did not find the slot, or found it without a `restart_lsn`. -/
def SlotAbsent (res : PGResult) : Prop :=
  ¬(0 < res.ntuples ∧ res.getisnull 0 0 = false)

/-- The requests of `snapshot_start`: the transaction in the snapshot, the export query, single-row
mode, and `on_begin_txn` when the application has one. -/
def snapshotRequests (config : ClientConfig) (snapshotName : List UInt8) (startLsn : Nat) :
    List Request :=
  [.sqlExec (bytesOf "BEGIN") [],
    .sqlExec (bytesOf "SET TRANSACTION ISOLATION LEVEL REPEATABLE READ") [],
    .sqlExec (setSnapshotCommand snapshotName) [], .sqlSend exportQuery (exportParams config),
    .setSingleRowMode] ++ (env.beginTxn.map fun _ => Request.beginTxn startLsn 0).toList

/-- The requests every start makes before it knows whether the slot exists. -/
def openingRequests (config : ClientConfig) (options : List (List UInt8 × Option (List UInt8))) :
    List Request :=
  [.connectdb config.conninfo, .connectdbParams (replicationParams options config.appName),
    .replExec identifySystem, .sqlExec slotExistsQuery [config.slotName]]

end Steps

/-! ## What a start that succeeds did -/

section Spec

variable {env : StartEnv}

theorem clientConnect_ok {config : ClientConfig} {u : Unit}
    (h : (clientConnect env config).result = .ok u) :
    ∃ options, env.conninfoParse config.conninfo = .ok options ∧
      (clientConnect env config).sent =
        [.connectdb config.conninfo,
          .connectdbParams (replicationParams options config.appName)] := by
  unfold clientConnect at h ⊢
  by_cases hconninfo : config.conninfo = []
  · simp [hconninfo, clientError] at h
  by_cases happ : config.appName = []
  · simp [hconninfo, happ, clientError] at h
  rw [if_neg hconninfo, if_neg happ, Transcript.ask_bind] at h ⊢
  by_cases hsql : env.connectdb config.conninfo = false
  · simp [hsql, clientError] at h
  simp only [hsql] at h ⊢
  -- the conninfo parses, and the replication connection opens with its options
  cases hparse : env.conninfoParse config.conninfo with
  | error error => simp [hparse, clientError] at h
  | ok options =>
    simp only [hparse, Transcript.ask_bind] at h ⊢
    by_cases hrepl : env.connectdbParams (replicationParams options config.appName) = false
    · simp [hrepl, clientError] at h
    · simp [hrepl]

theorem replicationStreamCheck_ok {u : Unit} (h : (replicationStreamCheck env).result = .ok u) :
    (replicationStreamCheck env).sent = [.replExec identifySystem] := by
  unfold replicationStreamCheck at h ⊢
  rw [Transcript.ask_bind] at h ⊢
  -- every branch that does not fail sends nothing more
  split_ifs at h ⊢ <;> simp_all [replError]

theorem replicationSlotExists_ok {slotName : List UInt8} {restartLsn : Option Nat}
    (h : (replicationSlotExists env slotName).result = .ok restartLsn) :
    (replicationSlotExists env slotName).sent = [.sqlExec slotExistsQuery [slotName]] ∧
      (∀ lsn, restartLsn = some lsn → SlotFound (env.sqlExec slotExistsQuery [slotName]) lsn) ∧
      (restartLsn = none → SlotAbsent (env.sqlExec slotExistsQuery [slotName])) := by
  unfold replicationSlotExists at h ⊢
  by_cases hslot : slotName = []
  · simp [hslot, clientError] at h
  rw [if_neg hslot, Transcript.ask_bind] at h ⊢
  by_cases hstatus : (env.sqlExec slotExistsQuery [slotName]).status ≠ .tuplesOk
  · simp [hstatus, clientError] at h
  simp only [hstatus, if_false] at h ⊢
  by_cases hrow : 0 < (env.sqlExec slotExistsQuery [slotName]).ntuples ∧
      (env.sqlExec slotExistsQuery [slotName]).getisnull 0 0 = false
  · -- a row with a restart position: it must read as an LSN
    simp only [hrow, and_self, if_true] at h ⊢
    cases hscan : scanLsn ((env.sqlExec slotExistsQuery [slotName]).getvalue 0 0) with
    | none => simp [hscan, clientError] at h
    | some lsn =>
      simp only [hscan, Transcript.result_ret, Except.ok.injEq] at h
      subst h
      refine ⟨by simp, ?_, by simp⟩
      rintro lsn' ⟨⟩
      exact ⟨hrow.1, hrow.2, hscan⟩
  · simp only [hrow, if_false, Transcript.result_ret, Except.ok.injEq] at h ⊢
    subst h
    exact ⟨by simp, by simp, fun _ => hrow⟩

theorem replicationSlotCreate_ok {slotName outputPlugin : List UInt8} {created : Nat × List UInt8}
    (h : (replicationSlotCreate env slotName outputPlugin).result = .ok created) :
    (replicationSlotCreate env slotName outputPlugin).sent =
        [.replExec (createSlotCommand slotName outputPlugin)] ∧
      scanLsn ((env.replExec (createSlotCommand slotName outputPlugin)).getvalue 0 1) =
        some created.1 ∧
      created.2 = (env.replExec (createSlotCommand slotName outputPlugin)).getvalue 0 2 := by
  unfold replicationSlotCreate at h ⊢
  by_cases hslot : slotName = []
  · simp [hslot, replError] at h
  by_cases hplugin : outputPlugin = []
  · simp [hslot, hplugin, replError] at h
  simp only [hslot, hplugin, if_false, Transcript.ask_bind] at h ⊢
  -- past the three checks of the answer, its consistent point must read as an LSN
  split_ifs at h ⊢ with hstatus hshape hnull
  · simp [replError] at h
  · simp [replError] at h
  · simp [replError] at h
  · cases hscan :
      scanLsn ((env.replExec (createSlotCommand slotName outputPlugin)).getvalue 0 1) with
    | none => simp [hscan, replError] at h
    | some lsn =>
      simp only [hscan, Transcript.result_ret, Except.ok.injEq] at h
      subst h
      exact ⟨by simp, rfl, rfl⟩

theorem execSql_ok {query : List UInt8} {u : Unit} (h : (execSql env query).result = .ok u) :
    (execSql env query).sent = [.sqlExec query []] := by
  unfold execSql at h ⊢
  rw [Transcript.ask_bind] at h ⊢
  split_ifs at h ⊢ <;> simp_all [clientError]

theorem snapshotStart_ok {config : ClientConfig} {snapshotName : List UInt8} {startLsn : Nat}
    {u : Unit} (h : (snapshotStart env config snapshotName startLsn).result = .ok u) :
    (snapshotStart env config snapshotName startLsn).sent =
      snapshotRequests env config snapshotName startLsn := by
  unfold snapshotStart at h ⊢
  by_cases hname : snapshotName = []
  · simp [hname, clientError] at h
  simp only [hname, if_false] at h ⊢
  -- the three commands of the transaction
  obtain ⟨_, hbegin, h, hsent⟩ := Transcript.bind_eq_ok h
  obtain ⟨_, hlevel, h, hsent₁⟩ := Transcript.bind_eq_ok h
  obtain ⟨_, hsnapshot, h, hsent₂⟩ := Transcript.bind_eq_ok h
  rw [hsent, hsent₁, hsent₂, execSql_ok hbegin, execSql_ok hlevel, execSql_ok hsnapshot]
  -- the export query, single-row mode and the callback
  simp only [Transcript.ask_bind] at h ⊢
  by_cases hdispatch : env.sqlSend exportQuery (exportParams config) = false
  · simp [hdispatch, clientError] at h
  simp only [hdispatch] at h ⊢
  by_cases hsingle : env.setSingleRowMode = false
  · simp [hsingle, clientError] at h
  simp only [hsingle] at h ⊢
  cases hcallback : env.beginTxn with
  | none => simp [snapshotRequests, hcallback]
  | some beginTxn =>
    simp only [hcallback] at h ⊢
    by_cases herr : beginTxn startLsn 0 ≠ 0
    · simp [herr] at h
    · simp [herr, snapshotRequests, hcallback]

theorem replicationStreamStart_ok {slotName errorPolicy : List UInt8} {startLsn : Nat} {u : Unit}
    (h : (replicationStreamStart env slotName startLsn errorPolicy).result = .ok u) :
    (replicationStreamStart env slotName startLsn errorPolicy).sent =
      [.replExec (startReplicationCommand slotName startLsn errorPolicy)] := by
  unfold replicationStreamStart at h ⊢
  rw [Transcript.ask_bind] at h ⊢
  split_ifs at h ⊢ <;> simp_all [replError]

/-- **What every start that succeeds did.** It opened both connections, checked the
replication connection and asked for the slot. If the slot was there with a `restart_lsn`, the
client streams from that position, and nothing else was sent: no slot was created and no snapshot
taken. Otherwise the slot was created; the client starts from its `consistent_point`, and either
exports the snapshot created with it, in a transaction set to that very snapshot, and leaves
streaming for after the export, or, when the snapshot is skipped, streams at once from that
point. -/
theorem dbClientStart_ok {config : ClientConfig} {started : Started}
    (h : (dbClientStart env config).result = .ok started) :
    ∃ options, env.conninfoParse config.conninfo = .ok options ∧
      ((∃ lsn, SlotFound (env.sqlExec slotExistsQuery [config.slotName]) lsn ∧
          started = ⟨⟨⟨lsn, 0, 0⟩, false⟩, false, none⟩ ∧
          (dbClientStart env config).sent = openingRequests config options ++
            [.replExec (startReplicationCommand config.slotName lsn config.errorPolicy)]) ∨
        (SlotAbsent (env.sqlExec slotExistsQuery [config.slotName]) ∧
          ∃ lsn, scanLsn
            ((env.replExec (createSlotCommand config.slotName config.outputPlugin)).getvalue
              0 1) = some lsn ∧
            started = ⟨⟨⟨lsn, 0, 0⟩, !config.skipSnapshot⟩, true,
              some ((env.replExec (createSlotCommand config.slotName config.outputPlugin)).getvalue
                0 2)⟩ ∧
            (dbClientStart env config).sent = openingRequests config options ++
              .replExec (createSlotCommand config.slotName config.outputPlugin) ::
                if config.skipSnapshot then
                  [.replExec (startReplicationCommand config.slotName lsn config.errorPolicy)]
                else snapshotRequests env config
                  ((env.replExec (createSlotCommand config.slotName config.outputPlugin)).getvalue
                    0 2) lsn)) := by
  unfold dbClientStart at h ⊢
  -- the connections, the check and the slot query, which every start makes
  obtain ⟨_, hconnect, h, hsent⟩ := Transcript.bind_eq_ok h
  obtain ⟨options, hparse, hconnectSent⟩ := clientConnect_ok hconnect
  obtain ⟨_, hcheck, h, hsent₁⟩ := Transcript.bind_eq_ok h
  obtain ⟨restartLsn, hexists, h, hsent₂⟩ := Transcript.bind_eq_ok h
  obtain ⟨hexistsSent, hfound, habsent⟩ := replicationSlotExists_ok hexists
  have hopening : (clientConnect env config).sent ++ ((replicationStreamCheck env).sent ++
      (replicationSlotExists env config.slotName).sent) = openingRequests config options := by
    rw [hconnectSent, replicationStreamCheck_ok hcheck, hexistsSent]
    rfl
  refine ⟨options, hparse, ?_⟩
  rw [hsent, hsent₁, hsent₂, ← List.append_assoc, ← List.append_assoc, List.append_assoc _ _
    (replicationSlotExists env config.slotName).sent, hopening]
  cases restartLsn with
  | some lsn =>
    -- the slot is there: stream from its restart position
    obtain ⟨_, hstart, hret, hsent₃⟩ := Transcript.bind_eq_ok h
    simp only [Transcript.result_ret, Except.ok.injEq] at hret
    refine .inl ⟨lsn, hfound lsn rfl, hret.symm, ?_⟩
    rw [hsent₃, replicationStreamStart_ok hstart]
    simp
  | none =>
    -- a new slot: its consistent point and its snapshot
    obtain ⟨created, hcreate, h, hsent₃⟩ := Transcript.bind_eq_ok h
    obtain ⟨hcreateSent, hlsn, hname⟩ := replicationSlotCreate_ok hcreate
    refine .inr ⟨habsent rfl, created.1, hlsn, ?_⟩
    rw [hsent₃, hcreateSent, ← hname]
    cases hskip : config.skipSnapshot with
    | false =>
      simp only [hskip, if_true] at h ⊢
      obtain ⟨_, hsnapshot, hret, hsent₄⟩ := Transcript.bind_eq_ok h
      simp only [Transcript.result_ret, Except.ok.injEq] at hret
      refine ⟨by rw [← hret]; rfl, ?_⟩
      rw [hsent₄, snapshotStart_ok hsnapshot]
      simp
    | true =>
      simp only [hskip, Bool.true_eq_false, ↓reduceIte] at h ⊢
      obtain ⟨_, hstart, hret, hsent₄⟩ := Transcript.bind_eq_ok h
      simp only [Transcript.result_ret, Except.ok.injEq] at hret
      refine ⟨by rw [← hret]; rfl, ?_⟩
      rw [hsent₄, replicationStreamStart_ok hstart]
      simp

end Spec

/-- A result without rows. -/
def PGResult.empty (status : ExecStatus) : PGResult := ⟨status, 0, [], [], by simp⟩

/-- The `IDENTIFY_SYSTEM` answer of a connection to the database `postgres`. -/
def identifyRow : PGResult :=
  ⟨.tuplesOk, 4, [[some (bytesOf "6"), some (bytesOf "1"), some (bytesOf "0/16B3748"),
    some (bytesOf "postgres")]], [], by decide⟩

/-- A server on which the slot exists, with `restart_lsn` `0/16B3748`, and that accepts every
command. -/
def existingSlotEnv : StartEnv where
  connectdb _ := true
  conninfoParse _ := .ok [(bytesOf "dbname", some (bytesOf "postgres")), (bytesOf "host", none)]
  connectdbParams _ := true
  sqlErrorMessage := []
  replErrorMessage := []
  replExec command := if command = identifySystem then identifyRow else PGResult.empty .copyBoth
  sqlExec _ _ := ⟨.tuplesOk, 1, [[some (bytesOf "0/16B3748")]], [], by decide⟩
  sqlSend _ _ := true
  setSingleRowMode := true
  beginTxn := none

/-- The options `main` sets by default, for the database `postgres`. -/
def defaultConfig : ClientConfig :=
  ⟨bytesOf "dbname=postgres", bytesOf "bottledwater", bytesOf "bottledwater",
    bytesOf "bottledwater", bytesOf "exit", false, false⟩

theorem existing_slot_start_ok :
    ∃ started, (dbClientStart existingSlotEnv defaultConfig).result = .ok started ∧
      ∃ options, existingSlotEnv.conninfoParse defaultConfig.conninfo = .ok options ∧
        ((∃ lsn, SlotFound (existingSlotEnv.sqlExec slotExistsQuery [defaultConfig.slotName]) lsn ∧
            started = ⟨⟨⟨lsn, 0, 0⟩, false⟩, false, none⟩ ∧
            (dbClientStart existingSlotEnv defaultConfig).sent =
              openingRequests defaultConfig options ++
              [.replExec (startReplicationCommand defaultConfig.slotName lsn
                defaultConfig.errorPolicy)]) ∨
          (SlotAbsent (existingSlotEnv.sqlExec slotExistsQuery [defaultConfig.slotName]) ∧
            ∃ lsn, scanLsn ((existingSlotEnv.replExec (createSlotCommand defaultConfig.slotName
                defaultConfig.outputPlugin)).getvalue 0 1) = some lsn ∧
              started = ⟨⟨⟨lsn, 0, 0⟩, !defaultConfig.skipSnapshot⟩, true,
                some ((existingSlotEnv.replExec (createSlotCommand defaultConfig.slotName
                  defaultConfig.outputPlugin)).getvalue 0 2)⟩ ∧
              (dbClientStart existingSlotEnv defaultConfig).sent =
                openingRequests defaultConfig options ++
                .replExec (createSlotCommand defaultConfig.slotName defaultConfig.outputPlugin) ::
                  if defaultConfig.skipSnapshot then
                    [.replExec (startReplicationCommand defaultConfig.slotName lsn
                      defaultConfig.errorPolicy)]
                  else snapshotRequests existingSlotEnv defaultConfig
                    ((existingSlotEnv.replExec (createSlotCommand defaultConfig.slotName
                      defaultConfig.outputPlugin)).getvalue 0 2) lsn)) := by
  have h : (dbClientStart existingSlotEnv defaultConfig).result =
      .ok ⟨⟨⟨0x16B3748, 0, 0⟩, false⟩, false, none⟩ := by
    rfl
  exact ⟨_, h, dbClientStart_ok h⟩

end Startup

end BottledWater
