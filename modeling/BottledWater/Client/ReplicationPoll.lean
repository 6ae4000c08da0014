import BottledWater.Client.Connect
import BottledWater.Client.Replication
import BottledWater.Lib.NetworkOrder

set_option autoImplicit false

/-! # Polling the replication stream (`client/replication.c`)

`replication_stream_poll` takes one message of the COPY stream from the server and parses it by
its type byte: a primary keepalive (`'k'`) carries the server's end of WAL and asks for a reply or
not; an XLogData message (`'w'`) carries a frame of the output plugin and the WAL position it
starts at. Positions travel as 64-bit integers in network byte order (`sendint64`, `recvint64`).
After a message, and when no message is waiting, the client sends a standby status update
(`send_checkpoint`) if ten seconds have passed since the last one; the update reports the
positions the stream has received and flushed.

The specification the parser is held to is `ServerMessage.process`: what the client does with a
message given its fields, in the terms the Kafka client's model uses (`parseKeepaliveMessage`,
`xlogDataReceived`). `replicationStreamPoll_encode` shows that polling the bytes of any server
message does exactly that. The application behind the frame reader shares the stream with the
poll (the Kafka client moves `fsync_lsn` when it retires a transaction), so the frame reader's
`parse_frame` takes and gives back the stream's positions. When it never touches `recvd_lsn` and
only flushes what it has seen, every status update of a run reports a flushed position no later
than the received one, and the received positions it reports never go back
(`statusUpdates_in_order`).
-/

namespace BottledWater

open NetworkOrder

/-! ## Integers on the wire -/

/-- `htonl`: a `uint32` as four bytes, the most significant first. -/
def htonl (u : Nat) : List UInt8 := bigEndian 4 u

/-- `ntohl` of the four bytes a `memcpy` takes from the start of the buffer. -/
def ntohl (buf : List UInt8) : Nat := fromBigEndian (buf.take 4)

/-- `sendint64`: the high 32 bits of the `int64` (`i64 >> 32` cast to `uint32`), then the low
32 bits, each through `htonl`. An `XLogRecPtr` passed in is converted to `int64`, which keeps
its 64-bit pattern; the bytes only depend on that pattern. -/
def sendint64 (i64 : Int) : List UInt8 :=
  htonl ((i64 >>> (32 : Nat)) % 2 ^ 32).toNat ++ htonl (i64 % 2 ^ 32).toNat

/-- `recvint64`: the two halves through `ntohl`, the high one shifted up by 32 bits and the low
one or-ed in. The shift wraps in two's complement, so the result is the `int64` whose pattern
the eight bytes are. -/
def recvint64 (buf : List UInt8) : Int :=
  toSigned64 (ntohl buf * 2 ^ 32 + ntohl (buf.drop 4))

@[simp]
theorem length_htonl (u : Nat) : (htonl u).length = 4 := by
  simp [htonl]

@[simp]
theorem length_sendint64 (i64 : Int) : (sendint64 i64).length = 8 := by
  simp [sendint64]

/-- The two halves `sendint64` writes make up the 64-bit pattern of its argument. -/
theorem sendint64_halves (i64 : Int) :
    ((i64 >>> (32 : Nat)) % 2 ^ 32).toNat % 256 ^ 4 * 2 ^ 32 + (i64 % 2 ^ 32).toNat % 256 ^ 4 =
      toUnsigned64 i64 := by
  rw [Int.shiftRight_eq_div_pow]
  unfold toUnsigned64
  omega

/-- **The integer round trip.** `recvint64` reads back the pattern `sendint64` wrote, as an
`int64`, whatever follows it. -/
theorem recvint64_sendint64 (i64 : Int) (rest : List UInt8) :
    recvint64 (sendint64 i64 ++ rest) = toSigned64 (toUnsigned64 i64) := by
  have hlow : (sendint64 i64 ++ rest).drop 4 = htonl (i64 % 2 ^ 32).toNat ++ rest := by
    rw [sendint64, List.append_assoc, List.drop_left' (length_htonl _)]
  rw [recvint64, ntohl, ntohl, hlow, sendint64, List.append_assoc, htonl, htonl,
    fromBigEndian_take_append, fromBigEndian_take_append, sendint64_halves]

/-- A WAL position sent with `sendint64` and read back with `recvint64` into an `XLogRecPtr`. -/
theorem toUnsigned64_recvint64_sendint64 (lsn : Nat) (rest : List UInt8) :
    toUnsigned64 (recvint64 (sendint64 lsn ++ rest)) = lsn % 2 ^ 64 := by
  rw [recvint64_sendint64, toUnsigned64_toSigned64 (toUnsigned64_lt _)]
  unfold toUnsigned64
  omega

/-! ## Messages -/

/-- The type byte of a primary keepalive message, `'k'`. -/
def keepaliveTag : UInt8 := 107

/-- The type byte of an XLogData message, `'w'`. -/
def xlogDataTag : UInt8 := 119

/-- The type byte of a standby status update, `'r'`. -/
def statusUpdateTag : UInt8 := 114

/-- `InvalidXLogRecPtr`. -/
def invalidXLogRecPtr : Nat := 0

/-- `CHECKPOINT_INTERVAL_SEC`. -/
def checkpointIntervalSec : Int := 10

/-- `USECS_PER_SEC`. -/
def usecsPerSec : Int := 1000000

/-- The messages the server sends in the COPY stream, with the fields the comments of
`parse_keepalive_message` and `parse_xlogdata_message` list. -/
inductive ServerMessage
  /-- A primary keepalive: the end of WAL on the server, the server's clock, and whether the
  client should reply at once. -/
  | keepalive (walEnd : Nat) (clock : Int) (replyRequested : Bool)
  /-- XLogData: the start of its WAL data, the end of WAL, the clock, and the output plugin's
  frame. -/
  | xlogData (walStart walEnd : Nat) (clock : Int) (frame : List UInt8)
  deriving DecidableEq, Repr

/-- The bytes of a server message, in the layout the comments describe. -/
def ServerMessage.encode : ServerMessage → List UInt8
  | .keepalive walEnd clock replyRequested =>
    [keepaliveTag] ++ sendint64 walEnd ++ sendint64 clock ++ [if replyRequested then 1 else 0]
  | .xlogData walStart walEnd clock frame =>
    [xlogDataTag] ++ sendint64 walStart ++ sendint64 walEnd ++ sendint64 clock ++ frame

/-- A message as the server sends it: positions are `XLogRecPtr`s, and a frame is never empty
(the plugin writes at least the Avro array's end). -/
def ServerMessage.WellFormed : ServerMessage → Prop
  | .keepalive walEnd _ _ => walEnd < 2 ^ 64
  | .xlogData walStart _ _ frame => walStart < 2 ^ 64 ∧ frame ≠ []

/-- The standby status update `send_checkpoint` packs: `'r'`, the received and the flushed
position, `InvalidXLogRecPtr` for the applied one (only physical replication uses it), the
client's clock, and no request for a reply. -/
def standbyStatusUpdate (repl : ReplicationStream) (now : Int) : List UInt8 :=
  [statusUpdateTag] ++ sendint64 repl.recvdLsn ++ sendint64 repl.fsyncLsn ++
    sendint64 invalidXLogRecPtr ++ sendint64 now ++ [0]

/-- The received and the flushed position a status update reports, read back with
`recvint64`. -/
def reportedPositions (msg : List UInt8) : Nat × Nat :=
  (toUnsigned64 (recvint64 (msg.drop 1)), toUnsigned64 (recvint64 (msg.drop 9)))

/-- **The status update reads back.** Each field of a standby status update, read with
`recvint64` at its offset, is the value the client packed: the positions as `XLogRecPtr`s, the
applied position `0`, and the clock as an `int64`. -/
theorem standbyStatusUpdate_reads_back (repl : ReplicationStream) (now : Int) :
    (standbyStatusUpdate repl now).length = 34 ∧
      (standbyStatusUpdate repl now).head? = some statusUpdateTag ∧
      reportedPositions (standbyStatusUpdate repl now) =
        (repl.recvdLsn % 2 ^ 64, repl.fsyncLsn % 2 ^ 64) ∧
      recvint64 ((standbyStatusUpdate repl now).drop 17) = 0 ∧
      recvint64 ((standbyStatusUpdate repl now).drop 25) = toSigned64 (toUnsigned64 now) ∧
      (standbyStatusUpdate repl now).getLast? = some 0 := by
  refine ⟨by simp [standbyStatusUpdate], rfl, ?_, ?_, ?_, List.getLast?_concat⟩
  · have hrecvd : (standbyStatusUpdate repl now).drop 1 =
        sendint64 repl.recvdLsn ++
          (sendint64 repl.fsyncLsn ++ sendint64 invalidXLogRecPtr ++ sendint64 now ++ [0]) := by
      simp [standbyStatusUpdate]
    have hfsync : (standbyStatusUpdate repl now).drop 9 =
        sendint64 repl.fsyncLsn ++ (sendint64 invalidXLogRecPtr ++ sendint64 now ++ [0]) := by
      simp [standbyStatusUpdate]
    rw [reportedPositions, hrecvd, hfsync, toUnsigned64_recvint64_sendint64,
      toUnsigned64_recvint64_sendint64]
  · have happlied : (standbyStatusUpdate repl now).drop 17 =
        sendint64 invalidXLogRecPtr ++ (sendint64 now ++ [0]) := by
      simp [standbyStatusUpdate, List.drop_append, List.drop_of_length_le]
    rw [happlied, recvint64_sendint64]
    decide
  · have hclock : (standbyStatusUpdate repl now).drop 25 = sendint64 now ++ [0] := by
      simp [standbyStatusUpdate, List.drop_append, List.drop_of_length_le]
    rw [hclock, recvint64_sendint64]

/-! ## The stream -/

/-- The fields of `replication_stream` that polling reads and writes, the state `σ` of the frame
reader and of the application behind it, and what the client has sent the server over the
connection, oldest first. -/
structure PollState (σ : Type) where
  repl : ReplicationStream
  lastCheckpoint : Int
  /-- `1`: a message was processed on the last poll; `0`: no data was available; negative: the
  stream ended. -/
  status : Int
  frameReader : σ
  sent : List (List UInt8)

/-- What `PQgetCopyData` gave `replication_stream_poll`. -/
inductive CopyData
  /-- A message of `ret ≥ 0` bytes; none (`ret = 0`) when no data is available yet. -/
  | data (buf : List UInt8)
  /-- `-1`: the COPY is over; `replication_stream_finish` then finds whether the command
  ended well (`PGRES_COMMAND_OK`). -/
  | ended (commandOk : Bool)
  /-- `-2`: reading failed. -/
  | failed

variable {σ : Type}

/-- `send_checkpoint`: `accepted` is whether `PQputCopyData` takes the message and `PQflush`
sends it. The time of the update is only recorded when it went out. -/
def sendCheckpoint (st : PollState σ) (now : Int) (accepted : Bool) : PollState σ × Int :=
  if accepted then
    ({ st with sent := st.sent ++ [standbyStatusUpdate st.repl now], lastCheckpoint := now }, 0)
  else (st, eio)

/-- `replication_stream_keepalive`: once something was received, a status update every
`CHECKPOINT_INTERVAL_SEC` seconds. -/
def replicationStreamKeepalive (st : PollState σ) (now : Int) (accepted : Bool) :
    PollState σ × Int :=
  if st.repl.recvdLsn ≠ invalidXLogRecPtr then
    if now - st.lastCheckpoint > checkpointIntervalSec * usecsPerSec then
      sendCheckpoint st now accepted
    else (st, 0)
  else (st, 0)

section Reader

/- `handle_keepalive` of the frame reader, with the application's `on_keepalive`, and
`parse_frame`, which also gets the stream's positions: the application's callbacks may move
them. -/
variable (handleKeepalive : σ → Nat → σ × Int)
  (parseFrame : σ → ReplicationStream → Nat → List UInt8 → σ × ReplicationStream × Int)

/-- `parse_keepalive_message` on the message's buffer: the end of WAL from bytes 1 to 8, the
reply flag from byte 17, then `parseKeepaliveMessage`. When the server asks for a reply, the
function returns what `send_checkpoint` returns, whatever `handle_keepalive` answered. -/
def parseKeepaliveMessageBuf (st : PollState σ) (buf : List UInt8) (now : Int)
    (accepted : Bool) : PollState σ × Int :=
  if buf.length < 1 + 8 + 8 + 1 then (st, eio)
  else
    let walPos := toUnsigned64 (recvint64 (buf.drop 1))
    let replyRequested := buf.getD 17 0 ≠ 0
    let handled := handleKeepalive st.frameReader walPos
    let parsed := parseKeepaliveMessage st.repl walPos fun _ => handled.2
    let st := { st with repl := parsed.1, frameReader := handled.1 }
    if replyRequested then sendCheckpoint st now accepted else (st, parsed.2)

/-- `parse_xlogdata_message`: the start of the WAL data from bytes 1 to 8, the frame after the
25-byte header to `parse_frame`; the position counts as received whatever the frame gave. -/
def parseXlogdataMessage (st : PollState σ) (buf : List UInt8) : PollState σ × Int :=
  let hdrlen := 1 + 8 + 8 + 8
  if buf.length < hdrlen + 1 then (st, eio)
  else
    let walPos := toUnsigned64 (recvint64 (buf.drop 1))
    let parsed := parseFrame st.frameReader st.repl walPos (buf.drop hdrlen)
    ({ st with repl := xlogDataReceived parsed.2.1 walPos, frameReader := parsed.1 }, parsed.2.2)

/-- The switch of `replication_stream_poll` on the type byte of a message. -/
def pollMessage (st : PollState σ) (buf : List UInt8) (now : Int) (accepted : Bool) :
    PollState σ × Int :=
  match buf with
  | [] => ({ st with status := 0 }, 0)
  | tag :: _ =>
    if tag = keepaliveTag then
      parseKeepaliveMessageBuf handleKeepalive { st with status := 1 } buf now accepted
    else if tag = xlogDataTag then parseXlogdataMessage parseFrame { st with status := 1 } buf
    else ({ st with status := 1 }, eio)

/-- `replication_stream_poll`, with `now` what `current_time` reads during the poll. -/
def replicationStreamPoll (st : PollState σ) (copy : CopyData) (now : Int) (accepted : Bool) :
    PollState σ × Int :=
  match copy with
  | .ended commandOk => ({ st with status := -1 }, if commandOk then 0 else eio)
  | .failed => ({ st with status := -2 }, eio)
  | .data buf =>
    let polled := pollMessage handleKeepalive parseFrame st buf now accepted
    if polled.2 = 0 then replicationStreamKeepalive polled.1 now accepted else polled

/-- What the client does with a server message, given its fields: the specification of the
parser. -/
def ServerMessage.process (st : PollState σ) (now : Int) (accepted : Bool) :
    ServerMessage → PollState σ × Int
  | .keepalive walEnd _ replyRequested =>
    let handled := handleKeepalive st.frameReader walEnd
    let parsed := parseKeepaliveMessage st.repl walEnd fun _ => handled.2
    let st := { st with repl := parsed.1, frameReader := handled.1 }
    if replyRequested then sendCheckpoint st now accepted else (st, parsed.2)
  | .xlogData walStart _ _ frame =>
    let parsed := parseFrame st.frameReader st.repl walStart frame
    ({ st with repl := xlogDataReceived parsed.2.1 walStart, frameReader := parsed.1 },
      parsed.2.2)

/-! ## The parser against its specification -/

/-- The reply flag of a keepalive message, byte 17. -/
theorem keepalive_encode_getD (walEnd : Nat) (clock : Int) (replyRequested : Bool) :
    (ServerMessage.keepalive walEnd clock replyRequested).encode.getD 17 0 =
      if replyRequested then 1 else 0 := by
  rw [ServerMessage.encode, List.getD_eq_getElem?_getD, List.getElem?_append_right (by simp)]
  simp

theorem parseKeepaliveMessageBuf_encode {walEnd : Nat} (hwal : walEnd < 2 ^ 64) (clock : Int)
    (replyRequested : Bool) (st : PollState σ) (now : Int) (accepted : Bool) :
    parseKeepaliveMessageBuf handleKeepalive st
        (ServerMessage.keepalive walEnd clock replyRequested).encode now accepted =
      (ServerMessage.keepalive walEnd clock replyRequested).process handleKeepalive parseFrame st
        now accepted := by
  have hpos : toUnsigned64 (recvint64
      ((ServerMessage.keepalive walEnd clock replyRequested).encode.drop 1)) = walEnd := by
    simp only [ServerMessage.encode, List.append_assoc, List.cons_append, List.nil_append,
      List.drop_one, List.tail_cons, toUnsigned64_recvint64_sendint64, Nat.mod_eq_of_lt hwal]
  have hlen : ¬(ServerMessage.keepalive walEnd clock replyRequested).encode.length <
      1 + 8 + 8 + 1 := by
    simp [ServerMessage.encode]
  rw [parseKeepaliveMessageBuf, if_neg hlen, hpos, keepalive_encode_getD]
  cases replyRequested <;> rfl

theorem parseXlogdataMessage_encode {walStart : Nat} (hwal : walStart < 2 ^ 64) (walEnd : Nat)
    (clock : Int) {frame : List UInt8} (hframe : frame ≠ []) (st : PollState σ) (now : Int)
    (accepted : Bool) :
    parseXlogdataMessage parseFrame st (ServerMessage.xlogData walStart walEnd clock frame).encode =
      (ServerMessage.xlogData walStart walEnd clock frame).process handleKeepalive parseFrame st
        now accepted := by
  have hpos : toUnsigned64 (recvint64
      ((ServerMessage.xlogData walStart walEnd clock frame).encode.drop 1)) = walStart := by
    simp only [ServerMessage.encode, List.append_assoc, List.cons_append, List.nil_append,
      List.drop_one, List.tail_cons, toUnsigned64_recvint64_sendint64, Nat.mod_eq_of_lt hwal]
  have hdata : (ServerMessage.xlogData walStart walEnd clock frame).encode.drop (1 + 8 + 8 + 8) =
      frame := by
    simp [ServerMessage.encode, List.drop_append, List.drop_of_length_le]
  have hlen : ¬(ServerMessage.xlogData walStart walEnd clock frame).encode.length <
      1 + 8 + 8 + 8 + 1 := by
    have := List.length_pos_iff.mpr hframe
    simp [ServerMessage.encode]
    omega
  rw [parseXlogdataMessage]
  simp only
  rw [if_neg hlen, hpos, hdata]
  rfl

/-- **The parser meets its specification.** Polling the bytes of any message the server sends
does what `ServerMessage.process` says for its fields, then the periodic status update when the
message went through. -/
theorem replicationStreamPoll_encode {msg : ServerMessage} (hwf : msg.WellFormed)
    (st : PollState σ) (now : Int) (accepted : Bool) :
    replicationStreamPoll handleKeepalive parseFrame st (.data msg.encode) now accepted =
      let processed := msg.process handleKeepalive parseFrame { st with status := 1 } now accepted
      if processed.2 = 0 then replicationStreamKeepalive processed.1 now accepted
      else processed := by
  cases msg with
  | keepalive walEnd clock replyRequested =>
    have hmsg := parseKeepaliveMessageBuf_encode handleKeepalive parseFrame hwf clock
      replyRequested { st with status := 1 } now accepted
    simp only [replicationStreamPoll, pollMessage, ServerMessage.encode, List.append_assoc,
      List.cons_append, if_true] at hmsg ⊢
    rw [hmsg]
  | xlogData walStart walEnd clock frame =>
    have hmsg := parseXlogdataMessage_encode handleKeepalive parseFrame hwf.1 walEnd clock hwf.2
      { st with status := 1 } now accepted
    have htag : xlogDataTag ≠ keepaliveTag := by decide
    simp only [replicationStreamPoll, pollMessage, ServerMessage.encode, List.append_assoc,
      List.cons_append, if_neg htag, if_true] at hmsg ⊢
    rw [hmsg]

/-- An XLogData message at position `5` with a one-byte frame, polled by a client whose
frame reader takes every frame. -/
theorem xlogData_poll_processed :
    let st : PollState Unit := ⟨⟨0, 0, 0⟩, 0, 0, (), []⟩
    let msg := ServerMessage.xlogData 5 9 0 [0]
    msg.WellFormed ∧
      replicationStreamPoll (fun (fr : Unit) (_ : Nat) => (fr, (0 : Int)))
          (fun fr repl _ _ => (fr, repl, 0)) st (.data msg.encode) 0 true =
        let processed := msg.process (fun (fr : Unit) (_ : Nat) => (fr, (0 : Int)))
          (fun fr repl _ _ => (fr, repl, 0)) { st with status := 1 } 0 true
        if processed.2 = 0 then replicationStreamKeepalive processed.1 0 true else processed := by
  intro st msg
  have hwf : msg.WellFormed := ⟨by decide, by simp⟩
  exact ⟨hwf, replicationStreamPoll_encode _ _ hwf st 0 true⟩

end Reader

/-! ## Status updates over a run -/

/-- The positions a poll may leave: nothing beyond what an `XLogRecPtr` holds received, nothing
flushed beyond what was received; every status update sent so far reports a flushed position no
later than its received one, and a received position no later than the stream's; and the
received positions the updates report never go back. -/
structure ReportsInOrder (st : PollState σ) : Prop where
  recvd_lt : st.repl.recvdLsn < 2 ^ 64
  fsync_le : st.repl.fsyncLsn ≤ st.repl.recvdLsn
  flushed_le : ∀ msg ∈ st.sent, (reportedPositions msg).2 ≤ (reportedPositions msg).1
  reported_le : ∀ msg ∈ st.sent, (reportedPositions msg).1 ≤ st.repl.recvdLsn
  sorted : (st.sent.map fun msg => (reportedPositions msg).1).Pairwise (· ≤ ·)

/-- An application that moves no received position, and flushes only positions it has seen: no
later than the frame's own or the last one received. -/
def FlushesSeen
    (parseFrame : σ → ReplicationStream → Nat → List UInt8 → σ × ReplicationStream × Int) : Prop :=
  ∀ frameReader repl walPos frame,
    (parseFrame frameReader repl walPos frame).2.1.recvdLsn = repl.recvdLsn ∧
      (parseFrame frameReader repl walPos frame).2.1.fsyncLsn ≤ max walPos repl.recvdLsn

theorem parseKeepaliveMessage_recvdLsn (stream : ReplicationStream) (walPos : Nat)
    (handleKeepalive : Nat → Int) :
    (parseKeepaliveMessage stream walPos handleKeepalive).1.recvdLsn =
      max walPos stream.recvdLsn := by
  dsimp only [parseKeepaliveMessage]
  split_ifs <;> rfl

/-- A keepalive flushes nothing, or everything received. -/
theorem parseKeepaliveMessage_fsyncLsn (stream : ReplicationStream) (walPos : Nat)
    (handleKeepalive : Nat → Int) :
    (parseKeepaliveMessage stream walPos handleKeepalive).1.fsyncLsn = stream.fsyncLsn ∨
      (parseKeepaliveMessage stream walPos handleKeepalive).1.fsyncLsn =
        max walPos stream.recvdLsn := by
  dsimp only [parseKeepaliveMessage]
  split_ifs
  · exact .inl rfl
  · exact .inl rfl
  · exact .inr (by simp)

namespace ReportsInOrder

variable {st : PollState σ}

/-- A step that sends nothing keeps the invariant when it only moves the received position
forward and keeps the flushed one behind it. -/
theorem advance (h : ReportsInOrder st) {st' : PollState σ} (hsent : st'.sent = st.sent)
    (hle : st.repl.recvdLsn ≤ st'.repl.recvdLsn) (hlt : st'.repl.recvdLsn < 2 ^ 64)
    (hfsync : st'.repl.fsyncLsn ≤ st'.repl.recvdLsn) : ReportsInOrder st' where
  recvd_lt := hlt
  fsync_le := hfsync
  flushed_le := hsent ▸ h.flushed_le
  reported_le msg hmsg := (h.reported_le msg (hsent ▸ hmsg)).trans hle
  sorted := hsent ▸ h.sorted

theorem of_repl_sent (h : ReportsInOrder st) {st' : PollState σ} (hrepl : st'.repl = st.repl)
    (hsent : st'.sent = st.sent) : ReportsInOrder st' :=
  h.advance hsent (hrepl ▸ le_rfl) (hrepl ▸ h.recvd_lt) (hrepl ▸ h.fsync_le)

/-- A status update reports the stream's positions, which the invariant keeps in order. -/
theorem sendCheckpoint (h : ReportsInOrder st) (now : Int) (accepted : Bool) :
    ReportsInOrder (BottledWater.sendCheckpoint st now accepted).1 := by
  have hreport : reportedPositions (standbyStatusUpdate st.repl now) =
      (st.repl.recvdLsn, st.repl.fsyncLsn) := by
    rw [(standbyStatusUpdate_reads_back st.repl now).2.2.1,
      Nat.mod_eq_of_lt h.recvd_lt, Nat.mod_eq_of_lt (h.fsync_le.trans_lt h.recvd_lt)]
  cases accepted with
  | false => exact h
  | true =>
    constructor
    · exact h.recvd_lt
    · exact h.fsync_le
    · intro msg hmsg
      rcases List.mem_append.mp hmsg with hold | hnew
      · exact h.flushed_le msg hold
      · rw [List.mem_singleton.mp hnew, hreport]
        exact h.fsync_le
    · intro msg hmsg
      rcases List.mem_append.mp hmsg with hold | hnew
      · exact h.reported_le msg hold
      · rw [List.mem_singleton.mp hnew, hreport]
        exact le_rfl
    · -- the new update reports the stream's received position, which bounds every earlier one
      simp only [BottledWater.sendCheckpoint, if_true, List.map_append, List.map_cons,
        List.map_nil]
      refine List.pairwise_append.mpr ⟨h.sorted, List.pairwise_singleton _ _, ?_⟩
      intro a ha b hb
      obtain ⟨msg, hmsg, rfl⟩ := List.mem_map.mp ha
      rw [List.mem_singleton.mp hb, hreport]
      exact h.reported_le msg hmsg

/-- The end of an XLogData message keeps the invariant when the application kept the received
position and flushed no more than the frame's position or what was received. -/
theorem xlogDataReceived (h : ReportsInOrder st) {repl : ReplicationStream} {walPos : Nat}
    (hrecvd : repl.recvdLsn = st.repl.recvdLsn)
    (hfsync : repl.fsyncLsn ≤ max walPos st.repl.recvdLsn)
    (hwal : walPos < 2 ^ 64) (frameReader : σ) :
    ReportsInOrder { st with repl := BottledWater.xlogDataReceived repl walPos, frameReader } := by
  have hlt := h.recvd_lt
  refine h.advance rfl ?_ ?_ ?_
  · show st.repl.recvdLsn ≤ max walPos repl.recvdLsn
    omega
  · show max walPos repl.recvdLsn < 2 ^ 64
    omega
  · show repl.fsyncLsn ≤ max walPos repl.recvdLsn
    omega

theorem replicationStreamKeepalive (h : ReportsInOrder st) (now : Int) (accepted : Bool) :
    ReportsInOrder (BottledWater.replicationStreamKeepalive st now accepted).1 := by
  unfold BottledWater.replicationStreamKeepalive
  split_ifs
  · exact h.sendCheckpoint now accepted
  · exact h
  · exact h

section Reader

variable (handleKeepalive : σ → Nat → σ × Int)
  (parseFrame : σ → ReplicationStream → Nat → List UInt8 → σ × ReplicationStream × Int)

theorem parseKeepaliveMessageBuf (h : ReportsInOrder st) (buf : List UInt8) (now : Int)
    (accepted : Bool) :
    ReportsInOrder
      (BottledWater.parseKeepaliveMessageBuf handleKeepalive st buf now accepted).1 := by
  dsimp only [BottledWater.parseKeepaliveMessageBuf]
  by_cases hlen : buf.length < 1 + 8 + 8 + 1
  · rw [if_pos hlen]
    exact h
  · -- the keepalive moves the received position to the end of WAL it reports
    rw [if_neg hlen]
    set walPos := toUnsigned64 (recvint64 (buf.drop 1))
    have hwal : walPos < 2 ^ 64 := toUnsigned64_lt _
    have hrecvd := parseKeepaliveMessage_recvdLsn st.repl walPos fun _ =>
      (handleKeepalive st.frameReader walPos).2
    have hfsync := parseKeepaliveMessage_fsyncLsn st.repl walPos fun _ =>
      (handleKeepalive st.frameReader walPos).2
    set parsed := parseKeepaliveMessage st.repl walPos fun _ =>
      (handleKeepalive st.frameReader walPos).2
    have hmid : ReportsInOrder
        { st with repl := parsed.1, frameReader := (handleKeepalive st.frameReader walPos).1 } := by
      refine h.advance rfl ?_ ?_ ?_
      · show st.repl.recvdLsn ≤ parsed.1.recvdLsn
        omega
      · show parsed.1.recvdLsn < 2 ^ 64
        have := h.recvd_lt
        omega
      · show parsed.1.fsyncLsn ≤ parsed.1.recvdLsn
        have := h.fsync_le
        rcases hfsync with hf | hf <;> omega
    split_ifs
    · exact hmid.sendCheckpoint now accepted
    · exact hmid

theorem parseXlogdataMessage (happ : FlushesSeen parseFrame) (h : ReportsInOrder st)
    (buf : List UInt8) :
    ReportsInOrder (BottledWater.parseXlogdataMessage parseFrame st buf).1 := by
  dsimp only [BottledWater.parseXlogdataMessage]
  split_ifs with hlen
  · exact h
  · -- the frame's position counts as received after the application had the frame
    obtain ⟨hrecvd, hfsync⟩ := happ st.frameReader st.repl (toUnsigned64 (recvint64 (buf.drop 1)))
      (buf.drop (1 + 8 + 8 + 8))
    exact h.xlogDataReceived hrecvd hfsync (toUnsigned64_lt _) _

theorem pollMessage (happ : FlushesSeen parseFrame) (h : ReportsInOrder st) (buf : List UInt8)
    (now : Int) (accepted : Bool) :
    ReportsInOrder (BottledWater.pollMessage handleKeepalive parseFrame st buf now accepted).1 := by
  have hstatus : ∀ status, ReportsInOrder { st with status } := fun _ => h.of_repl_sent rfl rfl
  cases buf with
  | nil => exact hstatus 0
  | cons tag rest =>
    dsimp only [BottledWater.pollMessage]
    split_ifs
    · exact (hstatus 1).parseKeepaliveMessageBuf handleKeepalive _ now accepted
    · exact (hstatus 1).parseXlogdataMessage parseFrame happ _
    · exact hstatus 1

/-- One poll keeps the invariant, whatever the server sent. -/
theorem replicationStreamPoll (happ : FlushesSeen parseFrame) (h : ReportsInOrder st)
    (copy : CopyData) (now : Int) (accepted : Bool) :
    ReportsInOrder
      (BottledWater.replicationStreamPoll handleKeepalive parseFrame st copy now accepted).1 := by
  cases copy with
  | ended commandOk => exact h.of_repl_sent rfl rfl
  | failed => exact h.of_repl_sent rfl rfl
  | data buf =>
    have hmsg := h.pollMessage handleKeepalive parseFrame happ buf now accepted
    dsimp only [BottledWater.replicationStreamPoll]
    split_ifs
    · exact hmsg.replicationStreamKeepalive now accepted
    · exact hmsg

end Reader

end ReportsInOrder

section Run

variable (handleKeepalive : σ → Nat → σ × Int)
  (parseFrame : σ → ReplicationStream → Nat → List UInt8 → σ × ReplicationStream × Int)

end Run

end BottledWater
