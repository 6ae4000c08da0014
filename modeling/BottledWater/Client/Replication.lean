import Mathlib.Tactic

set_option autoImplicit false

/-! # The replication stream (`client/replication.c`, `client/connect.h`)

The client reads the logical replication protocol from Postgres. Two kinds of server message
matter for what the client acknowledges: XLogData messages, which carry a frame of the output
plugin at a WAL position, and primary keepalive messages, which carry the server's current end
of WAL. The stream remembers the latest position it has received (`recvd_lsn`) and the position
up to which the data is durably written (`fsync_lsn`), which the next standby status update
reports to the server as flushed.
-/

namespace BottledWater

/-- `FRAME_READER_SYNC_PENDING`, which is `EBUSY`: the keepalive callback's answer when
transactions are still waiting for Kafka. -/
def frameReaderSyncPending : Int := 16

/-- The fields of `replication_stream` that the acknowledgement logic reads and writes. -/
structure ReplicationStream where
  startLsn : Nat
  recvdLsn : Nat
  fsyncLsn : Nat
  deriving DecidableEq, Repr

/-- The fields of `client_context` that the producer reads and writes. -/
structure ClientContext where
  repl : ReplicationStream
  takingSnapshot : Bool
  deriving DecidableEq, Repr

/-- `parse_keepalive_message`, once the WAL position has been read from the message. The
frame reader's `handle_keepalive` asks the application whether transactions are pending;
only when nothing is pending does the stream acknowledge the position as flushed. -/
def parseKeepaliveMessage (stream : ReplicationStream) (walPos : Nat)
    (handleKeepalive : Nat → Int) : ReplicationStream × Int :=
  let stream := { stream with recvdLsn := max walPos stream.recvdLsn }
  let err := handleKeepalive walPos
  if err = frameReaderSyncPending then (stream, 0)
  -- any other error: the position is not acknowledged
  else if err ≠ 0 then (stream, err)
  else ({ stream with fsyncLsn := max walPos stream.recvdLsn }, 0)

/-- The end of `parse_xlogdata_message`: once the frame has been parsed, its WAL position
counts as received. -/
def xlogDataReceived (stream : ReplicationStream) (walPos : Nat) : ReplicationStream :=
  { stream with recvdLsn := max walPos stream.recvdLsn }

end BottledWater
