import BottledWater.Lib.CircularBuffer
import BottledWater.Lib.AvroSchema
import BottledWater.Lib.AvroValue
import BottledWater.Lib.CString
import BottledWater.Lib.CFormat
import BottledWater.Lib.Transcript
import BottledWater.Lib.AvroBinary
import BottledWater.Lib.AvroGeneric
import BottledWater.Lib.KeyedList
import BottledWater.Lib.NetworkOrder
import BottledWater.Ext.Oid2Avro
import BottledWater.Ext.RowValues
import BottledWater.Ext.Protocol
import BottledWater.Ext.IoUtil
import BottledWater.Ext.SchemaCache
import BottledWater.Client.Replication
import BottledWater.Client.ProtocolClient
import BottledWater.Client.FailedRows
import BottledWater.Client.Connect
import BottledWater.Kafka.TableMapper
import BottledWater.Kafka.Producer
import BottledWater.Kafka.Client
import BottledWater.Kafka.CheckpointLoop
import BottledWater.Kafka.Steps
import BottledWater.Kafka.Acknowledgement
import BottledWater.Kafka.RingDiscipline
import BottledWater.Kafka.LogPolicy
import BottledWater.Kafka.TopicName
import BottledWater.Client.Snapshot
import BottledWater.Client.FrameRoundTrip
import BottledWater.Ext.LogDecoder
import BottledWater.Ext.ChangeFrames
import BottledWater.Ext.DecodingSession
import BottledWater.Ext.SnapshotExport
import BottledWater.Client.ReplicationPoll
import BottledWater.Client.Startup
