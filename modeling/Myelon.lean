import Myelon.Interleaving.Program
import Myelon.Interleaving.Execution
import Myelon.Interleaving.RelyGuarantee
import Myelon.Interleaving.Sequential
import Myelon.Interleaving.Termination
import Myelon.Interleaving.Extension
import Myelon.Interleaving.Paced
import Myelon.Mixing.Words
import Myelon.Delivery.Log
import Myelon.Delivery.Calls
import Myelon.Delivery.Register
import Myelon.Delivery.Numbering
import Myelon.Delivery.Journal
import Myelon.Delivery.Growth
import Myelon.Watch.Sighting
import Myelon.Watch.Alerting
import Myelon.Observability.CountersFile
import Myelon.Observability.Accounts
import Myelon.Observability.Registration
import Myelon.Observability.HighWater
import Myelon.Naming.ObjectName
import Myelon.Naming.SegmentName
import Myelon.Naming.TransportLayout
import Myelon.Naming.MmapLayout
import Myelon.Layout.Bytes
import Myelon.Layout.Header
import Myelon.Layout.Agreement
import Myelon.Cursor.Segment
import Myelon.Cursor.Use
import Myelon.Cursor.Creation
import Myelon.Cursor.Reopening
import Myelon.Ring.Buffer
import Myelon.Ring.RequiredConsumer
import Myelon.Ring.Liveness
import Myelon.Ring.Alerts
import Myelon.Ring.Blame
import Myelon.Ring.World
import Myelon.Ring.Process
import Myelon.Ring.Barrier
import Myelon.Ring.DirectoryScan
import Myelon.Ring.Producer
import Myelon.Ring.Consumer
import Myelon.Ring.System
import Myelon.Ring.Contract
import Myelon.Ring.Frames
import Myelon.Ring.ConsumerFrames
import Myelon.Ring.Ledger
import Myelon.Ring.BarrierTriples
import Myelon.Ring.ProducerTriples
import Myelon.Ring.ConsumerTriples
import Myelon.Ring.Runs
import Myelon.Ring.Plain
import Myelon.Ring.Known
import Myelon.Ring.Booking
import Myelon.Ring.Discovery
import Myelon.Ring.LateJoin
import Myelon.Ring.Shutdown
import Myelon.Ring.AutoConsumer
import Myelon.Ring.Reports
import Myelon.Ring.Stalls
import Myelon.Ring.Progress
import Myelon.Ring.DirectoryErrors
import Myelon.Ring.Solitary
import Myelon.Ring.Straight
import Myelon.Ring.Capacity
import Myelon.Ring.Publication
import Myelon.Ring.Exactness
import Myelon.Ring.Managed
import Myelon.Ring.Delivering
import Myelon.Ring.Consumption
import Myelon.Ring.Taking
import Myelon.Ring.Backends
import Myelon.Dst.Oracle
import Myelon.Dst.Merge
import Myelon.Dst.Payload
import Myelon.Dst.Recovery
import Myelon.Dst.Trace
import Myelon.Dst.Runtime
import Myelon.Dst.Timeline
import Myelon.Dst.Seeds
import Myelon.Dst.Buggify
import Myelon.Dst.Checkpoints
import Myelon.Streaming.Transducer
import Myelon.Framing.Frame
import Myelon.Framing.Fragment
import Myelon.Framing.Reassembly
import Myelon.Framing.Runs
import Myelon.Framing.Tape
import Myelon.Framing.Fragmenters
import Myelon.Framing.RoundTrip
import Myelon.Framing.Typed
import Myelon.Framing.Agreement
import Myelon.Framing.Truncation
import Myelon.Framing.Storage
import Myelon.Framing.Mixed
import Myelon.Framing.TypedTransport
import Myelon.Framed.Application
import Myelon.Framed.Publication
import Myelon.Framed.Reception
import Myelon.Framed.Progress
import Myelon.Framed.Tracking
import Myelon.Framed.Outcomes
import Myelon.Framing.Resumption
import Myelon.Framed.Restarts
import Myelon.Startup.Session
import Myelon.Startup.Readiness
import Myelon.Startup.Registration
import Myelon.Startup.AutoIds
