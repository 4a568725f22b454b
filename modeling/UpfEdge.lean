import UpfEdge.Lib.Decimal
import UpfEdge.Lib.Run
import UpfEdge.Lib.Table
import UpfEdge.Lib.Words
import UpfEdge.Isolation
import UpfEdge.Rows
import UpfEdge.Reports
import UpfEdge.Ownership
import UpfEdge.Agreement
import UpfEdge.Cleanup
import UpfEdge.Restart
import UpfEdge.Accounting
import UpfEdge.Race
import UpfEdge.Services
import UpfEdge.Atomicity
import UpfEdge.Associations
import UpfEdge.Interference
import UpfEdge.Retransmission
import UpfEdge.Persistence
import UpfEdge.Recovery
import UpfEdge.Keepalive
import UpfEdge.Filter
import UpfEdge.Selection
import UpfEdge.Encapsulation
import UpfEdge.Placement
import UpfEdge.Acknowledged
import UpfEdge.Triggers
import UpfEdge.Departures
import UpfEdge.UplinkTeid
import UpfEdge.Datagrams
import UpfEdge.Endpoints
import UpfEdge.Chronicle
import UpfEdge.Sequencing
import UpfEdge.Pfcp.Checked
import UpfEdge.Pfcp.Roundtrip
import UpfEdge.Answers
import UpfEdge.Framing
import UpfEdge.Mandatory
import UpfEdge.Smf.Validator
import UpfEdge.Understood
import UpfEdge.Smf.Transport
import UpfEdge.Smf.Concurrent
import UpfEdge.Smf.Process
import UpfEdge.Smf.Link
import UpfEdge.Smf.Seids
import UpfEdge.Smf.Stamp
import UpfEdge.Drops
import UpfEdge.Pfcp.Tlv
import UpfEdge.Lib.OnesComplement
import UpfEdge.Receiver
import UpfEdge.Decapsulation
import UpfEdge.Updates
import UpfEdge.Gauge
import UpfEdge.Refusals
import UpfEdge.Copies
import UpfEdge.Smf.Retry
import UpfEdge.Pfcp.Order
import UpfEdge.Lib.Search
import UpfEdge.Lib.Refinement
import UpfEdge.Directory
import UpfEdge.Subscribers
import UpfEdge.Totals
import UpfEdge.Replies
import UpfEdge.Conduct
import UpfEdge.Smf.Lifecycle
import UpfEdge.Smf.Reassociation
