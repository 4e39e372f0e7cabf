import ReceivingApp.Theorems.Correspondence
import ReceivingApp.Theorems.Claiming
import ReceivingApp.Theorems.Identity
import ReceivingApp.Theorems.Discrepancies
import ReceivingApp.Theorems.Recovery
import ReceivingApp.Theorems.Concurrency
import ReceivingApp.Theorems.Binding
import ReceivingApp.Theorems.Emission
import ReceivingApp.Theorems.Repeats
import ReceivingApp.Theorems.Routing
import ReceivingApp.Theorems.Stopping
import ReceivingApp.Theorems.Handoff
import ReceivingApp.Theorems.Reprints
import ReceivingApp.Theorems.Exclusion
import ReceivingApp.Theorems.Interlock
import ReceivingApp.Theorems.Learning
import ReceivingApp.Theorems.SerialMatch
import ReceivingApp.Theorems.Resolution
import ReceivingApp.Theorems.Fakes
import ReceivingApp.Theorems.WriteOnce
import ReceivingApp.Theorems.Migrations
import ReceivingApp.Theorems.FillOrder
import ReceivingApp.Theorems.Configuration
import ReceivingApp.Theorems.Independence
import ReceivingApp.Theorems.SyncPass
import ReceivingApp.Theorems.Catalog
import ReceivingApp.Theorems.Rearrangement
import ReceivingApp.Theorems.Alarm
import ReceivingApp.Theorems.SyncStops
import ReceivingApp.Theorems.OwnRecords
import ReceivingApp.Theorems.Pagination
import ReceivingApp.Theorems.Export
import ReceivingApp.Theorems.Receipts
import ReceivingApp.Theorems.Sessions
import ReceivingApp.Theorems.PoLabels
import ReceivingApp.Theorems.Traceability
import ReceivingApp.Theorems.SinkAdapters
import ReceivingApp.Theorems.BoardStatus
import ReceivingApp.Theorems.Spooling
import ReceivingApp.Theorems.Fetching
import ReceivingApp.Theorems.CatchUp
import ReceivingApp.Theorems.Flashing
import ReceivingApp.Theorems.Previews
import ReceivingApp.Theorems.Monitoring
import ReceivingApp.Theorems.Keystrokes
import ReceivingApp.Theorems.Beeps
import ReceivingApp.Lib.Protocol
import ReceivingApp.Theorems.Posting
