import InputHub.Binary.Binary32
import InputHub.Binary.Format
import InputHub.Binary.Rounding
import InputHub.Capabilities
import InputHub.Change
import InputHub.Config
import InputHub.Decimal.Layout
import InputHub.Decimal.Shortest
import InputHub.Device
import InputHub.Error
import InputHub.Event
import InputHub.EventNodes.Errno
import InputHub.EventNodes.Node
import InputHub.EventNodes.Platform
import InputHub.EventNodes.Rumble
import InputHub.Haptics.Effect
import InputHub.Haptics.Motor
import InputHub.Haptics.Rack
import InputHub.Haptics.Vibrator
import InputHub.Hub.Basic
import InputHub.Hub.Core
import InputHub.Hub.Listener
import InputHub.Hub.Rescan
import InputHub.Hub.Routing
import InputHub.Hub.Worker
import InputHub.Json.Escape
import InputHub.Json.Literal
import InputHub.Json.Token
import InputHub.Json.Value
import InputHub.Memory.Delivery
import InputHub.Memory.Platform
import InputHub.Notice
import InputHub.Proofs.Allotting
import InputHub.Proofs.Announcing
import InputHub.Proofs.Collapsing
import InputHub.Proofs.Collating
import InputHub.Proofs.Convergence
import InputHub.Proofs.Creeping
import InputHub.Proofs.Describing
import InputHub.Proofs.Dismissing
import InputHub.Proofs.Ending
import InputHub.Proofs.Entering
import InputHub.Proofs.Escaping
import InputHub.Proofs.Grading
import InputHub.Proofs.History
import InputHub.Proofs.Interleaving
import InputHub.Proofs.Keeping
import InputHub.Proofs.Lifecycle
import InputHub.Proofs.Listing
import InputHub.Proofs.Measuring
import InputHub.Proofs.Nesting
import InputHub.Proofs.Numbering
import InputHub.Proofs.Parsing
import InputHub.Proofs.Playing
import InputHub.Proofs.Reading
import InputHub.Proofs.Rebuilding
import InputHub.Proofs.Rendering
import InputHub.Proofs.Reordering
import InputHub.Proofs.Reporting
import InputHub.Proofs.Rounding
import InputHub.Proofs.Routing
import InputHub.Proofs.Rumbling
import InputHub.Proofs.Scanning
import InputHub.Proofs.Schedules
import InputHub.Proofs.Searching
import InputHub.Proofs.Spelling
import InputHub.Proofs.Stopping
import InputHub.Proofs.Suspending
import InputHub.Proofs.Tables
import InputHub.Proofs.Transmitting
import InputHub.Proofs.Wiring
import InputHub.Qualifier
import InputHub.Sampling
import InputHub.Snapshot
import InputHub.Text.Cut
import InputHub.Text.Hidden
import InputHub.Text.Numeral
import InputHub.Text.Quoted
import InputHub.Wire
