import BoardViews.Http.Server
import BoardViews.Schema.Migration
import BoardViews.Socket
import BoardViews.Store.Upkeep
import BoardViews.Proofs.Atomic
import BoardViews.Proofs.Rows
import BoardViews.Proofs.Results
import BoardViews.Proofs.Step
import BoardViews.Proofs.Display
import BoardViews.Proofs.Plan
import BoardViews.Proofs.Assignments
import BoardViews.Proofs.Run
import BoardViews.Proofs.Reorder
import BoardViews.Proofs.Frame
import BoardViews.Proofs.Isolation
import BoardViews.Proofs.Replay
import BoardViews.Proofs.Lookup
import BoardViews.Proofs.Authority
import BoardViews.Proofs.Latest
import BoardViews.Proofs.Notice
import BoardViews.Proofs.Scalar
import BoardViews.Proofs.RoundTrip
import BoardViews.Proofs.Delivery
import BoardViews.Proofs.Symbols
import BoardViews.Proofs.Expiry
import BoardViews.Proofs.Admission
import BoardViews.Proofs.Lifecycle
import BoardViews.Proofs.Unseen
import BoardViews.Proofs.Success
import BoardViews.Proofs.Refusal
import BoardViews.Proofs.Integrity
import BoardViews.Proofs.Outage
import BoardViews.Proofs.Grid
import BoardViews.Proofs.Commute
import BoardViews.Proofs.Paths
import BoardViews.Proofs.Identity
import BoardViews.Proofs.Handshake
import BoardViews.Proofs.Widths
import BoardViews.Proofs.Making
import BoardViews.Proofs.SameTables
import BoardViews.Proofs.Listing
import BoardViews.Proofs.Placement
import BoardViews.Proofs.Rearrange
import BoardViews.Proofs.Visibility
import BoardViews.Proofs.WholeSchema
import BoardViews.Proofs.Legibility
import BoardViews.Proofs.Editing
import BoardViews.Proofs.OwnPath
