import Gatehouse.Settings.Files
import Gatehouse.Json.Reader
import Gatehouse.Json.Writer
import Gatehouse.House.Sessions
import Gatehouse.House.Stores
import Gatehouse.House.Flow
import Gatehouse.Proofs.Permission.Catalog
import Gatehouse.Proofs.Text.Utf8
import Gatehouse.Proofs.Permission.Identity
import Gatehouse.Proofs.Permission.History
import Gatehouse.Proofs.Access.DecisionTable
import Gatehouse.Proofs.House.Run
import Gatehouse.Proofs.House.Invariant
import Gatehouse.Proofs.House.Journal
import Gatehouse.Proofs.Text.Uppercase
import Gatehouse.Proofs.Permission.Descent
import Gatehouse.Proofs.Permission.Points
import Gatehouse.Proofs.Permission.KindTree
import Gatehouse.Proofs.Session.Lifetime
import Gatehouse.Proofs.House.Chronicle
import Gatehouse.Proofs.House.Eviction
import Gatehouse.Proofs.Permission.Registration
import Gatehouse.Proofs.House.Making
import Gatehouse.Proofs.Session.Traffic
import Gatehouse.Proofs.House.Traffic
import Gatehouse.Proofs.Permission.Sharing
import Gatehouse.Proofs.House.Rights
import Gatehouse.Proofs.Session.Minting
import Gatehouse.Proofs.House.Nobody
import Gatehouse.Proofs.Text.Listing
import Gatehouse.Proofs.House.Restoring
import Gatehouse.Proofs.Permission.Recasing
import Gatehouse.Proofs.House.Filing
import Gatehouse.Proofs.Session.Warning
import Gatehouse.Proofs.House.Warning
import Gatehouse.Proofs.House.Client
import Gatehouse.Proofs.House.Scopes
import Gatehouse.Proofs.House.Granting
import Gatehouse.Proofs.Access.Discretion
import Gatehouse.Proofs.House.Approval
import Gatehouse.Proofs.Json.RoundTrip
import Gatehouse.Proofs.Json.Order
import Gatehouse.Proofs.Json.Persistence
import Gatehouse.Proofs.Session.Range
import Gatehouse.Proofs.House.Range
import Gatehouse.Proofs.Permission.Ancestry
import Gatehouse.Proofs.Permission.KindRegistration
import Gatehouse.Proofs.Permission.Breadcrumbs
import Gatehouse.Proofs.Permission.Wording
import Gatehouse.Proofs.Access.Refusal
import Gatehouse.Proofs.Access.Gating
import Gatehouse.Proofs.Session.DataBag
import Gatehouse.Proofs.Settings.Overrides
import Gatehouse.Proofs.Access.Login
import Gatehouse.Proofs.Access.Dispatch
import Gatehouse.Proofs.Permission.Levels
import Gatehouse.Proofs.House.Stranding
