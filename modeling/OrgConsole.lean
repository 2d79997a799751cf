import OrgConsole.Json.Printer
import OrgConsole.Wire.Nodes
import OrgConsole.Forest.Build
import OrgConsole.Forest.Lookup
import OrgConsole.Forest.Expansion
import OrgConsole.Forest.Search
import OrgConsole.Membership.Edit
import OrgConsole.Membership.Department
import OrgConsole.Permission.Matrix
import OrgConsole.Ticket
import OrgConsole.Report
import OrgConsole.Directory.Workflow
import OrgConsole.Directory.Memory
import OrgConsole.Http.Routes
import OrgConsole.Command.Run
import OrgConsole.Startup
import OrgConsole.Browser.Fetching
import OrgConsole.Browser.Screen
import OrgConsole.Main
import OrgConsole.Proofs.Text.Blank
import OrgConsole.Proofs.Tree.Address
import OrgConsole.Proofs.Tree.Pruning
import OrgConsole.Proofs.Forest.Lineage
import OrgConsole.Proofs.Forest.Owner
import OrgConsole.Proofs.Forest.Listing
import OrgConsole.Proofs.Forest.Searching
import OrgConsole.Proofs.Forest.Depiction
import OrgConsole.Proofs.Forest.Rows
import OrgConsole.Proofs.Membership.Primary
import OrgConsole.Proofs.Membership.Pointer
import OrgConsole.Proofs.Browser.Moves
import OrgConsole.Proofs.Browser.Run
import OrgConsole.Proofs.Ticket.Currency
import OrgConsole.Proofs.Browser.StaffPane
import OrgConsole.Proofs.Browser.Staff
import OrgConsole.Proofs.Browser.Outline
import OrgConsole.Proofs.Browser.Reachable
import OrgConsole.Proofs.Browser.Cursor
import OrgConsole.Proofs.Permission.Leaves
import OrgConsole.Proofs.Permission.Seed
import OrgConsole.Proofs.Directory.Journal
import OrgConsole.Proofs.Directory.Keeping
import OrgConsole.Proofs.Membership.Entries
import OrgConsole.Proofs.Permission.Isolation
import OrgConsole.Proofs.Directory.MembershipEdits
import OrgConsole.Proofs.Directory.PermissionSaves
import OrgConsole.Proofs.Browser.Bare
import OrgConsole.Proofs.Browser.ReplyOrder
import OrgConsole.Proofs.Http.PercentEncoding
import OrgConsole.Proofs.Http.Sending
import OrgConsole.Proofs.Http.Segment
import OrgConsole.Proofs.Http.Storing
import OrgConsole.Proofs.Browser.Hits
import OrgConsole.Proofs.Permission.Rebuild
import OrgConsole.Proofs.Json.ReadBack
import OrgConsole.Proofs.Http.Exchanges
import OrgConsole.Proofs.Json.Literal
import OrgConsole.Proofs.Wire.RoundTrip
import OrgConsole.Proofs.Wire.Fields
import OrgConsole.Proofs.Wire.Identifier
import OrgConsole.Proofs.Command.CleanReads
import OrgConsole.Proofs.Text.LowerCase
import OrgConsole.Proofs.Forest.SpelledHits
import OrgConsole.Proofs.Browser.Selection
import OrgConsole.Proofs.Browser.Loads
import OrgConsole.Proofs.Command.Granting
import OrgConsole.Proofs.Directory.ReportedChange
import OrgConsole.Proofs.Membership.DepartmentNames
import OrgConsole.Proofs.Forest.InSight
import OrgConsole.Proofs.Browser.Parent
import OrgConsole.Proofs.Browser.Turning
import OrgConsole.Proofs.Text.Separator
import OrgConsole.Proofs.Forest.PreOrder
import OrgConsole.Proofs.Forest.Unfolding
import OrgConsole.Proofs.Permission.Change
import OrgConsole.Proofs.Permission.Collision
import OrgConsole.Proofs.Membership.Removals
import OrgConsole.Proofs.Membership.Repeated
import OrgConsole.Proofs.Directory.RetriedEdit
import OrgConsole.Proofs.Permission.Spans
import OrgConsole.Proofs.Report.Matrix
import OrgConsole.Proofs.Report.Memberships
import OrgConsole.Proofs.Forest.Lookup
import OrgConsole.Proofs.Browser.FullNode
import OrgConsole.Proofs.Browser.Reload
