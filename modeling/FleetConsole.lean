import FleetConsole.Main
import FleetConsole.Proofs.CommandLine.Edits
import FleetConsole.Proofs.CommandLine.Layers
import FleetConsole.Proofs.CommandLine.Naming
import FleetConsole.Proofs.CommandLine.Repair
import FleetConsole.Proofs.Fleet.Foreign
import FleetConsole.Proofs.Fleet.SelectorText
import FleetConsole.Proofs.Request.Cancellation
import FleetConsole.Proofs.Rollout.Account
import FleetConsole.Proofs.Screen.Wishes
import FleetConsole.Proofs.Service.Mirror
import FleetConsole.Proofs.Service.Precedence
import FleetConsole.Proofs.Session.Announcement
import FleetConsole.Proofs.Session.InSight
import FleetConsole.Proofs.Session.Loading
import FleetConsole.Proofs.Settings.Accepted
import FleetConsole.Proofs.Store.Conjunction
import FleetConsole.Proofs.Store.Flattening
import FleetConsole.Proofs.Store.Lookup
import FleetConsole.Proofs.Store.NotFound
import FleetConsole.Proofs.Table.Age
import FleetConsole.Proofs.Table.LineBreaks
import FleetConsole.Proofs.Table.Unreadable
import FleetConsole.Proofs.Text.Truncated
import FleetConsole.Screen.Layout
import FleetConsole.Session.Key
