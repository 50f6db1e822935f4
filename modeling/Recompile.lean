import Recompile.Path.Relative
import Recompile.Session.Step
import Recompile.Json.Reader
import Recompile.Json.Writer
import Recompile.Json.Record
import Recompile.Manifest.Session
import Recompile.Report.Drawing
import Recompile.ConfigFile
import Recompile.Watch.Service
import Recompile.Main
import Recompile.Proofs.Dependency.History
import Recompile.Proofs.Session.Reported
import Recompile.Proofs.Session.Markers
import Recompile.Proofs.Manifest.Changes
import Recompile.Proofs.Session.Modes
import Recompile.Proofs.Session.Owners
import Recompile.Proofs.Session.Restart
import Recompile.Proofs.Manifest.Reports
import Recompile.Proofs.Watch.Delivery
import Recompile.Proofs.Packages
import Recompile.Proofs.Manifest.Agreement
import Recompile.Proofs.FileTable.History
import Recompile.Proofs.NamedStores.InPlace
import Recompile.Proofs.Session.Touched
import Recompile.Proofs.Session.Refusal
import Recompile.Proofs.Watch.Filtering
import Recompile.Proofs.Slots.History
import Recompile.Proofs.Dependency.Rounds
import Recompile.Proofs.Manifest.Names
import Recompile.Proofs.FileTable.Indexed
