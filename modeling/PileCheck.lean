import PileCheck.Check.Report
import PileCheck.Device.Report
import PileCheck.Failure.Report
import PileCheck.Proofs.Archive.Basic
import PileCheck.Proofs.Archive.Keeping
import PileCheck.Proofs.Archive.Rows
import PileCheck.Proofs.Bus.Scripts
import PileCheck.Proofs.Bus.Word
import PileCheck.Proofs.Cache.Agreement
import PileCheck.Proofs.Cache.Loss
import PileCheck.Proofs.Ccu.Decoding
import PileCheck.Proofs.Check.Addressing
import PileCheck.Proofs.Check.Checking
import PileCheck.Proofs.Check.Correlation
import PileCheck.Proofs.Check.Details
import PileCheck.Proofs.Check.Judgement
import PileCheck.Proofs.Check.Locality
import PileCheck.Proofs.Check.Recorded
import PileCheck.Proofs.Check.Refusal
import PileCheck.Proofs.Check.Repetition
import PileCheck.Proofs.Check.Severity
import PileCheck.Proofs.Check.Transcript
import PileCheck.Proofs.Check.Turns
import PileCheck.Proofs.Check.Wire
import PileCheck.Proofs.Json.ReadBack
import PileCheck.Proofs.Site.Onward
import PileCheck.Proofs.Site.Recovery
import PileCheck.Proofs.Sql.Accounting
import PileCheck.Proofs.Sql.Capacity
import PileCheck.Proofs.Sql.Lending
import PileCheck.Proofs.Sql.Provenance
import PileCheck.Proofs.Sql.Resilience
import PileCheck.Proofs.Sql.Rotation
import PileCheck.Proofs.Sql.Routing
import PileCheck.Proofs.Sql.Sightings
import PileCheck.Proofs.Watch.Crew
import PileCheck.Proofs.Watch.Events
import PileCheck.Record.Document
import PileCheck.Scenario.BusRun
import PileCheck.Scenario.CacheRun
import PileCheck.Scenario.CheckRun
import PileCheck.Scenario.PoolRun
import PileCheck.Scenario.SessionRun
import PileCheck.Scenario.Sheet
import PileCheck.Scenario.StoreRun
import PileCheck.Scenario.WatchRun
import PileCheck.Settings.File
import PileCheck.Sql.Document
import PileCheck.Sql.Report
import PileCheck.Sql.Trial
import PileCheck.Version
import PileCheck.Proofs.Cache.Pacing
import PileCheck.Proofs.Cache.Pages
import PileCheck.Proofs.Device.Key
import PileCheck.Proofs.Check.Collecting
import PileCheck.Proofs.Check.Silence
import PileCheck.Proofs.Sql.Violations
import PileCheck.Proofs.Device.Numbering
import PileCheck.Proofs.Check.Scanning
import PileCheck.Proofs.Bus.Slot
import PileCheck.Proofs.Bus.Outages
import PileCheck.Proofs.Credentials
import PileCheck.Proofs.Record
