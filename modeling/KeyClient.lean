import KeyClient.Dispatch.Batch
import KeyClient.Http.Offline
import KeyClient.Main
import KeyClient.Program.Process
import KeyClient.Session
import KeyClient.Proofs.Dispatch.Batch
import KeyClient.Proofs.Dispatch.Course
import KeyClient.Proofs.Dispatch.Alone
import KeyClient.Proofs.Text.Utf8
import KeyClient.Proofs.Url.Percent
import KeyClient.Proofs.Url.Query
import KeyClient.Proofs.Url.Mark
import KeyClient.Proofs.Client.Query
import KeyClient.Proofs.Domain.Kept
import KeyClient.Proofs.Url.Server
import KeyClient.Proofs.Url.Clean
import KeyClient.Proofs.Url.Append
import KeyClient.Proofs.Url.Names
import KeyClient.Proofs.Client.Address
import KeyClient.Proofs.CommandLine.Reset
import KeyClient.Proofs.CommandLine.Fresh
import KeyClient.Program.Series
import KeyClient.Proofs.Program.History
import KeyClient.Proofs.Client.Worded
import KeyClient.Proofs.Client.Ending
import KeyClient.Proofs.CommandLine.Aside
import KeyClient.Proofs.CommandLine.Routed
import KeyClient.Proofs.Program.Agreement
import KeyClient.Proofs.Text.Units
import KeyClient.Proofs.Number.Numeral
import KeyClient.Proofs.Json.Token
import KeyClient.Proofs.Json.RoundTrip
import KeyClient.Proofs.Files.Growth
import KeyClient.Proofs.Config.Saved
import KeyClient.Proofs.Config.Checked
import KeyClient.Proofs.Program.Footprint
import KeyClient.Proofs.Program.Setup
import KeyClient.Proofs.Program.Consent
import KeyClient.Proofs.Config.Resolved
import KeyClient.Proofs.CommandLine.Reading
import KeyClient.Proofs.CommandLine.Alike
import KeyClient.Proofs.CommandLine.Names
import KeyClient.Proofs.CommandLine.Supplied
import KeyClient.Proofs.Program.Arranged
import KeyClient.Proofs.Program.Logging
import KeyClient.Proofs.Program.Added
import KeyClient.Proofs.Program.Grammar
import KeyClient.Proofs.Config.Errors
import KeyClient.Proofs.Program.Silence
import KeyClient.Proofs.Program.Shown
import KeyClient.Proofs.Config.Confined
import KeyClient.Proofs.Json.Plain
import KeyClient.Proofs.Http.Recorded
import KeyClient.Proofs.Client.Recorded
import KeyClient.Proofs.Config.Accepted
import KeyClient.Proofs.Config.Reported
import KeyClient.Proofs.Client.Isolated
import KeyClient.Proofs.Text.Words
import KeyClient.Proofs.Value.Layout
import KeyClient.Proofs.Log.Filtered
import KeyClient.Proofs.Report.Recovered
import KeyClient.Proofs.Files.Spelling
import KeyClient.Proofs.Files.Directories
import KeyClient.Proofs.Config.Located
