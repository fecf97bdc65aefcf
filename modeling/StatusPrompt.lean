import StatusPrompt.Main
import StatusPrompt.Proofs.Prompt.Probes
import StatusPrompt.Proofs.Report.Counting
import StatusPrompt.Proofs.Report.HeaderFields
import StatusPrompt.Session
import StatusPrompt.Proofs.Prompt.Outcome
import StatusPrompt.Proofs.Text.Cutting
import StatusPrompt.Proofs.CommandLine.Options
import StatusPrompt.Proofs.Program.Exit
import StatusPrompt.Proofs.Report.FileNames
import StatusPrompt.Proofs.Report.ByKey
import StatusPrompt.Proofs.Report.Order
import StatusPrompt.Proofs.Text.Collapse
import StatusPrompt.Proofs.Text.Escape
import StatusPrompt.Proofs.Layout.Spans
import StatusPrompt.Proofs.Layout.Colour
import StatusPrompt.Proofs.Layout.Gaps
import StatusPrompt.Proofs.Snapshot.Gathered
import StatusPrompt.Proofs.Layout.RawLines
import StatusPrompt.Proofs.Report.Cut
import StatusPrompt.Proofs.Session.Failing
import StatusPrompt.Proofs.DiffSummary.Printed
import StatusPrompt.Proofs.Report.RefNames
import StatusPrompt.Proofs.Json.Grammar
import StatusPrompt.Proofs.Json.Scanning
import StatusPrompt.Proofs.Json.Reading
import StatusPrompt.Proofs.Settings.Described
import StatusPrompt.Proofs.Settings.Loaded
import StatusPrompt.Proofs.Session.Remembering
import StatusPrompt.Proofs.Report.Lookups
import StatusPrompt.Proofs.Prompt.TagLookup
import StatusPrompt.Proofs.Layout.Agreement
import StatusPrompt.Proofs.Layout.Composition
import StatusPrompt.Proofs.Layout.Directives
import StatusPrompt.Proofs.Layout.FixedLine
import StatusPrompt.Proofs.DiffSummary.Acceptance
import StatusPrompt.Proofs.DiffSummary.Additivity
import StatusPrompt.Proofs.Report.Frame
import StatusPrompt.Proofs.Layout.Blocks
import StatusPrompt.Proofs.Report.Spacing
import StatusPrompt.Proofs.Settings.Anchoring
import StatusPrompt.Proofs.Settings.Written
import StatusPrompt.Proofs.CommandLine.Order
import StatusPrompt.Proofs.Program.Merging
import StatusPrompt.Proofs.Text.Seams
import StatusPrompt.Proofs.Text.NormalForm
import StatusPrompt.Proofs.Counter
import StatusPrompt.Proofs.Disk
import StatusPrompt.Proofs.OnDisk
