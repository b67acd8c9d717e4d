import StyleBaseline.Main
import StyleBaseline.Proofs.Calendar.WrittenDates
import StyleBaseline.Proofs.Catalog
import StyleBaseline.Proofs.Dataset.Comparison
import StyleBaseline.Proofs.Dataset.IndexContents
import StyleBaseline.Proofs.Dataset.PlainScan
import StyleBaseline.Proofs.Dataset.Verdicts
import StyleBaseline.Proofs.Report.SupportDiagnostics
import StyleBaseline.Proofs.Sorting
import StyleBaseline.Proofs.Table
import StyleBaseline.Proofs.Stylesheet.Declarations
import StyleBaseline.Proofs.Stylesheet.Grammar
import StyleBaseline.Proofs.Stylesheet.LexemeRules
import StyleBaseline.Proofs.Stylesheet.MaximalMunch
import StyleBaseline.Proofs.Stylesheet.PropertyNames
import StyleBaseline.Proofs.Stylesheet.TokenPlaces
import StyleBaseline.Proofs.Stylesheet.OpaqueTokens
import StyleBaseline.Proofs.Stylesheet.Tiling
import StyleBaseline.Proofs.Stylesheet.UnmatchedBraces
import StyleBaseline.Proofs.Text.Casing
import StyleBaseline.Proofs.Text.Stretches
import StyleBaseline.Proofs.Text.Lines
import StyleBaseline.Proofs.Text.OffsetPositions
import StyleBaseline.Proofs.Report.Independence
import StyleBaseline.Proofs.Stylesheet.Concatenation
import StyleBaseline.Proofs.Stylesheet.Truncation
import StyleBaseline.Proofs.Stylesheet.CaseBlindness
import StyleBaseline.Proofs.Report.LetterCase
import StyleBaseline.Proofs.Stylesheet.BraceMatching
import StyleBaseline.Proofs.Json.Grammar
import StyleBaseline.Proofs.Report.Locations
import StyleBaseline.Proofs.Report.Carets
import StyleBaseline.Proofs.Report.EventRuns
import StyleBaseline.Proofs.Report.MachineLines
import StyleBaseline.Proofs.Report.Documents
import StyleBaseline.Proofs.Json.Outcomes
import StyleBaseline.Proofs.Json.Strings
import StyleBaseline.Proofs.Json.Numbers
import StyleBaseline.Proofs.Json.Reading
import StyleBaseline.Proofs.Json.Skimming
import StyleBaseline.Proofs.Json.Writing
import StyleBaseline.Proofs.Dataset.DatabaseText
import StyleBaseline.Proofs.Dataset.FeatureReading
import StyleBaseline.Proofs.Files.PathOrder
import StyleBaseline.Proofs.Files.Joining
import StyleBaseline.Proofs.Files.Selecting
import StyleBaseline.Proofs.Files.Shown
import StyleBaseline.Proofs.Files.SkippedDirectories
import StyleBaseline.Proofs.Files.Spelling
import StyleBaseline.Proofs.Run.Precedence
import StyleBaseline.Proofs.Run.Degradation
import StyleBaseline.Proofs.Files.OtherTrees
import StyleBaseline.Proofs.Run.Shown
import StyleBaseline.Proofs.Run.Separation
import StyleBaseline.Proofs.Run.Coverage
import StyleBaseline.Proofs.Run.Failures
import StyleBaseline.Proofs.Run.Formats
import StyleBaseline.Proofs.Run.Thresholds
import StyleBaseline.Proofs.Stylesheet.SmallNames
import StyleBaseline.Proofs.Report.NamesLookedUp
import StyleBaseline.Proofs.Run.Statistics
import StyleBaseline.Proofs.Text.ByteOrder
import StyleBaseline.Proofs.Report.Histories
import StyleBaseline.Proofs.Stylesheet.Marks
import StyleBaseline.Proofs.Files.Patterns
import StyleBaseline.Proofs.Run.ReportedNames
