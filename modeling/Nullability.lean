import Nullability.Assembly.Assembler
import Nullability.Batch.Summary
import Nullability.CommandLine.Invocation
import Nullability.FileTree.Search
import Nullability.Inspection.Run
import Nullability.Json.Codec
import Nullability.Main
import Nullability.Program
import Nullability.Proofs.ConfigDiscovery
import Nullability.Proofs.FileCollection
import Nullability.Proofs.InspectionOutcome
import Nullability.Proofs.MarkerSelection
import Nullability.Proofs.ReportRoundTrip
import Nullability.Record.Extraction
import Nullability.Record.TagTable
import Nullability.Report.Document
import Nullability.Settings.Discovery
import Nullability.Settings.Template
import Nullability.Proofs.StructPlaces
import Nullability.Proofs.StructRecords
import Nullability.Proofs.DeriveLists
import Nullability.Proofs.MarkedRecords
import Nullability.Proofs.EntryPaths
import Nullability.Proofs.SearchedSources
import Nullability.Proofs.AssembledRecord
import Nullability.Proofs.StructVerdicts
import Nullability.Proofs.SettingsPrecedence
import Nullability.Proofs.TemplateRuns
import Nullability.Proofs.LexemePlaces
import Nullability.Proofs.RunAccounts
import Nullability.Proofs.TokenPlaces
import Nullability.Proofs.ParserPlaces
import Nullability.Proofs.ExprPlaces
import Nullability.Proofs.FieldPlaces
import Nullability.Proofs.ItemPlaces
import Nullability.Proofs.MovedRecords
import Nullability.Proofs.FieldLines
import Nullability.Proofs.AssemblyLog
import Nullability.Proofs.DiscoveryReach
import Nullability.Proofs.RepositoryRules
import Nullability.Proofs.FailureCounts
import Nullability.Proofs.ColourSequences
import Nullability.Proofs.TerminalReport
