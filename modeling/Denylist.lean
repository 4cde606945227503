import Denylist.Main
import Denylist.Proofs.FindingOrder
import Denylist.Proofs.Sequences
import Denylist.Proofs.RuleIndex
import Denylist.Proofs.Fields
import Denylist.Proofs.PathGrammar
import Denylist.Proofs.ConfigEntries
import Denylist.Proofs.Detection
import Denylist.Proofs.EventOrder
import Denylist.Pool
import Denylist.Proofs.Schedule
import Denylist.Proofs.ConfigFailures
import Denylist.Proofs.ConfigLanguage
import Denylist.Proofs.ConfigRoundTrip
import Denylist.Proofs.ConfigLoading
import Denylist.Proofs.UsageReading
import Denylist.Proofs.CheckStatus
import Denylist.Proofs.ReporterRuns
import Denylist.Proofs.RecordReaders
import Denylist.Proofs.PlainReport
import Denylist.Proofs.ConsoleReport
import Denylist.Proofs.FirstFault
import Denylist.Proofs.RecordNesting
import Denylist.Proofs.RecordShapes
import Denylist.Proofs.UnknownKinds
import Denylist.Proofs.ReportFigures
import Denylist.Proofs.ReportText
import Denylist.Proofs.PathDiagnosis
import Denylist.Proofs.WrittenEntries
import Denylist.Proofs.Membership
import Denylist.Proofs.ConfigSearch
import Denylist.Proofs.FindingText
