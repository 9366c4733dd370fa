import LogRecord.Main
import LogRecord.Record.Reader
import LogRecord.Record.Writer
import LogRecord.Statement
import LogRecord.Proofs.Format.Grammar
import LogRecord.Proofs.Format.Acceptance
import LogRecord.Proofs.Record.Measuring
import LogRecord.Proofs.Record.Walking
import LogRecord.Proofs.Record.Writing
import LogRecord.Proofs.Format.SlotOrder
import LogRecord.Proofs.Record.PrecisionReach
import LogRecord.Proofs.Record.ReadingBack
import LogRecord.Proofs.Format.Faults
import LogRecord.Proofs.Format.LongestLead
import LogRecord.Proofs.Format.Issues
import LogRecord.Proofs.Format.Concatenation
import LogRecord.Proofs.Format.Prechecking
import LogRecord.Proofs.Record.Refusal
import LogRecord.Proofs.Catalogue.Calls
import LogRecord.Proofs.Catalogue.Consistency
import LogRecord.Proofs.Catalogue.Stability
import LogRecord.Proofs.Record.Composition
import LogRecord.Proofs.Record.Visibility
import LogRecord.Proofs.Catalogue.Statements
import LogRecord.Proofs.Record.UniqueDecoding
import LogRecord.Proofs.Inspection.Input
import LogRecord.Proofs.Text.Quoting
import LogRecord.Proofs.Inspection.Framing
import LogRecord.Proofs.Format.SlotGroups
import LogRecord.Proofs.Record.Layout
import LogRecord.Proofs.Record.Stepping
import LogRecord.Proofs.Record.WrittenPrecision
import LogRecord.Proofs.Format.ReportedCharacter
import LogRecord.Proofs.Record.StoredForm
import LogRecord.Proofs.Argument.FloatPrecision
import LogRecord.Proofs.Format.Progress
