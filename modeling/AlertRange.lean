import AlertRange.Main
import AlertRange.Range.Agreement
import AlertRange.Range.Session
import AlertRange.Range.Steps
import AlertRange.Report.Steps
import AlertRange.Spec.Arguments
import AlertRange.Spec.Steps
import AlertRange.Proofs.ExactNumber
import AlertRange.Proofs.NumeralGrammar
import AlertRange.Proofs.SpecGrammar
import AlertRange.Proofs.NumberText
import AlertRange.Proofs.RoundTrip
import AlertRange.Proofs.SessionInvariant
import AlertRange.Proofs.FalseAlert
import AlertRange.Proofs.SpecDiagnosis
import AlertRange.Proofs.NumberPattern
import AlertRange.Proofs.CompleteInvariant
import AlertRange.Proofs.AlertCondition
import AlertRange.Proofs.CheckReport
import AlertRange.Proofs.ShownText
import AlertRange.Proofs.WrittenText
import AlertRange.Proofs.FormattedReport
import AlertRange.Proofs.CommandRun
import AlertRange.Proofs.ExitCode
import AlertRange.Proofs.OutputFlags
import AlertRange.Proofs.SettingsResolution
import AlertRange.Proofs.DecodedReport
import AlertRange.Proofs.CheckForms
import AlertRange.Proofs.WholeChecks
import AlertRange.Proofs.Widening
import AlertRange.Proofs.FieldRoundTrip
import AlertRange.Proofs.FailureReport
import AlertRange.Proofs.Unquoting
import AlertRange.Proofs.LogRecords
import AlertRange.Proofs.TextAndFields
import AlertRange.Proofs.Inversion
import AlertRange.Proofs.RangePage
import AlertRange.Proofs.AnchoredText
import AlertRange.Proofs.MeasuredText
import AlertRange.Proofs.StyledLines
import AlertRange.Proofs.WrappedLines
import AlertRange.Proofs.WrappedText
import AlertRange.Proofs.WrappedPage
import AlertRange.Proofs.FirstWord
import AlertRange.Proofs.EveryForm
import AlertRange.Proofs.ExamplesOption
import AlertRange.Proofs.LogSetups
import AlertRange.Proofs.OneLineJson
import AlertRange.Proofs.JsonLogLines
import AlertRange.Proofs.BlockLines
import AlertRange.Proofs.VerbosePage
