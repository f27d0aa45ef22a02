import CodeReview.Main
import CodeReview.Proofs.Python.IndentReplay
import CodeReview.Proofs.Python.DocumentOrder
import CodeReview.Proofs.Python.OutlineRecursion
import CodeReview.Proofs.DuplicateBlocks
import CodeReview.Proofs.MergeUnion
import CodeReview.Proofs.Feedback.ClassifyRows
import CodeReview.Proofs.Review.CategorizedReport
import CodeReview.Proofs.Review.OutcomeRoundTrip
import CodeReview.Proofs.Report.DroppedStyles
import CodeReview.Proofs.Rules.BatteryUnion
import CodeReview.Proofs.Files.PathOrder
import CodeReview.Proofs.Files.WrittenFile
import CodeReview.Proofs.Review.StaticPart
import CodeReview.Proofs.Command.ReportedFiles
import CodeReview.Proofs.Command.RefusedRuns
import CodeReview.Proofs.Reviewer.SentRequest
import CodeReview.Proofs.ShiftedWindows
import CodeReview.Proofs.Python.ContinuedLines
import CodeReview.Proofs.Syntax.LevelOrder
import CodeReview.Proofs.ComplexitySums
import CodeReview.Proofs.FunctionTable
import CodeReview.Proofs.Python.OperatorGroups
import CodeReview.Proofs.Text.Runs
import CodeReview.Proofs.Rules.UnusedNames
import CodeReview.Proofs.Rules.FlaggedLines
import CodeReview.Proofs.Feedback.SurroundedLines
import CodeReview.Proofs.Rules.ImportText
import CodeReview.Proofs.Rules.BoundNames
import CodeReview.Proofs.Feedback.RecasedText
import CodeReview.Proofs.CopiedBlocks
import CodeReview.Proofs.Report.FunctionRows
import CodeReview.Proofs.Rules.RepeatedFindings
import CodeReview.Proofs.Report.ListedMessages
import CodeReview.Proofs.Command.EffectiveSettings
import CodeReview.Proofs.Command.CollectedOnce
import CodeReview.Proofs.Reviewer.ReadAnswer
import CodeReview.Proofs.Rules.FindingIds
import CodeReview.Proofs.Text.NumberedRows
import CodeReview.Proofs.LineViews
import CodeReview.Proofs.Results
