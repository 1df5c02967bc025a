import Autograder.Check.C
import Autograder.Check.Construct
import Autograder.Check.Finding
import Autograder.Check.Pseint
import Autograder.Check.PseintLine
import Autograder.CommandLine.Answer
import Autograder.CommandLine.Request
import Autograder.CommandLine.Run
import Autograder.Comparison
import Autograder.Exercise.Config
import Autograder.Exercise.Location
import Autograder.Exercise.Material
import Autograder.Format.Exercise
import Autograder.Format.Grading
import Autograder.Format.Rubric
import Autograder.Format.Submission
import Autograder.Grading.Feedback
import Autograder.Grading.Outcome
import Autograder.Grading.Score
import Autograder.Json.Basic
import Autograder.Json.Decode
import Autograder.Json.Numeral
import Autograder.Json.Reader
import Autograder.Json.Writer
import Autograder.Language.Basic
import Autograder.Language.Detection
import Autograder.Log.Grading
import Autograder.Log.Quoted
import Autograder.Log.Record
import Autograder.Log.Submission
import Autograder.Log.Unseen
import Autograder.Main
import Autograder.Number.Double
import Autograder.Number.Rounding
import Autograder.Number.Shortest
import Autograder.Number.Total
import Autograder.Pattern.AgeTable
import Autograder.Pattern.Basic
import Autograder.Pattern.BreakTable
import Autograder.Pattern.CategoryTable
import Autograder.Pattern.CharSet
import Autograder.Pattern.FoldTable
import Autograder.Pattern.Node
import Autograder.Pattern.Property
import Autograder.Pattern.PropertyTable
import Autograder.Pattern.Reader
import Autograder.Pattern.Room
import Autograder.Pattern.ScriptExtensionTable
import Autograder.Pattern.ScriptTable
import Autograder.Pattern.Simple
import Autograder.Pattern.Utf8
import Autograder.Proofs.Check.Acceptance
import Autograder.Proofs.Check.History
import Autograder.Proofs.Check.Nesting
import Autograder.Proofs.Check.Shapes
import Autograder.Proofs.Check.VisibleLines
import Autograder.Proofs.Comparison
import Autograder.Proofs.Exercise.Location
import Autograder.Proofs.Exercise.Material
import Autograder.Proofs.Grading.Layout
import Autograder.Proofs.Grading.LineComments
import Autograder.Proofs.Grading.Outcomes
import Autograder.Proofs.Grading.Strategies
import Autograder.Proofs.Grading.Uncommented
import Autograder.Proofs.Json.Numeral
import Autograder.Proofs.Json.Quoted
import Autograder.Proofs.Language.Layout
import Autograder.Proofs.Log.Submission
import Autograder.Proofs.Number.Exact
import Autograder.Proofs.Number.Order
import Autograder.Proofs.Number.Quotient
import Autograder.Proofs.Rubric.Percentage
import Autograder.Proofs.Rubric.Points
import Autograder.Proofs.Session.LedgerHistory
import Autograder.Proofs.Session.SingleAttempt
import Autograder.Proofs.Session.Trail
import Autograder.Proofs.Session.Users
import Autograder.Proofs.Source.Comments
import Autograder.Proofs.Source.FixedPoints
import Autograder.Proofs.Source.Layout
import Autograder.Proofs.Source.LineComments
import Autograder.Proofs.Source.MaskedLines
import Autograder.Proofs.Source.NormalForm
import Autograder.Proofs.Source.Scan
import Autograder.Proofs.Source.Uncommented
import Autograder.Proofs.Submission.Ledger
import Autograder.Proofs.Submission.Verdict
import Autograder.Proofs.Text.Lines
import Autograder.Proofs.Text.Lowercase
import Autograder.Proofs.Text.Marks
import Autograder.Proofs.Text.Relaid
import Autograder.Proofs.Text.Rows
import Autograder.Proofs.Text.SameLines
import Autograder.Proofs.Text.Scanning
import Autograder.Proofs.Text.Spacing
import Autograder.Rubric.Authored
import Autograder.Rubric.Criterion
import Autograder.Rubric.Derived
import Autograder.Rubric.Report
import Autograder.Rubric.Rule
import Autograder.Session
import Autograder.Settings.Basic
import Autograder.Settings.EnvFile
import Autograder.Source.LineComment
import Autograder.Source.Mask
import Autograder.Source.Normal
import Autograder.Storage.FileError
import Autograder.Storage.FileTree
import Autograder.Storage.Files
import Autograder.Storage.Path
import Autograder.Submission.Audit
import Autograder.Submission.Ledger
import Autograder.Submission.Result
import Autograder.Submission.Submit
import Autograder.Text.Blank
import Autograder.Text.CaseTable
import Autograder.Text.Letter
import Autograder.Text.Lowercase
import Autograder.Text.Ranges
import Autograder.Text.Split
import Autograder.Text.Word
import Autograder.Text.WordTable
import Autograder.Time.Calendar
import Autograder.Time.Timestamp
import Autograder.Proofs.Json.RoundTrip
import Autograder.Proofs.Json.Decode
import Autograder.Proofs.Format.RoundTrip
import Autograder.Proofs.Json.Readable
import Autograder.Proofs.Format.Rubric
import Autograder.Proofs.CommandLine.EntryPoints
import Autograder.Proofs.Source.LetterCase
import Autograder.Proofs.Check.LetterCase
import Autograder.Proofs.Grading.LetterCase
import Autograder.Proofs.Check.LineForms
import Autograder.Proofs.Check.Closers
import Autograder.Proofs.Check.Roles
import Autograder.Proofs.Check.Recovery
import Autograder.Proofs.Check.Phrases
import Autograder.Proofs.Check.Programs
import Autograder.Proofs.Check.Declarations
import Autograder.Proofs.Rubric.Authored
import Autograder.Proofs.Comparison.Lossless
import Autograder.Proofs.Source.Lexemes
import Autograder.Proofs.Source.Agreement
import Autograder.Proofs.Language.Detection
import Autograder.Proofs.Language.LineComments
import Autograder.Proofs.Rubric.LineRules
import Autograder.Proofs.Pattern.Matching
import Autograder.Proofs.Language.Patterns
import Autograder.Proofs.Source.InPlace
import Autograder.Proofs.Rubric.Composition
import Autograder.Proofs.Rubric.Faults
import Autograder.Proofs.Grading.Feedback
import Autograder.Proofs.Source.SingleLines
