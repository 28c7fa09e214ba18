import StructuralSeries.Double.Layout
import StructuralSeries.Double.Reader
import StructuralSeries.Text.Blank
import StructuralSeries.Text.Digit
import StructuralSeries.Text.Quoted
import StructuralSeries.Report
import StructuralSeries.Grid
import StructuralSeries.Value
import StructuralSeries.Value.Reading
import StructuralSeries.Value.Shown
import StructuralSeries.Sample
import StructuralSeries.Model.Canonical
import StructuralSeries.Periods
import StructuralSeries.Settings.Resolved
import StructuralSeries.Request
import StructuralSeries.Environment
import StructuralSeries.Session
import StructuralSeries.Proofs.Outcome
import StructuralSeries.Proofs.Text.LowerCase
import StructuralSeries.Proofs.Text.Pieces
import StructuralSeries.Proofs.Double.Digits
import StructuralSeries.Proofs.Double.Written
import StructuralSeries.Proofs.Model.Tokens
import StructuralSeries.Proofs.Model.Components
import StructuralSeries.Proofs.Model.NormalForm
import StructuralSeries.Proofs.Request.Stages
import StructuralSeries.Proofs.Request.Model
import StructuralSeries.Proofs.Series.Span
import StructuralSeries.Proofs.Settings.Drafts
import StructuralSeries.Proofs.Request.Inputs
import StructuralSeries.Proofs.Double.Range
import StructuralSeries.Proofs.Value.Leaks
import StructuralSeries.Proofs.Series.Leaks
import StructuralSeries.Proofs.Settings.Leaks
import StructuralSeries.Proofs.Request.Leaks
import StructuralSeries.Proofs.Text.Letters
import StructuralSeries.Proofs.Model.Presentation
import StructuralSeries.Proofs.Model.Layout
import StructuralSeries.Proofs.Model.Switches
import StructuralSeries.Proofs.Model.Annual
import StructuralSeries.Proofs.Double.Size
import StructuralSeries.Proofs.Settings.Kept
import StructuralSeries.Proofs.Request.WellFormed
import StructuralSeries.Proofs.Store.Spots
import StructuralSeries.Proofs.Session.Sharing
import StructuralSeries.Proofs.Session.SetUp
import StructuralSeries.Proofs.Periods.Positive
import StructuralSeries.Proofs.Inputs.Orientation
import StructuralSeries.Proofs.Value.Arrays
import StructuralSeries.Proofs.Sample.Prepared
import StructuralSeries.Proofs.Settings.Written
import StructuralSeries.Proofs.Request.Again
import StructuralSeries.Proofs.Double.Whole
import StructuralSeries.Proofs.Settings.Horizon
import StructuralSeries.Proofs.Request.Horizon
import StructuralSeries.Proofs.Session.Answers
import StructuralSeries.Proofs.Session.Descent
import StructuralSeries.Proofs.Session.Owned
import StructuralSeries.Proofs.Session.Families
import StructuralSeries.Proofs.Report
import StructuralSeries.Proofs.Settings.Verbose
import StructuralSeries.Proofs.Request.Verbose
import StructuralSeries.Proofs.Request.Notices
import StructuralSeries.Proofs.Sample.Trimmed
import StructuralSeries.Proofs.Request.RealInputs
import StructuralSeries.Proofs.Request.Refusals
import StructuralSeries.Proofs.Store.Writes
import StructuralSeries.Proofs.Session.Failures
import StructuralSeries.Proofs.Inputs.Turned
import StructuralSeries.Proofs.Request.InputForms
import StructuralSeries.Proofs.Settings.Again
import StructuralSeries.Proofs.Double.Rational
import StructuralSeries.Proofs.Settings.Documented
import StructuralSeries.Proofs.Store.Revision
import StructuralSeries.Proofs.Session.Evolution
import StructuralSeries.Proofs.Session.Composition
import StructuralSeries.Proofs.Series.Lines
import StructuralSeries.Proofs.Request.SeriesForms
import StructuralSeries.Proofs.Series.Mixed
import StructuralSeries.Proofs.Settings.NumberForms
import StructuralSeries.Proofs.Value.Truths
import StructuralSeries.Proofs.Settings.Truths
import StructuralSeries.Proofs.Double.Rounding
import StructuralSeries.Proofs.Double.Quotients
import StructuralSeries.Proofs.Periods.Harmonics
import StructuralSeries.Proofs.Double.ReadBack
import StructuralSeries.Proofs.Request.Search
