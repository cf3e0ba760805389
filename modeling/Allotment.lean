import Allotment.Amount
import Allotment.Arguments
import Allotment.Binding
import Allotment.Binding.Candidates
import Allotment.Calendar.Date
import Allotment.Calendar.Notation
import Allotment.Calendar.Timestamp
import Allotment.Caller
import Allotment.Catalogue
import Allotment.Compliance
import Allotment.Config
import Allotment.Config.Format
import Allotment.Config.Loading
import Allotment.Consumer
import Allotment.Decimal.Binary64
import Allotment.Decimal.Shortest
import Allotment.Document
import Allotment.Document.Fields
import Allotment.Document.Json
import Allotment.Document.Json5
import Allotment.Document.Schema
import Allotment.Document.Written
import Allotment.Entitlement
import Allotment.Files
import Allotment.Logging
import Allotment.Logging.Filter
import Allotment.Logging.Pattern
import Allotment.Logging.Pattern.Reader
import Allotment.Logging.Retention
import Allotment.Main
import Allotment.Order.NameSet
import Allotment.Order.Table
import Allotment.Path
import Allotment.Policy.Evaluator
import Allotment.Policy.Native
import Allotment.Policy.Native.Bookkeeping
import Allotment.Policy.Native.Eligibility
import Allotment.Policy.Native.Selection
import Allotment.Policy.Snapshot
import Allotment.Policy.View
import Allotment.Pool
import Allotment.Program
import Allotment.Scenario
import Allotment.Session
import Allotment.Settlement
import Allotment.Text.Alphanumeric
import Allotment.Text.Blank
import Allotment.Text.Bytes
import Allotment.Text.CodePoint
import Allotment.Text.CodeRange
import Allotment.Text.Identifier
import Allotment.Text.LetterCase
import Allotment.Text.Numeral
import Allotment.Text.Pieces
import Allotment.Text.Property.Alphabetic
import Allotment.Text.Property.Diacritic
import Allotment.Text.Property.Letter
import Allotment.Text.Property.Mark
import Allotment.Text.Property.Number
import Allotment.Validation
import Allotment.Validation.Rule
import Allotment.Validation.Severity
import Allotment.Validation.Verdict
import Allotment.Proofs.Binding.Selections
import Allotment.Proofs.Binding.Outcome
import Allotment.Proofs.Native.Choice
import Allotment.Proofs.Native.Targets
import Allotment.Proofs.Native.Coverage
import Allotment.Proofs.Native.Approximation
import Allotment.Proofs.Native.Directives
import Allotment.Proofs.Validation.Findings
import Allotment.Proofs.Validation.Severities
import Allotment.Proofs.Validation.Quantities
import Allotment.Proofs.Validation.Listing
import Allotment.Proofs.Policy.Views
import Allotment.Proofs.Native.Quantity
import Allotment.Proofs.Policy.Agreement
import Allotment.Proofs.Native.LeastQuantity
import Allotment.Proofs.Binding.NativeBinding
import Allotment.Proofs.Binding.NativeOutcome
import Allotment.Proofs.Settlement.Recording
import Allotment.Proofs.Settlement.Atomicity
import Allotment.Proofs.Settlement.Accounting
import Allotment.Proofs.Settlement.NativeSettlement
import Allotment.Proofs.Settlement.BonusPools
import Allotment.Proofs.Settlement.StackUpdates
import Allotment.Proofs.Validation.Batches
import Allotment.Proofs.Validation.Capacity
import Allotment.Proofs.Validation.Monotonicity
import Allotment.Proofs.Document.Json5Amounts
import Allotment.Proofs.Config.Placement
import Allotment.Proofs.Config.Acceptance
import Allotment.Proofs.Document.Spelling
import Allotment.Proofs.Document.JsonReading
import Allotment.Proofs.Config.Abridgement
import Allotment.Proofs.Native.GreedyRun
import Allotment.Proofs.Native.Removal
import Allotment.Proofs.Native.Resumption
import Allotment.Proofs.Native.Reordering
import Allotment.Proofs.Calendar.Notation
import Allotment.Proofs.Document.Leeway
import Allotment.Proofs.Policy.Outputs
import Allotment.Proofs.Scenario.Forms
import Allotment.Proofs.Scenario.RoundTrip
import Allotment.Proofs.Text.Trimming
import Allotment.Proofs.Validation.Influence
import Allotment.Proofs.Validation.Capabilities
import Allotment.Proofs.Native.Substitution
import Allotment.Proofs.Text.Recasing
import Allotment.Proofs.Native.LetterCase
import Allotment.Proofs.Binding.StrayBlanks
import Allotment.Proofs.Binding.ContentLimit
import Allotment.Proofs.Validation.Recovery
import Allotment.Proofs.Arguments.Grammar
import Allotment.Proofs.Files.Soundness
import Allotment.Proofs.Files.Removal
import Allotment.Proofs.Logging.Sweep
