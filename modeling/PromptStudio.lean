import PromptStudio.Console.Arguments
import PromptStudio.Console.Display
import PromptStudio.Console.Invocation
import PromptStudio.Console.Option
import PromptStudio.Console.Program
import PromptStudio.Control.Catalog
import PromptStudio.Entries
import PromptStudio.Failure
import PromptStudio.Form.Checked
import PromptStudio.Form.Form
import PromptStudio.Form.Mapping
import PromptStudio.Form.Reader
import PromptStudio.Gateway.Attachment
import PromptStudio.Gateway.Diagnosis
import PromptStudio.Gateway.Gateway
import PromptStudio.Gateway.Model
import PromptStudio.Gateway.Request
import PromptStudio.Gateway.Settings
import PromptStudio.Inference.Brief
import PromptStudio.Inference.Choices
import PromptStudio.Inference.Phrase
import PromptStudio.Inference.Signals
import PromptStudio.Json.Basic
import PromptStudio.Json.Equality
import PromptStudio.Json.Printer
import PromptStudio.Json.Reader
import PromptStudio.Judge.Panel
import PromptStudio.Judge.Persona
import PromptStudio.Judge.Prompt
import PromptStudio.Judge.Rubric
import PromptStudio.Judge.Verdict
import PromptStudio.Main
import PromptStudio.Matrix.Cell
import PromptStudio.Matrix.Combo
import PromptStudio.Matrix.Matrix
import PromptStudio.Moment
import PromptStudio.Number.Binary64
import PromptStudio.Number.Layout
import PromptStudio.Pipeline.Pipeline
import PromptStudio.Plan.Plan
import PromptStudio.Plan.Registry
import PromptStudio.Plan.Request
import PromptStudio.Plan.Standard
import PromptStudio.Prompt.Analysis
import PromptStudio.Prompt.Generation
import PromptStudio.Prompt.Instructions
import PromptStudio.Reply.Blueprint
import PromptStudio.Reply.Decode
import PromptStudio.Session.Cancellation
import PromptStudio.Session.Exchange
import PromptStudio.Session.Run
import PromptStudio.Session.Script
import PromptStudio.Spec.Advice
import PromptStudio.Spec.Basic
import PromptStudio.Spec.Merge
import PromptStudio.Spec.Override
import PromptStudio.Spec.Sections
import PromptStudio.Spec.Validation
import PromptStudio.Template.Blocks
import PromptStudio.Template.Condition
import PromptStudio.Template.Datum
import PromptStudio.Template.Path
import PromptStudio.Template.Render
import PromptStudio.Text.Blank
import PromptStudio.Text.Case
import PromptStudio.Text.Digit
import PromptStudio.Text.Numeral
import PromptStudio.Text.Pathname
import PromptStudio.Text.Printable
import PromptStudio.Text.Quoted
import PromptStudio.Text.Ranges
import PromptStudio.Text.Word
import PromptStudio.Proofs.Entries
import PromptStudio.Proofs.Form.Filling
import PromptStudio.Proofs.Spec.Sections
import PromptStudio.Proofs.Spec.Folding
import PromptStudio.Proofs.Json.Distinct
import PromptStudio.Proofs.Json.Equality
import PromptStudio.Proofs.Json.Place
import PromptStudio.Proofs.Spec.Merge
import PromptStudio.Proofs.Json.Literal
import PromptStudio.Proofs.Text.Digits
import PromptStudio.Proofs.Json.Numeral
import PromptStudio.Proofs.Json.RoundTrip
import PromptStudio.Proofs.Reply.Decoding
import PromptStudio.Proofs.Matrix.Combos
import PromptStudio.Proofs.Matrix.Listing
import PromptStudio.Proofs.Matrix.Timeline
import PromptStudio.Proofs.Gateway.Attempts
import PromptStudio.Proofs.Gateway.Retry
import PromptStudio.Proofs.Spec.Loading
import PromptStudio.Proofs.Spec.Switching
import PromptStudio.Proofs.Spec.Verdict
import PromptStudio.Proofs.Matrix.Consistency
import PromptStudio.Proofs.Prompt.Analysis
import PromptStudio.Proofs.Session.Waits
import PromptStudio.Proofs.Gateway.Outcomes
import PromptStudio.Proofs.Gateway.Stopping
import PromptStudio.Proofs.Gateway.Cancelling
import PromptStudio.Proofs.Reply.Wrapping
import PromptStudio.Proofs.Template.Mentions
import PromptStudio.Proofs.Template.Comparison
import PromptStudio.Proofs.Template.Assembly
import PromptStudio.Proofs.Plan.Separation
import PromptStudio.Proofs.Prompt.Generation
import PromptStudio.Proofs.Gateway.Single
import PromptStudio.Proofs.Session.Landings
import PromptStudio.Proofs.Gateway.Vocabulary
import PromptStudio.Proofs.Prompt.Recommendations
import PromptStudio.Proofs.Inference.Certainty
import PromptStudio.Proofs.Inference.Preference
import PromptStudio.Proofs.Plan.Note
import PromptStudio.Proofs.Plan.Preference
import PromptStudio.Proofs.Plan.Summary
import PromptStudio.Proofs.Gateway.Lockstep
import PromptStudio.Proofs.Gateway.Pair
import PromptStudio.Proofs.Gateway.Undisturbed
import PromptStudio.Proofs.Matrix.Undisturbed
import PromptStudio.Proofs.Plan.Delivery
import PromptStudio.Proofs.Judge.Sanity
import PromptStudio.Proofs.Spec.Canonical
import PromptStudio.Proofs.Spec.Repetition
import PromptStudio.Proofs.Spec.Independence
import PromptStudio.Proofs.Pipeline.Overrides
import PromptStudio.Proofs.Gateway.Billing
import PromptStudio.Proofs.Pipeline.Stages
import PromptStudio.Proofs.Judge.Concord
import PromptStudio.Proofs.Spec.Override
import PromptStudio.Proofs.Json.Reading
import PromptStudio.Proofs.Prompt.Suggestions
import PromptStudio.Proofs.Reply.Written
import PromptStudio.Proofs.Judge.Replies
import PromptStudio.Proofs.Prompt.Fallback
import PromptStudio.Proofs.Reply.Blueprint
import PromptStudio.Proofs.Judge.Calibration
import PromptStudio.Proofs.Judge.Composite
import PromptStudio.Proofs.Prompt.Gaps
import PromptStudio.Proofs.Template.Structured
import PromptStudio.Proofs.Template.Paths
import PromptStudio.Proofs.Number.Magnitude
import PromptStudio.Proofs.Inference.Winning
import PromptStudio.Proofs.Inference.Language
import PromptStudio.Proofs.Inference.Occurrences
