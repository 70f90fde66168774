import ListingReview.Text.Blank
import ListingReview.Text.Search
import ListingReview.Text.Lowercase
import ListingReview.Text.Quoted
import ListingReview.Text.Ascii
import ListingReview.Text.Octets
import ListingReview.Text.Numeral
import ListingReview.Binary64.Arithmetic
import ListingReview.Binary64.Decimal
import ListingReview.Json.Token
import ListingReview.Json.Escape
import ListingReview.Json.Skip
import ListingReview.Json.Reader
import ListingReview.Json.Record
import ListingReview.Policy
import ListingReview.Submission.Check
import ListingReview.Decision
import ListingReview.Tally
import ListingReview.Server
import ListingReview.Config
import ListingReview.LogFilter
import ListingReview.Command.Arguments
import ListingReview.Command.Guidance
import ListingReview.Command.Launch
import ListingReview.Command.Run
import ListingReview.Main
import ListingReview.Proofs.Text.Search
import ListingReview.Proofs.Text.Lowercase
import ListingReview.Proofs.Policy.Terms
import ListingReview.Proofs.Review.Verdict
import ListingReview.Proofs.Review.Mention
import ListingReview.Proofs.Binary64.Arithmetic
import ListingReview.Proofs.Review.Score
import ListingReview.Proofs.Review.Log
import ListingReview.Proofs.Json.Grammar
import ListingReview.Proofs.Json.Token
import ListingReview.Proofs.Json.Spelling
import ListingReview.Proofs.Json.Structure
import ListingReview.Proofs.Json.Parts
import ListingReview.Proofs.Json.Skip
import ListingReview.Proofs.Json.Reading
import ListingReview.Proofs.Json.Layout
import ListingReview.Proofs.Json.Record
import ListingReview.Proofs.Json.Front
import ListingReview.Proofs.Json.Shown
import ListingReview.Proofs.Submission.Written
import ListingReview.Proofs.Submission.Repeated
import ListingReview.Proofs.Server.Offline
import ListingReview.Proofs.Server.Counting
import ListingReview.Proofs.Server.History
import ListingReview.Proofs.Listing.Written
import ListingReview.Proofs.Json.Relaxed
import ListingReview.Proofs.Submission.Check
import ListingReview.Proofs.Json.Unique
import ListingReview.Proofs.Submission.Strict
import ListingReview.Proofs.Json.Document
import ListingReview.Proofs.Json.Choice
import ListingReview.Proofs.Decision.Written
import ListingReview.Proofs.Http.MediaType
import ListingReview.Proofs.Listing.ReadBack
import ListingReview.Proofs.Server.Answers
import ListingReview.Proofs.Review.Outline
import ListingReview.Proofs.Server.Order
import ListingReview.Proofs.Binary64.Range
import ListingReview.Proofs.Json.Gap
import ListingReview.Proofs.Json.Numeral
import ListingReview.Proofs.Json.Range
import ListingReview.Proofs.Review.Severity
import ListingReview.Proofs.Submission.Violations
import ListingReview.Proofs.Submission.Amount
import ListingReview.Proofs.Submission.Numerals
import ListingReview.Proofs.Text.LetterCase
import ListingReview.Proofs.Text.Trim
import ListingReview.Proofs.Text.Numeral
import ListingReview.Proofs.Policy.Settings
import ListingReview.Proofs.Review.Limit
import ListingReview.Proofs.Review.LetterCase
import ListingReview.Proofs.Review.Explanation
import ListingReview.Proofs.Review.Parts
import ListingReview.Proofs.Binary64.Unit
import ListingReview.Proofs.Review.Sequence
import ListingReview.Proofs.Policy.NormalForm
import ListingReview.Proofs.Review.Notes
import ListingReview.Proofs.Review.Override
import ListingReview.Proofs.Review.Reordered
import ListingReview.Proofs.Net.Address
import ListingReview.Proofs.Command.Launch
