import ListingReview.Review.Pipeline
import ListingReview.Submission.Check

/-! # The review desk

The desk takes listings, or submissions that it checks first, and reviews them under one policy.
Every decision that it returns is noted once; what is refused leaves the notes as they were. -/

namespace ListingReview

/-- Why there is no decision. -/
inductive Refusal where
  | invalid (violation : Violation)
  | scoreOutOfRange (listingId : String) (score : Binary64)
deriving DecidableEq, Repr

/-- Scores in messages have the fewest digits that tell them apart, and no exponent. -/
def scoreStyle : Binary64.Style where
  plain _ := true
  fraction := false
  even := false

/-- The words of a refusal. -/
def Refusal.message : Refusal → String
  | invalid violation => violation.message
  | scoreOutOfRange listingId score =>
    "decision for listing " ++ listingId ++ " produced out-of-range score "
      ++ String.ofList (score.written scoreStyle)

/-- A way to keep notes of decisions. -/
structure Recorder (σ : Type) where
  record : σ → Decision → σ

/-- Keeps the decisions themselves, in their order. -/
def Recorder.log : Recorder (List Decision) := ⟨fun decisions decision => decisions ++ [decision]⟩

/-- Keeps nothing. -/
def Recorder.silent : Recorder Unit := ⟨fun _ _ => ()⟩

/-- A desk with its policy and its way to keep notes. -/
structure Desk (σ : Type) where
  policy : Policy
  recorder : Recorder σ

namespace Desk

variable {σ : Type}

/-- Reviews a listing. -/
def review (desk : Desk σ) (notes : σ) (listing : Listing) : Except Refusal Decision × σ :=
  let decision := desk.policy.review listing
  if decision.scoreInBounds then (.ok decision, desk.recorder.record notes decision)
  else (.error (.scoreOutOfRange decision.listingId decision.score), notes)

/-- Checks a submission and reviews the listing. -/
def reviewSubmission (desk : Desk σ) (notes : σ) (submission : Submission) :
    Except Refusal Decision × σ :=
  match submission.check with
  | .error violation => (.error (.invalid violation), notes)
  | .ok listing => desk.review notes listing

end Desk

end ListingReview
