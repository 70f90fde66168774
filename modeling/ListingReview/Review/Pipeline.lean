import ListingReview.Review.Rule

/-! # Review: the pipeline

A listing is reviewed by applying the rules in their order, each to the draft that the rules before
it have made. The score of the last draft is rounded to two decimals. -/

namespace ListingReview

/-- The rules in their order. -/
def Rule.pipeline : List Rule := [.textKeywords, .imageMetadata, .oversizePenalty, .flaggedImage]

/-- A draft after a rule. -/
def Draft.step (policy : Policy) (listing : Listing) (draft : Draft) (rule : Rule) : Draft :=
  draft.apply (rule.judge policy listing draft)

/-- A draft after rules in their order. -/
def Draft.run (policy : Policy) (listing : Listing) (draft : Draft) (rules : List Rule) : Draft :=
  rules.foldl (Draft.step policy listing) draft

/-- A score with two decimals; halfway the one farther from nought is taken. -/
def roundScore (score : Binary64) : Binary64 :=
  Binary64.div (Binary64.round (Binary64.mul score (Binary64.ofNat 100))) (Binary64.ofNat 100)

/-- A draft as a decision on the listing with the name given. -/
def Draft.decision (draft : Draft) (listingId : String) : Decision where
  listingId := listingId
  status := draft.status
  score := roundScore draft.score
  labels := draft.labels
  notes := draft.notes

/-- The decision on a listing. -/
def Policy.review (policy : Policy) (listing : Listing) : Decision :=
  (Draft.initial.run policy listing Rule.pipeline).decision listing.listingId

end ListingReview
