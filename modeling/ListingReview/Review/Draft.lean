import ListingReview.Decision

/-! # Review: drafts

A draft is a decision in the making. It starts as an approval, and what a rule finds is an override:
each value in it replaces that of the draft, and its labels are added behind those given before. -/

namespace ListingReview

/-- The state of a review between two rules. -/
structure Draft where
  status : Status
  score : Binary64
  notes : String
  labels : List Label
deriving DecidableEq, Repr

/-- What a rule changes in a draft. -/
structure Override where
  status : Option Status := none
  score : Option Binary64 := none
  notes : Option String := none
  labels : List Label := []
deriving DecidableEq, Repr

/-- Whether there is nothing in an override. -/
def Override.isEmpty (override : Override) : Bool :=
  override.status.isNone && override.score.isNone && override.notes.isNone
    && override.labels.isEmpty

/-- A status with its score and notes. -/
def Override.verdict (status : Status) (score : Binary64) (notes : String)
    (labels : List Label) : Override where
  status := some status
  score := some score
  notes := some notes
  labels := labels

namespace Draft

/-- The score of a listing without findings. -/
def approvedScore : Binary64 := Binary64.ofRatio 85 100

def approvedNotes : String := "No policy violations detected."

/-- The draft before any rule is applied. -/
def initial : Draft := ⟨.approved, approvedScore, approvedNotes, []⟩

/-- A draft with an override put over it. -/
def apply (draft : Draft) (override : Override) : Draft where
  status := override.status.getD draft.status
  score := override.score.getD draft.score
  notes := override.notes.getD draft.notes
  labels := draft.labels ++ override.labels

end Draft

end ListingReview
