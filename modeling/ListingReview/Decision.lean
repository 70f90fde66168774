import ListingReview.Json.Record

/-! # Decisions

What the review of a listing comes to: a status, a score between nought and one that says how
harmless the listing is, the labels of what was noticed, and notes for people. -/

namespace ListingReview

/-- Whether a listing is accepted, needs a look, or is refused. -/
inductive Status where
  | approved
  | flagged
  | rejected
deriving DecidableEq, Repr

namespace Status

def all : List Status := [approved, flagged, rejected]

def name : Status → String
  | approved => "approved"
  | flagged => "flagged"
  | rejected => "rejected"

end Status

/-- Something noticed about a listing. -/
inductive Label where
  | bannedKeyword
  | textRequiresReview
  | imageFlagged
  | imageTooLarge
  | noImagesSubmitted
  | imageryPresent
deriving DecidableEq, Repr

namespace Label

def all : List Label :=
  [bannedKeyword, textRequiresReview, imageFlagged, imageTooLarge, noImagesSubmitted,
   imageryPresent]

def name : Label → String
  | bannedKeyword => "banned_keyword"
  | textRequiresReview => "text_requires_review"
  | imageFlagged => "image_flagged"
  | imageTooLarge => "image_too_large"
  | noImagesSubmitted => "no_images_submitted"
  | imageryPresent => "imagery_present"

end Label

/-- The outcome of the review of one listing. -/
structure Decision where
  listingId : String
  status : Status
  score : Binary64
  labels : List Label
  notes : String
deriving DecidableEq, Repr

namespace Decision

/-- How often a label was given. -/
def count (decision : Decision) (label : Label) : Nat := decision.labels.count label

/-- Whether the score lies between nought and one. -/
def scoreInBounds (decision : Decision) : Bool :=
  !decision.score.isUndefined && !decision.score.below (Binary64.ofNat 0)
    && !(Binary64.ofNat 1).below decision.score

open Json (Member Shape Format)

def shape : Shape Decision where
  name := "ModerationDecision"
  members :=
    [.required "listing_id" .text Decision.listingId fun value decision =>
       { decision with listingId := value },
     .required "status" (.choice Status.all Status.name) Decision.status fun value decision =>
       { decision with status := value },
     .required "score" .float Decision.score fun value decision =>
       { decision with score := value },
     .required "labels" (.list (.choice Label.all Label.name)) Decision.labels
       fun value decision => { decision with labels := value },
     .required "notes" .text Decision.notes fun value decision => { decision with notes := value }]
  mayStop := false
  blank := ⟨"", .approved, Binary64.ofNat 0, [], ""⟩

/-- A decision as it is shown. -/
def document (decision : Decision) : Json.Document := shape.format.write decision

end Decision

end ListingReview
