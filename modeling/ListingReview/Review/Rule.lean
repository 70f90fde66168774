import ListingReview.Listing
import ListingReview.Policy
import ListingReview.Review.Draft
import ListingReview.Text.Search

/-! # Review: rules

The four rules by which a listing is judged. The first looks for terms in its text, the second
labels its images, the third lowers the score for every image labelled too large, and the last turns
an approval into a review if an image was flagged. The last two look at the draft that the rules
before them have made. -/

namespace ListingReview

/-- The rules by name. -/
inductive Rule where
  | textKeywords
  | imageMetadata
  | oversizePenalty
  | flaggedImage
deriving DecidableEq, Repr

namespace Rule

/-- The score of a listing with banned terms. -/
def rejectedScore : Binary64 := Binary64.ofNat 0

/-- The score of a listing with terms that call for a review. -/
def textReviewScore : Binary64 := Binary64.ofRatio 35 100

/-- The score of a listing with an image that calls for a review. -/
def imageReviewScore : Binary64 := Binary64.ofRatio 40 100

/-- What every image that is too large takes off the score. -/
def oversizeCost : Binary64 := Binary64.ofRatio 5 100

def imageReviewNotes : String := "Image metadata triggered manual review."

/-- Notes that name terms. -/
def termNotes (heading : String) (terms : List String) : String :=
  String.ofList (heading.toList ++ Text.enumeration terms)

/-- The verdict on a text: banned terms reject a listing, flagged ones call for a review. -/
def judgeText (policy : Policy) (text : List Char) : Override :=
  match Text.hits text policy.bannedTerms with
  | term :: terms =>
    .verdict .rejected rejectedScore (termNotes "Blocked terms detected: " (term :: terms))
      [.bannedKeyword]
  | [] =>
    match Text.hits text policy.flaggedTerms with
    | term :: terms =>
      .verdict .flagged textReviewScore (termNotes "Sensitive terms present: " (term :: terms))
        [.textRequiresReview]
    | [] => .verdict .approved Draft.approvedScore Draft.approvedNotes []

/-- Whether the type of an image begins like a flagged one. -/
def isFlagged (policy : Policy) (image : Image) : Bool :=
  match image.mimeType with
  | none => false
  | some mimeType =>
    let lowered := Text.lower mimeType.toList
    policy.flaggedTypes.any fun beginning => beginning.toList.isPrefixOf lowered

/-- Whether the size of an image is known and above the limit. -/
def isTooLarge (policy : Policy) (image : Image) : Bool :=
  match image.fileSize with
  | none => false
  | some size => policy.sizeLimit.toInt < size.toNat

/-- The labels of an image. -/
def imageLabels (policy : Policy) (image : Image) : List Label :=
  (if isFlagged policy image then [.imageFlagged] else [])
    ++ if isTooLarge policy image then [.imageTooLarge] else []

/-- The label that says whether there are images at all. -/
def presenceLabel (images : List Image) : Label :=
  if images.isEmpty then .noImagesSubmitted else .imageryPresent

/-- The score less the cost of images that are too large, but not below nought or above one. -/
def penalized (score : Binary64) (tooLarge : Nat) : Binary64 :=
  Binary64.clamp (Binary64.ofNat 0) (Binary64.ofNat 1)
    (Binary64.sub score (Binary64.mul oversizeCost (Binary64.ofNat tooLarge)))

/-- What the rule changes in a draft for a listing. -/
def judge (policy : Policy) (listing : Listing) (draft : Draft) : Rule → Override
  | textKeywords => judgeText policy listing.text
  | imageMetadata =>
    { labels := listing.images.flatMap (imageLabels policy) ++ [presenceLabel listing.images] }
  | oversizePenalty =>
    let tooLarge := draft.labels.count .imageTooLarge
    if tooLarge = 0 then {} else { score := some (penalized draft.score tooLarge) }
  | flaggedImage =>
    if draft.status = .approved && draft.labels.contains .imageFlagged then
      .verdict .flagged imageReviewScore imageReviewNotes []
    else {}

end Rule

end ListingReview
