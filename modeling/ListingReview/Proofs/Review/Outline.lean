import ListingReview.Proofs.Submission.Check
import ListingReview.Review.Pipeline
import Mathlib.Data.List.Basic
import Mathlib.Data.Prod.Basic

/-! # Review: what is looked at

Most of what a seller says about a listing plays no part in its review. The rules find the same in
two listings if they agree in their texts, in the labels of their images and in whether there are
any (`Policy.FindsAlike`), and then the two have the same review but for their names
(`review_congr`).

What is looked at is therefore the name of a listing, its text, and the types and sizes of its
images in their order; the outline of a listing has this and nothing else, so both have the same
review (`review_outline`), and submissions that say the same where it matters (`Submission.Alike`)
are reviewed alike once they pass the check. -/

namespace ListingReview

/-! ### What the rules find -/

/-- The rules find the same in two listings: the text, the labels of the images and the label that
says whether there are any. -/
structure Policy.FindsAlike (policy : Policy) (listing other : Listing) : Prop where
  text : listing.text = other.text
  imageLabels : listing.images.flatMap (Rule.imageLabels policy) =
    other.images.flatMap (Rule.imageLabels policy)
  presenceLabel : Rule.presenceLabel listing.images = Rule.presenceLabel other.images

section Alike

variable {policy : Policy} {listing other : Listing} (h : policy.FindsAlike listing other)
include h

theorem Rule.judge_congr (draft : Draft) (rule : Rule) :
    rule.judge policy listing draft = rule.judge policy other draft := by
  cases rule with
  | textKeywords => rw [judge, h.text, judge]
  | imageMetadata => rw [judge, h.imageLabels, h.presenceLabel, judge]
  | oversizePenalty => rfl
  | flaggedImage => rfl

theorem Draft.run_congr (draft : Draft) (rules : List Rule) :
    draft.run policy listing rules = draft.run policy other rules := by
  induction rules generalizing draft with
  | nil => rfl
  | cons rule rules ih =>
    have hstep : draft.step policy listing rule = draft.step policy other rule := by
      rw [step, Rule.judge_congr h, step]
    rw [run, List.foldl_cons, hstep]
    exact ih _

theorem Policy.review_congr (hname : listing.listingId = other.listingId) :
    policy.review listing = policy.review other := by
  rw [review, Draft.run_congr h, hname, review]

end Alike

/-! ### Outlines -/

/-- What is looked at of an image. -/
def Image.sight (image : Image) : Option String × Option UInt64 := (image.mimeType, image.fileSize)

/-- An image of which nothing else is said. -/
def Image.ofSight (sight : Option String × Option UInt64) : Image := ⟨"", "", sight.1, sight.2⟩

/-- A listing without what is not looked at. -/
def Listing.outline (listing : Listing) : Listing where
  listingId := listing.listingId
  sellerId := ""
  reason := ""
  title := listing.title
  description := some (listing.description.getD "")
  priceCents := none
  currency := none
  desiredStatus := none
  images := (listing.images.map Image.sight).map Image.ofSight
  variants := []

theorem Policy.findsAlike_outline (policy : Policy) (listing : Listing) :
    policy.FindsAlike listing.outline listing where
  text := rfl
  imageLabels := by
    rw [Listing.outline, List.flatMap_map, List.flatMap_map]
    -- the labels of an image depend on its type and its size alone
    rfl
  presenceLabel := by
    rw [Rule.presenceLabel, Listing.outline, List.isEmpty_map, List.isEmpty_map, Rule.presenceLabel]

/-- **The review looks at the outline** of a listing and at nothing else. -/
theorem Policy.review_outline (policy : Policy) (listing : Listing) :
    policy.review listing.outline = policy.review listing :=
  review_congr (policy.findsAlike_outline listing) rfl

/-! ### Submissions that are alike -/

/-- What is looked at of an image as it is sent in. -/
def ImageSubmission.sight (image : ImageSubmission) : Option String × Option Json.Number :=
  (image.mimeType, image.fileSize)

namespace Submission

/-- Two submissions say the same where it matters: the name, the title, the description, which
counts as empty if it is absent, and the types and sizes of the images. -/
structure Alike (submission other : Submission) : Prop where
  listingId : submission.listingId = other.listingId
  title : submission.title = other.title
  description : submission.description.getD "" = other.description.getD ""
  images : (submission.images.getD []).map ImageSubmission.sight =
    (other.images.getD []).map ImageSubmission.sight

/-- What a submission that passes says, as far as it is looked at. -/
theorem said_of_check {submission : Submission} {listing : Listing}
    (h : submission.check = .ok listing) :
    submission.listingId = some listing.listingId ∧ submission.title = some listing.title ∧
      submission.description = listing.description ∧
        (submission.images.getD []).map ImageSubmission.sight =
          (listing.images.map Image.sight).map (Prod.map id (Option.map .unsigned)) := by
  have hfilled := check_eq_ok_iff.mp h
  rw [filled, Listing.submitted, Submission.mk.injEq, Option.some.injEq] at hfilled
  obtain ⟨hlisting, -, -, htitle, hdescription, -, -, -, himages, -⟩ := hfilled
  refine ⟨hlisting, htitle, hdescription, ?_⟩
  rw [himages, List.map_map, List.map_map]
  rfl

theorem Alike.outline_eq {submission other : Submission} (h : submission.Alike other)
    {listing listing' : Listing} (hcheck : submission.check = .ok listing)
    (hcheck' : other.check = .ok listing') : listing.outline = listing'.outline := by
  obtain ⟨hlisting, htitle, hdescription, himages⟩ := said_of_check hcheck
  obtain ⟨hlisting', htitle', hdescription', himages'⟩ := said_of_check hcheck'
  have hinjective : Function.Injective
      (Prod.map (id : Option String → Option String) (Option.map Json.Number.unsigned)) :=
    Function.injective_id.prodMap (Option.map_injective fun _ _ => Json.Number.unsigned.inj)
  have hsights : listing.images.map Image.sight = listing'.images.map Image.sight :=
    (List.map_injective_iff.mpr hinjective) (himages.symm.trans (h.images.trans himages'))
  have hname := Option.some.inj (hlisting.symm.trans (h.listingId.trans hlisting'))
  have hsame := Option.some.inj (htitle.symm.trans (h.title.trans htitle'))
  have hwords : listing.description.getD "" = listing'.description.getD "" := by
    rw [← hdescription, ← hdescription', h.description]
  rw [Listing.outline, Listing.outline, hname, hsame, hwords, hsights]

/-- **Alike submissions are reviewed alike**, if they pass the check at all. -/
theorem Alike.review_eq {submission other : Submission} (h : submission.Alike other)
    {listing listing' : Listing} (hcheck : submission.check = .ok listing)
    (hcheck' : other.check = .ok listing') (policy : Policy) :
    policy.review listing = policy.review listing' := by
  rw [← policy.review_outline, h.outline_eq hcheck hcheck', policy.review_outline]

end Submission

end ListingReview
