import ListingReview.Proofs.Review.Score

/-! # Review: severity

A policy that bans and flags more, or a listing with more images, never gives a milder status, and
among decisions of one status never a higher score unless the limit for images was raised.

* `ground_gravity_le`, `ground_gravity_mono`: more terms and more images only ever give a graver
  ground.
* `hundredths_mono`: of two grounds with one status the graver one has the lower score, and so has
  the one with more images that are too large. Of the two grounds that flag a listing the one in
  its images has a score above whatever the one in its text is left with.
* `review_severity_mono`: both together, for decisions. -/

namespace ListingReview

/-- How severe a status is. -/
def Status.severity : Status → Nat
  | approved => 0
  | flagged => 1
  | rejected => 2

namespace Ground

/-- How grave a ground is. -/
def gravity : Ground → Nat
  | nothing => 0
  | flaggedImage => 1
  | flaggedText => 2
  | bannedText => 3

theorem severity_mono {ground graver : Ground} (h : ground.gravity ≤ graver.gravity) :
    ground.status.severity ≤ graver.status.severity := by
  revert h
  cases ground <;> cases graver <;> decide

/-- Grounds of one status: a graver one, with no fewer images that are too large, leaves no higher
score. -/
theorem hundredths_mono {ground graver : Ground} {few many : Nat}
    (hground : ground.gravity ≤ graver.gravity) (hstatus : ground.status = graver.status)
    (hlarge : few ≤ many) : graver.hundredths many ≤ ground.hundredths few := by
  cases ground <;> cases graver <;>
    simp_all [gravity, status, hundredths] <;> omega

end Ground

namespace Policy

theorem ground_gravity_le {policy wider : Policy} {listing other : Listing}
    (hbanned : policy.bannedIn listing ⊆ wider.bannedIn other)
    (hflagged : policy.flaggedIn listing ⊆ wider.flaggedIn other)
    (himages : (∃ image ∈ listing.images, policy.Flags image) →
      ∃ image ∈ other.images, wider.Flags image) :
    (policy.ground listing).gravity ≤ (wider.ground other).gravity := by
  have hbanned' : policy.bannedIn listing ≠ [] → wider.bannedIn other ≠ [] :=
    fun h hnil => h (List.subset_nil.mp (hnil ▸ hbanned))
  have hflagged' : policy.flaggedIn listing ≠ [] → wider.flaggedIn other ≠ [] :=
    fun h hnil => h (List.subset_nil.mp (hnil ▸ hflagged))
  simp only [ground]
  split_ifs <;> first
    | decide
    | exact absurd (hbanned' ‹_›) ‹_›
    | exact absurd (hflagged' ‹_›) ‹_›
    | exact absurd (himages ‹_›) ‹_›

/-- The first policy bans and flags no more than the second; the limits may be any. -/
structure Within (policy wider : Policy) : Prop where
  banned : policy.bannedTerms ⊆ wider.bannedTerms
  flagged : policy.flaggedTerms ⊆ wider.flaggedTerms
  types : policy.flaggedTypes ⊆ wider.flaggedTypes

section Wider

variable {policy wider : Policy} (hwider : policy.Within wider)
  {listing : Listing} {images : List Image} (himages : listing.images.Sublist images)
include hwider

theorem bannedIn_mono : policy.bannedIn listing ⊆ wider.bannedIn { listing with images } :=
  List.filter_subset _ hwider.banned

theorem flaggedIn_mono : policy.flaggedIn listing ⊆ wider.flaggedIn { listing with images } :=
  List.filter_subset _ hwider.flagged

theorem Flags.mono {image : Image} (h : policy.Flags image) : wider.Flags image := by
  obtain ⟨mimeType, hmime, beginning, hmem, hprefix⟩ := h
  exact ⟨mimeType, hmime, beginning, hwider.types hmem, hprefix⟩

include himages

theorem ground_gravity_mono :
    (policy.ground listing).gravity ≤ (wider.ground { listing with images }).gravity := by
  refine ground_gravity_le (bannedIn_mono hwider) (flaggedIn_mono hwider) ?_
  rintro ⟨image, hmem, hflags⟩
  exact ⟨image, himages.subset hmem, hflags.mono hwider⟩

omit hwider

theorem tooLarge_mono (hlimit : wider.sizeLimit ≤ policy.sizeLimit) :
    policy.tooLarge listing ≤ wider.tooLarge { listing with images } := by
  have hexceeds (image : Image) (h : policy.Exceeds image) : wider.Exceeds image := by
    obtain ⟨size, hsize, hlt⟩ := h
    exact ⟨size, hsize, (Int64.le_iff_toInt_le.mp hlimit).trans_lt hlt⟩
  calc policy.tooLarge listing
      ≤ images.countP (fun image => policy.Exceeds image) := himages.countP_le
    _ ≤ wider.tooLarge { listing with images } :=
      List.countP_mono_left fun image _ h => by simpa using hexceeds image (by simpa using h)

end Wider

/-- **Severity is monotone.** With images put in anywhere and a policy that bans and flags at least
as much the status is at least as severe; if it is the same, and the limit no higher, then the score
is no higher. -/
theorem review_severity_mono {policy wider : Policy} (hwider : policy.Within wider)
    {listing : Listing} {images : List Image} (himages : listing.images.Sublist images) :
    (policy.review listing).status.severity ≤
        (wider.review { listing with images }).status.severity ∧
      ((policy.review listing).status = (wider.review { listing with images }).status →
        wider.sizeLimit ≤ policy.sizeLimit →
        (wider.review { listing with images }).score.steps ≤
          (policy.review listing).score.steps) := by
  have hground := ground_gravity_mono hwider himages
  rw [(policy.review_verdict listing).2.1, (wider.review_verdict { listing with images }).2.1]
  refine ⟨Ground.severity_mono hground, fun hstatus hlimit => ?_⟩
  have hhundredths :=
    Ground.hundredths_mono hground hstatus (tooLarge_mono himages hlimit)
  have hsteps (hundredths : Nat) : (Binary64.ofRatio hundredths 100).steps =
      Binary64.stepsOf (Binary64.ofRatio hundredths 100).magnitude := rfl
  rw [review_score_eq, review_score_eq, hsteps, hsteps, Binary64.ofRatio_magnitude,
    Binary64.ofRatio_magnitude, Int.ofNat_le]
  exact Binary64.stepsOf_strictMono.monotone
    (Binary64.nearest_mono (by decide) (Nat.mul_le_mul_right _ hhundredths))

/-- A chair with one image more, under a policy that looks for knives as well: the status stays and
the score sinks. -/
theorem review_severity_mono_for_chairs :
    let chair : Listing :=
      ⟨"listing-1", "seller-1", "listing_created", "Chair", none, none, none, none,
        [⟨"front", "front.png", none, some 100⟩], []⟩
    let images : List Image :=
      [⟨"back", "back.png", none, some 900⟩, ⟨"front", "front.png", none, some 100⟩]
    let policy : Policy := ⟨["weapon"], [], [], 1000⟩
    let wider : Policy := ⟨["knife", "weapon"], [], [], 500⟩
    policy.Within wider ∧ chair.images.Sublist images ∧
      (policy.review chair).status = (wider.review { chair with images }).status ∧
      wider.sizeLimit ≤ policy.sizeLimit ∧
      (wider.review { chair with images }).score.steps ≤ (policy.review chair).score.steps := by
  intro chair images policy wider
  have hwider : policy.Within wider := ⟨by decide, by decide, by decide⟩
  have himages : chair.images.Sublist images := List.sublist_cons_self _ _
  have hstatus : (policy.review chair).status = (wider.review { chair with images }).status := by
    decide +kernel
  have hlimit : wider.sizeLimit ≤ policy.sizeLimit := by decide
  exact ⟨hwider, himages, hstatus, hlimit,
    (review_severity_mono hwider himages).2 hstatus hlimit⟩

end Policy

end ListingReview
