import ListingReview.Proofs.Review.Score

/-! # Review: what the labels tell

The labels of a decision explain it. They form a word (`Label.IsWord`): at most one label of the
text, then those of every image in turn, then one that says whether there are images. Status and
score can be read off the word alone (`Label.verdict`), whatever policy and listing it comes from,
since each ground for a decision leaves a label of its own (`verdict_labels`). -/

namespace ListingReview

namespace Label

/-- What labels a text can give. -/
def textWords : List (List Label) := [[], [bannedKeyword], [textRequiresReview]]

/-- What labels an image can give. -/
def imageWords : List (List Label) :=
  [[], [imageFlagged], [imageTooLarge], [imageFlagged, imageTooLarge]]

/-- The labels are those of a text, then those of so many images one after another, and last one
that says whether there are any. -/
def IsWord (images : Nat) (labels : List Label) : Prop :=
  ∃ text ∈ textWords, ∃ words : List (List Label),
    ∃ presence ∈ [noImagesSubmitted, imageryPresent],
      labels = text ++ words.flatten ++ [presence] ∧ words.length = images ∧
        (∀ word ∈ words, word ∈ imageWords) ∧ (presence = noImagesSubmitted ↔ images = 0)

/-- The status that labels tell, and the score in hundredths. -/
def verdict (labels : List Label) : Status × Nat :=
  if bannedKeyword ∈ labels then (.rejected, 0)
  else if textRequiresReview ∈ labels then (.flagged, 35 - 5 * labels.count imageTooLarge)
  else if imageFlagged ∈ labels then (.flagged, 40)
  else (.approved, 85 - 5 * labels.count imageTooLarge)

theorem text_not_mem_imageWords :
    ∀ word ∈ imageWords, bannedKeyword ∉ word ∧ textRequiresReview ∉ word := by decide

theorem image_not_mem_textWords :
    ∀ word ∈ textWords, imageFlagged ∉ word ∧ imageTooLarge ∉ word := by decide

theorem verdict_rejected_iff {labels : List Label} :
    (verdict labels).1 = .rejected ↔ bannedKeyword ∈ labels := by
  unfold verdict
  split_ifs with hbanned hreview hflagged <;> simp [hbanned]

end Label

theorem Ground.textLabels_mem (ground : Ground) : ground.textLabels ∈ Label.textWords := by
  cases ground <;> decide

namespace Policy

variable (policy : Policy) (listing : Listing)

theorem labelsOf_mem (image : Image) : policy.labelsOf image ∈ Label.imageWords := by
  unfold labelsOf
  split_ifs <;> decide

theorem labels_isWord : Label.IsWord listing.images.length (policy.labels listing) := by
  refine ⟨_, (policy.ground listing).textLabels_mem, listing.images.map policy.labelsOf,
    if listing.images = [] then .noImagesSubmitted else .imageryPresent, ?_, ?_,
    List.length_map _, ?_, ?_⟩
  · split_ifs <;> decide
  · rw [labels, List.flatMap_def]
  · exact List.forall_mem_map.mpr fun image _ => policy.labelsOf_mem image
  · split_ifs with h <;> simp [h]

theorem mem_labels_iff {label : Label} (h : label = .bannedKeyword ∨ label = .textRequiresReview) :
    label ∈ policy.labels listing ↔ label ∈ (policy.ground listing).textLabels := by
  have himages : label ∉ listing.images.flatMap policy.labelsOf := by
    rw [List.mem_flatMap]
    rintro ⟨image, -, hmem⟩
    obtain ⟨hbanned, hreview⟩ := Label.text_not_mem_imageWords _ (policy.labelsOf_mem image)
    rcases h with rfl | rfl
    · exact hbanned hmem
    · exact hreview hmem
  have hpresence :
      label ∉ [if listing.images = [] then Label.noImagesSubmitted else .imageryPresent] := by
    rcases h with rfl | rfl <;> split_ifs <;> decide
  rw [labels, List.mem_append, List.mem_append]
  simp only [himages, hpresence, or_false]

theorem count_labels : (policy.labels listing).count .imageTooLarge = policy.tooLarge listing := by
  obtain ⟨-, hlarge⟩ := Label.image_not_mem_textWords _ (policy.ground listing).textLabels_mem
  exact policy.count_imageTooLarge_behind listing hlarge

/-- **The labels tell the ground**: its status and the score that it leaves. -/
theorem verdict_labels :
    Label.verdict (policy.labels listing) =
      ((policy.ground listing).status,
        (policy.ground listing).hundredths (policy.tooLarge listing)) := by
  obtain ⟨hflagged, -⟩ := Label.image_not_mem_textWords _ (policy.ground listing).textLabels_mem
  have himage : .imageFlagged ∈ policy.labels listing ↔
      ∃ image ∈ listing.images, policy.Flags image :=
    policy.imageFlagged_mem_behind listing hflagged
  rw [Label.verdict, count_labels]
  simp only [policy.mem_labels_iff listing (.inl rfl), policy.mem_labels_iff listing (.inr rfl),
    himage]
  -- the images are looked at only if the text gives no label
  unfold ground
  split_ifs <;> simp_all [Ground.textLabels, Ground.status, Ground.hundredths]

/-- **A decision is explained by its labels.** They form a word, and tell the status and the score:
it is rejected if and only if they say that a banned term was found, and decisions with equal labels
have equal status and score, under any policies and on any listings. -/
theorem review_explained :
    Label.IsWord listing.images.length (policy.review listing).labels ∧
      ((policy.review listing).status = .rejected ↔
        .bannedKeyword ∈ (policy.review listing).labels) ∧
      (policy.review listing).status = (Label.verdict (policy.review listing).labels).1 ∧
      (policy.review listing).score =
        Binary64.ofRatio (Label.verdict (policy.review listing).labels).2 100 ∧
      ∀ (other : Policy) (otherListing : Listing),
        (other.review otherListing).labels = (policy.review listing).labels →
        (other.review otherListing).status = (policy.review listing).status ∧
          (other.review otherListing).score = (policy.review listing).score := by
  have htold (policy : Policy) (listing : Listing) :
      (policy.review listing).status = (Label.verdict (policy.review listing).labels).1 ∧
        (policy.review listing).score =
          Binary64.ofRatio (Label.verdict (policy.review listing).labels).2 100 := by
    obtain ⟨-, hstatus, -, hlabels⟩ := policy.review_verdict listing
    rw [hlabels, verdict_labels]
    exact ⟨hstatus, policy.review_score_eq listing⟩
  obtain ⟨hstatus, hscore⟩ := htold policy listing
  refine ⟨?_, ?_, hstatus, hscore, fun other otherListing hlabels => ?_⟩
  · rw [(policy.review_verdict listing).2.2.2]
    exact policy.labels_isWord listing
  · rw [hstatus, Label.verdict_rejected_iff]
  · obtain ⟨hstatus', hscore'⟩ := htold other otherListing
    rw [hstatus', hscore', hlabels, hstatus, hscore]
    exact ⟨rfl, rfl⟩

/-- A lottery ticket and a carving under two policies, each with one image that is too large: the
labels are the same, and so the score of thirty hundredths. -/
theorem review_explained_for_tickets :
    let ticket : Listing :=
      ⟨"listing-1", "seller-1", "listing_created", "Lottery ticket", none, none, none, none,
        [⟨"front", "front.png", some "image/png", some 900⟩], []⟩
    let carving : Listing :=
      ⟨"listing-2", "seller-2", "listing_edited", "Carving", some "in bone", none, none, none,
        [⟨"side", "side.png", none, some 700⟩], []⟩
    let strict : Policy := ⟨["ivory"], ["bone"], [], 500⟩
    let lenient : Policy := ⟨[], ["lottery"], ["image/svg"], 800⟩
    (strict.review carving).labels = (lenient.review ticket).labels ∧
      (strict.review carving).status = (lenient.review ticket).status ∧
      (strict.review carving).score = (lenient.review ticket).score := by
  intro ticket carving strict lenient
  have hlabels : (strict.review carving).labels = (lenient.review ticket).labels := by
    decide +kernel
  exact ⟨hlabels, (review_explained lenient ticket).2.2.2.2 strict carving hlabels⟩

end Policy

end ListingReview
