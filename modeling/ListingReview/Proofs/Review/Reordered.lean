import ListingReview.Proofs.Review.Severity
import ListingReview.Proofs.Review.Notes
import Mathlib.Data.List.Perm.Basic

/-! # Review: order

In what order a policy holds its terms and types, and a listing its images, has no part in the
decision (`review_reordered`). Whichever comes first, each policy looks for all that the other looks
for (`Reordered.within`), so the ground is the same (`ground_reordered`), and as many images are too
large (`tooLarge_reordered`). Only what is told one after another follows the order: the labels of
the images and the terms in the notes, which are the same ones rearranged (`imageLabels_perm`,
`found_perm`). -/

namespace ListingReview

theorem Ground.gravity_injective : Function.Injective gravity := by
  intro ground other h
  cases ground <;> cases other <;> first | rfl | exact absurd h (by decide)

namespace Policy

/-! ### Policies in another order -/

/-- The policies hold the same terms and types, each as often, in whatever order, and one limit. -/
structure Reordered (policy other : Policy) : Prop where
  banned : policy.bannedTerms.Perm other.bannedTerms
  flagged : policy.flaggedTerms.Perm other.flaggedTerms
  types : policy.flaggedTypes.Perm other.flaggedTypes
  limit : policy.sizeLimit = other.sizeLimit

/-- A list given in another order makes a policy that holds it in another order. -/
theorem reordered_ofLists {banned flagged types banned' flagged' types' : List String}
    (hbanned : banned.Perm banned') (hflagged : flagged.Perm flagged') (htypes : types.Perm types')
    (limit : Int64) :
    (ofLists banned flagged types limit).Reordered (ofLists banned' flagged' types' limit) := by
  have hterms {terms others : List String} (h : terms.Perm others) :
      (normalTerms (terms.map String.toList)).Perm (normalTerms (others.map String.toList)) :=
    (((h.map _).map _).filter _).map _
  exact ⟨hterms hbanned, hterms hflagged, hterms htypes, rfl⟩

namespace Reordered

variable {policy other : Policy} (h : policy.Reordered other)
include h

theorem symm : other.Reordered policy :=
  ⟨h.banned.symm, h.flagged.symm, h.types.symm, h.limit.symm⟩

theorem within : policy.Within other := ⟨h.banned.subset, h.flagged.subset, h.types.subset⟩

theorem flags_iff (image : Image) : policy.Flags image ↔ other.Flags image :=
  ⟨Flags.mono h.within, Flags.mono h.symm.within⟩

theorem exceeds_iff (image : Image) : policy.Exceeds image ↔ other.Exceeds image := by
  rw [Exceeds, h.limit, Exceeds]

theorem labelsOf_eq : policy.labelsOf = other.labelsOf := by
  funext image
  simp only [labelsOf, h.flags_iff image, h.exceeds_iff image]

end Reordered

/-! ### What is found -/

section Found

variable {policy other : Policy} (hpolicy : policy.Reordered other)
  {listing : Listing} {images : List Image} (himages : listing.images.Perm images)

section
include hpolicy

theorem bannedIn_perm :
    (policy.bannedIn listing).Perm (other.bannedIn { listing with images }) :=
  hpolicy.banned.filter _

theorem flaggedIn_perm :
    (policy.flaggedIn listing).Perm (other.flaggedIn { listing with images }) :=
  hpolicy.flagged.filter _

/-- The same terms are found. -/
theorem found_perm : (policy.found listing).Perm (other.found { listing with images }) := by
  have hbanned : (policy.bannedIn listing).Perm (other.bannedIn { listing with images }) :=
    bannedIn_perm hpolicy
  have hnone : policy.bannedIn listing = [] ↔ other.bannedIn { listing with images } = [] :=
    ⟨fun hnil => (hnil ▸ hbanned).symm.eq_nil, fun hnil => (hnil ▸ hbanned).eq_nil⟩
  simp only [found, ne_eq, hnone]
  split_ifs
  · exact flaggedIn_perm hpolicy
  · exact hbanned

end

include hpolicy himages

theorem ground_reordered : policy.ground listing = other.ground { listing with images } := by
  refine Ground.gravity_injective (le_antisymm ?_ ?_)
  · refine ground_gravity_le (bannedIn_perm hpolicy).subset (flaggedIn_perm hpolicy).subset ?_
    rintro ⟨image, hmem, hflags⟩
    exact ⟨image, himages.subset hmem, (hpolicy.flags_iff image).mp hflags⟩
  · refine ground_gravity_le (bannedIn_perm hpolicy).symm.subset
      (flaggedIn_perm hpolicy).symm.subset ?_
    rintro ⟨image, hmem, hflags⟩
    exact ⟨image, himages.symm.subset hmem, (hpolicy.flags_iff image).mpr hflags⟩

theorem tooLarge_reordered : policy.tooLarge listing = other.tooLarge { listing with images } := by
  simp only [tooLarge, hpolicy.exceeds_iff]
  exact himages.countP_eq _

/-- The images have the same labels. -/
theorem imageLabels_perm :
    (listing.images.flatMap policy.labelsOf).Perm (images.flatMap other.labelsOf) := by
  rw [hpolicy.labelsOf_eq]
  exact himages.flatMap_right _

end Found

theorem mem_imageLabels {policy : Policy} {images : List Image} {label : Label}
    (h : label ∈ images.flatMap policy.labelsOf) :
    label = .imageFlagged ∨ label = .imageTooLarge := by
  have hwords : ∀ word ∈ Label.imageWords, ∀ label ∈ word,
      label = .imageFlagged ∨ label = .imageTooLarge := by decide
  obtain ⟨image, -, hlabel⟩ := List.mem_flatMap.mp h
  exact hwords _ (policy.labelsOf_mem image) label hlabel

/-! ### The decision -/

/-- **Order does not decide.** Under a policy that holds its terms and types in another order, a
listing with its images in another order has the same status, score and name. Its labels are the
same in another order, but only those of the images change places: that of the text stays first, and
that which says whether there are images stays last. The notes name the same terms in another order,
and under one policy they stay as they are. -/
theorem review_reordered {policy other : Policy} (hpolicy : policy.Reordered other)
    {listing : Listing} {images : List Image} (himages : listing.images.Perm images) :
    (other.review { listing with images }).listingId = (policy.review listing).listingId ∧
      (other.review { listing with images }).status = (policy.review listing).status ∧
      (other.review { listing with images }).score = (policy.review listing).score ∧
      (policy.review listing).labels.Perm (other.review { listing with images }).labels ∧
      (∃ text ∈ Label.textWords, ∃ presence ∈ [Label.noImagesSubmitted, .imageryPresent],
        ∃ labels reordered : List Label, labels.Perm reordered ∧
          (∀ label ∈ labels, label = .imageFlagged ∨ label = .imageTooLarge) ∧
          (policy.review listing).labels = text ++ labels ++ [presence] ∧
          (other.review { listing with images }).labels = text ++ reordered ++ [presence]) ∧
      (policy.found listing).Perm (other.found { listing with images }) ∧
      (policy.review listing).notes =
        (policy.ground listing).heading ++ ", ".intercalate (policy.found listing) ∧
      (other.review { listing with images }).notes =
        (policy.ground listing).heading ++
          ", ".intercalate (other.found { listing with images }) ∧
      (policy.review { listing with images }).notes = (policy.review listing).notes := by
  have hground := ground_reordered hpolicy himages
  have hpresence : images = [] ↔ listing.images = [] :=
    ⟨fun hnil => (hnil ▸ himages).eq_nil, fun hnil => (hnil ▸ himages).symm.eq_nil⟩
  have hlabels := imageLabels_perm hpolicy himages
  obtain ⟨hname, hstatus, hnotes, hwords⟩ := policy.review_verdict listing
  obtain ⟨hname', hstatus', hnotes', hwords'⟩ := other.review_verdict { listing with images }
  rw [labels] at hwords
  simp only [labels, ← hground, hpresence] at hwords'
  refine ⟨hname'.trans hname.symm, ?_, ?_, ?_, ?_, found_perm hpolicy, ?_, ?_, ?_⟩
  · rw [hstatus', hstatus, hground]
  · rw [review_score_eq, review_score_eq, hground, tooLarge_reordered hpolicy himages]
  · rw [hwords, hwords']
    exact (hlabels.append_left _).append_right _
  · exact ⟨_, (policy.ground listing).textLabels_mem, _, by split_ifs <;> decide, _, _, hlabels,
      fun _ => mem_imageLabels, hwords, hwords'⟩
  · rw [hnotes, notes_eq]
  · rw [hnotes', notes_eq, hground]
  · have hself : policy.Reordered policy := ⟨.refl _, .refl _, .refl _, rfl⟩
    rw [hnotes, (policy.review_verdict { listing with images }).2.2.1, notes_eq, notes_eq,
      ← ground_reordered hself himages]
    rfl

/-- A carving under two policies that are given the same terms and types the other way round, with
its two images the other way round as well. -/
theorem review_reordered_for_carving :
    let carving : Listing :=
      ⟨"listing-1", "seller-1", "listing_created", "Ivory carving", some "no weapon", none, none,
        none, [⟨"front", "front.svg", some "image/SVG+xml", some 900⟩,
          ⟨"back", "back.png", none, some 700⟩], []⟩
    let images : List Image :=
      [⟨"back", "back.png", none, some 700⟩, ⟨"front", "front.svg", some "image/SVG+xml", some 900⟩]
    let policy : Policy := ofLists [" Weapon ", "IVORY"] ["carving"] ["image/icon", "image/svg"] 500
    let other : Policy := ofLists ["IVORY", " Weapon "] ["carving"] ["image/svg", "image/icon"] 500
    policy.Reordered other ∧ carving.images.Perm images ∧
      (other.review { carving with images }).status = (policy.review carving).status ∧
      (other.review { carving with images }).score = (policy.review carving).score ∧
      (policy.review carving).labels.Perm (other.review { carving with images }).labels ∧
      (policy.review carving).notes = "Blocked terms detected: weapon, ivory" ∧
      (other.review { carving with images }).notes = "Blocked terms detected: ivory, weapon" := by
  intro carving images policy other
  have hpolicy : policy.Reordered other :=
    reordered_ofLists (.swap _ _ _) (.refl _) (.swap _ _ _) 500
  have himages : carving.images.Perm images := .swap _ _ _
  have hground : policy.ground carving = .bannedText ∧ policy.found carving = ["weapon", "ivory"] ∧
      other.found { carving with images } = ["ivory", "weapon"] := by decide +kernel
  obtain ⟨hground, hfound, hfound'⟩ := hground
  obtain ⟨-, hstatus, hscore, hlabels, -, -, hnotes, hnotes', -⟩ :=
    review_reordered hpolicy himages
  rw [hground, hfound] at hnotes
  rw [hground, hfound'] at hnotes'
  exact ⟨hpolicy, himages, hstatus, hscore, hlabels, hnotes, hnotes'⟩

end Policy

end ListingReview
