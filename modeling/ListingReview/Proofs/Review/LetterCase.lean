import ListingReview.Proofs.Review.Outline
import ListingReview.Proofs.Text.LetterCase

/-! # Review: letter case

Titles, descriptions and image types are lowered before they are looked at, so they may be written
anew in any way that keeps their lower case (`review_respelled`). Changing the case of ASCII letters
is such a way, even next to a capital sigma, and so is lowering each of them on its own: a blank
parts title and description, and what is in lower case stays. -/

namespace ListingReview

/-- A text written anew. -/
def Text.respell (f : List Char → List Char) (text : String) : String :=
  String.ofList (f text.toList)

/-- An image with its type written anew. -/
def Image.respelled (f : List Char → List Char) (image : Image) : Image :=
  { image with mimeType := image.mimeType.map (Text.respell f) }

/-- A listing with its title, its description and the types of its images written anew. -/
def Listing.respelled (f : List Char → List Char) (listing : Listing) : Listing :=
  { listing with
    title := Text.respell f listing.title
    description := listing.description.map (Text.respell f)
    images := listing.images.map (Image.respelled f) }

section Respelled

variable {f : List Char → List Char} (hf : ∀ text, Text.lower (f text) = Text.lower text)
include hf

theorem Text.lower_respell (text : String) :
    Text.lower (Text.respell f text).toList = Text.lower text.toList := by
  rw [respell, String.toList_ofList, hf]

theorem Listing.text_respelled (listing : Listing) : (listing.respelled f).text = listing.text := by
  have hdescription : Text.lower ((listing.respelled f).description.getD "").toList =
      Text.lower (listing.description.getD "").toList := by
    rw [respelled]
    cases listing.description with
    | none => rfl
    | some description => exact Text.lower_respell hf description
  rw [text, text, Text.lower_append_blank, Text.lower_append_blank, hdescription]
  congr 1
  exact Text.lower_respell hf listing.title

theorem Rule.imageLabels_respelled (policy : Policy) (image : Image) :
    imageLabels policy (image.respelled f) = imageLabels policy image := by
  have hflagged : isFlagged policy (image.respelled f) = isFlagged policy image := by
    unfold isFlagged Image.respelled
    cases image.mimeType with
    | none => rfl
    | some mimeType =>
      dsimp only [Option.map_some]
      rw [Text.lower_respell hf]
  rw [imageLabels, imageLabels, hflagged]
  rfl

theorem Policy.findsAlike_respelled (policy : Policy) (listing : Listing) :
    policy.FindsAlike (listing.respelled f) listing where
  text := listing.text_respelled hf
  imageLabels := by
    rw [Listing.respelled, List.flatMap_map]
    exact List.flatMap_congr fun image _ => Rule.imageLabels_respelled hf policy image
  presenceLabel := by
    rw [Rule.presenceLabel, Listing.respelled, List.isEmpty_map, Rule.presenceLabel]

/-- A listing written anew with the same lower case has the same review. -/
theorem Policy.review_respelled (policy : Policy) (listing : Listing) :
    policy.review (listing.respelled f) = policy.review listing :=
  review_congr (policy.findsAlike_respelled hf listing) rfl

end Respelled

namespace Policy

/-- **Letter case does not matter.** Listings that are the same once the ASCII letters in their
titles, descriptions and image types are made small have the same review; and so has a listing with
each of these in lower case. -/
theorem review_letterCase (policy : Policy) :
    (∀ listing other : Listing,
        listing.respelled Text.asciiLower = other.respelled Text.asciiLower →
        policy.review listing = policy.review other) ∧
      ∀ listing : Listing,
        policy.review (listing.respelled Text.lower) = policy.review listing := by
  constructor
  · intro listing other h
    rw [← policy.review_respelled Text.lower_asciiLower listing, h,
      policy.review_respelled Text.lower_asciiLower other]
  · exact policy.review_respelled Text.lower_lower

/-- A lamp with a sigma at the end of a word, which stays final whatever the case of the letters in
front of it. -/
theorem review_letterCase_for_lamps :
    let lamp : Listing :=
      ⟨"listing-1", "seller-1", "listing_created", "LAMP dΣ", some "A REPLICA", none, none, none,
        [⟨"front", "front.svg", some "Image/SVG+xml", some 100⟩], []⟩
    let lowLamp : Listing :=
      { lamp with
        title := "Lamp DΣ"
        description := some "a Replica"
        images := [⟨"front", "front.svg", some "image/svg+XML", some 100⟩] }
    lamp.respelled Text.asciiLower = lowLamp.respelled Text.asciiLower ∧
      standard.review lamp = standard.review lowLamp := by
  intro lamp lowLamp
  have hsame : lamp.respelled Text.asciiLower = lowLamp.respelled Text.asciiLower := by
    decide +kernel
  exact ⟨hsame, (review_letterCase standard).1 lamp lowLamp hsame⟩

end Policy

end ListingReview
