import ListingReview.Proofs.Review.Severity
import ListingReview.Proofs.Text.Lowercase

/-! # Review: title and description

The title and the description of a listing are searched as one text, but the blank between them
keeps them apart: each is lowered as it is on its own (`Listing.text_eq`). So the text of either
alone is part of that of both (`text_undescribed_infix`, `text_untitled_infix`), with all that is
found in it, and a description only ever makes the review more severe (`severity_le_described`). -/

namespace ListingReview

namespace Listing

variable (listing : Listing)

theorem text_eq :
    listing.text = Text.lower listing.title.toList ++
      ' ' :: Text.lower (listing.description.getD "").toList :=
  Text.lower_append_blank _ _

/-- A listing without its description. -/
def undescribed : Listing := { listing with description := none }

/-- A listing without a title. -/
def untitled : Listing := { listing with title := "" }

theorem text_undescribed : listing.undescribed.text = Text.lower listing.title.toList ++ [' '] :=
  listing.undescribed.text_eq

theorem text_untitled :
    listing.untitled.text = ' ' :: Text.lower (listing.description.getD "").toList :=
  listing.untitled.text_eq

/-- A description goes on where the text of a listing without one ends. -/
theorem text_undescribed_infix : listing.undescribed.text <:+: listing.text := by
  rw [text_undescribed, text_eq,
    List.append_cons _ ' ' (Text.lower (listing.description.getD "").toList)]
  exact List.infix_append_left

theorem text_untitled_infix : listing.untitled.text <:+: listing.text := by
  rw [text_untitled, text_eq]
  exact List.infix_append_right

end Listing

namespace Policy

variable (policy : Policy) (listing : Listing)

/-- Without the description there is no graver ground. -/
theorem ground_undescribed_le :
    (policy.ground listing.undescribed).gravity ≤ (policy.ground listing).gravity := by
  refine ground_gravity_le ?_ ?_ id
  · rw [← hits_bannedTerms, ← hits_bannedTerms]
    exact Text.hits_mono listing.text_undescribed_infix _
  · rw [← hits_flaggedTerms, ← hits_flaggedTerms]
    exact Text.hits_mono listing.text_undescribed_infix _

theorem severity_le_described (h : listing.description = none) (description : String) :
    (policy.review listing).status.severity ≤
      (policy.review { listing with description := some description }).status.severity := by
  set described : Listing := { listing with description := some description }
  have hground := policy.ground_undescribed_le described
  have hlisting : described.undescribed = listing := by rw [Listing.undescribed, ← h]
  rw [hlisting] at hground
  rw [(policy.review_verdict listing).2.1, (policy.review_verdict described).2.1]
  exact Ground.severity_mono hground

/-- **Title and description cannot hide each other's terms.** Each is lowered on its own. So a term
of the policy without a blank is found if and only if it occurs in one of the two; what is found in
one of them alone is found in both together; and a description never makes the status milder. -/
theorem review_parts :
    listing.text = Text.lower listing.title.toList ++
        ' ' :: Text.lower (listing.description.getD "").toList ∧
      (∀ terms ∈ [policy.bannedTerms, policy.flaggedTerms],
        (∀ term ∈ terms, ' ' ∉ term.toList →
          (term ∈ Text.hits listing.text terms ↔
            term.toList <:+: Text.lower listing.title.toList ∨
              term.toList <:+: Text.lower (listing.description.getD "").toList)) ∧
        Text.hits listing.undescribed.text terms ⊆ Text.hits listing.text terms ∧
        Text.hits listing.untitled.text terms ⊆ Text.hits listing.text terms) ∧
      (listing.description = none → ∀ description : String,
        (policy.review listing).status.severity ≤
          (policy.review { listing with description := some description }).status.severity) := by
  refine ⟨listing.text_eq, fun terms _ => ⟨?_, ?_, ?_⟩, policy.severity_le_described listing⟩
  · intro term hterm hblank
    rw [Text.mem_hits, listing.text_eq, Text.infix_separated_iff hblank]
    exact and_iff_right hterm
  · exact Text.hits_mono listing.text_undescribed_infix terms
  · exact Text.hits_mono listing.text_untitled_infix terms

/-- The title of a knife ends with a sigma that stays final whatever the description begins with,
and the description makes the review more severe. -/
theorem review_parts_for_knife :
    let knife : Listing :=
      ⟨"listing-1", "seller-1", "listing_created", "KNIFE BY ΟΔΟΣ", none, none, none, none, [], []⟩
    let described : Listing := { knife with description := some "Ivory handle" }
    ' ' ∉ "knife".toList ∧
      ("knife" ∈ Text.hits described.text standard.flaggedTerms ↔
        "knife".toList <:+: Text.lower "KNIFE BY ΟΔΟΣ".toList ∨
          "knife".toList <:+: Text.lower "Ivory handle".toList) ∧
      (standard.review knife).status.severity ≤
        (standard.review described).status.severity := by
  intro knife described
  have hblank : ' ' ∉ "knife".toList := by decide
  have hterm : "knife" ∈ standard.flaggedTerms := by decide +kernel
  have hparts := (review_parts standard described).2.1 standard.flaggedTerms (by simp)
  exact ⟨hblank, hparts.1 "knife" hterm hblank,
    (review_parts standard knife).2.2 rfl "Ivory handle"⟩

end Policy

end ListingReview
