import ListingReview.Proofs.Policy.Terms
import ListingReview.Proofs.Review.Verdict

/-! # Review: mentions of banned terms

A term is lowered when it is given to a policy, and the text of a listing when it is reviewed. Where
a listing mentions the term as it is, its normal form is found unless a capital sigma of the term is
final in the one and not in the other.

* `lower_infix_text`: the normal form of a mention whose sigmas are kept stands in the text.
* `catches_mentions_iff`: the terms of which no mention is missed. -/

namespace ListingReview

open Text (lower lowerWithin SigmasKept Steady)

/-! ### Mentions -/

/-- The title or the description of a listing is a text between two others. -/
def Listing.Reads (listing : Listing) (before part after : List Char) : Prop :=
  listing.title.toList = before ++ part ++ after ∨
    ∃ description ∈ listing.description, description.toList = before ++ part ++ after

/-- A text stands in the title or the description of a listing. -/
def Listing.Mentions (listing : Listing) (part : List Char) : Prop :=
  ∃ before after, listing.Reads before part after

/-- A mention is lowered between what stands around it in its title or description: the blank
between the two hides the rest. -/
theorem Listing.lowerWithin_infix_text {listing : Listing} {before part after : List Char}
    (h : listing.Reads before part after) :
    lowerWithin before.reverse part after <:+: listing.text := by
  rcases h with htitle | ⟨description, hdescription, hreads⟩
  · have hinfix := Text.lowerWithin_infix before part
      (after ++ ' ' :: (listing.description.getD "").toList)
    rw [Text.lowerWithin_blank_after] at hinfix
    rwa [Listing.text, htitle, List.append_assoc]
  · have hinfix := Text.lowerWithin_infix (listing.title.toList ++ ' ' :: before) part after
    rw [List.reverse_append, List.reverse_cons, List.append_assoc, List.singleton_append,
      Text.lowerWithin_blank_before] at hinfix
    rw [Listing.text, Option.mem_def.mp hdescription, Option.getD_some, hreads]
    simpa using hinfix

theorem Listing.lower_infix_text {listing : Listing} {before part after : List Char}
    (h : listing.Reads before part after) (hkept : SigmasKept before.reverse part after) :
    lower part <:+: listing.text := by
  rw [← Text.lowerWithin_eq_lower_iff.mpr hkept]
  exact Listing.lowerWithin_infix_text h

/-! ### Terms that are caught -/

namespace Policy

/-- A listing is rejected, and a term in its normal form is one of those that the notes name. -/
def Catches (policy : Policy) (listing : Listing) (term : String) : Prop :=
  (policy.review listing).status = .rejected ∧
    (policy.review listing).notes =
      "Blocked terms detected: " ++ ", ".intercalate (policy.bannedIn listing) ∧
    String.ofList (normalTerm term.toList) ∈ policy.bannedIn listing

variable {policy : Policy} {listing : Listing} {term : String}

theorem mem_bannedIn {found : String} :
    found ∈ policy.bannedIn listing ↔
      found ∈ policy.bannedTerms ∧ found.toList <:+: listing.text := by
  rw [bannedIn, List.mem_filter, decide_eq_true_iff, Listing.text]

theorem catches_of_infix (hbanned : String.ofList (normalTerm term.toList) ∈ policy.bannedTerms)
    (h : normalTerm term.toList <:+: listing.text) : policy.Catches listing term := by
  have hmem : String.ofList (normalTerm term.toList) ∈ policy.bannedIn listing :=
    mem_bannedIn.mpr ⟨hbanned, by rwa [String.toList_ofList]⟩
  have hground : policy.ground listing = .bannedText := if_pos (List.ne_nil_of_mem hmem)
  refine ⟨?_, ?_, hmem⟩
  · rw [review, run_pipeline, hground]
    rfl
  · rw [review, run_pipeline, Draft.decision, notes, hground]

theorem infix_of_catches (h : policy.Catches listing term) :
    normalTerm term.toList <:+: listing.text := by
  obtain ⟨-, -, hmem⟩ := h
  have hinfix := (mem_bannedIn.mp hmem).2
  rwa [String.toList_ofList] at hinfix

/-- A listing with nothing but a title. -/
def titled (title : List Char) : Listing where
  listingId := ""
  sellerId := ""
  reason := ""
  title := String.ofList title
  description := none
  priceCents := none
  currency := none
  desiredStatus := none
  images := []
  variants := []

theorem titled_text (title : List Char) : (titled title).text = lower (title ++ [' ']) := by
  rw [Listing.text, titled, String.toList_ofList]
  rfl

/-- **Which mentions of a banned term are caught.** A mention is caught if every capital sigma of
the term is final in its title or description if and only if it is final in the term, so all
mentions of a term are caught if, and only if, no sigma of the term looks beyond it. -/
theorem catches_mentions_iff {banned : List String} {policy : Policy}
    (hbans : policy.Bans banned) {term : String} (hmem : term ∈ banned)
    (hblank : Text.trim term.toList ≠ []) :
    (∀ (listing : Listing) (before after : List Char),
        listing.Reads before (Text.trim term.toList) after →
        SigmasKept before.reverse (Text.trim term.toList) after → policy.Catches listing term) ∧
      ((∀ listing : Listing, listing.Mentions (Text.trim term.toList) →
          policy.Catches listing term) ↔
        Steady (Text.trim term.toList)) := by
  have hbanned := hbans.mem_bannedTerms hmem hblank
  refine ⟨?_, ?_, ?_⟩
  · intro listing before after hreads hkept
    exact catches_of_infix hbanned (Listing.lower_infix_text hreads hkept)
  · intro hall
    by_contra hnot
    obtain ⟨title, ⟨before, after, htitle⟩, hmissed⟩ := Text.exists_not_lower_infix hnot
    have hmentions : (titled title).Mentions (Text.trim term.toList) :=
      ⟨before, after, .inl (by rw [titled, String.toList_ofList, htitle])⟩
    refine hmissed ?_
    have hinfix := infix_of_catches (hall (titled title) hmentions)
    rwa [titled_text] at hinfix
  · rintro hsteady listing ⟨before, after, hreads⟩
    exact catches_of_infix hbanned
      (Listing.lower_infix_text hreads (hsteady.sigmasKept before.reverse after))

/-- A term without a capital sigma is caught inside a longer word. -/
theorem catches_weapon : standard.Catches (titled "WEAPONS or weapons".toList) "weapon" := by
  have hmentions : (titled "WEAPONS or weapons".toList).Mentions (Text.trim "weapon".toList) :=
    ⟨"WEAPONS or ".toList, "s".toList, .inl (by decide +kernel)⟩
  have hsteady : Steady (Text.trim "weapon".toList) :=
    Text.steady_of_not_mem (by decide +kernel)
  exact (catches_mentions_iff (.lists standardFlagged standardTypes _)
    (by decide : "weapon" ∈ standardBanned) (by decide +kernel)).2.mpr hsteady _ hmentions

/-- The sigma of a term is final, and that of a longer word which begins like it is not: the listing
is approved. -/
theorem mention_missed :
    Bans ["ΑΣ"] (ofLists ["ΑΣ"] [] [] 0) ∧ Text.trim "ΑΣ".toList ≠ [] ∧
      (titled "ΑΣΑ".toList).Mentions (Text.trim "ΑΣ".toList) ∧
      ((ofLists ["ΑΣ"] [] [] 0).review (titled "ΑΣΑ".toList)).status = .approved ∧
      ¬ (ofLists ["ΑΣ"] [] [] 0).Catches (titled "ΑΣΑ".toList) "ΑΣ" := by
  have happroved : ((ofLists ["ΑΣ"] [] [] 0).review (titled "ΑΣΑ".toList)).status = .approved := by
    decide +kernel
  refine ⟨.lists _ _ _, by decide +kernel, ⟨[], ['Α'], .inl (by decide +kernel)⟩, happroved, ?_⟩
  intro hcatches
  have hrejected := hcatches.1
  rw [happroved] at hrejected
  cases hrejected

end Policy

end ListingReview
