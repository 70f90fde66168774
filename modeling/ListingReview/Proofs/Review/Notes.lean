import ListingReview.Proofs.Review.Explanation
import ListingReview.Proofs.Policy.NormalForm

/-! # Review: what the notes tell

The notes begin as the ground does (`Ground.heading`), and behind that they name the terms that were
found in the text (`Policy.found`). Terms of a policy made of settings have no commas, so they can
be read off the notes again (`enumerates_notes`): equal notes mean that the same terms were found
(`review_notes`). -/

namespace ListingReview

namespace Ground

/-- How the notes begin. -/
def heading : Ground → String
  | bannedText => "Blocked terms detected: "
  | flaggedText => "Sensitive terms present: "
  | flaggedImage => "Image metadata triggered manual review."
  | nothing => "No policy violations detected."

/-- A heading is known by its first letter. -/
theorem heading_facts (ground other : Ground) :
    ground.heading.toList ≠ [] ∧
      (other.heading.toList.head? = ground.heading.toList.head? → other = ground) := by
  cases ground <;> cases other <;> decide

theorem eq_of_heading {ground other : Ground} {rest otherRest : List Char}
    (h : other.heading.toList ++ otherRest = ground.heading.toList ++ rest) : other = ground := by
  obtain ⟨hne, hfirst⟩ := heading_facts ground other
  obtain ⟨hne', -⟩ := heading_facts other ground
  refine hfirst ?_
  have hhead := congrArg List.head? h
  rwa [List.head?_append_of_ne_nil _ hne', List.head?_append_of_ne_nil _ hne] at hhead

theorem bannedText_of_mem {ground : Ground} (h : .bannedKeyword ∈ ground.textLabels) :
    ground = .bannedText := by
  revert h
  cases ground <;> decide

theorem flaggedText_of_mem {ground : Ground} (h : .textRequiresReview ∈ ground.textLabels) :
    ground = .flaggedText := by
  revert h
  cases ground <;> decide

end Ground

/-- Behind the heading the notes give the terms: they are the pieces that remain when every comma
with a blank behind it is cut out. -/
def Enumerates (heading notes : String) (terms : List String) : Prop :=
  ∃ rest, notes.toList = heading.toList ++ rest ∧
    Text.pieces ", ".toList rest = terms.map String.toList

theorem Enumerates.unique {heading notes : String} {terms others : List String}
    (h : Enumerates heading notes terms) (hothers : Enumerates heading notes others) :
    others = terms := by
  obtain ⟨rest, hnotes, hpieces⟩ := h
  obtain ⟨otherRest, hotherNotes, hotherPieces⟩ := hothers
  obtain rfl : otherRest = rest := List.append_cancel_left (hotherNotes.symm.trans hnotes)
  have hinj : Function.Injective String.toList := fun _ _ => String.toList_injective
  exact List.map_injective_iff.mpr hinj (hotherPieces.symm.trans hpieces)

namespace Policy

variable (policy : Policy) (listing : Listing)

/-- The terms that are found in a listing: banned ones, and flagged ones where there are none of
those. -/
def found : List String :=
  if policy.bannedIn listing ≠ [] then policy.bannedIn listing else policy.flaggedIn listing

theorem notes_eq :
    policy.notes listing =
      (policy.ground listing).heading ++ ", ".intercalate (policy.found listing) := by
  unfold notes found ground
  split_ifs <;> simp_all [Ground.heading]

theorem found_eq_nil_iff :
    policy.found listing = [] ↔ (policy.ground listing).textLabels = [] := by
  unfold found ground
  split_ifs <;> simp_all [Ground.textLabels]

theorem bannedIn_eq_found :
    policy.bannedIn listing =
      if policy.ground listing = .bannedText then policy.found listing else [] := by
  unfold found ground
  split_ifs <;> simp_all

theorem flaggedIn_eq_found (h : policy.bannedIn listing = []) :
    policy.flaggedIn listing = policy.found listing := by
  rw [found, if_neg (not_not_intro h)]

section

variable (hcomma : ∀ (list : TermList), ∀ term ∈ list.of policy, ',' ∉ term.toList)
include hcomma

theorem comma_notMem_found : ∀ term ∈ policy.found listing, ',' ∉ term.toList := by
  intro term hterm
  unfold found at hterm
  split_ifs at hterm
  · exact hcomma .banned term (List.mem_of_mem_filter hterm)
  · exact hcomma .flagged term (List.mem_of_mem_filter hterm)

/-- **The terms can be read off the notes** if they have no commas. -/
theorem enumerates_notes (h : policy.found listing ≠ []) :
    Enumerates (policy.ground listing).heading (policy.notes listing) (policy.found listing) := by
  refine ⟨(", ".intercalate (policy.found listing)).toList, ?_, ?_⟩
  · rw [notes_eq, String.toList_append]
  · rw [String.toList_intercalate]
    refine Text.pieces_intercalate (by simpa using h) ?_
    exact List.forall_mem_map.mpr (policy.comma_notMem_found listing hcomma)

theorem found_eq_of_notes {other : Listing} (h : policy.notes other = policy.notes listing) :
    policy.ground other = policy.ground listing ∧ policy.found other = policy.found listing := by
  have hground : policy.ground other = policy.ground listing := by
    have htext := congrArg String.toList h
    rw [notes_eq, notes_eq, String.toList_append, String.toList_append] at htext
    exact Ground.eq_of_heading htext
  refine ⟨hground, ?_⟩
  by_cases hnil : policy.found listing = []
  · -- the ground says whether there are terms
    have hother : policy.found other = [] := by
      rw [found_eq_nil_iff, hground, ← found_eq_nil_iff, hnil]
    rw [hother, hnil]
  · have hother : policy.found other ≠ [] := by
      rwa [Ne, found_eq_nil_iff, hground, ← found_eq_nil_iff]
    have hnames := policy.enumerates_notes other hcomma hother
    rw [hground, h] at hnames
    exact (policy.enumerates_notes listing hcomma hnil).unique hnames

end

/-- **The notes tell which terms were found**, under a policy made of settings. If the labels say
that banned terms were found, these stand behind the heading in the order of the policy, each as
often as it is there, and so do flagged terms if the labels call for a review of the text. Two
decisions have equal notes only if the same banned terms were found, and, where there were none, the
same flagged ones. -/
theorem review_notes (settings : Settings) (listing : Listing) :
    (.bannedKeyword ∈ ((ofSettings settings).review listing).labels →
        (ofSettings settings).bannedIn listing ≠ [] ∧
          Enumerates "Blocked terms detected: " ((ofSettings settings).review listing).notes
            ((ofSettings settings).bannedIn listing)) ∧
      (.textRequiresReview ∈ ((ofSettings settings).review listing).labels →
        (ofSettings settings).flaggedIn listing ≠ [] ∧
          Enumerates "Sensitive terms present: " ((ofSettings settings).review listing).notes
            ((ofSettings settings).flaggedIn listing)) ∧
      ∀ other, ((ofSettings settings).review other).notes =
          ((ofSettings settings).review listing).notes →
        (ofSettings settings).bannedIn other = (ofSettings settings).bannedIn listing ∧
          ((ofSettings settings).bannedIn listing = [] →
            (ofSettings settings).flaggedIn other = (ofSettings settings).flaggedIn listing) := by
  set policy := ofSettings settings
  have hcomma : ∀ (list : TermList), ∀ term ∈ list.of policy, ',' ∉ term.toList :=
    fun list => comma_notMem_ofSettings list settings
  have hnotes (listing : Listing) : (policy.review listing).notes = policy.notes listing :=
    (policy.review_verdict listing).2.2.1
  have hlabels : (policy.review listing).labels = policy.labels listing :=
    (policy.review_verdict listing).2.2.2
  have hnames {label : Label} (hmem : label ∈ (policy.ground listing).textLabels) :
      policy.found listing ≠ [] ∧
        Enumerates (policy.ground listing).heading (policy.notes listing)
          (policy.found listing) := by
    have hne := mt (policy.found_eq_nil_iff listing).mp (List.ne_nil_of_mem hmem)
    exact ⟨hne, policy.enumerates_notes listing hcomma hne⟩
  rw [hlabels, hnotes]
  refine ⟨fun hmem => ?_, fun hmem => ?_, fun other hsame => ?_⟩
  · rw [policy.mem_labels_iff listing (.inl rfl)] at hmem
    have hground := Ground.bannedText_of_mem hmem
    obtain ⟨hne, hgiven⟩ := hnames hmem
    rw [hground] at hgiven
    rw [bannedIn_eq_found, if_pos hground]
    exact ⟨hne, hgiven⟩
  · rw [policy.mem_labels_iff listing (.inr rfl)] at hmem
    have hground := Ground.flaggedText_of_mem hmem
    obtain ⟨hne, hgiven⟩ := hnames hmem
    rw [hground] at hgiven
    have hnone : policy.bannedIn listing = [] := by
      rw [bannedIn_eq_found, hground, if_neg (by decide)]
    rw [policy.flaggedIn_eq_found listing hnone]
    exact ⟨hne, hgiven⟩
  · rw [hnotes] at hsame
    obtain ⟨hground, hfound⟩ := policy.found_eq_of_notes listing hcomma hsame
    have hbanned : policy.bannedIn other = policy.bannedIn listing := by
      rw [bannedIn_eq_found, bannedIn_eq_found, hground, hfound]
    refine ⟨hbanned, fun hnone => ?_⟩
    rw [flaggedIn_eq_found policy other (hbanned.trans hnone), hfound,
      flaggedIn_eq_found policy listing hnone]

/-- Under a policy made of settings, a carving with three banned terms, one of them listed twice and
one with blanks in it, and two tickets with the same notes. -/
theorem review_notes_for_tickets :
    let settings : Settings := fun name =>
      if name = bannedKey then some "Knife, ivory  tusk ,knife" else none
    let policy : Policy := ofSettings settings
    let carving : Listing :=
      ⟨"listing-1", "seller-1", "listing_created", "Ivory  Tusk", some "with a KNIFE", none, none,
        none, [], []⟩
    let ticket : Listing :=
      ⟨"listing-2", "seller-1", "listing_created", "Lottery ticket", some "Adult", none, none,
        none, [], []⟩
    let tickets : Listing :=
      ⟨"listing-3", "seller-2", "listing_created", "Adult", some "lottery tickets", none, none,
        none, [⟨"front", "front.png", none, none⟩], []⟩
    .bannedKeyword ∈ (policy.review carving).labels ∧
      Enumerates "Blocked terms detected: " (policy.review carving).notes
        ["knife", "ivory  tusk", "knife"] ∧
      .textRequiresReview ∈ (policy.review ticket).labels ∧
      Enumerates "Sensitive terms present: " (policy.review ticket).notes ["adult", "lottery"] ∧
      (policy.review tickets).notes = (policy.review ticket).notes ∧
      policy.flaggedIn tickets = policy.flaggedIn ticket := by
  intro settings policy carving ticket tickets
  have hcarving : .bannedKeyword ∈ (policy.review carving).labels ∧
      policy.bannedIn carving = ["knife", "ivory  tusk", "knife"] := by decide +kernel
  have hticket : .textRequiresReview ∈ (policy.review ticket).labels ∧
      policy.bannedIn ticket = [] ∧ policy.flaggedIn ticket = ["adult", "lottery"] ∧
      (policy.review tickets).notes = (policy.review ticket).notes := by decide +kernel
  obtain ⟨hbanned, hterms⟩ := hcarving
  obtain ⟨hreview, hnone, hflagged, hsame⟩ := hticket
  obtain ⟨-, henumerated⟩ := (review_notes settings carving).1 hbanned
  obtain ⟨-, henumerates, hnotes⟩ := review_notes settings ticket
  refine ⟨hbanned, ?_, hreview, ?_, hsame, (hnotes tickets hsame).2 hnone⟩
  · rw [← hterms]
    exact henumerated
  · rw [← hflagged]
    exact (henumerates hreview).2

end Policy

end ListingReview
