import ListingReview.Submission.Check

/-! # Submissions: what passes the check

A listing can be sent in as a submission that says all of it (`Listing.submitted`). These are the
submissions that pass the check, but for lists that may be absent instead of empty
(`Submission.check_eq_ok_iff`): so the check neither loses nor changes anything. -/

namespace ListingReview

/-! ### Listings as they are sent in -/

def Image.submitted (image : Image) : ImageSubmission where
  id := some image.id
  url := some image.url
  mimeType := image.mimeType
  fileSize := image.fileSize.map .unsigned

def Variant.submitted (variant : Variant) : VariantSubmission where
  id := variant.id
  label := some variant.label
  priceCents := variant.priceCents
  currency := variant.currency
  sku := variant.sku

def Listing.submitted (listing : Listing) : Submission where
  listingId := some listing.listingId
  sellerId := some listing.sellerId
  reason := some listing.reason
  title := some listing.title
  description := listing.description
  priceCents := listing.priceCents.map .unsigned
  currency := listing.currency
  desiredStatus := listing.desiredStatus
  images := some (listing.images.map Image.submitted)
  variants := some (listing.variants.map Variant.submitted)

namespace Submission

/-- A submission with empty lists in the place of absent ones. -/
def filled (submission : Submission) : Submission :=
  { submission with
    images := some (submission.images.getD [])
    variants := some (submission.variants.getD []) }

/-! ### The parts of the check -/

section Parts

variable {α β : Type} {field : String}

theorem bind_eq_ok_iff {first : Except Violation α} {next : α → Except Violation β} {value : β} :
    first >>= next = .ok value ↔ ∃ inner, first = .ok inner ∧ next inner = .ok value := by
  rcases first with violation | inner
  · constructor
    · intro h
      cases h
    · rintro ⟨_, ⟨⟩, _⟩
  · constructor
    · exact fun h => ⟨inner, rfl, h⟩
    · rintro ⟨_, ⟨⟩, h⟩
      exact h

theorem required_eq_ok_iff {found : Option α} {value : α} :
    required field found = .ok value ↔ found = some value := by
  rcases found with _ | other <;> simp [required]

theorem nonNegative_eq_ok_iff {number : Option Json.Number} {size : Option UInt64} :
    nonNegative field number = .ok size ↔ number = size.map .unsigned := by
  rcases number with _ | (n | n | x) <;> rcases size with _ | size <;> simp [nonNegative]

theorem checkImage_eq_ok_iff {index : Nat} {sent : ImageSubmission} {image : Image} :
    checkImage index sent = .ok image ↔ sent = image.submitted := by
  rw [checkImage]
  simp only [bind_eq_ok_iff, required_eq_ok_iff, nonNegative_eq_ok_iff, pure, Except.pure,
    Except.ok.injEq]
  constructor
  · rintro ⟨id, hid, url, hurl, size, hsize, rfl⟩
    cases sent
    rw [Image.submitted, ImageSubmission.mk.injEq]
    exact ⟨hid, hurl, rfl, hsize⟩
  · rintro rfl
    exact ⟨_, rfl, _, rfl, _, rfl, rfl⟩

theorem checkVariant_eq_ok_iff {index : Nat} {sent : VariantSubmission} {variant : Variant} :
    checkVariant index sent = .ok variant ↔ sent = variant.submitted := by
  rw [checkVariant]
  simp only [bind_eq_ok_iff, required_eq_ok_iff, pure, Except.pure, Except.ok.injEq]
  constructor
  · rintro ⟨label, hlabel, rfl⟩
    cases sent
    rw [Variant.submitted, VariantSubmission.mk.injEq]
    exact ⟨rfl, hlabel, rfl, rfl, rfl⟩
  · rintro rfl
    exact ⟨_, rfl, rfl⟩

/-- A list passes if all of its items do, whatever their indices. -/
theorem checkEach_eq_ok_iff {check : Nat → α → Except Violation β} {sent : β → α}
    (h : ∀ {index item value}, check index item = .ok value ↔ item = sent value) :
    ∀ {items : List α} {index : Nat} {values : List β},
      checkEach check index items = .ok values ↔ items = values.map sent
  | [], index, values => by
    rw [checkEach, Except.ok.injEq, eq_comm, eq_comm (a := []), List.map_eq_nil_iff]
  | item :: items, index, values => by
    rw [checkEach]
    simp only [bind_eq_ok_iff, h, checkEach_eq_ok_iff h, pure, Except.pure, Except.ok.injEq]
    constructor
    · rintro ⟨value, rfl, values, rfl, rfl⟩
      rfl
    · intro hitems
      obtain ⟨value, values, rfl, hvalue, hvalues⟩ := List.map_eq_cons_iff.mp hitems.symm
      exact ⟨value, hvalue.symm, values, hvalues.symm, rfl⟩

end Parts

/-- **What passes the check** is what says all of a listing; absent lists count as empty. -/
theorem check_eq_ok_iff {submission : Submission} {listing : Listing} :
    submission.check = .ok listing ↔ submission.filled = listing.submitted := by
  rw [check]
  simp only [bind_eq_ok_iff, required_eq_ok_iff, nonNegative_eq_ok_iff,
    checkEach_eq_ok_iff checkImage_eq_ok_iff, checkEach_eq_ok_iff checkVariant_eq_ok_iff, pure,
    Except.pure, Except.ok.injEq]
  constructor
  · rintro ⟨listingId, hlisting, sellerId, hseller, reason, hreason, title, htitle, priceCents,
      hprice, images, himages, variants, hvariants, rfl⟩
    rw [filled, Listing.submitted, himages, hvariants, hlisting, hseller, hreason, htitle, hprice]
  · intro h
    rw [filled, Listing.submitted, Submission.mk.injEq, Option.some.injEq, Option.some.injEq] at h
    obtain ⟨hlisting, hseller, hreason, htitle, hdescription, hprice, hcurrency, hstatus, himages,
      hvariants⟩ := h
    refine ⟨_, hlisting, _, hseller, _, hreason, _, htitle, _, hprice, _, himages, _, hvariants, ?_⟩
    rw [hdescription, hcurrency, hstatus]

/-- A listing that is sent in passes the check as it was. -/
theorem check_submitted (listing : Listing) : listing.submitted.check = .ok listing :=
  check_eq_ok_iff.mpr rfl

end Submission

end ListingReview
