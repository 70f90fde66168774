import ListingReview.Listing
import ListingReview.Proofs.Json.Record

/-! # Listings: how they are written

The layouts of listings, images and variants. Unlike a submission, a listing has no second names,
must have the members that it needs, and in a list leaves none of its values out. -/

namespace ListingReview

open Json
open Text (Octets octets)

def Image.layout : Layout Image where
  shape := shape
  fields :=
    [.required "id" .text IsText Image.id fun value image => { image with id := value },
     .required "url" .text IsText Image.url fun value image => { image with url := value },
     .optional "mimeType" [] .text IsText Image.mimeType fun value image =>
       { image with mimeType := value },
     .optional "fileSizeBytes" [] .unsigned IsUnsigned Image.fileSize fun value image =>
       { image with fileSize := value }]
  members_eq := rfl
  reads := by
    have htext := optional_reads text_reads fun _ => IsText.ne_null
    have hsize := optional_reads unsigned_reads fun _ => IsUnsigned.ne_null
    simp only [List.forall_mem_cons]
    exact ⟨text_reads, text_reads, htext, hsize, List.forall_mem_nil _⟩
  apart := by
    simp [Field.apart_iff, Field.names, Field.required, Field.optional]
  get_put := by
    simp [Field.required, Field.optional]
  ext record record' h := by
    simp only [List.forall_mem_cons, Field.required, Field.optional] at h
    obtain ⟨hid, hurl, hmime, hsize, -⟩ := h
    cases record
    cases record'
    rw [Image.mk.injEq]
    exact ⟨hid, hurl, hmime, hsize⟩

def Variant.layout : Layout Variant where
  shape := shape
  fields :=
    [.optional "id" [] .text IsText Variant.id fun value variant => { variant with id := value },
     .required "label" .text IsText Variant.label fun value variant =>
       { variant with label := value },
     .optional "priceCents" [] .signed IsSigned Variant.priceCents fun value variant =>
       { variant with priceCents := value },
     .optional "currency" [] .text IsText Variant.currency fun value variant =>
       { variant with currency := value },
     .optional "sku" [] .text IsText Variant.sku fun value variant =>
       { variant with sku := value }]
  members_eq := rfl
  reads := by
    have htext := optional_reads text_reads fun _ => IsText.ne_null
    have hprice := optional_reads signed_reads fun _ => IsSigned.ne_null
    simp only [List.forall_mem_cons]
    exact ⟨htext, text_reads, hprice, htext, htext, List.forall_mem_nil _⟩
  apart := by
    simp [Field.apart_iff, Field.names, Field.required, Field.optional]
  get_put := by
    simp [Field.required, Field.optional]
  ext record record' h := by
    simp only [List.forall_mem_cons, Field.required, Field.optional] at h
    obtain ⟨hid, hlabel, hprice, hcurrency, hsku, -⟩ := h
    cases record
    cases record'
    rw [Variant.mk.injEq]
    exact ⟨hid, hlabel, hprice, hcurrency, hsku⟩

def Listing.layout : Layout Listing where
  shape := shape
  fields :=
    [.required "listingId" .text IsText Listing.listingId fun value listing =>
       { listing with listingId := value },
     .required "sellerId" .text IsText Listing.sellerId fun value listing =>
       { listing with sellerId := value },
     .required "reason" .text IsText Listing.reason fun value listing =>
       { listing with reason := value },
     .required "title" .text IsText Listing.title fun value listing =>
       { listing with title := value },
     .optional "description" [] .text IsText Listing.description fun value listing =>
       { listing with description := value },
     .optional "priceCents" [] .unsigned IsUnsigned Listing.priceCents fun value listing =>
       { listing with priceCents := value },
     .optional "currency" [] .text IsText Listing.currency fun value listing =>
       { listing with currency := value },
     .optional "desiredStatus" [] .text IsText Listing.desiredStatus fun value listing =>
       { listing with desiredStatus := value },
     .required "images" (.list Image.shape.format) (ListOf Image.layout.Written) Listing.images
       fun value listing => { listing with images := value },
     .required "variants" (.list Variant.shape.format) (ListOf Variant.layout.Written)
       Listing.variants fun value listing => { listing with variants := value }]
  members_eq := rfl
  reads := by
    have htext := optional_reads text_reads fun _ => IsText.ne_null
    have hprice := optional_reads unsigned_reads fun _ => IsUnsigned.ne_null
    simp only [List.forall_mem_cons]
    exact ⟨text_reads, text_reads, text_reads, text_reads, htext, hprice, htext, htext,
      list_reads Image.layout.shape_reads, list_reads Variant.layout.shape_reads,
      List.forall_mem_nil _⟩
  apart := by
    simp [Field.apart_iff, Field.names, Field.required, Field.optional]
  get_put := by
    simp [Field.required, Field.optional]
  ext record record' h := by
    simp only [List.forall_mem_cons, Field.required, Field.optional] at h
    obtain ⟨hlisting, hseller, hreason, htitle, hdescription, hprice, hcurrency, hstatus, himages,
      hvariants, -⟩ := h
    cases record
    cases record'
    rw [Listing.mk.injEq]
    exact ⟨hlisting, hseller, hreason, htitle, hdescription, hprice, hcurrency, hstatus, himages,
      hvariants⟩

end ListingReview
