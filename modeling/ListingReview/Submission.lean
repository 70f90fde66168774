import ListingReview.Json.Record

/-! # Submissions

A listing as it is sent in. Every member may be absent and numbers are of any kind, so that it can
be said afterwards which member is at fault; some members have a second name. -/

namespace ListingReview

/-- An image as it is sent in. -/
structure ImageSubmission where
  id : Option String
  url : Option String
  mimeType : Option String
  fileSize : Option Json.Number
deriving DecidableEq, Repr

/-- A variant as it is sent in. -/
structure VariantSubmission where
  id : Option String
  label : Option String
  priceCents : Option Int64
  currency : Option String
  sku : Option String
deriving DecidableEq, Repr

/-- A listing as it is sent in. -/
structure Submission where
  listingId : Option String
  sellerId : Option String
  reason : Option String
  title : Option String
  description : Option String
  priceCents : Option Json.Number
  currency : Option String
  desiredStatus : Option String
  images : Option (List ImageSubmission)
  variants : Option (List VariantSubmission)
deriving DecidableEq, Repr

/-! ### In JSON -/

open Json (Member Shape Format)

def ImageSubmission.shape : Shape ImageSubmission where
  name := "ImageSubmission"
  members :=
    [.optional "id" [] .text ImageSubmission.id fun value image => { image with id := value },
     .optional "url" [] .text ImageSubmission.url fun value image => { image with url := value },
     .optional "mimeType" ["mime_type"] .text ImageSubmission.mimeType fun value image =>
       { image with mimeType := value },
     .optional "fileSizeBytes" ["file_size", "fileSize"] .number ImageSubmission.fileSize
       fun value image => { image with fileSize := value }]
  mayStop := true
  blank := ⟨none, none, none, none⟩

def VariantSubmission.shape : Shape VariantSubmission where
  name := "VariantSubmission"
  members :=
    [.optional "id" [] .text VariantSubmission.id fun value variant =>
       { variant with id := value },
     .optional "label" [] .text VariantSubmission.label fun value variant =>
       { variant with label := value },
     .optional "priceCents" ["price_cents"] .signed VariantSubmission.priceCents
       fun value variant => { variant with priceCents := value },
     .optional "currency" [] .text VariantSubmission.currency fun value variant =>
       { variant with currency := value },
     .optional "sku" [] .text VariantSubmission.sku fun value variant =>
       { variant with sku := value }]
  mayStop := true
  blank := ⟨none, none, none, none, none⟩

def Submission.shape : Shape Submission where
  name := "ModerationSubmission"
  members :=
    [.optional "listingId" ["listing_id"] .text Submission.listingId fun value submission =>
       { submission with listingId := value },
     .optional "sellerId" ["seller_id"] .text Submission.sellerId fun value submission =>
       { submission with sellerId := value },
     .optional "reason" [] .text Submission.reason fun value submission =>
       { submission with reason := value },
     .optional "title" [] .text Submission.title fun value submission =>
       { submission with title := value },
     .optional "description" [] .text Submission.description fun value submission =>
       { submission with description := value },
     .optional "priceCents" ["price_cents"] .number Submission.priceCents fun value submission =>
       { submission with priceCents := value },
     .optional "currency" [] .text Submission.currency fun value submission =>
       { submission with currency := value },
     .optional "desiredStatus" ["desired_status"] .text Submission.desiredStatus
       fun value submission => { submission with desiredStatus := value },
     .optional "images" [] (.list ImageSubmission.shape.format) Submission.images
       fun value submission => { submission with images := value },
     .optional "variants" [] (.list VariantSubmission.shape.format) Submission.variants
       fun value submission => { submission with variants := value }]
  mayStop := true
  blank := ⟨none, none, none, none, none, none, none, none, none, none⟩

end ListingReview
