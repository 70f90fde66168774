import ListingReview.Json.Record
import ListingReview.Text.Lowercase

/-! # Listings

A listing as it is reviewed. Only its texts and what is said about its images matter for the review;
prices, variants and the rest are carried along. -/

namespace ListingReview

/-- What is said about an image. -/
structure Image where
  id : String
  url : String
  mimeType : Option String
  /-- The size in octets. -/
  fileSize : Option UInt64
deriving DecidableEq, Repr

/-- A form in which the listed thing is sold. -/
structure Variant where
  id : Option String
  label : String
  priceCents : Option Int64
  currency : Option String
  sku : Option String
deriving DecidableEq, Repr

/-- A thing offered for sale, with all that its seller says about it. -/
structure Listing where
  listingId : String
  sellerId : String
  reason : String
  title : String
  description : Option String
  priceCents : Option UInt64
  currency : Option String
  desiredStatus : Option String
  images : List Image
  variants : List Variant
deriving DecidableEq, Repr

/-- The text of a listing that is searched: title and description in lower case with a blank
between them. -/
def Listing.text (listing : Listing) : List Char :=
  Text.lower (listing.title.toList ++ ' ' :: (listing.description.getD "").toList)

/-! ### In JSON -/

open Json (Member Shape Format)

def Image.shape : Shape Image where
  name := "ListingImage"
  members :=
    [.required "id" .text Image.id fun value image => { image with id := value },
     .required "url" .text Image.url fun value image => { image with url := value },
     .optional "mimeType" [] .text Image.mimeType fun value image =>
       { image with mimeType := value },
     .optional "fileSizeBytes" [] .unsigned Image.fileSize fun value image =>
       { image with fileSize := value }]
  mayStop := false
  blank := ⟨"", "", none, none⟩

def Variant.shape : Shape Variant where
  name := "ListingVariant"
  members :=
    [.optional "id" [] .text Variant.id fun value variant => { variant with id := value },
     .required "label" .text Variant.label fun value variant => { variant with label := value },
     .optional "priceCents" [] .signed Variant.priceCents fun value variant =>
       { variant with priceCents := value },
     .optional "currency" [] .text Variant.currency fun value variant =>
       { variant with currency := value },
     .optional "sku" [] .text Variant.sku fun value variant => { variant with sku := value }]
  mayStop := false
  blank := ⟨none, "", none, none, none⟩

def Listing.shape : Shape Listing where
  name := "ModerationRequest"
  members :=
    [.required "listingId" .text Listing.listingId fun value listing =>
       { listing with listingId := value },
     .required "sellerId" .text Listing.sellerId fun value listing =>
       { listing with sellerId := value },
     .required "reason" .text Listing.reason fun value listing => { listing with reason := value },
     .required "title" .text Listing.title fun value listing => { listing with title := value },
     .optional "description" [] .text Listing.description fun value listing =>
       { listing with description := value },
     .optional "priceCents" [] .unsigned Listing.priceCents fun value listing =>
       { listing with priceCents := value },
     .optional "currency" [] .text Listing.currency fun value listing =>
       { listing with currency := value },
     .optional "desiredStatus" [] .text Listing.desiredStatus fun value listing =>
       { listing with desiredStatus := value },
     .required "images" (.list Image.shape.format) Listing.images fun value listing =>
       { listing with images := value },
     .required "variants" (.list Variant.shape.format) Listing.variants fun value listing =>
       { listing with variants := value }]
  mayStop := false
  blank := ⟨"", "", "", "", none, none, none, none, [], []⟩

end ListingReview
