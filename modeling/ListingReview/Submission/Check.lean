import ListingReview.Listing
import ListingReview.Submission

/-! # Submissions: the check

A submission becomes a listing if it has the members that a listing needs, and prices and sizes are
whole numbers not below zero. Otherwise the first violation in the order of the members is reported
with the name of its member, that of an image or a variant with its index. -/

namespace ListingReview

/-- What keeps a submission from being a listing. -/
inductive Violation where
  | missing (field : String)
  | negative (field : String) (found : Int64)
  | notWhole (field : String) (found : String)
deriving DecidableEq, Repr

/-- The member at fault. -/
def Violation.field : Violation → String
  | missing field => field
  | negative field _ => field
  | notWhole field _ => field

/-- The words of a violation. -/
def Violation.message : Violation → String
  | missing field => "missing required field '" ++ field ++ "'"
  | negative field found =>
    "'" ++ field ++ "' must be non-negative (found "
      ++ String.ofList (Text.signedDecimal found.toInt) ++ ")"
  | notWhole field found => "'" ++ field ++ "' must be an integer (found " ++ found ++ ")"

namespace Submission

/-- The value of a member that must be there. -/
def required {α : Type} (field : String) : Option α → Except Violation α
  | some value => .ok value
  | none => .error (.missing field)

/-- The value of a member that is absent or a whole number not below zero. -/
def nonNegative (field : String) : Option Json.Number → Except Violation (Option UInt64)
  | none => .ok none
  | some (.unsigned n) => .ok (some n)
  | some (.negative n) => .error (.negative field n)
  | some (.float x) => .error (.notWhole field (String.ofList (Json.writeFloat x)))

/-- The name of a member of an item in a list. -/
def itemField (list : String) (index : Nat) (field : String) : String :=
  list ++ "[" ++ String.ofList (Text.decimal index) ++ "]." ++ field

/-- The image at an index of the list of images. -/
def checkImage (index : Nat) (image : ImageSubmission) : Except Violation Image := do
  let id ← required (itemField "images" index "id") image.id
  let url ← required (itemField "images" index "url") image.url
  let fileSize ← nonNegative (itemField "images" index "fileSizeBytes") image.fileSize
  return ⟨id, url, image.mimeType, fileSize⟩

/-- The variant at an index of the list of variants. -/
def checkVariant (index : Nat) (variant : VariantSubmission) : Except Violation Variant := do
  let label ← required (itemField "variants" index "label") variant.label
  return ⟨variant.id, label, variant.priceCents, variant.currency, variant.sku⟩

/-- Checks the items of a list in order; the first one has the index given. -/
def checkEach {α β : Type} (check : Nat → α → Except Violation β) (index : Nat) :
    List α → Except Violation (List β)
  | [] => .ok []
  | item :: items => do
    let value ← check index item
    let values ← checkEach check (index + 1) items
    return value :: values

/-- The listing that a submission describes. -/
def check (submission : Submission) : Except Violation Listing := do
  let listingId ← required "listingId" submission.listingId
  let sellerId ← required "sellerId" submission.sellerId
  let reason ← required "reason" submission.reason
  let title ← required "title" submission.title
  let priceCents ← nonNegative "priceCents" submission.priceCents
  let images ← checkEach checkImage 0 (submission.images.getD [])
  let variants ← checkEach checkVariant 0 (submission.variants.getD [])
  return {
    listingId, sellerId, reason, title, priceCents, images, variants,
    description := submission.description
    currency := submission.currency
    desiredStatus := submission.desiredStatus }

end Submission

end ListingReview
