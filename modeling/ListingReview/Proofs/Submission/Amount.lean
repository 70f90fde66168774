import ListingReview.Proofs.Json.Gap
import ListingReview.Proofs.Json.Numeral
import ListingReview.Proofs.Submission.Repeated
import ListingReview.Proofs.Submission.Violations

/-! # Submissions: numbers in their texts

The numbers of a submission are its price, the sizes of its images and the prices of its variants.
The first two are amounts (`Amount`): any number may be sent for one, and the check decides what
becomes of it. The price of a variant is asked for as a whole number with a sign.

* `Amount.check_change`: with another number for an amount, a submission that passes the check
  passes it again or is at fault there, just as the number would be by itself.
* `Amount.guard_numeral`: so the number that a numeral is held as decides about a text with that
  numeral for an amount.
* `Submission.guard_signed`, `Submission.guard_notSigned`: a numeral for the price of a variant is
  taken as what it stands for, or the text is refused. -/

namespace ListingReview

open Json
open Text (Octets octets)

/-! ### Fields -/

namespace Submission

def priceField : Json.Field Submission :=
  .optional "priceCents" ["price_cents"] .number IsNumber Submission.priceCents
    fun value submission => { submission with priceCents := value }

def sizeField : Json.Field ImageSubmission :=
  .optional "fileSizeBytes" ["file_size", "fileSize"] .number IsNumber ImageSubmission.fileSize
    fun value image => { image with fileSize := value }

def variantPriceField : Json.Field VariantSubmission :=
  .optional "priceCents" ["price_cents"] .signed IsSigned VariantSubmission.priceCents
    fun value variant => { variant with priceCents := value }

theorem priceField_mem : priceField ∈ layout.fields :=
  List.getElem_mem (show 5 < layout.fields.length by decide)

theorem sizeField_mem : sizeField ∈ ImageSubmission.layout.fields :=
  List.getElem_mem (show 3 < ImageSubmission.layout.fields.length by decide)

theorem variantPriceField_mem : variantPriceField ∈ VariantSubmission.layout.fields :=
  List.getElem_mem (show 2 < VariantSubmission.layout.fields.length by decide)

end Submission

/-! ### Amounts -/

/-- A number that must not be below zero, that of an image by the index of the image. -/
inductive Amount where
  | price
  | size (index : Nat)
deriving DecidableEq, Repr

namespace Amount

/-- The place at which the check reports it. -/
def place : Amount → Submission.Place
  | price => .priceCents
  | size index => .imageSize index

/-- What was sent for an amount, if there is an image for it. -/
def sent : Amount → Submission → Option (Option Number)
  | price, submission => some submission.priceCents
  | size index, submission =>
    (submission.images.bind (·[index]?)).bind fun image => some image.fileSize

/-- A submission with another number for an amount. -/
def change (f : Option Number → Option Number) : Amount → Submission → Submission
  | price, submission => { submission with priceCents := f submission.priceCents }
  | size index, submission =>
    { submission with
      images := submission.images.map (·.modify index fun image =>
        { image with fileSize := f image.fileSize }) }

/-- An amount of a listing. -/
def held : Amount → Listing → Option UInt64
  | price, listing => listing.priceCents
  | size index, listing => listing.images[index]?.bind (·.fileSize)

/-- A listing with another number for an amount. -/
def put (found : Option UInt64) : Amount → Listing → Listing
  | price, listing => { listing with priceCents := found }
  | size index, listing =>
    { listing with images := listing.images.modify index fun image =>
        { image with fileSize := found } }

end Amount

/-- What was sent as the price of a variant, if there is one with the index. -/
def Submission.variantPrice (index : Nat) (submission : Submission) : Option (Option Int64) :=
  (submission.variants.bind (·[index]?)).bind fun variant => some variant.priceCents

/-- A submission with another price for a variant. -/
def Submission.changeVariantPrice (index : Nat) (f : Option Int64 → Option Int64)
    (submission : Submission) : Submission :=
  { submission with
    variants := submission.variants.map (·.modify index fun variant =>
      { variant with priceCents := f variant.priceCents }) }

/-- The price of a variant of a listing. -/
def Listing.variantPrice (index : Nat) (listing : Listing) : Option Int64 :=
  listing.variants[index]?.bind (·.priceCents)

/-- A listing with another price for a variant. -/
def Listing.putVariantPrice (index : Nat) (found : Option Int64) (listing : Listing) : Listing :=
  { listing with variants := listing.variants.modify index fun variant =>
      { variant with priceCents := found } }

/-! ### The check after a change -/

section Lists

variable {α β : Type}

/-- Items that are sent in one by one are changed one by one. -/
theorem modify_map {sent : α → β} {f : β → β} {g : α → α}
    (h : ∀ item, f (sent item) = sent (g item)) (items : List α) (index : Nat) :
    (items.map sent).modify index f = (items.modify index g).map sent := by
  induction items generalizing index with
  | nil => simp
  | cons item items ih =>
    cases index with
    | zero => simp [h]
    | succ index => simp [ih]

/-- Lists that are absent stay so. -/
theorem getD_modify (found : Option (List α)) (index : Nat) (f : α → α) :
    (found.map (·.modify index f)).getD [] = (found.getD []).modify index f := by
  cases found with
  | none => simp
  | some items => rfl

/-- What a change leaves alone is found at every index. -/
theorem bind_modify {f : α → α} {g : α → Option β} (h : ∀ item, g (f item) = g item)
    (items : List α) (index other : Nat) :
    (items.modify index f)[other]?.bind g = items[other]?.bind g := by
  rw [List.getElem?_modify]
  cases items[other]? with
  | none => rfl
  | some item =>
    rw [Option.map_eq_map, Option.map_some, Option.bind_some, Option.bind_some]
    split_ifs
    · exact h item
    · rfl

/-- An item that was sent in is in the list. -/
theorem exists_item_of_sent {γ : Type} {found : Option (List β)} {items : List α} {sent : α → β}
    (h : found.getD [] = items.map sent) {index : Nat} {g : β → Option γ}
    (hsent : (found.bind (·[index]?)).bind g ≠ none) : ∃ item, items[index]? = some item := by
  cases found with
  | none => exact absurd rfl hsent
  | some values =>
    obtain rfl : values = items.map sent := h
    rw [Option.bind_some, List.getElem?_map] at hsent
    refine Option.ne_none_iff_exists'.mp fun hnone => hsent ?_
    rw [hnone]
    rfl

end Lists

/-- The lists of a submission that passes the check are those of the listing. -/
theorem Submission.lists_of_filled {submission : Submission} {listing : Listing}
    (h : submission.filled = listing.submitted) :
    submission.images.getD [] = listing.images.map Image.submitted ∧
      submission.variants.getD [] = listing.variants.map Variant.submitted :=
  ⟨Option.some.inj (congrArg Submission.images h), Option.some.inj (congrArg Submission.variants h)⟩

namespace Amount

open Submission (lists_of_filled nonNegative failure?_eq_some_iff failure?_eq_none_iff
  failure?_check failure?_nonNegative check_eq_ok_iff misfit?)

variable {amount : Amount} {submission : Submission} {listing : Listing}

/-- A number that is an amount is put into the listing. -/
theorem filled_change (h : submission.filled = listing.submitted) (found : Option UInt64) :
    (amount.change (fun _ => found.map .unsigned) submission).filled =
      (amount.put found listing).submitted := by
  cases amount with
  | price =>
    exact congrArg (fun filled => { filled with priceCents := found.map .unsigned }) h
  | size index =>
    have hmodified : (listing.images.map Image.submitted).modify index
        (fun image => { image with fileSize := found.map .unsigned }) =
          (listing.images.modify index fun image => { image with fileSize := found }).map
            Image.submitted := by
      apply modify_map
      exact fun _ => rfl
    rw [← (lists_of_filled h).1, ← getD_modify] at hmodified
    rw [Submission.filled, change, hmodified]
    exact congrArg (fun filled => { filled with
      images := some ((listing.images.modify index fun image =>
        { image with fileSize := found }).map Image.submitted) }) h

theorem held_put (h : submission.filled = listing.submitted)
    (hsent : amount.sent submission ≠ none) (found : Option UInt64) :
    amount.held (amount.put found listing) = found := by
  cases amount with
  | price => rfl
  | size index =>
    obtain ⟨image, himage⟩ := exists_item_of_sent (lists_of_filled h).1 hsent
    simp [held, put, himage]

section Violation

variable {f : Option Number → Option Number}

theorem places_change : (amount.change f submission).places = submission.places := by
  cases amount with
  | price => rfl
  | size index => simp [Submission.places, change, getD_modify]

theorem violationAt_change_ne {place : Submission.Place} (hne : place ≠ amount.place) :
    (amount.change f submission).violationAt place = submission.violationAt place := by
  cases amount with
  | price =>
    cases place with
    | priceCents => exact absurd rfl hne
    | _ => rfl
  | size index =>
    cases place with
    | imageId other | imageUrl other =>
      simp only [Submission.violationAt, change, getD_modify]
      apply bind_modify
      exact fun _ => rfl
    | imageSize other =>
      have hother : index ≠ other := fun heq => hne (heq ▸ rfl)
      simp only [Submission.violationAt, change, getD_modify, List.getElem?_modify_ne _ _ hother]
    | _ => rfl

theorem violationAt_place (amount : Amount) (submission : Submission) :
    submission.violationAt amount.place =
      (amount.sent submission).bind (misfit? amount.place.field) := by
  cases amount with
  | price => rfl
  | size index =>
    simp only [Submission.violationAt, place, sent]
    cases submission.images with
    | none => rfl
    | some images =>
      rw [Option.getD_some, Option.bind_some]
      cases images[index]? <;> rfl

theorem sent_change (amount : Amount) (submission : Submission) :
    amount.sent (amount.change f submission) = (amount.sent submission).map f := by
  cases amount with
  | price => rfl
  | size index =>
    simp only [sent, change]
    cases submission.images with
    | none => rfl
    | some images =>
      simp only [Option.map_some, Option.bind_some, List.getElem?_modify_eq, Option.map_eq_map]
      cases images[index]? <;> rfl

theorem mem_places (hsent : amount.sent submission ≠ none) :
    amount.place ∈ submission.places := by
  cases amount with
  | price => simp [place, Submission.places]
  | size index =>
    obtain ⟨image, himage⟩ :=
      exists_item_of_sent (List.map_id (submission.images.getD [])).symm hsent
    have hlt : index < (submission.images.getD []).length := (List.getElem?_eq_some_iff.mp himage).1
    simp [place, Submission.places, Submission.Place.ofImage, hlt]

end Violation

/-- **Another number for an amount** does to the check what it would do by itself. -/
theorem check_change (h : submission.check = .ok listing) (hsent : amount.sent submission ≠ none)
    (number : Number) : (amount.change (fun _ => some number) submission).check =
      (nonNegative amount.place.field (some number)).map (amount.put · listing) := by
  obtain ⟨part, hpart⟩ := Option.ne_none_iff_exists'.mp hsent
  cases hresult : nonNegative amount.place.field (some number) with
  | ok found =>
    have hfound : some number = found.map .unsigned := Submission.nonNegative_eq_ok_iff.mp hresult
    rw [hfound, Except.map, check_eq_ok_iff]
    exact filled_change (check_eq_ok_iff.mp h) found
  | error violation =>
    have hnone : ∀ place ∈ submission.places, submission.violationAt place = none := by
      rw [← List.findSome?_eq_none_iff, ← failure?_check, failure?_eq_none_iff]
      exact ⟨listing, h⟩
    have hviolation : (amount.change (fun _ => some number) submission).violationAt amount.place =
        some violation := by
      rw [violationAt_place, sent_change, hpart, Option.map_some, Option.bind_some,
        ← failure?_nonNegative, failure?_eq_some_iff, hresult]
    obtain ⟨before, after, hplaces, hnot⟩ := List.eq_append_cons_of_mem (mem_places hsent)
    rw [Except.map, ← failure?_eq_some_iff, failure?_check, places_change,
      List.findSome?_eq_some_iff]
    refine ⟨before, amount.place, after, hplaces, hviolation, fun earlier hearlier => ?_⟩
    -- the other places are left alone
    have hne : earlier ≠ amount.place := by
      rintro rfl
      exact hnot hearlier
    rw [violationAt_change_ne hne]
    exact hnone earlier (hplaces ▸ List.mem_append_left _ hearlier)

/-! ### Texts -/

/-- What stands around the number for an amount in a submission. -/
inductive Around : Amount → Octets → Octets → Prop where
  | price {front behind : Octets}
    (h : Submission.layout.Around Submission.priceField front behind) : Around .price front behind
  | size {index : Nat} {front behind : Octets}
    (h : Submission.layout.AroundWithin ImageSubmission.layout Submission.imagesField index
      Submission.sizeField front behind) :
    Around (.size index) front behind

theorem Around.gap {front behind : Octets} (h : amount.Around front behind) :
    Gap Submission.layout.Written (OrNull IsNumber) amount.sent (amount.change ·) front behind := by
  cases h with
  | price h => exact h.gap Submission.priceField_mem
  | size h => exact h.gap Submission.imagesField_mem Submission.sizeField_mem

theorem Around.enters {front behind : Octets} (h : amount.Around front behind) :
    Enters Submission.layout.shape.reader.read Reader.number.optional.read front := by
  cases h with
  | price h => exact (h.enters Submission.priceField_mem).of_map
  | size h => exact h.enters Submission.imagesField_mem Submission.sizeField_mem

end Amount

/-! ### Texts that are otherwise valid -/

namespace Submission

/-- What becomes of a text: it is refused, or the check gives a listing or a violation. -/
def guard (decode : Octets → Except Fault Submission) (bytes : Octets) :
    Except Fault (Except Violation Listing) :=
  (decode bytes).map check

theorem guard_eq_ok_iff {decode : Octets → Except Fault Submission} {bytes : Octets}
    {result : Except Violation Listing} : guard decode bytes = .ok result ↔
      ∃ submission, decode bytes = .ok submission ∧ submission.check = result := by
  rw [guard]
  cases decode bytes <;> simp [Except.map]

/-- A text with a gap that comes to a listing if something fitting is put into the gap. -/
structure OtherwiseValid (around : Octets → Octets → Prop)
    (decode : Octets → Except Fault Submission) (frame : Octets → Octets) (listing : Listing) :
    Prop where
  decodes : layout.shape.reader.Decodes decode
  framed : Frame around frame
  valid : ∃ filler, WellFormed filler ∧ guard decode (frame filler) = .ok (.ok listing)

section Refused

variable {α : Type} {around : Octets → Octets → Prop}
  {decode : Octets → Except Fault Submission} {frame : Octets → Octets} {listing : Listing}
  {reader : Reader α} {form : α → Octets → Prop} {get : Submission → Option (Option α)}
  {change : (Option α → Option α) → Submission → Submission}

/-- A number that is refused where it stands. -/
theorem OtherwiseValid.refused (h : OtherwiseValid around decode frame listing)
    (hgap : ∀ {front behind}, around front behind →
      Gap layout.Written (OrNull form) get change front behind)
    (henters : ∀ {front behind}, around front behind →
      Enters layout.shape.reader.read reader.optional.read front)
    (halike : ∀ {b}, startsNumber b = true → ∃ value rest, form value (b :: rest))
    {numeral : Numeral} {literal : Octets} (hliteral : IsNumeral numeral literal)
    {p : Cause → Prop} (hvalue : ∀ rest, Ends rest →
      ∃ fault, reader.read (literal ++ rest) = .error fault ∧ p fault.cause) :
    ∃ fault, guard decode (frame literal) = .error fault ∧ p fault.cause := by
  obtain ⟨filler, hfiller, hguard⟩ := h.valid
  obtain ⟨submission, hdecoded, -⟩ := guard_eq_ok_iff.mp hguard
  obtain ⟨b, value, rfl, hb⟩ := hliteral.startsNumber
  have hstarts : ∃ part rest, OrNull form part (b :: rest) := by
    obtain ⟨value, rest, hform⟩ := halike hb
    exact ⟨some value, rest, .value hform⟩
  obtain ⟨fault, hfault, hcause⟩ := Frame.refuses h.decodes h.framed hgap henters hfiller hdecoded
    (.inl hb) hstarts fun rest hrest => by
      obtain ⟨fault, hfault, hcause⟩ := hvalue rest hrest
      exact ⟨fault, optional_error hb hfault, hcause⟩
  refine ⟨fault, ?_, hcause⟩
  rw [guard, hfault]
  rfl

end Refused

end Submission

namespace Amount

open Submission (guard guard_eq_ok_iff OtherwiseValid nonNegative check_eq_ok_iff)

variable {amount : Amount} {decode : Octets → Except Fault Submission} {frame : Octets → Octets}
  {listing : Listing} (h : OtherwiseValid amount.Around decode frame listing) {numeral : Numeral}
  {literal : Octets} (hliteral : IsNumeral numeral literal)
include h

/-- The listing has a place for the amount. -/
theorem held_put_of_valid (found : Option UInt64) :
    amount.held (amount.put found listing) = found := by
  obtain ⟨filler, hfiller, hguard⟩ := h.valid
  obtain ⟨submission, hdecoded, hcheck⟩ := guard_eq_ok_iff.mp hguard
  obtain ⟨part, hsent, -⟩ := Frame.fill h.decodes h.framed Around.gap hfiller hdecoded
  exact held_put (check_eq_ok_iff.mp hcheck) (by simp [hsent]) found

include hliteral

/-- **What is held for a numeral** decides about the text. -/
theorem guard_numeral {number : Number} (hnumber : numeral.number? = some number) :
    guard decode (frame literal) =
      .ok ((nonNegative amount.place.field (some number)).map (amount.put · listing)) := by
  obtain ⟨filler, hfiller, hguard⟩ := h.valid
  obtain ⟨submission, hdecoded, hcheck⟩ := guard_eq_ok_iff.mp hguard
  obtain ⟨part, hsent, -, hchange⟩ := Frame.fill h.decodes h.framed Around.gap hfiller hdecoded
  have hform : OrNull IsNumber (some number) literal := .value (hliteral.isNumber_iff.mpr hnumber)
  refine guard_eq_ok_iff.mpr ⟨_, hchange (fun _ => some number) hform, ?_⟩
  exact check_change hcheck (by simp [hsent]) number

theorem guard_outOfRange (hnumber : numeral.number? = none) :
    ∃ fault, guard decode (frame literal) = .error fault ∧ fault.cause = .numberOutOfRange := by
  refine h.refused (p := (· = .numberOutOfRange)) Around.gap Around.enters (fun hb => ?_) hliteral
    fun rest hrest => ?_
  · obtain ⟨n, rest, number, hnumber, -⟩ := exists_signed hb
    exact ⟨number, rest, hnumber⟩
  · exact ⟨_, hliteral.numeric_error hnumber hrest, rfl⟩

end Amount

/-! ### Prices of variants -/

namespace Submission

section Change

variable {submission : Submission} {listing : Listing} {index : Nat}

theorem filled_changeVariantPrice (h : submission.filled = listing.submitted)
    (found : Option Int64) : (submission.changeVariantPrice index fun _ => found).filled =
      (listing.putVariantPrice index found).submitted := by
  have hmodified : (listing.variants.map Variant.submitted).modify index
      (fun variant => { variant with priceCents := found }) =
        (listing.variants.modify index fun variant => { variant with priceCents := found }).map
          Variant.submitted := by
    apply modify_map
    exact fun _ => rfl
  rw [← (lists_of_filled h).2, ← getD_modify] at hmodified
  rw [Submission.filled, changeVariantPrice, hmodified]
  exact congrArg (fun filled => { filled with
    variants := some ((listing.variants.modify index fun variant =>
      { variant with priceCents := found }).map Variant.submitted) }) h

theorem variantPrice_put (h : submission.filled = listing.submitted)
    (hsent : submission.variantPrice index ≠ none) (found : Option Int64) :
    (listing.putVariantPrice index found).variantPrice index = found := by
  obtain ⟨variant, hvariant⟩ := exists_item_of_sent (lists_of_filled h).2 hsent
  simp [Listing.variantPrice, Listing.putVariantPrice, hvariant]

end Change

/-- What stands around the price of a variant in a submission. -/
def AroundVariantPrice (index : Nat) : Octets → Octets → Prop :=
  layout.AroundWithin VariantSubmission.layout variantsField index variantPriceField

section Around

variable {index : Nat} {front behind : Octets} (h : AroundVariantPrice index front behind)
include h

theorem AroundVariantPrice.gap : Gap layout.Written (OrNull IsSigned) (variantPrice index)
    (fun f submission => submission.changeVariantPrice index f) front behind :=
  Layout.AroundWithin.gap h variantsField_mem variantPriceField_mem

theorem AroundVariantPrice.enters :
    Enters layout.shape.reader.read Reader.signed.optional.read front :=
  Layout.AroundWithin.enters h variantsField_mem variantPriceField_mem

end Around

variable {index : Nat} {decode : Octets → Except Fault Submission} {frame : Octets → Octets}
  {listing : Listing} (h : OtherwiseValid (AroundVariantPrice index) decode frame listing)
  {numeral : Numeral} {literal : Octets} (hliteral : IsNumeral numeral literal)
include h hliteral

/-- **A whole number with a sign** is the price of the variant. -/
theorem guard_signed {n : Int64} (hfits : numeral.IsBetween (-2 ^ 63) (2 ^ 63))
    (hn : numeral.integer = n.toInt) :
    guard decode (frame literal) = .ok (.ok (listing.putVariantPrice index (some n))) ∧
      (listing.putVariantPrice index (some n)).variantPrice index = some n := by
  obtain ⟨filler, hfiller, hguard⟩ := h.valid
  obtain ⟨submission, hdecoded, hcheck⟩ := guard_eq_ok_iff.mp hguard
  obtain ⟨part, hsent, -, hchange⟩ :=
    Frame.fill h.decodes h.framed AroundVariantPrice.gap hfiller hdecoded
  have hform : OrNull IsSigned (some n) literal := .value (hliteral.isSigned_iff.mpr ⟨hfits, hn⟩)
  have hfilled := check_eq_ok_iff.mp hcheck
  refine ⟨guard_eq_ok_iff.mpr ⟨_, hchange (fun _ => some n) hform, ?_⟩, ?_⟩
  · exact check_eq_ok_iff.mpr (filled_changeVariantPrice hfilled (some n))
  · exact variantPrice_put hfilled (by simp [hsent]) (some n)

/-- Any other number is refused. -/
theorem guard_notSigned (hfits : ¬ numeral.IsBetween (-2 ^ 63) (2 ^ 63)) :
    ∃ fault, guard decode (frame literal) = .error fault := by
  have hread (rest : Octets) (hrest : Ends rest) :
      ∃ fault, Reader.signed.read (literal ++ rest) = .error fault ∧ True := by
    cases hread : Reader.signed.read (literal ++ rest) with
    | error fault => exact ⟨fault, rfl, trivial⟩
    | ok found =>
      have hsigned := (signed_reads.read_iff (.numeral hliteral) hrest).mp hread
      exact absurd (hliteral.isSigned_iff.mp hsigned.1).1 hfits
  obtain ⟨fault, hfault, -⟩ := h.refused (p := fun _ => True) AroundVariantPrice.gap
    AroundVariantPrice.enters exists_signed hliteral hread
  exact ⟨fault, hfault⟩

end Submission

end ListingReview
