import ListingReview.Submission
import ListingReview.Proofs.Json.Record

/-! # Submissions: how they are written

The layouts of submissions, images and variants say under which names and in which order their
members are written. What is written that way is read again (`Submission.read_written`). -/

namespace ListingReview

open Json
open Text (Octets octets)

/-! ### Layouts -/

def ImageSubmission.layout : Layout ImageSubmission where
  shape := shape
  fields :=
    [.optional "id" [] .text IsText ImageSubmission.id fun value image =>
       { image with id := value },
     .optional "url" [] .text IsText ImageSubmission.url fun value image =>
       { image with url := value },
     .optional "mimeType" ["mime_type"] .text IsText ImageSubmission.mimeType fun value image =>
       { image with mimeType := value },
     .optional "fileSizeBytes" ["file_size", "fileSize"] .number IsNumber ImageSubmission.fileSize
       fun value image => { image with fileSize := value }]
  members_eq := rfl
  reads := by
    have htext := optional_reads text_reads fun _ => IsText.ne_null
    have hnumber := optional_reads number_reads fun _ => IsNumber.ne_null
    simp only [List.forall_mem_cons]
    exact ⟨htext, htext, htext, hnumber, List.forall_mem_nil _⟩
  apart := by
    simp [Field.apart_iff, Field.names, Field.optional]
  get_put := by
    simp [Field.optional]
  ext record record' h := by
    simp only [List.forall_mem_cons, Field.optional] at h
    obtain ⟨hid, hurl, hmime, hsize, -⟩ := h
    cases record
    cases record'
    rw [ImageSubmission.mk.injEq]
    exact ⟨hid, hurl, hmime, hsize⟩

def VariantSubmission.layout : Layout VariantSubmission where
  shape := shape
  fields :=
    [.optional "id" [] .text IsText VariantSubmission.id fun value variant =>
       { variant with id := value },
     .optional "label" [] .text IsText VariantSubmission.label fun value variant =>
       { variant with label := value },
     .optional "priceCents" ["price_cents"] .signed IsSigned VariantSubmission.priceCents
       fun value variant => { variant with priceCents := value },
     .optional "currency" [] .text IsText VariantSubmission.currency fun value variant =>
       { variant with currency := value },
     .optional "sku" [] .text IsText VariantSubmission.sku fun value variant =>
       { variant with sku := value }]
  members_eq := rfl
  reads := by
    have htext := optional_reads text_reads fun _ => IsText.ne_null
    have hsigned := optional_reads signed_reads fun _ => IsSigned.ne_null
    simp only [List.forall_mem_cons]
    exact ⟨htext, htext, hsigned, htext, htext, List.forall_mem_nil _⟩
  apart := by
    simp [Field.apart_iff, Field.names, Field.optional]
  get_put := by
    simp [Field.optional]
  ext record record' h := by
    simp only [List.forall_mem_cons, Field.optional] at h
    obtain ⟨hid, hlabel, hprice, hcurrency, hsku, -⟩ := h
    cases record
    cases record'
    rw [VariantSubmission.mk.injEq]
    exact ⟨hid, hlabel, hprice, hcurrency, hsku⟩

/-- The images of a submission. -/
def Submission.imagesField : Json.Field Submission :=
  ImageSubmission.layout.listField "images" Submission.images fun value submission =>
    { submission with images := value }

/-- The variants of a submission. -/
def Submission.variantsField : Json.Field Submission :=
  VariantSubmission.layout.listField "variants" Submission.variants fun value submission =>
    { submission with variants := value }

def Submission.layout : Layout Submission where
  shape := shape
  fields :=
    [.optional "listingId" ["listing_id"] .text IsText Submission.listingId fun value submission =>
       { submission with listingId := value },
     .optional "sellerId" ["seller_id"] .text IsText Submission.sellerId fun value submission =>
       { submission with sellerId := value },
     .optional "reason" [] .text IsText Submission.reason fun value submission =>
       { submission with reason := value },
     .optional "title" [] .text IsText Submission.title fun value submission =>
       { submission with title := value },
     .optional "description" [] .text IsText Submission.description fun value submission =>
       { submission with description := value },
     .optional "priceCents" ["price_cents"] .number IsNumber Submission.priceCents
       fun value submission => { submission with priceCents := value },
     .optional "currency" [] .text IsText Submission.currency fun value submission =>
       { submission with currency := value },
     .optional "desiredStatus" ["desired_status"] .text IsText Submission.desiredStatus
       fun value submission => { submission with desiredStatus := value },
     imagesField, variantsField]
  members_eq := rfl
  reads := by
    have htext := optional_reads text_reads fun _ => IsText.ne_null
    have hnumber := optional_reads number_reads fun _ => IsNumber.ne_null
    simp only [List.forall_mem_cons]
    exact ⟨htext, htext, htext, htext, htext, hnumber, htext, htext,
      ImageSubmission.layout.listField_reads .., VariantSubmission.layout.listField_reads ..,
      List.forall_mem_nil _⟩
  apart := by
    simp [Field.apart_iff, Field.names, Field.optional, imagesField, variantsField,
      Layout.listField]
  get_put := by
    simp [Field.optional, imagesField, variantsField, Layout.listField]
  ext record record' h := by
    simp only [List.forall_mem_cons, Field.optional, imagesField, variantsField,
      Layout.listField] at h
    obtain ⟨hlisting, hseller, hreason, htitle, hdescription, hprice, hcurrency, hstatus, himages,
      hvariants, -⟩ := h
    cases record
    cases record'
    rw [Submission.mk.injEq]
    exact ⟨hlisting, hseller, hreason, htitle, hdescription, hprice, hcurrency, hstatus, himages,
      hvariants⟩

/-! ### Reading what is written -/

/-- **What is written for a submission is read as that submission**, by itself or in front of other
text. -/
theorem Submission.read_written {submission : Submission} {before text after : Octets}
    (hbefore : Blanks before) (htext : Submission.layout.Written submission text)
    (hafter : Blanks after) :
    Submission.shape.reader.whole (before ++ (text ++ after)) = .ok submission ∧
      Submission.shape.reader.front (before ++ (text ++ after)) = .ok submission := by
  have hreads := Submission.layout.shape_reads
  have hwell := hreads.wellFormed htext
  exact ⟨(hreads.whole_iff hbefore hwell hafter).mpr htext,
    (hreads.front_iff hbefore hwell (.blanks hafter)).mpr htext⟩

/-- Other names, an escape in a key, a member that is null, one that is foreign, and images of both
kinds. -/
def lampText : String :=
  "\x7b\"seller_id\":\"s\",\"reason\":null,\"x\":[\x7b\x7d]," ++
    "\"images\":[[\"i\"],\x7b\"fileSize\":7,\"id\":null\x7d],\"\\u0074itle\":\"t\"\x7d"

def lamp : Submission :=
  { Submission.shape.blank with
    sellerId := some "s"
    title := some "t"
    images := some [⟨some "i", none, none, none⟩, ⟨none, none, none, some (.unsigned 7)⟩] }

def quoted (spelling : Octets) : Octets := octet '"' :: (spelling ++ [octet '"'])

def sizeEntry : Entry := .tight (octets "fileSize") (octets "7")

def idEntry : Entry := .tight (octets "id") (octet 'n' :: nullTail)

/-- The second image. -/
def sizedImage : Octets :=
  tight (octet '\x7b') (octet '\x7d') ([sizeEntry, idEntry].map Entry.text)

def lampImages : List Octets :=
  [tight (octet '[') (octet ']') [quoted (octets "i")], sizedImage]

/-- The letter t by its number, and the letters after it. -/
def titleKey : Octets := octet '\\' :: ((octet 'u' :: [0x30, 0x30, 0x37, 0x34]) ++ octets "itle")

def lampEntries : List Entry :=
  [.tight (octets "seller_id") (quoted (octets "s")),
   .tight (octets "reason") (octet 'n' :: nullTail),
   .tight (octets "x") (tight (octet '[') (octet ']') [tight (octet '\x7b') (octet '\x7d') []]),
   .tight (octets "images") (tight (octet '[') (octet ']') lampImages),
   .tight titleKey (quoted (octets "t"))]

theorem lampText_eq : octets lampText =
    tight (octet '\x7b') (octet '\x7d') (lampEntries.map Entry.text) := by
  decide +kernel

def plainNames : List String :=
  ["seller_id", "reason", "x", "images", "fileSize", "file_size", "id", "itle", "s", "t", "i"]

theorem plainNames_spell : ∀ name ∈ plainNames, Spells (octets name) (octets name) := by
  have hplain : ∀ name ∈ plainNames, ∀ b ∈ octets name, IsPlain b := by
    decide +kernel
  exact fun name hname => spells_plain (hplain name hname)

theorem titleKey_spells : Spells (octets "title") titleKey := by
  have htitle : octets "title" = codePoint 0x74 ++ octets "itle" := by decide +kernel
  have ht : Hex 0x74 [0x30, 0x30, 0x37, 0x34] :=
    .digits (i := 0) (j := 0) (k := 7) (l := 4) rfl rfl rfl rfl
  rw [htitle]
  exact .escape (.unit ht (by decide) (by decide)) (plainNames_spell "itle" (by decide))

theorem sizedImage_members :
    ImageSubmission.layout.Members ⟨none, none, none, some (.unsigned 7)⟩ [sizeEntry, idEntry] := by
  have hseven : IsNumber (.unsigned 7) (octets "7") :=
    ⟨⟨false, [7], [], none⟩, .parts ⟨by simp, by simp⟩ (by simp) (by simp) .none, rfl⟩
  refine Layout.members_iff_takesAll.mpr ⟨⟨_, ["id", "fileSizeBytes"]⟩, ?_, rfl⟩
  exact .cons (ImageSubmission.layout.takes_getElem 3 (by decide) (some (.unsigned 7))
      ⟨"fileSize", by decide, plainNames_spell "fileSize" (by decide)⟩ List.not_mem_nil
      (.value hseven))
    (.cons (ImageSubmission.layout.takes_getElem 0 (by decide) none
      ⟨"id", by decide, plainNames_spell "id" (by decide)⟩ (by decide) .null) .nil)

theorem sizedImage_isObject : IsObject [sizeEntry, idEntry] sizedImage := brackets_tight _ _ _

theorem lampImages_written :
    List.Forall₂ ImageSubmission.layout.Written
      [⟨some "i", none, none, none⟩, ⟨none, none, none, some (.unsigned 7)⟩] lampImages := by
  refine .cons (.list (brackets_tight _ _ _) (.place ?_ (.stop rfl ?_)))
    (.cons (.object sizedImage_isObject sizedImage_members) .nil)
  · exact .value (.quoted (plainNames_spell "i" (by decide)))
  · simp [ImageSubmission.layout, Field.optional, ImageSubmission.shape]

theorem lampText_isObject : IsObject lampEntries (octets lampText) :=
  lampText_eq ▸ brackets_tight _ _ _

theorem lamp_members : Submission.layout.Members lamp lampEntries := by
  have hx : Submission.layout.Foreign (octets "x") := by
    refine ⟨"x", plainNames_spell "x" (by decide), ?_⟩
    simp [Submission.layout, Field.optional, Field.names, Submission.imagesField,
      Submission.variantsField, Layout.listField]
  have hvalue :
      WellFormed (tight (octet '[') (octet ']') [tight (octet '\x7b') (octet '\x7d') []]) := by
    refine .list (brackets_tight _ _ _) ?_
    rw [List.forall_mem_singleton]
    exact HasEntries.wellFormed ⟨show IsObject [] _ from brackets_tight _ _ _, by simp⟩
  refine Layout.members_iff_takesAll.mpr
    ⟨⟨lamp, ["title", "images", "reason", "sellerId"]⟩, ?_, rfl⟩
  exact .cons (Submission.layout.takes_getElem 1 (by decide) (some "s")
      ⟨"seller_id", by decide, plainNames_spell "seller_id" (by decide)⟩ (by decide)
      (.value (.quoted (plainNames_spell "s" (by decide)))))
    (.cons (Submission.layout.takes_getElem 2 (by decide) none
      ⟨"reason", by decide, plainNames_spell "reason" (by decide)⟩ (by decide) .null)
    (.cons (.foreign hx hvalue)
    (.cons (Submission.layout.takes_getElem 8 (by decide) lamp.images
      ⟨"images", by decide, plainNames_spell "images" (by decide)⟩ (by decide)
        (.value (.items (brackets_tight _ _ _) lampImages_written)))
    (.cons (Submission.layout.takes_getElem 3 (by decide) (some "t")
      ⟨"title", by decide, titleKey_spells⟩ (by decide)
        (.value (.quoted (plainNames_spell "t" (by decide))))) .nil))))

theorem lamp_written : Submission.layout.Written lamp (octets lampText) :=
  .object lampText_isObject lamp_members

/-- A submission from the kinds of spellings. -/
theorem Submission.read_lamp : Submission.layout.Written lamp (octets lampText) ∧
    Submission.shape.reader.whole ([] ++ (octets lampText ++ [])) = .ok lamp ∧
      Submission.shape.reader.front ([] ++ (octets lampText ++ [])) = .ok lamp :=
  ⟨lamp_written, Submission.read_written .nil lamp_written .nil⟩

end ListingReview
