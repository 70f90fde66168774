import ListingReview.Command.Run
import ListingReview.Proofs.Decision.Written
import ListingReview.Proofs.Listing.Written
import ListingReview.Proofs.Submission.Check
import ListingReview.Proofs.Submission.Written

/-! # Listings and decisions: what is written is read back

A listing is written as the submission that says it (`Listing.submitted_document`), so what is
written for it is read back either way. Decisions are read back as well, whether they are on one
line, as an answer has them, or on lines of their own, as a run shows them (`read_back`). -/

namespace ListingReview

open Json
open Text (Octets octets encode)

/-- A text is read as a value, alone and in front of others. -/
structure Json.Reader.Takes {α : Type} (reader : Reader α) (bytes : Octets) (value : α) : Prop where
  whole : reader.whole bytes = .ok value
  front : reader.front bytes = .ok value

theorem Json.Layout.takes {σ : Type} {layout : Layout σ} {record : σ}
    (h : layout.shape.format.Writes layout.Written record) (depth : Option Nat) {after : Octets}
    (hafter : Blanks after) : layout.shape.reader.Takes
      (encode ((layout.shape.format.write record).laidOut depth) ++ after) record := by
  have hread := layout.read_of_written .nil (h depth) after
  exact ⟨Reader.whole_of_read hread hafter, Reader.front_of_read hread⟩

/-! ### Listings -/

theorem Image.writes (image : Image) : shape.format.Writes layout.Written image := by
  refine layout.writes ?_
  simp only [layout, List.forall_mem_cons]
  exact ⟨text_writes _, text_writes _, optional_writes fun _ _ => text_writes _,
    optional_writes fun _ _ => unsigned_writes _, List.forall_mem_nil _⟩

theorem Variant.writes (variant : Variant) : shape.format.Writes layout.Written variant := by
  refine layout.writes ?_
  simp only [layout, List.forall_mem_cons]
  exact ⟨optional_writes fun _ _ => text_writes _, text_writes _,
    optional_writes fun _ _ => signed_writes _, optional_writes fun _ _ => text_writes _,
    optional_writes fun _ _ => text_writes _, List.forall_mem_nil _⟩

theorem Listing.writes (listing : Listing) : shape.format.Writes layout.Written listing := by
  refine layout.writes ?_
  simp only [layout, List.forall_mem_cons]
  exact ⟨text_writes _, text_writes _, text_writes _, text_writes _,
    optional_writes fun _ _ => text_writes _, optional_writes fun _ _ => unsigned_writes _,
    optional_writes fun _ _ => text_writes _, optional_writes fun _ _ => text_writes _,
    list_writes fun image _ => image.writes, list_writes fun variant _ => variant.writes,
    List.forall_mem_nil _⟩

/-! ### Submissions -/

theorem unsigned_writes_number {found : Option UInt64} :
    Format.number.optional.Writes (OrNull IsNumber) (found.map .unsigned) :=
  optional_writes fun number hnumber => by
    obtain ⟨n, -, rfl⟩ := Option.mem_map.mp hnumber
    exact number_writes n

theorem Image.writes_submitted (image : Image) :
    ImageSubmission.shape.format.Writes ImageSubmission.layout.Written image.submitted := by
  refine ImageSubmission.layout.writes ?_
  simp only [ImageSubmission.layout, List.forall_mem_cons]
  exact ⟨optional_writes fun _ _ => text_writes _, optional_writes fun _ _ => text_writes _,
    optional_writes fun _ _ => text_writes _, unsigned_writes_number, List.forall_mem_nil _⟩

theorem Variant.writes_submitted (variant : Variant) :
    VariantSubmission.shape.format.Writes VariantSubmission.layout.Written variant.submitted := by
  refine VariantSubmission.layout.writes ?_
  simp only [VariantSubmission.layout, List.forall_mem_cons]
  exact ⟨optional_writes fun _ _ => text_writes _, optional_writes fun _ _ => text_writes _,
    optional_writes fun _ _ => signed_writes _, optional_writes fun _ _ => text_writes _,
    optional_writes fun _ _ => text_writes _, List.forall_mem_nil _⟩

/-- Records of a list, each written as it is sent in. -/
theorem submitted_writes {α β : Type} {format : Format β} {form : β → Octets → Prop}
    {submitted : α → β} (h : ∀ value, format.Writes form (submitted value)) (values : List α) :
    (Format.list format).optional.Writes (OrNull (ListOf form)) (some (values.map submitted)) :=
  optional_writes fun sent hsent => by
    obtain rfl := Option.some.inj hsent
    exact list_writes (List.forall_mem_map.mpr fun value _ => h value)

theorem Listing.writes_submitted (listing : Listing) :
    Submission.shape.format.Writes Submission.layout.Written listing.submitted := by
  refine Submission.layout.writes ?_
  simp only [Submission.layout, List.forall_mem_cons]
  exact ⟨optional_writes fun _ _ => text_writes _, optional_writes fun _ _ => text_writes _,
    optional_writes fun _ _ => text_writes _, optional_writes fun _ _ => text_writes _,
    optional_writes fun _ _ => text_writes _, unsigned_writes_number,
    optional_writes fun _ _ => text_writes _, optional_writes fun _ _ => text_writes _,
    submitted_writes Image.writes_submitted _, submitted_writes Variant.writes_submitted _,
    List.forall_mem_nil _⟩

theorem Image.submitted_document (image : Image) :
    ImageSubmission.shape.format.write image.submitted = shape.format.write image := by
  obtain ⟨id, url, mimeType, _ | size⟩ := image <;> rfl

theorem Variant.submitted_document (variant : Variant) :
    VariantSubmission.shape.format.write variant.submitted = shape.format.write variant := rfl

theorem submitted_documents {α β : Type} {format : Format α} {format' : Format β}
    {submitted : α → β} (h : ∀ value, format'.write (submitted value) = format.write value)
    (values : List α) :
    (Format.list format').optional.write (some (values.map submitted)) =
      (Format.list format).write values := by
  have hitems : (values.map submitted).map format'.write = values.map format.write := by
    rw [List.map_map]
    exact List.map_congr_left fun value _ => h value
  exact congrArg Document.list hitems

/-- A listing is written as the submission that says it. -/
theorem Listing.submitted_document (listing : Listing) :
    Submission.shape.format.write listing.submitted = shape.format.write listing := by
  have hprice : Format.number.optional.write (listing.priceCents.map .unsigned) =
      Format.unsigned.optional.write listing.priceCents := by
    rcases listing.priceCents with _ | n <;> rfl
  rw [Shape.format, Shape.format]
  simp only [Submission.shape, shape, List.map_cons, List.map_nil, Member.optional,
    Member.required, submitted, hprice, submitted_documents Image.submitted_document,
    submitted_documents Variant.submitted_document]
  rfl

/-! ### Reading back -/

theorem octets_line (document : Document) : octets document.line = encode (document.laidOut none) :=
  Text.octets_ofList _

theorem octets_lines (document : Document) :
    octets document.lines = encode (document.laidOut (some 0)) :=
  Text.octets_ofList _

/-- What a run shows of a document. -/
theorem octets_shown (document : Document) : octets (Outcome.ofDocument (.ok document)).output =
    encode (document.laidOut (some 0)) ++ [octet '\n'] := by
  rw [Outcome.ofDocument, Outcome.output, Text.octets_eq, String.toList_append, Text.encode_append,
    ← Text.octets_eq, octets_lines]
  rfl

theorem Listing.takes (listing : Listing) (depth : Option Nat) :
    shape.reader.Takes (encode ((shape.format.write listing).laidOut depth)) listing ∧
      Submission.shape.reader.Takes (encode ((shape.format.write listing).laidOut depth))
        listing.submitted := by
  have hlisting := Layout.takes listing.writes depth .nil
  have hsubmission := Layout.takes listing.writes_submitted depth .nil
  rw [List.append_nil] at hlisting hsubmission
  exact ⟨hlisting, listing.submitted_document ▸ hsubmission⟩

/-- **Nothing is lost in writing.** What is written for a listing, on one line or on several, is
read as that listing, and as a submission that passes the check and gives it. Every desk comes to
the decision of its policy, and both the line that an answer has and what a run shows of a decision
are read as that decision. -/
theorem read_back :
    (∀ (listing : Listing) (text : String), text ∈
        [(Listing.shape.format.write listing).line, (Listing.shape.format.write listing).lines] →
      Listing.shape.reader.Takes (octets text) listing ∧ ∃ submission : Submission,
        Submission.shape.reader.Takes (octets text) submission ∧ submission.check = .ok listing) ∧
    (∀ {σ : Type} (desk : Desk σ) (notes : σ) (listing : Listing),
      (desk.review notes listing).1 = .ok (desk.policy.review listing)) ∧
    ∀ (policy : Policy) (listing : Listing) (text : String), text ∈
        [(policy.review listing).document.line,
          (Outcome.ofDocument (.ok (policy.review listing).document)).output] →
      Decision.shape.reader.Takes (octets text) (policy.review listing) := by
  refine ⟨fun listing text htext => ?_, fun desk notes listing => by rw [desk.review_eq],
    fun policy listing text htext => ?_⟩
  · have htaken : ∃ depth,
        octets text = encode ((Listing.shape.format.write listing).laidOut depth) := by
      rcases List.mem_pair.mp htext with rfl | rfl
      · exact ⟨none, octets_line _⟩
      · exact ⟨some 0, octets_lines _⟩
    obtain ⟨depth, heq⟩ := htaken
    obtain ⟨hlisting, hsubmission⟩ := listing.takes depth
    rw [heq]
    exact ⟨hlisting, _, hsubmission, Submission.check_submitted listing⟩
  · have hwrites := policy.review_writes listing
    rcases List.mem_pair.mp htext with rfl | rfl
    · rw [octets_line, ← List.append_nil (encode _)]
      exact Layout.takes hwrites none .nil
    · rw [octets_shown]
      exact Layout.takes hwrites (some 0) fun b hb => by
        rw [List.mem_singleton.mp hb]
        decide

end ListingReview
