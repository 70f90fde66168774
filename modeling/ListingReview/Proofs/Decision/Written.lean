import ListingReview.Decision
import ListingReview.Proofs.Json.Choice
import ListingReview.Proofs.Review.Score

/-! # Decisions: how they are written -/

namespace ListingReview

open Json
open Text (Octets octets encode)

/-- Every score is a number of steps of five hundredths. -/
theorem Ground.exists_fives (ground : Ground) (tooLarge : Nat) :
    ∃ fives < 18, ground.hundredths tooLarge = 5 * fives := by
  rcases ground with _ | _ | _ | _
  · exact ⟨0, by decide, rfl⟩
  · exact ⟨7 - tooLarge, by omega, by rw [hundredths]; omega⟩
  · exact ⟨8, by decide, rfl⟩
  · exact ⟨17 - tooLarge, by omega, by rw [hundredths]; omega⟩

theorem isFloat_fives {fives : Nat} (h : fives < 18) :
    IsFloat (Binary64.ofRatio (5 * fives) 100)
      (encode (writeFloat (Binary64.ofRatio (5 * fives) 100))) := by
  have hread : ∀ n ∈ List.range 18,
      WellFormed (encode (writeFloat (Binary64.ofRatio (5 * n) 100))) ∧
        Reader.float.read (encode (writeFloat (Binary64.ofRatio (5 * n) 100))) =
          .ok (Binary64.ofRatio (5 * n) 100, []) := by
    decide +kernel
  exact float_reads.form_iff.mpr (hread _ (List.mem_range.mpr h))

/-! ### The layout -/

theorem Status.writes (status : Status) : (Format.choice all name).Writes
    (IsChoice (all.map fun status => (status.name, status))) status :=
  choice_writes (by rcases status with _ | _ | _ <;> decide)

theorem Label.writes (label : Label) : (Format.choice all name).Writes
    (IsChoice (all.map fun label => (label.name, label))) label :=
  choice_writes (by rcases label with _ | _ | _ | _ | _ | _ <;> decide)

namespace Decision

def layout : Layout Decision where
  shape := shape
  fields :=
    [.required "listing_id" .text IsText Decision.listingId fun value decision =>
       { decision with listingId := value },
     .required "status" (.choice Status.all Status.name)
       (IsChoice (Status.all.map fun status => (status.name, status))) Decision.status
       fun value decision => { decision with status := value },
     .required "score" .float IsFloat Decision.score fun value decision =>
       { decision with score := value },
     .required "labels" (.list (.choice Label.all Label.name))
       (ListOf (IsChoice (Label.all.map fun label => (label.name, label)))) Decision.labels
       fun value decision => { decision with labels := value },
     .required "notes" .text IsText Decision.notes fun value decision =>
       { decision with notes := value }]
  members_eq := rfl
  reads := by
    simp only [List.forall_mem_cons]
    exact ⟨text_reads, choice_reads _, float_reads, list_reads (choice_reads _), text_reads,
      List.forall_mem_nil _⟩
  apart := by
    simp [Field.apart_iff, Field.names, Field.required]
  get_put := by
    simp [Field.required]
  ext record record' h := by
    simp only [List.forall_mem_cons, Field.required] at h
    obtain ⟨hlisting, hstatus, hscore, hlabels, hnotes, -⟩ := h
    cases record
    cases record'
    rw [Decision.mk.injEq]
    exact ⟨hlisting, hstatus, hscore, hlabels, hnotes⟩

theorem writes {decision : Decision}
    (h : IsFloat decision.score (encode (writeFloat decision.score))) :
    shape.format.Writes layout.Written decision := by
  refine layout.writes ?_
  simp only [layout, List.forall_mem_cons]
  exact ⟨text_writes _, decision.status.writes, float_writes h,
    list_writes fun label _ => label.writes, text_writes _, List.forall_mem_nil _⟩

end Decision

/-- What a review comes to is written. -/
theorem Policy.review_writes (policy : Policy) (listing : Listing) :
    Decision.shape.format.Writes Decision.layout.Written (policy.review listing) := by
  obtain ⟨fives, hlt, heq⟩ :=
    (policy.ground listing).exists_fives (policy.tooLarge listing)
  refine Decision.writes ?_
  rw [policy.review_score_eq, heq]
  exact isFloat_fives hlt

end ListingReview
