import ListingReview.Proofs.Http.MediaType
import ListingReview.Proofs.Server.History

/-! # Server: the answer to a submission

What is posted as a submission is answered by the first of these that holds: it is not announced as
JSON, it is too long, it cannot be read, it does not pass the check, it is reviewed (`post_answer`).
Each refusal says why in words (`Failure.hasWords`). -/

namespace ListingReview

open Http (Request Response)
open Text (octets)

/-- The body is announced as JSON. -/
def Http.Request.IsJson (request : Request) : Prop :=
  ∃ text ∈ request.contentType, Http.NamesJson text.toList

/-! ### Words -/

/-- A refusal that says why. -/
def Http.Response.refusal (status : Nat) (words : String) : Response :=
  .json status (.object [("error", .text words)])

/-- A refusal that also says which member is at fault. -/
def Http.Response.blaming (field words : String) : Response :=
  .json 422 (.object [("error", .text words), ("field", .text field)])

/-- Something is said about an error. -/
def Http.Response.HasWords (response : Response) : Prop :=
  ∃ words members, words ≠ "" ∧ response.body = .json (.object (("error", .text words) :: members))

theorem append_ne_empty {text : String} (h : text ≠ "") (behind : String) : text ++ behind ≠ "" :=
  fun heq => h (String.append_eq_empty_iff.mp heq).1

theorem Failure.message_ne_empty (failure : Failure) : failure.message ≠ "" := by
  refine append_ne_empty ?_ _
  rcases failure with _ | _ | _ | _ | _ | _ | _ | _ <;> simp [heading]

theorem Violation.message_ne_empty (violation : Violation) : violation.message ≠ "" := by
  cases violation with
  | missing field => exact append_ne_empty (append_ne_empty (by simp) _) _
  | negative field found =>
    exact append_ne_empty (append_ne_empty (append_ne_empty (append_ne_empty (by simp) _) _) _) _
  | notWhole field found =>
    exact append_ne_empty (append_ne_empty (append_ne_empty (append_ne_empty (by simp) _) _) _) _

theorem Failure.hasWords (failure : Failure) : (Server.failed failure).HasWords := by
  by_cases hviolation : ∃ violation, failure = .review (.invalid violation)
  · obtain ⟨violation, rfl⟩ := hviolation
    exact ⟨violation.message, _, violation.message_ne_empty, rfl⟩
  · refine ⟨failure.message, [], failure.message_ne_empty, ?_⟩
    rw [Server.failed, document]
    · rfl
    · exact fun violation h => hviolation ⟨violation, h⟩

namespace Server

theorem failed_body (fault : BodyFault) :
    failed (.body fault) = .refusal fault.status (Failure.body fault).message := rfl

theorem failed_violation (violation : Violation) :
    failed (.review (.invalid violation)) = .blaming violation.field violation.message := rfl

theorem readBody_of_not_json {request : Request} (h : ¬ request.IsJson) :
    readBody request = .error .notJson := by
  rw [Http.Request.IsJson, ← Http.announcesJson_iff] at h
  simp [readBody, h]

theorem readBody_of_json {request : Request} (h : request.IsJson)
    (hlength : request.body.length ≤ bodyLimit) : readBody request =
      (Submission.shape.reader.front request.body).mapError .unreadable := by
  rw [Http.Request.IsJson, ← Http.announcesJson_iff] at h
  exact readBody_announced h hlength

section Json

variable (policy : Policy) (count : Count) {request : Request} (h : request.IsJson)
  (hlength : request.body.length ≤ bodyLimit)
include h hlength

theorem moderate_unreadable {fault : Json.Fault}
    (hread : Submission.shape.reader.front request.body = .error fault) :
    (moderate policy request count).1 =
      .refusal (if fault.cause.category = .unfitting then 422 else 400)
        (Failure.body (.unreadable fault)).message := by
  have hfault : readBody request = .error (.unreadable fault) := by
    rw [readBody_of_json h hlength, hread]
    rfl
  rw [moderate_refused policy _ hfault, failed_body, BodyFault.status]
  rcases fault.cause.category with _ | _ | _ <;> rfl

theorem moderate_submission {submission : Submission}
    (hread : Submission.shape.reader.front request.body = .ok submission) :
    (moderate policy request count).1 = policy.answer submission :=
  moderate_read policy _ (by rw [readBody_of_json h hlength, hread]; rfl)

end Json

/-- **The answer to a submission**, in the order in which it is decided. Only the front of the body
is read, up to the end of its first value. -/
theorem post_answer (policy : Policy) (state : State) {request : Request}
    (hmethod : request.method = "POST") (hpath : request.path = "/moderations/listings") :
    (¬ request.IsJson → (respond policy request state).1 =
      .refusal 415 (Failure.body .notJson).message) ∧
    (request.IsJson → request.body.length ≤ bodyLimit →
      (∀ fault, Submission.shape.reader.front request.body = .error fault →
        (respond policy request state).1 =
          .refusal (if fault.cause.category = .unfitting then 422 else 400)
            (Failure.body (.unreadable fault)).message) ∧
      ∀ submission : Submission, Submission.shape.reader.front request.body = .ok submission →
        (∀ violation, submission.check = .error violation →
          (respond policy request state).1 = .blaming violation.field violation.message) ∧
        ∀ listing, submission.check = .ok listing →
          (respond policy request state).1 = .json 200 (policy.review listing).document) ∧
    (request.body.length ≤ bodyLimit →
      (respond policy request state).1.status ∈ [200, 400, 415, 422]) ∧
    ((respond policy request state).1.status ≠ 200 →
      (respond policy request state).1.HasWords) := by
  have hanswer : (respond policy request state).1 = (moderate policy request state.count).1 := by
    rw [respond_posted policy state hmethod hpath]
  rw [hanswer]
  have hnot : ¬ request.IsJson → (moderate policy request state.count).1 =
      .refusal 415 (Failure.body .notJson).message := fun hjson =>
    moderate_refused policy _ (readBody_of_not_json hjson)
  refine ⟨hnot, fun hjson hlength => ⟨fun fault => moderate_unreadable policy _ hjson hlength,
    fun submission hread => ?_⟩, fun hlength => ?_, fun hstatus => ?_⟩
  · rw [moderate_submission policy _ hjson hlength hread, Policy.answer]
    refine ⟨fun violation hcheck => ?_, fun listing hcheck => ?_⟩
    · rw [hcheck]
      exact failed_violation violation
    · rw [hcheck]
  · by_cases hjson : request.IsJson
    · rcases hread : Submission.shape.reader.front request.body with fault | submission
      · rw [moderate_unreadable policy _ hjson hlength hread, Response.refusal, Response.json]
        split_ifs <;> simp
      · rw [moderate_submission policy _ hjson hlength hread, Policy.answer]
        rcases submission.check with violation | listing <;>
          simp [failed, Failure.status, Response.json]
    · rw [hnot hjson]
      simp [Response.refusal, Response.json]
  · rcases moderate_cases policy request state.count with ⟨decision, heq⟩ | ⟨failure, -, heq⟩
    · rw [heq] at hstatus
      exact absurd rfl hstatus
    · rw [heq]
      exact failure.hasWords

/-- A submission of a knife with an image of a size. -/
def knifeText (size : String) : String :=
  "\x7b\"listingId\":\"l\",\"sellerId\":\"s\",\"reason\":\"r\",\"title\":\"Knife\"," ++
    "\"images\":[[\"i\",\"u\",null," ++ size ++ "]]\x7d"

def knifeSubmission (size : Json.Number) : Submission :=
  { Submission.shape.blank with
    listingId := some "l"
    sellerId := some "s"
    reason := some "r"
    title := some "Knife"
    images := some [⟨some "i", some "u", none, some size⟩] }

def knifeListing (size : UInt64) : Listing :=
  ⟨"l", "s", "r", "Knife", none, none, none, none, [⟨"i", "u", none, some size⟩], []⟩

/-- With an image of less than nothing that member is blamed, and with one of ten octets the knife
is reviewed. -/
theorem post_answer_knife :
    (respond .standard (Request.submitting (knifeText "-10")) {}).1 =
        .blaming "images[0].fileSizeBytes"
          "'images[0].fileSizeBytes' must be non-negative (found -10)" ∧
      (respond .standard (Request.submitting (knifeText "10")) {}).1 =
        .json 200 (Policy.standard.review (knifeListing 10)).document ∧
      (Policy.standard.review (knifeListing 10)).status = .flagged := by
  have hjson (size : String) : (Request.submitting (knifeText size)).IsJson :=
    Http.announcesJson_iff.mp (announcesJson_submitting _)
  obtain ⟨⟨hlength, hread, hcheck⟩, ⟨hlength', hread', hcheck'⟩, hflagged⟩ :
      ((octets (knifeText "-10")).length ≤ bodyLimit ∧
        Submission.shape.reader.front (octets (knifeText "-10")) =
          .ok (knifeSubmission (.negative (-10))) ∧
        (knifeSubmission (.negative (-10))).check =
          .error (.negative "images[0].fileSizeBytes" (-10))) ∧
      ((octets (knifeText "10")).length ≤ bodyLimit ∧
        Submission.shape.reader.front (octets (knifeText "10")) =
          .ok (knifeSubmission (.unsigned 10)) ∧
        (knifeSubmission (.unsigned 10)).check = .ok (knifeListing 10)) ∧
      (Policy.standard.review (knifeListing 10)).status = .flagged := by
    decide +kernel
  have hblamed := (post_answer .standard {} rfl (path_submitting _)).2.1 (hjson "-10") hlength
  have hreviewed := (post_answer .standard {} rfl (path_submitting _)).2.1 (hjson "10") hlength'
  exact ⟨(hblamed.2 _ hread).1 _ hcheck, (hreviewed.2 _ hread').2 _ hcheck', hflagged⟩

end Server

end ListingReview
