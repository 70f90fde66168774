import ListingReview.Command.Run
import ListingReview.Proofs.Json.Reading
import ListingReview.Proofs.Review.Score
import ListingReview.Proofs.Submission.Check
import ListingReview.Server

/-! # Server: the answer and the command line

A submission can be sent to the server or handed to the command line. Both read it as JSON, check it
and review it, but the server reads its body only up to the end of the first value
(`Reader.front`), and the command line wants nothing but blanks behind it (`Reader.whole`).

* `whole_of_textBehind`, `whole_eq_front`: text behind the first value is the one difference between
  the two ways to read.
* `reviewInput_eq`, `respond_submitting`: what the command line and the server come to.
* `submission_agrees_iff`: they agree on a text if, and only if, nothing stands behind its first
  value. -/

namespace ListingReview

open Http (Body Request Response)
open Text (Octets octets)

/-! ### Reading -/

namespace Json.Reader

variable {α : Type} {reader : Reader α} {bytes : Octets}

/-- Something other than blanks stands behind the first value. -/
def TextBehind (reader : Reader α) (bytes : Octets) : Prop :=
  ∃ value rest, reader.read bytes = .ok (value, rest) ∧ skipBlanks rest ≠ []

theorem whole_of_textBehind (h : reader.TextBehind bytes) :
    reader.whole bytes = .error Cause.trailingCharacters.here := by
  obtain ⟨value, rest, hread, hrest⟩ := h
  rw [whole, hread]
  simp only [List.isEmpty_iff, if_neg hrest]

/-- With nothing behind the first value both ways to read a text come to the same. -/
theorem whole_eq_front (h : ¬ reader.TextBehind bytes) :
    reader.whole bytes = reader.front bytes := by
  rw [whole, front]
  cases hread : reader.read bytes with
  | error fault => rfl
  | ok found =>
    obtain ⟨value, rest⟩ := found
    have hrest : skipBlanks rest = [] := by
      by_contra hne
      exact h ⟨value, rest, hread, hne⟩
    simp only [hrest, List.isEmpty_nil, if_true]
    rfl

end Json.Reader

/-! ### Decisions as documents -/

theorem Status.name_injective : Function.Injective Status.name := by
  intro status status' h
  cases status <;> cases status' <;> first | rfl | exact absurd h (by decide)

theorem Label.name_injective : Function.Injective Label.name := by
  intro label label' h
  cases label <;> cases label' <;> first | rfl | exact absurd h (by decide)

/-- A document shows all of a decision. -/
theorem Decision.document_injective : Function.Injective Decision.document := by
  rintro ⟨listingId, status, score, labels, notes⟩ ⟨listingId', status', score', labels', notes'⟩ h
  have htext : Function.Injective fun label : Label => Json.Document.text label.name :=
    fun _ _ he => Label.name_injective (Json.Document.text.inj he)
  simp only [document, Json.Shape.format, shape, Json.Member.required, Json.Format.text,
    Json.Format.choice, Json.Format.float, Json.Format.list, List.map_cons, List.map_nil,
    Json.Document.object.injEq, List.cons.injEq, Prod.mk.injEq, Json.Document.text.injEq,
    Json.Document.float.injEq, Json.Document.list.injEq, true_and, and_true] at h
  obtain ⟨rfl, hstatus, rfl, hlabels, rfl⟩ := h
  rw [Status.name_injective hstatus, List.map_injective_iff.mpr htext hlabels]

/-! ### The two ways -/

/-- A request that submits a text. -/
def Http.Request.submitting (text : String) : Request where
  method := "POST"
  target := "/moderations/listings"
  contentType := some "application/json"
  body := octets text

/-- What stands in an input. -/
def Surroundings.Holds (around : Surroundings) (text : String) : Input → Prop
  | .console => around.console = octets text
  | .file path => around.file path = .ok (octets text)

/-- Surroundings with nothing but a text on the console. -/
def Surroundings.onConsole (text : String) : Surroundings where
  settings _ := none
  console := octets text

theorem Surroundings.onConsole_holds (text : String) :
    (Surroundings.onConsole text).Holds text .console := rfl

/-- The decision of the command line on the submission in an input, under a policy. -/
def Policy.reviewInput (policy : Policy) (around : Surroundings) (input : Input) :
    Except Failure Decision := do
  let bytes ← around.fetch input
  let submission ← Submission.ofOctets bytes
  policy.reviewSubmission submission

/-- The answer to a submission that has been read. -/
def Policy.answer (policy : Policy) (submission : Submission) : Response :=
  match submission.check with
  | .error violation => Server.failed (.review (.invalid violation))
  | .ok listing => .json 200 (policy.review listing).document

theorem Policy.reviewSubmission_eq (policy : Policy) (submission : Submission) :
    policy.reviewSubmission submission =
      match submission.check with
      | .error violation => .error (.review (.invalid violation))
      | .ok listing => .ok (policy.review listing) := by
  rw [Policy.reviewSubmission, Desk.reviewSubmission_eq]
  cases submission.check <;> rfl

theorem Surroundings.fetch_eq {around : Surroundings} {text : String} {input : Input}
    (h : around.Holds text input) : around.fetch input = .ok (octets text) := by
  cases input with
  | console =>
    change around.console = octets text at h
    simp only [fetch, h, Text.ofOctets?_octets]
  | file path =>
    change around.file path = .ok (octets text) at h
    rw [fetch, h]
    rfl

theorem Policy.reviewInput_eq {around : Surroundings} {text : String} {input : Input}
    (policy : Policy) (h : around.Holds text input) :
    policy.reviewInput around input =
      match Submission.shape.reader.whole (octets text) with
      | .error fault => .error (.decode fault.cause)
      | .ok submission => policy.reviewSubmission submission := by
  rw [Policy.reviewInput, Surroundings.fetch_eq h]
  change (Submission.ofOctets (octets text) >>= policy.reviewSubmission) = _
  rw [Submission.ofOctets]
  cases Submission.shape.reader.whole (octets text) <;> rfl

namespace Server

/-! ### What is posted -/

theorem route?_listings : route? "/moderations/listings" = some .listings := by decide

theorem respond_posted (policy : Policy) {request : Request} (state : State)
    (hmethod : request.method = "POST") (hpath : request.path = "/moderations/listings") :
    respond policy request state =
      ((moderate policy request state.count).1,
        { state with count := (moderate policy request state.count).2 }) := by
  rw [respond, hpath, route?_listings]
  exact if_pos hmethod

section Moderate

variable (policy : Policy) {request : Request} (count : Count)

theorem moderate_refused {fault : BodyFault} (h : readBody request = .error fault) :
    (moderate policy request count).1 = failed (.body fault) := by
  rw [moderate, h]

theorem moderate_read {submission : Submission} (h : readBody request = .ok submission) :
    (moderate policy request count).1 = policy.answer submission := by
  simp only [moderate, h, Policy.answer, Desk.reviewSubmission_eq]
  rcases submission.check with violation | listing <;> rfl

end Moderate

theorem readBody_announced {request : Request}
    (h : Http.announcesJson request.contentType = true)
    (hlength : request.body.length ≤ bodyLimit) : readBody request =
      (Submission.shape.reader.front request.body).mapError .unreadable := by
  simp [readBody, h, Nat.not_lt.mpr hlength]

theorem path_submitting (text : String) :
    (Request.submitting text).path = "/moderations/listings" := by
  change String.ofList (Http.pathOf "/moderations/listings".toList) = "/moderations/listings"
  decide

theorem announcesJson_submitting (text : String) :
    Http.announcesJson (Request.submitting text).contentType = true := by
  change Http.announcesJson (some "application/json") = true
  decide

theorem readBody_submitting {text : String} (h : (octets text).length ≤ bodyLimit) :
    readBody (Request.submitting text) =
      (Submission.shape.reader.front (octets text)).mapError .unreadable :=
  readBody_announced (announcesJson_submitting text) h

theorem respond_submitting (policy : Policy) (state : State) {text : String}
    (h : (octets text).length ≤ bodyLimit) :
    (respond policy (Request.submitting text) state).1 =
      match Submission.shape.reader.front (octets text) with
      | .error fault => failed (.body (.unreadable fault))
      | .ok submission => policy.answer submission := by
  rw [respond_posted policy state rfl (path_submitting text)]
  rcases hfront : Submission.shape.reader.front (octets text) with fault | submission
  · exact moderate_refused policy _ (by rw [readBody_submitting h, hfront]; rfl)
  · exact moderate_read policy _ (by rw [readBody_submitting h, hfront]; rfl)

/-! ### Agreement -/

/-- The member that a document blames. -/
def blamed? : Body → Option String
  | .json (.object members) =>
    match members.lookup "field" with
    | some (.text field) => some field
    | _ => none
  | _ => none

/-- An answer and what the command line comes to are the same: a decision; a violation, with the
member at fault and its message; or a fault of the text, of the same category and in the same words
but for its place. -/
structure Agrees (response : Response) (offline : Except Failure Decision) : Prop where
  decided : ∀ decision : Decision,
    response = .json 200 decision.document ↔ offline = .ok decision
  violated : ∀ field message : String,
    response = .json 422 (.object [("error", .text message), ("field", .text field)]) ↔
      ∃ violation : Violation, offline = .error (.review (.invalid violation)) ∧
        violation.field = field ∧ violation.message = message
  malformed : response.status = 400 ↔
    ∃ cause : Json.Cause, offline = .error (.decode cause) ∧ cause.category ≠ .unfitting
  unfitting : response.status = 422 ∧ blamed? response.body = none ↔
    ∃ cause : Json.Cause, offline = .error (.decode cause) ∧ cause.category = .unfitting
  worded : ∀ cause : Json.Cause, offline = .error (.decode cause) →
    ∃ path, response = failed (.body (.unreadable ⟨path, cause⟩))

theorem blamed?_violated (violation : Violation) :
    blamed? (failed (.review (.invalid violation))).body = some violation.field := rfl

theorem blamed?_unreadable (fault : Json.Fault) :
    blamed? (failed (.body (.unreadable fault))).body = none := rfl

theorem agrees_decided (decision : Decision) :
    Agrees (.json 200 decision.document) (.ok decision) where
  decided other := by
    constructor
    · intro h
      simp only [Response.json, Response.mk.injEq, Body.json.injEq, true_and] at h
      rw [Decision.document_injective h]
    · rintro ⟨⟩
      rfl
  violated field message := by simp [Response.json]
  malformed := by simp [Response.json]
  unfitting := by simp [Response.json]
  worded cause h := by cases h

theorem agrees_violated (violation : Violation) :
    Agrees (failed (.review (.invalid violation))) (.error (.review (.invalid violation))) where
  decided decision := by simp [failed, Failure.status, Response.json]
  violated field message := by
    simp [failed, Failure.status, Failure.document, Response.json, and_comm]
  malformed := by simp [failed, Failure.status, Response.json]
  unfitting := by simp [blamed?_violated]
  worded cause h := by cases h

theorem agrees_unreadable (fault : Json.Fault) :
    Agrees (failed (.body (.unreadable fault))) (.error (.decode fault.cause)) where
  decided decision := by
    have hstatus : (failed (.body (.unreadable fault))).status ≠ 200 := by
      simp only [failed, Failure.status, BodyFault.status, Response.json]
      split <;> decide
    constructor
    · intro h
      exact absurd (congrArg Response.status h) hstatus
    · rintro ⟨⟩
  violated field message := by
    simp [failed, Failure.document, Response.json]
  malformed := by
    simp only [failed, Failure.status, BodyFault.status, Response.json]
    cases hcategory : fault.cause.category <;> simp [hcategory]
  unfitting := by
    rw [blamed?_unreadable]
    simp only [failed, Failure.status, BodyFault.status, Response.json]
    cases hcategory : fault.cause.category <;> simp [hcategory]
  worded cause h := by
    cases h
    exact ⟨fault.path, rfl⟩

/-- A submission that has been read gets the same from both. -/
theorem agrees_answer (policy : Policy) (submission : Submission) :
    Agrees (policy.answer submission) (policy.reviewSubmission submission) := by
  rw [Policy.answer, Policy.reviewSubmission_eq]
  cases submission.check with
  | error violation => exact agrees_violated violation
  | ok listing => exact agrees_decided _

theorem answer_status_ne (policy : Policy) (submission : Submission) :
    (policy.answer submission).status ≠ 400 := by
  rw [Policy.answer]
  cases submission.check with
  | error violation => simp [failed, Failure.status, Response.json]
  | ok listing => simp [Response.json]

/-- Text behind the first value is refused on the command line. -/
theorem reviewInput_of_textBehind (policy : Policy) {around : Surroundings} {input : Input}
    {text : String} (hinput : around.Holds text input)
    (hbehind : Submission.shape.reader.TextBehind (octets text)) :
    policy.reviewInput around input = .error (.decode .trailingCharacters) := by
  rw [policy.reviewInput_eq hinput, Json.Reader.whole_of_textBehind hbehind]
  rfl

/-- The server does not look at it. -/
theorem respond_of_read (policy : Policy) (state : State) {text : String} {submission : Submission}
    {rest : Octets} (hlength : (octets text).length ≤ bodyLimit)
    (hread : Submission.shape.reader.read (octets text) = .ok (submission, rest)) :
    (respond policy (Request.submitting text) state).1 = policy.answer submission := by
  rw [respond_submitting policy state hlength, Json.Reader.front_of_read hread]

theorem not_agrees (policy : Policy) (state : State) {around : Surroundings} {input : Input}
    {text : String} (hinput : around.Holds text input) (hlength : (octets text).length ≤ bodyLimit)
    (hbehind : Submission.shape.reader.TextBehind (octets text)) :
    ¬ Agrees (respond policy (Request.submitting text) state).1
      (policy.reviewInput around input) := by
  intro hagrees
  have hoffline := reviewInput_of_textBehind policy hinput hbehind
  obtain ⟨submission, rest, hread, -⟩ := hbehind
  refine answer_status_ne policy submission ?_
  rw [← respond_of_read policy state hlength hread, hagrees.malformed]
  exact ⟨_, hoffline, by decide⟩

/-- **The server and the command line** agree on a text, under any policy and whether it stands in a
file or on the console, if and only if nothing but blanks stands behind its first value. Where
something does, the command line refuses the text, and the server answers as if it were not
there. -/
theorem submission_agrees_iff (policy : Policy) (state : State) (around : Surroundings)
    (input : Input) (text : String) (hinput : around.Holds text input)
    (hlength : (octets text).length ≤ bodyLimit) :
    (Agrees (respond policy (Request.submitting text) state).1 (policy.reviewInput around input) ↔
        ¬ Submission.shape.reader.TextBehind (octets text)) ∧
      (∀ submission rest, Submission.shape.reader.read (octets text) = .ok (submission, rest) →
        Json.skipBlanks rest ≠ [] →
        policy.reviewInput around input = .error (.decode .trailingCharacters) ∧
          (respond policy (Request.submitting text) state).1 = policy.answer submission) ∧
      (policy = Policy.ofSettings around.settings →
        around.moderate input = policy.reviewInput around input) := by
  refine ⟨⟨?_, ?_⟩, ?_, ?_⟩
  · intro hagrees hbehind
    exact not_agrees policy state hinput hlength hbehind hagrees
  · intro hnone
    rw [respond_submitting policy state hlength, policy.reviewInput_eq hinput,
      Json.Reader.whole_eq_front hnone]
    cases Submission.shape.reader.front (octets text) with
    | error fault => exact agrees_unreadable fault
    | ok submission => exact agrees_answer policy submission
  · intro submission rest hread hrest
    exact ⟨reviewInput_of_textBehind policy hinput ⟨submission, rest, hread, hrest⟩,
      respond_of_read policy state hlength hread⟩
  · rintro rfl
    rfl

/-- A submission with all its members. -/
def fullText : String :=
  "\x7b\"listingId\":\"l\",\"sellerId\":\"s\",\"reason\":\"new\",\"title\":\"Knife\"," ++
    "\"description\":\"Ivory handle\",\"priceCents\":1250,\"currency\":\"EUR\"," ++
    "\"desiredStatus\":\"active\",\"images\":[\x7b\"id\":\"i\",\"url\":\"u\"," ++
    "\"mimeType\":\"image/svg+xml\",\"fileSizeBytes\":10\x7d],\"variants\":[\x7b\"id\":\"v\"," ++
    "\"label\":\"short\",\"priceCents\":-250,\"currency\":\"EUR\",\"sku\":\"k\"\x7d]\x7d"

def fullListing : Listing where
  listingId := "l"
  sellerId := "s"
  reason := "new"
  title := "Knife"
  description := some "Ivory handle"
  priceCents := some 1250
  currency := some "EUR"
  desiredStatus := some "active"
  images := [⟨"i", "u", some "image/svg+xml", some 10⟩]
  variants := [⟨some "v", "short", some (-250), some "EUR", some "k"⟩]

/-- It stands alone, so the listing is rejected by both in the same way. -/
theorem submission_agrees_on_full :
    Agrees (respond .standard (Request.submitting fullText) {}).1
        (Policy.standard.reviewInput (.onConsole fullText) .console) ∧
      Policy.standard.reviewInput (.onConsole fullText) .console =
        .ok (Policy.standard.review fullListing) ∧
      (Policy.standard.review fullListing).status = .rejected := by
  obtain ⟨hlength, hread, hrejected⟩ : (octets fullText).length ≤ bodyLimit ∧
      Submission.shape.reader.read (octets fullText) = .ok (fullListing.submitted, []) ∧
      (Policy.standard.review fullListing).status = .rejected := by
    decide +kernel
  have hagrees := (submission_agrees_iff .standard {} (.onConsole fullText) .console fullText
    (Surroundings.onConsole_holds _) hlength).1
  refine ⟨hagrees.mpr ?_, ?_, hrejected⟩
  · rintro ⟨submission, rest, hread', hrest⟩
    rw [hread] at hread'
    cases hread'
    exact hrest rfl
  · rw [Policy.reviewInput_eq .standard (Surroundings.onConsole_holds _),
      Json.Reader.whole_of_read hread .nil]
    simp only [Policy.reviewSubmission_eq, Submission.check_submitted]

/-- A listing with a letter behind it. -/
def listingAndLetter : String :=
  "\x7b\"listingId\":\"l\",\"sellerId\":\"s\",\"reason\":\"r\",\"title\":\"t\"\x7dx"

/-- The server approves it, and the command line refuses it. -/
theorem submission_disagrees :
    ¬ Agrees (respond .standard (Request.submitting listingAndLetter) {}).1
      (Policy.standard.reviewInput (.onConsole listingAndLetter) .console) := by
  refine not_agrees .standard {} (Surroundings.onConsole_holds _) (by decide +kernel) ?_
  have hend : (Submission.shape.reader.read (octets listingAndLetter)).toOption.map Prod.snd =
      some [Json.octet 'x'] := by decide +kernel
  cases hread : Submission.shape.reader.read (octets listingAndLetter) with
  | error fault =>
    rw [hread] at hend
    cases hend
  | ok found =>
    rw [hread] at hend
    refine ⟨found.1, found.2, hread, ?_⟩
    rw [Option.some.inj hend]
    decide

end Server

end ListingReview
