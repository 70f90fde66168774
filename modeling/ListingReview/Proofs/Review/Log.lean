import ListingReview.Proofs.Review.Score

/-! # Review: the log of a desk

A desk takes matters one after another: submissions, which it checks first, and listings, which it
reviews at once. The notes that one matter leaves are those with which the next one is taken.

* `take_eq`: what a matter comes to depends on the policy alone, and only a decision is noted.
* `notes_takeAll`: whatever the recorder, the notes after a run are those before it with the
  decisions that were returned recorded in their order.
* `log_takeAll`: a desk that keeps the decisions themselves. -/

namespace ListingReview

/-- What a desk is asked to review. -/
inductive Matter where
  | submission (submission : Submission)
  | listing (listing : Listing)

/-- What a matter comes to under a policy: a listing to its decision, a submission to that on its
listing or to its first violation. -/
def Policy.outcome (policy : Policy) : Matter → Except Refusal Decision
  | .listing listing => .ok (policy.review listing)
  | .submission submission =>
    match submission.check with
    | .ok listing => .ok (policy.review listing)
    | .error violation => .error (.invalid violation)

namespace Desk

variable {σ : Type}

/-- Takes one matter. -/
def take (desk : Desk σ) (notes : σ) : Matter → Except Refusal Decision × σ
  | .submission submission => desk.reviewSubmission notes submission
  | .listing listing => desk.review notes listing

/-- Takes matters one after another: what they come to, and the notes after the last of them. -/
def takeAll (desk : Desk σ) (notes : σ) : List Matter → List (Except Refusal Decision) × σ
  | [] => ([], notes)
  | matter :: matters =>
    let (result, notes') := desk.take notes matter
    let (results, notes'') := desk.takeAll notes' matters
    (result :: results, notes'')

/-- The decisions among results. -/
def decided (results : List (Except Refusal Decision)) : List Decision :=
  results.filterMap Except.toOption

/-- The notes after a result: a decision is recorded, a refusal is not. -/
def noted (desk : Desk σ) (notes : σ) : Except Refusal Decision → σ
  | .ok decision => desk.recorder.record notes decision
  | .error _ => notes

theorem take_eq (desk : Desk σ) (notes : σ) (matter : Matter) :
    desk.take notes matter =
      (desk.policy.outcome matter, desk.noted notes (desk.policy.outcome matter)) := by
  rcases matter with submission | listing
  · rw [take, reviewSubmission_eq, Policy.outcome]
    rcases submission.check with violation | listing <;> rfl
  · rw [take, review_eq, Policy.outcome, noted]

theorem results_takeAll (desk : Desk σ) : ∀ (notes : σ) (matters : List Matter),
    (desk.takeAll notes matters).1 = matters.map desk.policy.outcome
  | _, [] => rfl
  | notes, matter :: matters => by
    rw [takeAll, take_eq]
    exact congrArg (_ :: ·) (results_takeAll desk _ matters)

theorem notes_takeAll (desk : Desk σ) : ∀ (notes : σ) (matters : List Matter),
    (desk.takeAll notes matters).2 =
      (decided (desk.takeAll notes matters).1).foldl desk.recorder.record notes
  | _, [] => rfl
  | notes, matter :: matters => by
    have ih := notes_takeAll desk (desk.noted notes (desk.policy.outcome matter)) matters
    rw [takeAll, take_eq]
    refine ih.trans ?_
    rcases hresult : desk.policy.outcome matter with refusal | decision
    · rfl
    · rfl

/-- The desk with one more matter behind a run. -/
theorem takeAll_concat (desk : Desk σ) : ∀ (notes : σ) (matters : List Matter) (matter : Matter),
    (desk.takeAll notes (matters ++ [matter])).2 =
      desk.noted (desk.takeAll notes matters).2 (desk.policy.outcome matter)
  | notes, [], matter => by
    rw [List.nil_append, takeAll, takeAll, take_eq]
    rfl
  | notes, first :: matters, matter => by
    rw [List.cons_append, takeAll, takeAll, take_eq]
    exact takeAll_concat desk _ matters matter

theorem foldl_log : ∀ (log decisions : List Decision),
    decisions.foldl Recorder.log.record log = log ++ decisions
  | log, [] => (List.append_nil log).symm
  | log, decision :: decisions => by
    rw [List.foldl_cons, foldl_log]
    exact List.append_assoc log [decision] decisions

/-- **The log of a desk** holds the decisions that were returned, in the order of the matters and
each of them once. A listing always comes to its decision; a submission comes to that on its
listing if it passes the check, and otherwise to the violation that the check finds, and then the
log stays as it was. -/
theorem log_takeAll (policy : Policy) (log : List Decision) (matters : List Matter) :
    let desk : Desk (List Decision) := ⟨policy, Recorder.log⟩
    ((desk.takeAll log matters).1 = matters.map fun matter =>
        match matter with
        | .listing listing => .ok (policy.review listing)
        | .submission submission =>
          match submission.check with
          | .ok listing => .ok (policy.review listing)
          | .error violation => .error (.invalid violation)) ∧
      (desk.takeAll log matters).2 =
        log ++ (desk.takeAll log matters).1.filterMap Except.toOption ∧
      (∀ (submission : Submission) (decision : Decision),
        (desk.take log (.submission submission)).1 = .ok decision ↔
          ∃ listing, submission.check = .ok listing ∧ policy.review listing = decision) ∧
      ∀ matter, (desk.takeAll log (matters ++ [matter])).2 =
        match (desk.take (desk.takeAll log matters).2 matter).1 with
        | .ok decision => (desk.takeAll log matters).2 ++ [decision]
        | .error _ => (desk.takeAll log matters).2 := by
  refine ⟨results_takeAll _ log matters, ?_, fun submission decision => ?_, fun matter => ?_⟩
  · rw [notes_takeAll]
    exact foldl_log _ _
  · rw [take_eq, Policy.outcome]
    rcases submission.check with violation | listing <;> simp
  · rw [takeAll_concat, take_eq]
    rcases policy.outcome matter with refusal | decision <;> rfl

end Desk

end ListingReview
