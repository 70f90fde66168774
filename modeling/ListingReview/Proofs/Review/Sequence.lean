import ListingReview.Proofs.Binary64.Unit
import ListingReview.Proofs.Review.Score

/-! # Review: rules in any order

What holds of a draft however many rules are applied to it, and in whatever order: its score stays
from nought to one (`inUnit_step`), its labels only grow (`labels_step`), and once the text of a
listing with banned terms was judged the draft is rejected for good (`Rejected.step`), since the
rule for the text finds the same terms again, a penalty takes nothing from a score of nought, and an
image can only turn an approval into a review. Each is said of one step and then of a run. -/

namespace ListingReview

/-! ### The score -/

namespace Rule

theorem scores_inUnit :
    rejectedScore.InUnit ∧ textReviewScore.InUnit ∧ imageReviewScore.InUnit ∧
      Draft.approvedScore.InUnit := by
  decide +kernel

/-- A penalty leaves a score from nought to one, as many images as there may be. -/
theorem penalized_inUnit {score : Binary64} (h : score.InUnit) (tooLarge : Nat) :
    (penalized score tooLarge).InUnit := by
  obtain ⟨hne, hfinite⟩ := oversizeCost_magnitude
  have hscore : score.magnitude < Binary64.infinity :=
    h.magnitude_le.trans_lt Binary64.one_lt_infinity
  have hcost : (Binary64.mul oversizeCost (Binary64.ofNat tooLarge)).magnitude ≤
      Binary64.infinity :=
    Binary64.mul_magnitude_le hfinite hne (Binary64.ofNat_magnitude_le tooLarge)
  exact Binary64.inUnit_clamp (Binary64.sub_defined hscore hcost)

end Rule

theorem Ground.lowered_inUnit {score : Binary64} (h : score.InUnit) (tooLarge : Nat) :
    (lowered score tooLarge).InUnit := by
  unfold lowered
  split_ifs
  · exact h
  · exact Rule.penalized_inUnit h tooLarge

theorem Ground.lowered_rejectedScore (tooLarge : Nat) :
    lowered Rule.rejectedScore tooLarge = Rule.rejectedScore := by
  unfold lowered
  split_ifs with hnone
  · rfl
  · exact Rule.penalized_of_many rfl (by decide +kernel) (Nat.one_le_iff_ne_zero.mpr hnone)

namespace Draft

variable (policy : Policy) (listing : Listing) (draft : Draft)

/-! ### Steps -/

theorem inUnit_step {draft : Draft} (h : draft.score.InUnit) (rule : Rule) :
    (draft.step policy listing rule).score.InUnit := by
  obtain ⟨hrejected, htextReview, himageReview, happroved⟩ := Rule.scores_inUnit
  cases rule with
  | textKeywords =>
    -- the verdict on the text replaces whatever score there was
    rw [step, Rule.judge]
    by_cases hb : policy.bannedIn listing = []
    · by_cases hf : policy.flaggedIn listing = []
      · rw [policy.judgeText_of_clear listing hb hf]
        exact happroved
      · rw [policy.judgeText_of_flagged listing hb hf]
        exact htextReview
    · rw [policy.judgeText_of_banned listing hb]
      exact hrejected
  | imageMetadata => exact h
  | oversizePenalty =>
    rw [policy.step_oversizePenalty]
    exact Ground.lowered_inUnit h _
  | flaggedImage =>
    rw [policy.step_flaggedImage]
    split_ifs
    · exact himageReview
    · exact h

theorem labels_step (rule : Rule) : draft.labels <+: (draft.step policy listing rule).labels :=
  List.prefix_append _ _

/-- The draft of a listing that is rejected for its banned terms. -/
structure Rejected : Prop where
  status : draft.status = .rejected
  score : draft.score = Rule.rejectedScore
  notes : draft.notes = "Blocked terms detected: " ++ ", ".intercalate (policy.bannedIn listing)

section Banned

variable {policy listing draft}
variable (hbanned : policy.bannedIn listing ≠ [])
include hbanned

theorem rejected_step (draft : Draft) :
    (draft.step policy listing .textKeywords).Rejected policy listing := by
  rw [step, Rule.judge, policy.judgeText_of_banned listing hbanned]
  exact ⟨rfl, rfl, rfl⟩

/-- No rule takes a rejection back. -/
theorem Rejected.step (h : draft.Rejected policy listing) (rule : Rule) :
    (draft.step policy listing rule).Rejected policy listing := by
  obtain ⟨hstatus, hscore, hnotes⟩ := h
  cases rule with
  | textKeywords => exact rejected_step hbanned draft
  | imageMetadata => exact ⟨hstatus, hscore, hnotes⟩
  | oversizePenalty =>
    rw [policy.step_oversizePenalty]
    refine ⟨hstatus, ?_, hnotes⟩
    rw [hscore, Ground.lowered_rejectedScore]
  | flaggedImage =>
    rw [policy.step_flaggedImage, if_neg (by simp [hstatus])]
    exact ⟨hstatus, hscore, hnotes⟩

end Banned

/-! ### Runs -/

theorem run_append (before after : List Rule) :
    draft.run policy listing (before ++ after) =
      (draft.run policy listing before).run policy listing after :=
  List.foldl_append

/-- What every rule keeps is kept by a run. -/
theorem run_induction {P : Draft → Prop}
    (hstep : ∀ draft rule, P draft → P (draft.step policy listing rule)) (rules : List Rule) :
    ∀ {draft : Draft}, P draft → P (draft.run policy listing rules) := by
  induction rules with
  | nil => exact fun h => h
  | cons rule rules ih => exact fun h => ih (hstep _ rule h)

theorem inUnit_run {draft : Draft} (h : draft.score.InUnit) (rules : List Rule) :
    (draft.run policy listing rules).score.InUnit :=
  run_induction policy listing (P := fun draft => draft.score.InUnit)
    (fun _ rule hscore => inUnit_step policy listing hscore rule) rules h

theorem labels_run (rules : List Rule) :
    draft.labels <+: (draft.run policy listing rules).labels :=
  run_induction policy listing (P := fun later => draft.labels <+: later.labels)
    (fun later rule hprefix => hprefix.trans (labels_step policy listing later rule)) rules
    (List.prefix_refl _)

theorem rejected_run (hbanned : policy.bannedIn listing ≠ []) {rules : List Rule}
    (h : .textKeywords ∈ rules) : (draft.run policy listing rules).Rejected policy listing := by
  obtain ⟨before, after, rfl⟩ := List.append_of_mem h
  rw [run_append, run, List.foldl_cons]
  exact run_induction policy listing (fun _ rule hrejected => hrejected.step hbanned rule) after
    (rejected_step hbanned _)

/-- **Rules in any order.** From a score from nought to one every step of a run leaves such a score,
and the labels after it begin with those before it; and as soon as the text of a listing with banned
terms was judged, the draft is rejected, with a score of nought and with notes that name the
terms, whatever rules follow. -/
theorem run_invariants {draft : Draft} (hscore : draft.score.InUnit) (rules : List Rule) :
    (∀ done more, done <+: more → more <+: rules →
        (draft.run policy listing more).score.InUnit ∧
          (draft.run policy listing done).labels <+: (draft.run policy listing more).labels) ∧
      (policy.bannedIn listing ≠ [] → ∀ done, done <+: rules → .textKeywords ∈ done →
        (draft.run policy listing done).status = .rejected ∧
          (draft.run policy listing done).score = Binary64.ofNat 0 ∧
          (draft.run policy listing done).notes =
            "Blocked terms detected: " ++ ", ".intercalate (policy.bannedIn listing)) := by
  refine ⟨fun done more hdone _ => ⟨inUnit_run policy listing hscore more, ?_⟩, ?_⟩
  · obtain ⟨after, rfl⟩ := hdone
    rw [run_append]
    exact labels_run policy listing _ after
  · intro hbanned done _ htext
    obtain ⟨hstatus, hnought, hnotes⟩ := rejected_run policy listing draft hbanned htext
    exact ⟨hstatus, hnought, hnotes⟩

/-- A draft that has labels of images already, for a carving: the penalties before the text is
judged take something off the score, and what comes after does not bring it back. -/
theorem run_invariants_for_carving :
    let carving : Listing :=
      ⟨"listing-1", "seller-1", "listing_created", "Ivory carving", none, none, none, none,
        [⟨"front", "front.svg", some "image/svg+xml", some 100⟩], []⟩
    let draft : Draft := ⟨.approved, Binary64.ofRatio 1 2, "", [.imageTooLarge, .imageFlagged]⟩
    let rules : List Rule :=
      [.oversizePenalty, .flaggedImage, .textKeywords, .imageMetadata, .oversizePenalty,
        .flaggedImage]
    draft.score.InUnit ∧ Policy.standard.bannedIn carving = ["ivory"] ∧
      draft.labels <+: (draft.run .standard carving rules).labels ∧
      (draft.run .standard carving rules).status = .rejected ∧
      (draft.run .standard carving rules).notes = "Blocked terms detected: ivory" := by
  intro carving draft rules
  have hscore : draft.score.InUnit := by decide +kernel
  have hbanned : Policy.standard.bannedIn carving = ["ivory"] := by decide +kernel
  obtain ⟨hsteps, hrejected⟩ := run_invariants .standard carving hscore rules
  obtain ⟨hstatus, -, hnotes⟩ :=
    hrejected (by simp [hbanned]) rules (List.prefix_refl _) (by decide)
  rw [hbanned] at hnotes
  exact ⟨hscore, hbanned, (hsteps [] rules List.nil_prefix (List.prefix_refl _)).2, hstatus, hnotes⟩

end Draft

end ListingReview
