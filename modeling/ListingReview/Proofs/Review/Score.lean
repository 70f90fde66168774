import ListingReview.Desk
import ListingReview.Proofs.Binary64.Unit
import ListingReview.Proofs.Review.Verdict

/-! # Review: the score

The score is computed with rounding at every step, but what is lost never shows: it is the number
closest to a whole number of hundredths, `Ground.hundredths`.

* `gap_hundredths_lt`: no other number is as close to hundredths as the one closest to them.
* `roundScore_score`: up to eighteen images that are too large this is computed; from there on the
  penalty is above every score, since products keep the order, and the bound cuts off the rest.
* `review_score`: the score of a decision, its range, and that the desk never refuses it. -/

namespace ListingReview

open Binary64 (infinity stepsOf gap)

/-! ### Hundredths -/

namespace Binary64

theorem hundredths_le_one {hundredths : Nat} (h : hundredths ≤ 100) :
    (ofRatio hundredths 100).magnitude ≤ (ofNat 1).magnitude := by
  rw [one_eq.1, ofRatio_magnitude, ofRatio_magnitude]
  exact nearest_mono (by decide) (Nat.mul_le_mul_right _ h)

theorem gap_quarters : ∀ quarters ≤ 4,
    gap (stepsOf (ofRatio (25 * quarters) 100).magnitude) (25 * quarters * unit) 100 = 0 := by
  decide +kernel

theorem coprime_unit : Nat.Coprime 25 unit := by
  have hpow (exponent : Nat) : Nat.Coprime 25 (1 <<< exponent) := by
    rw [Nat.one_shiftLeft]
    exact Nat.Coprime.pow_right exponent (by decide)
  exact hpow _

/-- No magnitude is as close to hundredths as the one closest to them: a tie would be at half the
sum of two magnitudes, which hundredths other than quarters are not. -/
theorem gap_hundredths_lt {hundredths magnitude : Nat} (h : hundredths ≤ 100)
    (hne : magnitude ≠ (ofRatio hundredths 100).magnitude) :
    gap (stepsOf (ofRatio hundredths 100).magnitude) (hundredths * unit) 100 <
      gap (stepsOf magnitude) (hundredths * unit) 100 := by
  have hfinite := (hundredths_le_one h).trans_lt one_lt_infinity
  rw [ofRatio_magnitude] at hfinite
  have hclosest := gap_nearest (by decide) hfinite magnitude
  rw [← ofRatio_magnitude] at hclosest
  rcases hclosest with hlt | ⟨htie, -⟩
  · exact hlt
  · exfalso
    have hsteps : stepsOf magnitude ≠ stepsOf (ofRatio hundredths 100).magnitude := fun he =>
      hne (stepsOf_strictMono.injective he)
    have hsum : 50 * (stepsOf (ofRatio hundredths 100).magnitude + stepsOf magnitude) =
        hundredths * unit := by
      unfold gap at htie
      omega
    have hdvd : 25 ∣ hundredths := by
      refine coprime_unit.dvd_of_dvd_mul_right ?_
      rw [← hsum]
      omega
    obtain ⟨quarters, rfl⟩ := hdvd
    have hexact := gap_quarters quarters (by omega)
    rw [hexact] at htie
    unfold gap at hexact htie
    omega

end Binary64

/-- The score in hundredths: every image that is too large takes off five, but no more than there
are. An image that calls for a review settles the score on its own. -/
def Ground.hundredths (tooLarge : Nat) : Ground → Nat
  | bannedText => 0
  | flaggedText => 35 - 5 * tooLarge
  | flaggedImage => 40
  | nothing => 85 - 5 * tooLarge

namespace Rule

/-! ### Many images that are too large -/

theorem oversizeCost_magnitude :
    oversizeCost.magnitude ≠ 0 ∧ oversizeCost.magnitude < infinity := by
  decide +kernel

theorem oversizeCost_negative : oversizeCost.negative = false := rfl

theorem penalized_of_many {score : Binary64} {many tooLarge : Nat} (hscore : score.negative = false)
    (hmany : score.magnitude < (Binary64.mul oversizeCost (Binary64.ofNat many)).magnitude)
    (h : many ≤ tooLarge) : penalized score tooLarge = Binary64.ofNat 0 := by
  obtain ⟨hne, hfinite⟩ := oversizeCost_magnitude
  have hmono : (Binary64.mul oversizeCost (Binary64.ofNat many)).magnitude ≤
      (Binary64.mul oversizeCost (Binary64.ofNat tooLarge)).magnitude :=
    Binary64.mul_mono hfinite hne (Binary64.ofNat_mono h) (Binary64.ofNat_magnitude_le _)
  have hbelow := Binary64.sub_below_zero hscore
    (Binary64.mul_negative oversizeCost_negative (Binary64.ofNat_negative tooLarge))
    (hmany.trans_le hmono)
    (Binary64.mul_magnitude_le hfinite hne (Binary64.ofNat_magnitude_le _))
  rw [penalized, Binary64.clamp, if_pos hbelow]

/-- A score loses five hundredths for every image that is too large: if this holds of few images
and the cost of more is above the score, it holds of any number. -/
theorem roundScore_lowered {score : Binary64} {hundredths many : Nat} (h0 : 0 < many)
    (hscore : score.negative = false)
    (hmany : score.magnitude < (Binary64.mul oversizeCost (Binary64.ofNat many)).magnitude)
    (hle : hundredths ≤ 5 * many)
    (hfew : ∀ tooLarge ≤ many, roundScore (Ground.lowered score tooLarge) =
      Binary64.ofRatio (hundredths - 5 * tooLarge) 100) (tooLarge : Nat) :
    roundScore (Ground.lowered score tooLarge) =
      Binary64.ofRatio (hundredths - 5 * tooLarge) 100 := by
  rcases Nat.le_total tooLarge many with hle' | hge
  · exact hfew tooLarge hle'
  · have hlast := hfew many (Nat.le_refl _)
    have hsame : hundredths - 5 * tooLarge = hundredths - 5 * many := by omega
    rw [Ground.lowered, if_neg (by omega), penalized_of_many hscore hmany (Nat.le_refl _)] at hlast
    rw [Ground.lowered, if_neg (by omega), penalized_of_many hscore hmany hge, hlast, hsame]

end Rule

/-- **What rounding loses on the way does not show.** -/
theorem Ground.roundScore_score (tooLarge : Nat) (ground : Ground) :
    roundScore (ground.score tooLarge) = Binary64.ofRatio (ground.hundredths tooLarge) 100 := by
  cases ground with
  | bannedText =>
    have h : ∀ n ≤ 1, roundScore (lowered Rule.rejectedScore n) =
        Binary64.ofRatio (0 - 5 * n) 100 := by decide +kernel
    have hall :=
      Rule.roundScore_lowered (by decide) rfl (by decide +kernel) (by decide) h tooLarge
    rwa [Nat.zero_sub] at hall
  | flaggedText =>
    have h : ∀ n ≤ 8, roundScore (lowered Rule.textReviewScore n) =
        Binary64.ofRatio (35 - 5 * n) 100 := by decide +kernel
    exact Rule.roundScore_lowered (by decide) rfl (by decide +kernel) (by decide) h tooLarge
  | flaggedImage =>
    have h : roundScore Rule.imageReviewScore = Binary64.ofRatio 40 100 := by decide +kernel
    exact h
  | nothing =>
    have h : ∀ n ≤ 18, roundScore (lowered Draft.approvedScore n) =
        Binary64.ofRatio (85 - 5 * n) 100 := by decide +kernel
    exact Rule.roundScore_lowered (by decide) rfl (by decide +kernel) (by decide) h tooLarge

theorem Ground.hundredths_le (tooLarge : Nat) (ground : Ground) :
    ground.hundredths tooLarge ≤ 100 := by
  cases ground <;> simp only [hundredths] <;> omega

/-! ### The score of a decision -/

theorem Policy.review_score_eq (policy : Policy) (listing : Listing) :
    (policy.review listing).score =
      Binary64.ofRatio ((policy.ground listing).hundredths (policy.tooLarge listing)) 100 := by
  rw [Policy.review, Policy.run_pipeline, ← Ground.roundScore_score]
  rfl

theorem Policy.review_scoreInBounds (policy : Policy) (listing : Listing) :
    (policy.review listing).scoreInBounds = true := by
  rw [Decision.scoreInBounds, policy.review_score_eq]
  have hle := Binary64.hundredths_le_one
    ((policy.ground listing).hundredths_le (policy.tooLarge listing))
  generalize (policy.ground listing).hundredths (policy.tooLarge listing) = hundredths at *
  have hone := Binary64.one_lt_infinity
  have hzero : (Binary64.ofNat 0).magnitude = 0 := by rw [Binary64.ofNat_zero]
  have hundefined : (Binary64.ofRatio hundredths 100).isUndefined = false :=
    decide_eq_false (by omega)
  rw [hundefined, Binary64.below_eq rfl rfl (by omega) (by omega),
    Binary64.below_eq rfl rfl (by omega) (by omega), decide_eq_false (by omega),
    decide_eq_false (by omega)]
  rfl

/-- A desk never refuses a listing. -/
theorem Desk.review_eq {σ : Type} (desk : Desk σ) (notes : σ) (listing : Listing) :
    desk.review notes listing =
      (.ok (desk.policy.review listing),
        desk.recorder.record notes (desk.policy.review listing)) := by
  rw [Desk.review, if_pos (desk.policy.review_scoreInBounds listing)]

theorem Desk.reviewSubmission_eq {σ : Type} (desk : Desk σ) (notes : σ) (submission : Submission) :
    desk.reviewSubmission notes submission =
      match submission.check with
      | .error violation => (.error (.invalid violation), notes)
      | .ok listing =>
        (.ok (desk.policy.review listing),
          desk.recorder.record notes (desk.policy.review listing)) := by
  rw [Desk.reviewSubmission]
  cases submission.check with
  | error violation => rfl
  | ok listing => exact desk.review_eq notes listing

/-- **The score of a decision** is the number closest to its hundredths, with no other one as close.
It is a number from zero to one without a minus sign, so no desk finds it out of range. -/
theorem Policy.review_score (policy : Policy) (listing : Listing) :
    (policy.review listing).score =
        Binary64.ofRatio ((policy.ground listing).hundredths (policy.tooLarge listing)) 100 ∧
      (∀ other : Binary64, other.steps = (policy.review listing).score.steps ∨
        (policy.review listing).score.distance
            ((policy.ground listing).hundredths (policy.tooLarge listing)) 100 <
          other.distance ((policy.ground listing).hundredths (policy.tooLarge listing)) 100) ∧
      (policy.review listing).score.isUndefined = false ∧
      (policy.review listing).score.negative = false ∧
      0 ≤ (policy.review listing).score.steps ∧
      (policy.review listing).score.steps ≤ Binary64.unit ∧
      ∀ (σ : Type) (recorder : Recorder σ) (notes : σ),
        (Desk.mk policy recorder).review notes listing =
          (.ok (policy.review listing), recorder.record notes (policy.review listing)) := by
  have hle := (policy.ground listing).hundredths_le (policy.tooLarge listing)
  have hone := Binary64.hundredths_le_one hle
  have hlt := Binary64.one_lt_infinity
  have hsteps := Binary64.stepsOf_strictMono.monotone hone
  rw [Binary64.one_eq.2] at hsteps
  rw [policy.review_score_eq]
  generalize (policy.ground listing).hundredths (policy.tooLarge listing) = hundredths at *
  have hsign : (Binary64.ofRatio hundredths 100).negative = false := rfl
  have hpos : (Binary64.ofRatio hundredths 100).steps =
      stepsOf (Binary64.ofRatio hundredths 100).magnitude := by
    rw [Binary64.steps, hsign]
    rfl
  refine ⟨rfl, fun other => ?_, ?_, rfl, ?_, ?_, fun σ recorder notes => ?_⟩
  · refine Classical.or_iff_not_imp_left.mpr fun hne => ?_
    exact Binary64.distance_lt (by decide) hsign
      (fun magnitude hm => Binary64.gap_hundredths_lt hle hm) hne
  · rw [Binary64.isUndefined, decide_eq_false_iff_not]
    omega
  · omega
  · omega
  · exact Desk.review_eq _ notes listing

end ListingReview
