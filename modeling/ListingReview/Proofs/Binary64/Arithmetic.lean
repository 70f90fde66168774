import ListingReview.Binary64.Arithmetic
import ListingReview.Proofs.Binary64.Nearest

/-! # Binary64: order of sums and products

Rounding keeps the order, and so do products of numbers that are not negative (`mul_mono`). A
difference whose subtrahend is larger falls below zero, whatever is lost in rounding
(`sub_below_zero`). -/

namespace ListingReview.Binary64

theorem ofNat_zero_one : ofNat 0 = ⟨false, 0⟩ ∧ ofNat 1 = ⟨false, 1023 * leadingBit⟩ := by
  decide +kernel

theorem ofNat_zero : ofNat 0 = ⟨false, 0⟩ := ofNat_zero_one.1

theorem ofNat_one : ofNat 1 = ⟨false, 1023 * leadingBit⟩ := ofNat_zero_one.2

theorem ofNat_negative (n : Nat) : (ofNat n).negative = false := rfl

theorem ofRatio_magnitude (num den : Nat) :
    (ofRatio num den).magnitude = nearest (num * unit) den := by
  rw [ofRatio]

theorem ofNat_magnitude (n : Nat) : (ofNat n).magnitude = nearest (n * unit) 1 := by
  rw [ofNat, ofRatio_magnitude]

theorem ofNat_magnitude_le (n : Nat) : (ofNat n).magnitude ≤ infinity := by
  rw [ofNat_magnitude]
  exact nearest_le_infinity _ _

theorem ofNat_mono {m n : Nat} (h : m ≤ n) : (ofNat m).magnitude ≤ (ofNat n).magnitude := by
  rw [ofNat_magnitude, ofNat_magnitude]
  exact nearest_mono Nat.one_pos (Nat.mul_le_mul_right _ h)

theorem unit_pos : 0 < unit := by
  have hpow (exponent : Nat) : 0 < 1 <<< exponent := by
    rw [Nat.one_shiftLeft]
    exact Nat.two_pow_pos exponent
  exact hpow _

/-- A number of steps other than zero does not round to zero. -/
theorem nearest_pos {steps : Nat} (h : steps ≠ 0) : 0 < nearest steps 1 := by
  have hone : nearest 1 1 = 1 := by decide +kernel
  have : nearest 1 1 ≤ nearest steps 1 := nearest_mono Nat.one_pos (Nat.one_le_iff_ne_zero.mpr h)
  omega

variable {x y : Binary64}

/-- Numbers without a minus sign have the order of their magnitudes. -/
theorem below_eq (hx : x.negative = false) (hy : y.negative = false) (hxle : x.magnitude ≤ infinity)
    (hyle : y.magnitude ≤ infinity) : below x y = decide (x.magnitude < y.magnitude) := by
  have hxfinite : ¬ infinity < x.magnitude := by omega
  have hyfinite : ¬ infinity < y.magnitude := by omega
  rw [below, isUndefined, isUndefined, place, place, hx, hy, decide_eq_false hxfinite,
    decide_eq_false hyfinite]
  simp only [Bool.not_false, Bool.true_and, Bool.false_eq_true, if_false, Int.ofNat_lt]

/-! ### Products -/

theorem mul_negative (hx : x.negative = false) (hy : y.negative = false) :
    (mul x y).negative = false := by
  unfold mul
  rw [hx, hy]
  dsimp only
  split_ifs <;> rfl

/-- The product with a finite number other than zero. -/
theorem mul_magnitude (hx : x.magnitude < infinity) (hx0 : x.magnitude ≠ 0)
    (hy : y.magnitude ≤ infinity) :
    (mul x y).magnitude =
      if y.magnitude = infinity then infinity
      else nearest (stepsOf x.magnitude * stepsOf y.magnitude) unit := by
  have hfinite : ¬ infinity < x.magnitude := by omega
  have hne : x.magnitude ≠ infinity := by omega
  unfold mul
  by_cases hinf : y.magnitude = infinity
  · have h0 : infinity ≠ 0 := by decide
    simp [isUndefined, isInfinite, hfinite, hx0, hinf, h0]
  · simp [isUndefined, isInfinite, hfinite, hne, hinf, Nat.not_lt.mpr hy]

theorem mul_magnitude_le (hx : x.magnitude < infinity) (hx0 : x.magnitude ≠ 0)
    (hy : y.magnitude ≤ infinity) : (mul x y).magnitude ≤ infinity := by
  rw [mul_magnitude hx hx0 hy]
  split_ifs
  · exact Nat.le_refl _
  · exact nearest_le_infinity _ _

theorem mul_mono {z : Binary64} (hx : x.magnitude < infinity) (hx0 : x.magnitude ≠ 0)
    (hyz : y.magnitude ≤ z.magnitude) (hz : z.magnitude ≤ infinity) :
    (mul x y).magnitude ≤ (mul x z).magnitude := by
  rw [mul_magnitude hx hx0 (hyz.trans hz), mul_magnitude hx hx0 hz]
  split_ifs with h1 h2 h2
  · exact Nat.le_refl _
  · omega
  · exact nearest_le_infinity _ _
  · exact nearest_mono unit_pos (Nat.mul_le_mul_left _ (stepsOf_strictMono.monotone hyz))

/-! ### Differences -/

/-- What is negative and not zero is below zero. -/
theorem below_zero {magnitude : Nat} (h0 : 0 < magnitude) (hle : magnitude ≤ infinity) :
    below ⟨true, magnitude⟩ (ofNat 0) = true := by
  have hfinite : ¬ infinity < magnitude := by omega
  rw [ofNat_zero]
  simp [below, isUndefined, place, hfinite, h0]

theorem sub_below_zero (hx : x.negative = false) (hy : y.negative = false)
    (h : x.magnitude < y.magnitude) (hle : y.magnitude ≤ infinity) :
    below (sub x y) (ofNat 0) = true := by
  have hfinite : ¬ infinity < x.magnitude := by omega
  have hne : x.magnitude ≠ infinity := by omega
  by_cases hinf : y.magnitude = infinity
  · have hsub : sub x y = ⟨true, infinity⟩ := by
      simp [sub, add, neg, isUndefined, isInfinite, hy, hfinite, hne, hinf]
    rw [hsub]
    exact below_zero (by decide) (Nat.le_refl _)
  · -- both are finite, and their difference is at least one step
    have hsteps := stepsOf_strictMono h
    have hsum : (stepsOf x.magnitude : Int) + -(stepsOf y.magnitude : Int) ≠ 0 := by omega
    have hneg : (stepsOf x.magnitude : Int) + -(stepsOf y.magnitude : Int) < 0 := by omega
    have hsub : sub x y =
        ⟨true, nearest ((stepsOf x.magnitude : Int) + -(stepsOf y.magnitude : Int)).natAbs 1⟩ := by
      simp [sub, add, neg, isUndefined, isInfinite, steps, hx, hy, hfinite, hne, hinf,
        Nat.not_lt.mpr hle, hsum, hneg]
    rw [hsub]
    exact below_zero (nearest_pos (by omega)) (nearest_le_infinity _ _)

end ListingReview.Binary64
