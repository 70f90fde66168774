import ListingReview.Proofs.Binary64.Arithmetic

/-! # Binary64: the range of products

A whole number is off by at most one part in `2 ^ 53` when it is rounded (`gap_rounded_le`), and a
number of steps that a magnitude stands for is not changed at all (`nearest_stepsOf`). So a product
of two whole numbers is finite if their exact product is a few steps of the last place below
`2 ^ 1024`, and infinite if it is as many above (`mul_ofNat_finite`, `mul_ofNat_infinite`). -/

namespace ListingReview.Binary64

/-! ### Rounding error -/

theorem gap_halfEven_le {num den : Nat} (hden : 0 < den) :
    2 * gap (halfEven num den) num den ≤ den := by
  have hnum := Nat.div_add_mod num den
  have hrest := Nat.mod_lt num hden
  unfold halfEven gap
  dsimp only
  generalize num / den = quotient at *
  generalize num % den = rest at *
  have hcomm : (quotient : Int) * den = ((den * quotient : Nat) : Int) := by push_cast; ring
  have hsucc : ((quotient + 1 : Nat) : Int) * den = ((den * quotient : Nat) : Int) + den := by
    push_cast; ring
  rw [← hnum]
  generalize den * quotient = product at *
  split_ifs <;> omega

/-- Rounding is off by at most one part in `2 ^ 53`. -/
theorem gap_rounded_le (steps : Nat) :
    gap (stepsOf (rounded steps 1)) steps 1 * 2 ^ 53 ≤ steps := by
  have hden : 0 < 1 <<< cut steps 1 := by
    rw [Nat.one_shiftLeft]
    exact Nat.two_pow_pos _
  have hhalf : 2 * gap (stepsOf (rounded steps 1)) steps 1 ≤ 1 <<< cut steps 1 := by
    rw [stepsOf_rounded, ← gap_shiftLeft]
    exact gap_halfEven_le hden
  by_cases hcut : cut steps 1 = 0
  · rw [hcut, Nat.one_shiftLeft, Nat.pow_zero] at hhalf
    have hexact : gap (stepsOf (rounded steps 1)) steps 1 = 0 := by omega
    rw [hexact, Nat.zero_mul]
    exact Nat.zero_le _
  · -- the bits that are left weigh `2 ^ 52` times what is cut off
    have hlead := leadingBit_le_div hcut
    rw [Nat.le_div_iff_mul_le hden, leadingBit_eq] at hlead
    generalize 1 <<< cut steps 1 = den at *
    generalize gap (stepsOf (rounded steps 1)) steps 1 = error at *
    omega

/-- What a magnitude stands for is rounded to that magnitude. -/
theorem nearest_stepsOf {magnitude den : Nat} (hden : 0 < den) (h : magnitude ≤ infinity) :
    nearest (stepsOf magnitude * den) den = magnitude := by
  have hexact : gap (stepsOf magnitude) (stepsOf magnitude * den) den = 0 := by
    unfold gap
    push_cast
    omega
  have hclosest : gap (stepsOf (rounded (stepsOf magnitude * den) den))
      (stepsOf magnitude * den) den = 0 := by
    rcases @gap_rounded (stepsOf magnitude * den) den hden magnitude with hlt | ⟨heq, -⟩
    · omega
    · omega
  have hsame : rounded (stepsOf magnitude * den) den = magnitude := by
    refine stepsOf_strictMono.injective (Nat.eq_of_mul_eq_mul_right hden ?_)
    unfold gap at hclosest
    push_cast at hclosest
    omega
  rw [nearest_eq_min, hsame, Nat.min_eq_left h]

/-! ### The ends of the range -/

theorem stepsOf_infinity : stepsOf infinity = 2 ^ 53 * 2 ^ 971 * unit := by decide +kernel

theorem stepsOf_largest : stepsOf (infinity - 1) = (2 ^ 53 - 1) * 2 ^ 971 * unit := by
  decide +kernel

/-! ### Whole numbers and their products -/

theorem ofNat_finite {n : Nat} (h : n ≤ (2 ^ 53 - 1) * 2 ^ 971) :
    (ofNat n).magnitude < infinity := by
  have hlargest : (infinity - 1) ≤ infinity := by decide
  have hle : nearest (n * unit) 1 ≤ infinity - 1 := by
    calc nearest (n * unit) 1
        ≤ nearest (stepsOf (infinity - 1) * 1) 1 := by
          rw [stepsOf_largest, Nat.mul_one]
          exact nearest_mono Nat.one_pos (Nat.mul_le_mul_right unit h)
      _ = infinity - 1 := nearest_stepsOf Nat.one_pos hlargest
  have hpos : 0 < infinity := by decide
  rw [ofNat_magnitude]
  omega

theorem stepsOf_ofNat {n : Nat} (h : (ofNat n).magnitude < infinity) :
    stepsOf (ofNat n).magnitude * 2 ^ 53 ≤ (2 ^ 53 + 1) * (n * unit) ∧
      (2 ^ 53 - 1) * (n * unit) ≤ stepsOf (ofNat n).magnitude * 2 ^ 53 := by
  have hrounded : (ofNat n).magnitude = rounded (n * unit) 1 := by
    rw [ofNat_magnitude, nearest_eq_min] at h ⊢
    omega
  have herror := gap_rounded_le (n * unit)
  rw [← hrounded] at herror
  unfold gap at herror
  generalize n * unit = steps at *
  omega

theorem ofNat_ne_zero {n : Nat} (h : n ≠ 0) : (ofNat n).magnitude ≠ 0 := by
  rw [ofNat_magnitude]
  exact (nearest_pos (Nat.mul_ne_zero h unit_pos.ne')).ne'

section Product

variable {m n : Nat} (hm : (ofNat m).magnitude < infinity) (hn : (ofNat n).magnitude < infinity)
include hm hn

/-- Both factors are off by one part in `2 ^ 53` at most. -/
theorem steps_product :
    stepsOf (ofNat m).magnitude * stepsOf (ofNat n).magnitude * 2 ^ 106 ≤
        (2 ^ 53 + 1) ^ 2 * (m * n) * (unit * unit) ∧
      (2 ^ 53 - 1) ^ 2 * (m * n) * (unit * unit) ≤
        stepsOf (ofNat m).magnitude * stepsOf (ofNat n).magnitude * 2 ^ 106 := by
  obtain ⟨hmle, hmge⟩ := stepsOf_ofNat hm
  obtain ⟨hnle, hnge⟩ := stepsOf_ofNat hn
  generalize stepsOf (ofNat m).magnitude = x at *
  generalize stepsOf (ofNat n).magnitude = y at *
  constructor
  · calc x * y * 2 ^ 106 = (x * 2 ^ 53) * (y * 2 ^ 53) := by ring
      _ ≤ ((2 ^ 53 + 1) * (m * unit)) * ((2 ^ 53 + 1) * (n * unit)) := Nat.mul_le_mul hmle hnle
      _ = (2 ^ 53 + 1) ^ 2 * (m * n) * (unit * unit) := by ring
  · calc (2 ^ 53 - 1) ^ 2 * (m * n) * (unit * unit)
        = ((2 ^ 53 - 1) * (m * unit)) * ((2 ^ 53 - 1) * (n * unit)) := by ring
      _ ≤ (x * 2 ^ 53) * (y * 2 ^ 53) := Nat.mul_le_mul hmge hnge
      _ = x * y * 2 ^ 106 := by ring

variable (hm0 : m ≠ 0)
include hm0

theorem mul_ofNat_magnitude : (mul (ofNat m) (ofNat n)).magnitude =
    nearest (stepsOf (ofNat m).magnitude * stepsOf (ofNat n).magnitude) unit := by
  rw [mul_magnitude hm (ofNat_ne_zero hm0) hn.le, if_neg hn.ne]

theorem mul_ofNat_finite (h : (2 ^ 53 + 1) ^ 2 * (m * n) ≤ (2 ^ 53 - 1) * 2 ^ 971 * 2 ^ 106) :
    (mul (ofNat m) (ofNat n)).isInfinite = false := by
  have hproduct : stepsOf (ofNat m).magnitude * stepsOf (ofNat n).magnitude ≤
      stepsOf (infinity - 1) * unit := by
    refine Nat.le_of_mul_le_mul_right ?_ (Nat.two_pow_pos 106)
    calc _ ≤ (2 ^ 53 + 1) ^ 2 * (m * n) * (unit * unit) := (steps_product hm hn).1
      _ ≤ (2 ^ 53 - 1) * 2 ^ 971 * 2 ^ 106 * (unit * unit) := Nat.mul_le_mul_right _ h
      _ = stepsOf (infinity - 1) * unit * 2 ^ 106 := by
        rw [stepsOf_largest, Nat.mul_right_comm, Nat.mul_assoc _ unit unit]
  have hle := nearest_mono unit_pos hproduct
  rw [nearest_stepsOf unit_pos (by decide), ← mul_ofNat_magnitude hm hn hm0] at hle
  have hpos : 0 < infinity := by decide
  rw [isInfinite, beq_eq_false_iff_ne]
  omega

theorem mul_ofNat_infinite (h : 2 ^ 53 * 2 ^ 971 * 2 ^ 106 ≤ (2 ^ 53 - 1) ^ 2 * (m * n)) :
    (mul (ofNat m) (ofNat n)).isInfinite = true := by
  have hproduct : stepsOf infinity * unit ≤
      stepsOf (ofNat m).magnitude * stepsOf (ofNat n).magnitude := by
    refine Nat.le_of_mul_le_mul_right ?_ (Nat.two_pow_pos 106)
    calc stepsOf infinity * unit * 2 ^ 106 = 2 ^ 53 * 2 ^ 971 * 2 ^ 106 * (unit * unit) := by
          rw [stepsOf_infinity, Nat.mul_assoc _ unit unit, Nat.mul_right_comm]
      _ ≤ (2 ^ 53 - 1) ^ 2 * (m * n) * (unit * unit) := Nat.mul_le_mul_right _ h
      _ ≤ _ := (steps_product hm hn).2
  have hge := nearest_mono unit_pos hproduct
  have hle := nearest_le_infinity
    (stepsOf (ofNat m).magnitude * stepsOf (ofNat n).magnitude) unit
  rw [nearest_stepsOf unit_pos (Nat.le_refl _)] at hge
  rw [isInfinite, mul_ofNat_magnitude hm hn hm0, beq_iff_eq]
  omega

end Product

end ListingReview.Binary64
