import ListingReview.Proofs.Binary64.Arithmetic

/-! # Binary64: from nought to one

The numbers from nought to one, both zeros among them (`InUnit`), are what is left between these
bounds of anything that is a number at all (`inUnit_clamp`); and a difference is one if its minuend
is finite (`sub_defined`). -/

namespace ListingReview.Binary64

theorem one_eq : ofNat 1 = ofRatio 100 100 ∧ stepsOf (ofNat 1).magnitude = unit := by
  decide +kernel

theorem one_lt_infinity : (ofNat 1).magnitude < infinity := by
  rw [ofNat_one]
  decide

/-- A number from nought to one. -/
structure InUnit (x : Binary64) : Prop where
  defined : x.isUndefined = false
  nonneg : 0 ≤ x.steps
  le_one : x.steps ≤ unit

theorem inUnit_iff {x : Binary64} :
    x.InUnit ↔ x.isUndefined = false ∧ 0 ≤ x.steps ∧ x.steps ≤ unit :=
  ⟨fun ⟨hdefined, hnonneg, hle⟩ => ⟨hdefined, hnonneg, hle⟩,
    fun ⟨hdefined, hnonneg, hle⟩ => ⟨hdefined, hnonneg, hle⟩⟩

instance (x : Binary64) : Decidable x.InUnit := decidable_of_iff _ inUnit_iff.symm

variable {x y : Binary64}

theorem InUnit.magnitude_le (h : x.InUnit) : x.magnitude ≤ (ofNat 1).magnitude := by
  obtain ⟨-, hnonneg, hle⟩ := h
  have hsteps : stepsOf x.magnitude ≤ unit := by
    unfold steps at hnonneg hle
    split_ifs at hnonneg hle <;> omega
  rwa [← stepsOf_strictMono.le_iff_le, one_eq.2]

theorem inUnit_bounds : InUnit (ofNat 0) ∧ InUnit (ofNat 1) := by decide +kernel

theorem below_iff_place (hx : x.isUndefined = false) (hy : y.isUndefined = false) :
    x.below y = true ↔ x.place < y.place := by
  rw [below, hx, hy]
  simp only [Bool.not_false, Bool.true_and, decide_eq_true_eq]

/-- What is neither below nought nor above one lies between them. -/
theorem inUnit_of_not_below (hx : x.isUndefined = false) (hlow : ¬ x.below (ofNat 0) = true)
    (hhigh : ¬ (ofNat 1).below x = true) : x.InUnit := by
  have hplace (n : Nat) : (ofNat n).place = (ofNat n).magnitude := by
    rw [place, ofNat_negative]
    rfl
  rw [below_iff_place hx inUnit_bounds.1.defined, hplace, ofNat_zero] at hlow
  rw [below_iff_place inUnit_bounds.2.defined hx, hplace] at hhigh
  have hnonneg : 0 ≤ x.place := Int.not_lt.mp hlow
  have hle : x.place ≤ (ofNat 1).magnitude := Int.not_lt.mp hhigh
  have hsteps : stepsOf x.magnitude ≤ unit := by
    rw [← one_eq.2]
    refine stepsOf_strictMono.monotone ?_
    unfold place at hnonneg hle
    split_ifs at hnonneg hle <;> omega
  unfold place at hnonneg
  refine ⟨hx, ?_, ?_⟩
  · unfold steps
    split_ifs with hsign
    · -- the only negative number that is not below nought is its other zero
      rw [if_pos hsign] at hnonneg
      have hmagnitude : x.magnitude = 0 := by omega
      rw [hmagnitude]
      decide
    · omega
  · unfold steps
    split_ifs <;> omega

theorem inUnit_clamp (hx : x.isUndefined = false) : InUnit (clamp (ofNat 0) (ofNat 1) x) := by
  unfold clamp
  split_ifs with hlow hhigh
  · exact inUnit_bounds.1
  · exact inUnit_bounds.2
  · exact inUnit_of_not_below hx hlow hhigh

/-- Only infinities have no sum. -/
theorem add_defined (hx : x.magnitude < infinity) (hy : y.magnitude ≤ infinity) :
    (add x y).isUndefined = false := by
  have hxDefined : x.isUndefined = false := decide_eq_false (by omega)
  have hyDefined : y.isUndefined = false := decide_eq_false (by omega)
  have hxFinite : x.isInfinite = false := beq_eq_false_iff_ne.mpr hx.ne
  rw [add, hxDefined, hyDefined, hxFinite]
  simp only [Bool.or_self, Bool.false_eq_true, if_false]
  split_ifs
  · exact hyDefined
  · exact decide_eq_false (Nat.not_lt_zero _)
  · exact decide_eq_false (Nat.not_lt.mpr (nearest_le_infinity _ _))

theorem sub_defined (hx : x.magnitude < infinity) (hy : y.magnitude ≤ infinity) :
    (sub x y).isUndefined = false :=
  add_defined hx hy

end ListingReview.Binary64
