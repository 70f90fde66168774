import ListingReview.Proofs.Policy.Settings
import ListingReview.Proofs.Review.Explanation
import ListingReview.Proofs.Review.Severity

/-! # Review: the limit for images

A policy with a higher limit finds no more images too large, in any listing, and this tells the
order of two limits that are not below nought (`tooLarge_le_iff`). A greater size in the settings
gives a limit that is no lower, except where a size does not fit into 64 bits: it counts as the
standard twenty megabytes, however far on the other side of them it is (`sizeLimit_le_iff`). -/

namespace ListingReview.Policy

/-- A listing with one image, of which nothing is known but its size. -/
def pictured (size : UInt64) : Listing where
  listingId := ""
  sellerId := ""
  reason := ""
  title := ""
  description := none
  priceCents := none
  currency := none
  desiredStatus := none
  images := [⟨"", "", none, some size⟩]
  variants := []

/-! ### Limits and labels -/

variable {policy other : Policy}

theorem count_review (policy : Policy) (listing : Listing) :
    (policy.review listing).count .imageTooLarge = policy.tooLarge listing := by
  rw [Decision.count, (policy.review_verdict listing).2.2.2, count_labels]

theorem tooLarge_pictured (policy : Policy) (size : UInt64) :
    policy.tooLarge (pictured size) = if policy.sizeLimit.toInt < size.toNat then 1 else 0 := by
  simp [tooLarge, pictured, Exceeds]

/-- One limit finds no more images than another in any listing just if it is no lower, or the other
one is below nought and finds every size too large. -/
theorem tooLarge_le_iff :
    (∀ listing, other.tooLarge listing ≤ policy.tooLarge listing) ↔
      policy.sizeLimit ≤ other.sizeLimit ∨ policy.sizeLimit.toInt < 0 := by
  constructor
  · intro hall
    by_contra hnot
    obtain ⟨hlower, hnatural⟩ := not_or.mp hnot
    rw [Int64.le_iff_toInt_le] at hlower
    -- an image as large as the higher limit is above the lower one only
    have hlt := policy.sizeLimit.toInt_lt
    have hsize : ((UInt64.ofNat policy.sizeLimit.toInt.toNat).toNat : Int) =
        policy.sizeLimit.toInt := by
      rw [UInt64.toNat_ofNat_of_lt' (by rw [UInt64.size]; omega)]
      omega
    have hle := hall (pictured (UInt64.ofNat policy.sizeLimit.toInt.toNat))
    rw [tooLarge_pictured, tooLarge_pictured, hsize, if_pos (by omega), if_neg (by omega)] at hle
    omega
  · rintro (hle | hneg) listing
    · exact tooLarge_mono (List.Sublist.refl _) hle
    · refine List.countP_mono_left fun image _ hexceeds => ?_
      rw [decide_eq_true_iff] at hexceeds ⊢
      obtain ⟨size, hsize, -⟩ := hexceeds
      exact ⟨size, hsize, by omega⟩

/-! ### Sizes in settings -/

/-- The size in the settings is a whole number, with however many digits. -/
def Sizes (settings : Settings) (n : Int) : Prop := ∃ text ∈ settings megabytesKey, IsInteger text n

/-- Two sizes, one of which does not fit into 64 bits and counts as twenty, stand in their order to
each other still. -/
structure KeepsOrder (m n : Int) : Prop where
  above : 2 ^ 63 ≤ n → m < 2 ^ 63 → m ≤ 20
  below : m < -2 ^ 63 → -2 ^ 63 ≤ n → 20 ≤ n

/-- Settings in which there is a size and nothing else. -/
def sizeOnly (text : String) : Settings := fun key => if key = megabytesKey then some text else none

theorem sizes_sizeOnly {text : String} {n : Int} (h : IsInteger text n) : Sizes (sizeOnly text) n :=
  ⟨text, if_pos rfl, h⟩

section Sizes

variable {settings others : Settings} {m n : Int} (hm : Sizes settings m) (hn : Sizes others n)
include hm

theorem sizeLimit_of_sizes :
    (ofSettings settings).sizeLimit.toInt =
      if -2 ^ 63 ≤ m ∧ m < 2 ^ 63 then max (-2 ^ 63) (min (m * 2 ^ 20) (2 ^ 63 - 1))
      else 20 * 2 ^ 20 := by
  obtain ⟨text, htext, hinteger⟩ := hm
  exact sizeLimit_of_integer htext hinteger

include hn

/-- **Greater sizes give limits that are no lower**, and no more labels for images that are too
large in any listing, just if the sizes keep their order. -/
theorem sizeLimit_le_iff (hle : m ≤ n) :
    ((ofSettings settings).sizeLimit ≤ (ofSettings others).sizeLimit ↔ KeepsOrder m n) ∧
      ((∀ listing, ((ofSettings others).review listing).count .imageTooLarge ≤
          ((ofSettings settings).review listing).count .imageTooLarge) ↔ KeepsOrder m n) := by
  have hlimit := sizeLimit_of_sizes hm
  have hlimit' := sizeLimit_of_sizes hn
  have horder : KeepsOrder m n ↔ (2 ^ 63 ≤ n → m < 2 ^ 63 → m ≤ 20) ∧
      (m < -2 ^ 63 → -2 ^ 63 ≤ n → 20 ≤ n) := ⟨fun h => ⟨h.above, h.below⟩, fun h => ⟨h.1, h.2⟩⟩
  have hlimits : (ofSettings settings).sizeLimit ≤ (ofSettings others).sizeLimit ↔
      KeepsOrder m n := by
    rw [Int64.le_iff_toInt_le, hlimit, hlimit', horder]
    split_ifs <;> omega
  refine ⟨hlimits, ?_⟩
  simp only [count_review]
  rw [tooLarge_le_iff, hlimits]
  refine or_iff_left_of_imp fun hneg => ?_
  rw [hlimit] at hneg
  rw [horder]
  split_ifs at hneg <;> omega

end Sizes

/-- Twenty megabytes and the first size beyond 64 bits give one limit. -/
theorem sizeLimit_le_beyond :
    Sizes (sizeOnly " +0020\t") 20 ∧ Sizes (sizeOnly "9223372036854775808") (2 ^ 63) ∧
      (ofSettings (sizeOnly " +0020\t")).sizeLimit ≤
        (ofSettings (sizeOnly "9223372036854775808")).sizeLimit ∧
      ((ofSettings (sizeOnly "9223372036854775808")).review (pictured 20971521)).count
          .imageTooLarge ≤
        ((ofSettings (sizeOnly " +0020\t")).review (pictured 20971521)).count .imageTooLarge := by
  have htwenty : Sizes (sizeOnly " +0020\t") 20 :=
    sizes_sizeOnly (isInteger_iff.mpr (by decide +kernel))
  have hbeyond : Sizes (sizeOnly "9223372036854775808") (2 ^ 63) :=
    sizes_sizeOnly (isInteger_iff.mpr (by decide +kernel))
  have horder : KeepsOrder 20 (2 ^ 63) := ⟨fun _ _ => le_rfl, fun h => absurd h (by decide)⟩
  obtain ⟨hlimits, hcounts⟩ := sizeLimit_le_iff htwenty hbeyond (by decide)
  exact ⟨htwenty, hbeyond, hlimits.mpr horder, hcounts.mpr horder _⟩

/-- The greatest size of 64 bits gives the greatest limit there is, and the next size the standard
one, above which an image of thirty million octets lies. -/
theorem sizeLimit_falls :
    Sizes (sizeOnly "9223372036854775807") (2 ^ 63 - 1) ∧
      Sizes (sizeOnly "9223372036854775808") (2 ^ 63) ∧
      (ofSettings (sizeOnly "9223372036854775807")).sizeLimit.toInt = 2 ^ 63 - 1 ∧
      (ofSettings (sizeOnly "9223372036854775808")).sizeLimit.toInt = 20 * 2 ^ 20 ∧
      (ofSettings (sizeOnly "9223372036854775808")).sizeLimit <
        (ofSettings (sizeOnly "9223372036854775807")).sizeLimit ∧
      ((ofSettings (sizeOnly "9223372036854775807")).review (pictured 30000000)).count
          .imageTooLarge = 0 ∧
      ((ofSettings (sizeOnly "9223372036854775808")).review (pictured 30000000)).count
          .imageTooLarge = 1 := by
  refine ⟨sizes_sizeOnly (isInteger_iff.mpr ?_), sizes_sizeOnly (isInteger_iff.mpr ?_), ?_⟩
  all_goals decide +kernel

end ListingReview.Policy
