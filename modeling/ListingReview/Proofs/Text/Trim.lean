import Mathlib.Data.List.Basic
import ListingReview.Proofs.Text.Search
import ListingReview.Text.Blank
import ListingReview.Proofs.Text.LetterCase

/-! # Text: trimming

Trimming takes off the blanks at both ends of a text and nothing else (`trims_iff`). Lowering makes
no blank and no comma of another letter (`mem_of_mem_lower`), so what is trimmed stays so in lower
case (`Trimmed.lower`). -/

namespace ListingReview.Text

/-- No blank stands at either end. -/
structure Trimmed (text : List Char) : Prop where
  first : ∀ c ∈ text.head?, isBlank c = false
  last : ∀ c ∈ text.getLast?, isBlank c = false

/-- All of a text but the blanks around it. -/
structure Trims (text part : List Char) : Prop where
  around : ∃ front back, text = front ++ part ++ back ∧
    (∀ c ∈ front, isBlank c = true) ∧ ∀ c ∈ back, isBlank c = true
  trimmed : Trimmed part

/-! ### What is taken off -/

theorem exists_blanks_start (text : List Char) :
    ∃ front, text = front ++ trimStart text ∧ ∀ c ∈ front, isBlank c = true := by
  obtain ⟨htext, hfront, -⟩ := cut_iff.mp ⟨rfl, rfl⟩
  exact ⟨_, htext, hfront⟩

theorem exists_blanks_end (text : List Char) :
    ∃ back, text = trimEnd text ++ back ∧ ∀ c ∈ back, isBlank c = true := by
  obtain ⟨back, htext, hback⟩ := exists_blanks_start text.reverse
  refine ⟨back.reverse, ?_, fun c hc => hback c (List.mem_reverse.mp hc)⟩
  rw [trimEnd, ← List.reverse_append]
  exact List.reverse_eq_iff.mp htext

theorem head_trimStart (text : List Char) : ∀ c ∈ (trimStart text).head?, isBlank c = false :=
  (cut_iff.mp ⟨rfl, rfl⟩).2.2

theorem trimStart_of_head {text : List Char} (h : ∀ c ∈ text.head?, isBlank c = false) :
    trimStart text = text :=
  (cut_iff.mpr ⟨(List.nil_append text).symm, List.forall_mem_nil _, h⟩).2

/-- The blanks around a trimmed text are what trimming takes off. -/
theorem trim_around {front part back : List Char} (hfront : ∀ c ∈ front, isBlank c = true)
    (hback : ∀ c ∈ back, isBlank c = true) (h : Trimmed part) :
    trim (front ++ part ++ back) = part := by
  have hstart : trimStart (front ++ part ++ back) = trimStart (part ++ back) := by
    rw [List.append_assoc, trimStart, List.dropWhile_append_of_pos hfront]
    rfl
  rw [trim, hstart]
  cases part with
  | nil =>
    have hnil : trimStart ([] ++ back) = [] := List.dropWhile_eq_nil_iff.mpr hback
    rw [hnil]
    rfl
  | cons c rest =>
    have hends : trimStart (c :: rest).reverse = (c :: rest).reverse := by
      refine trimStart_of_head ?_
      rw [List.head?_reverse]
      exact h.last
    have hback' : ∀ c ∈ back.reverse, isBlank c = true :=
      fun c hc => hback c (List.mem_reverse.mp hc)
    have hfirst : trimStart (c :: rest ++ back) = c :: rest ++ back := trimStart_of_head h.first
    rw [hfirst, trimEnd, List.reverse_append, List.dropWhile_append_of_pos hback']
    exact List.reverse_eq_iff.mpr hends

theorem trims_trim (text : List Char) : Trims text (trim text) := by
  obtain ⟨front, htext, hfront⟩ := exists_blanks_start text
  obtain ⟨back, hstart, hback⟩ := exists_blanks_end (trimStart text)
  refine ⟨⟨front, back, ?_, hfront, hback⟩, fun c hc => ?_, fun c hc => ?_⟩
  · rw [List.append_assoc, trim, ← hstart, ← htext]
  · refine head_trimStart text c ?_
    rw [hstart, List.head?_append, Option.mem_def, ← trim, Option.mem_def.mp hc]
    rfl
  · refine head_trimStart (trimStart text).reverse c ?_
    rwa [trim, trimEnd, List.getLast?_reverse] at hc

/-- **Trimming takes off the blanks around a text**, all of them and nothing else. -/
theorem trims_iff {text part : List Char} : Trims text part ↔ part = trim text := by
  constructor
  · rintro ⟨⟨front, back, rfl, hfront, hback⟩, htrimmed⟩
    exact (trim_around hfront hback htrimmed).symm
  · rintro rfl
    exact trims_trim text

theorem trim_of_trimmed {text : List Char} (h : Trimmed text) : trim text = text := by
  refine (trims_iff.mp ⟨⟨[], [], ?_, ?_, ?_⟩, h⟩).symm <;> simp

theorem trim_eq_nil_iff {text : List Char} : trim text = [] ↔ ∀ c ∈ text, isBlank c = true := by
  constructor
  · intro hnil
    obtain ⟨front, back, htext, hfront, hback⟩ := (trims_trim text).around
    rw [htext, hnil, List.append_nil]
    exact List.forall_mem_append.mpr ⟨hfront, hback⟩
  · intro hblank
    refine (trims_iff.mp ⟨⟨text, [], ?_, hblank, ?_⟩, ?_, ?_⟩).symm <;> simp

theorem mem_of_mem_trim {text : List Char} {c : Char} (h : c ∈ trim text) : c ∈ text := by
  obtain ⟨front, back, htext, -⟩ := (trims_trim text).around
  rw [htext]
  exact List.mem_append_left _ (List.mem_append_right _ h)

/-! ### Trimming and lower case -/

/-- The characters that part texts: commas and blanks. -/
def IsSeparator (c : Char) : Prop := c = ',' ∨ isBlank c = true

instance (c : Char) : Decidable (IsSeparator c) := inferInstanceAs (Decidable (_ ∨ _))

/-- What the tables say of the letters to which others are lowered: none of them is a separator. -/
theorem separator_facts :
    (∀ run ∈ caseRuns, ∀ range ∈ (0x2C, 0x2C) :: blankRanges,
      run.image + (run.last - run.first) < range.1 ∨ range.2 < run.image) ∧
    ¬ IsSeparator 'i' ∧ ¬ IsSeparator '\u0307' ∧ ¬ IsSeparator 'ς' ∧ ¬ IsSeparator 'σ' := by
  decide +kernel

theorem IsSeparator.inRange {c : Char} (h : IsSeparator c) :
    ∃ range ∈ (0x2C, 0x2C) :: blankRanges, range.1 ≤ c.toNat ∧ c.toNat ≤ range.2 := by
  rcases h with rfl | hblank
  · exact ⟨_, List.mem_cons_self, by decide⟩
  · obtain ⟨range, hmem, hrange⟩ := List.any_eq_true.mp hblank
    rw [Bool.and_eq_true, decide_eq_true_iff, decide_eq_true_iff] at hrange
    exact ⟨range, List.mem_cons_of_mem _ hmem, hrange⟩

/-- No other character is lowered to a separator. -/
theorem eq_of_mem_lowerLetter {before after : List Char} {c d : Char} (hd : IsSeparator d)
    (h : d ∈ lowerLetter before c after) : c = d := by
  obtain ⟨hruns, hletter, hdot, hfinal, hsigma⟩ := separator_facts
  unfold lowerLetter at h
  split_ifs at h
  · rcases List.mem_pair.mp h with rfl | rfl
    · exact absurd hd hletter
    · exact absurd hd hdot
  · obtain rfl := List.mem_singleton.mp h
    exact absurd hd hfinal
  · obtain rfl := List.mem_singleton.mp h
    exact absurd hd hsigma
  · obtain rfl := List.mem_singleton.mp h
    rcases lowerChar_cases c with hsame | ⟨run, hrun, hcovers, hcode⟩
    · exact hsame.symm
    · obtain ⟨range, hrange, hle⟩ := hd.inRange
      obtain ⟨hfirst, hlast, -⟩ := CaseRun.covers_iff.mp hcovers
      have hclear := hruns run hrun range hrange
      rw [hcode, CaseRun.lower] at hle
      omega

theorem mem_of_mem_lowerFrom {d : Char} (hd : IsSeparator d) : ∀ {before text : List Char},
    d ∈ lowerFrom before text → d ∈ text
  | before, c :: text, h => by
    rw [lowerFrom, List.mem_append] at h
    rcases h with hletter | hrest
    · rw [eq_of_mem_lowerLetter hd hletter]
      exact List.mem_cons_self
    · exact List.mem_cons_of_mem _ (mem_of_mem_lowerFrom hd hrest)

/-- **Lowering makes no separators.** -/
theorem mem_of_mem_lower {text : List Char} {d : Char} (hd : IsSeparator d) (h : d ∈ lower text) :
    d ∈ text :=
  mem_of_mem_lowerFrom hd h

/-- The letters at the ends of a text in lower case come from those at the ends of the text. -/
theorem Trimmed.lower {text : List Char} (h : Trimmed text) : Trimmed (lower text) := by
  have hkept {before after : List Char} {c d : Char} (hd : d ∈ lowerLetter before c after)
      (hc : isBlank c = false) : isBlank d = false := by
    by_contra hblank
    rw [Bool.not_eq_false] at hblank
    rw [eq_of_mem_lowerLetter (.inr hblank) hd, hblank] at hc
    cases hc
  constructor
  · intro d hd
    cases text with
    | nil => cases hd
    | cons c rest =>
      rw [Text.lower, lowerFrom, List.head?_append_of_ne_nil _ (lowerLetter_ne_nil _ _ _)] at hd
      exact hkept (List.mem_of_mem_head? hd) (h.first c rfl)
  · intro d hd
    rcases List.eq_nil_or_concat text with rfl | ⟨front, c, rfl⟩
    · cases hd
    · rw [List.concat_eq_append] at h hd
      rw [Text.lower, lowerFrom_append, lowerFrom, lowerFrom, List.append_nil,
        List.getLast?_append_of_ne_nil _ (lowerLetter_ne_nil _ _ _)] at hd
      exact hkept (List.mem_of_getLast? hd) (h.last c List.getLast?_concat)

end ListingReview.Text
