import ListingReview.Text.Ascii
import ListingReview.Proofs.Text.Lowercase
import Mathlib.Data.List.Forall2

/-! # Text: what lowering leaves alone

The letters that stay as they are when a text is lowered (`IsLower`) are all that is left after it,
so a text is lowered once and for all. Before it the case of ASCII letters may be changed, for none
of them is passed over and all are cased, whether capital or small.

* `CaseRun.clears`: no run lowers to a letter of another, said of the bounds of the two.
* `isLower_lowerChar`: a letter that is lowered on its own stays so.
* `lower_lower`, `lower_asciiLower`: both for texts.
* `sameAscii_iff`: a word is recognised in capital and small letters. -/

namespace ListingReview.Text

/-! ### The table of letters -/

/-- No code point to which the run lowers belongs to one of the others, which are in ascending
order. One of them that is neither above nor below takes every second code point, and the run is
lowered to those between. -/
def CaseRun.clears (run : CaseRun) : List CaseRun → Bool
  | [] => true
  | other :: others =>
    if run.image + (run.last - run.first) < other.first then true
    else if other.last < run.image then run.clears others
    else other.step = 2 && (run.step = 2 || run.first = run.last)
      && (run.image + other.first) % 2 = 1 && run.clears others

theorem CaseRun.covers_iff {run : CaseRun} {n : Nat} :
    run.covers n = true ↔ run.first ≤ n ∧ n ≤ run.last ∧ (n - run.first) % run.step = 0 := by
  simp only [covers, Bool.and_eq_true, decide_eq_true_eq, beq_iff_eq, and_assoc]

/-- What a run lowers to is not lowered by the runs that it clears. -/
theorem lowerCode_of_clears {run : CaseRun} {n : Nat} (hn : run.covers n = true) :
    ∀ {runs : List CaseRun}, run.clears runs = true →
      lowerCode runs (run.lower n) = run.lower n
  | [], _ => rfl
  | other :: others, h => by
    obtain ⟨hfirst, hlast, hstep⟩ := CaseRun.covers_iff.mp hn
    rw [CaseRun.clears] at h
    rw [lowerCode]
    split_ifs at h with hbelow habove
    · have hlt : run.lower n < other.first := by
        rw [CaseRun.lower]
        omega
      rw [if_pos hlt]
    · have hmiss : ¬ other.covers (run.lower n) = true := by
        rw [CaseRun.covers_iff, CaseRun.lower]
        omega
      rw [if_neg hmiss, lowerCode_of_clears hn h, ite_self]
    · simp only [Bool.and_eq_true, Bool.or_eq_true, decide_eq_true_eq] at h
      obtain ⟨⟨⟨hother, hrun⟩, hodd⟩, hothers⟩ := h
      -- a step of two keeps the parity, in which the image and the other's letters differ
      have hmiss : ¬ (other.first ≤ run.lower n ∧ other.covers (run.lower n) = true) := by
        rw [CaseRun.covers_iff, CaseRun.lower, hother]
        rcases hrun with hrun | hrun
        · rw [hrun] at hstep
          omega
        · omega
      by_cases hlt : run.lower n < other.first
      · rw [if_pos hlt]
      · rw [if_neg hlt, if_neg fun hcovers => hmiss ⟨Nat.not_lt.mp hlt, hcovers⟩,
          lowerCode_of_clears hn hothers]

/-- What the table says of the code points to which it lowers: they belong to no run, and they are
those of characters other than the capital i with a dot above. -/
theorem caseRuns_facts : ∀ run ∈ caseRuns, run.clears caseRuns = true ∧
    (run.image + (run.last - run.first) < 0x130 ∨ 0x130 < run.image) ∧
    (run.image + (run.last - run.first) < 0xD800 ∨
      0xDFFF < run.image ∧ run.image + (run.last - run.first) < 0x110000) := by
  decide +kernel

theorem lowerCode_cases (n : Nat) : ∀ runs : List CaseRun,
    lowerCode runs n = n ∨ ∃ run ∈ runs, run.covers n = true ∧ lowerCode runs n = run.lower n
  | [] => .inl rfl
  | run :: runs => by
    rw [lowerCode]
    split_ifs with hbelow hcovers
    · exact .inl rfl
    · exact .inr ⟨run, List.mem_cons_self, hcovers, rfl⟩
    · refine (lowerCode_cases n runs).imp_right ?_
      rintro ⟨other, hmem, hother⟩
      exact ⟨other, List.mem_cons_of_mem _ hmem, hother⟩

/-! ### Letters that stay -/

/-- Lowering leaves the character as it is, wherever it stands. -/
structure IsLower (c : Char) : Prop where
  ne_dotted : c ≠ 'İ'
  ne_sigma : c ≠ 'Σ'
  lowerChar_eq : lowerChar c = c

theorem IsLower.lowerLetter_eq {c : Char} (h : IsLower c) (before after : List Char) :
    lowerLetter before c after = [c] := by
  rw [lowerLetter, if_neg h.ne_dotted, if_neg h.ne_sigma, h.lowerChar_eq]

theorem exceptions_isLower : IsLower 'i' ∧ IsLower '\u0307' ∧ IsLower 'ς' ∧ IsLower 'σ' := by
  refine ⟨⟨?_, ?_, ?_⟩, ⟨?_, ?_, ?_⟩, ⟨?_, ?_, ?_⟩, ⟨?_, ?_, ?_⟩⟩ <;> decide +kernel

theorem lowerChar_sigma : lowerChar 'Σ' ≠ 'Σ' := by decide +kernel

theorem lowerChar_cases (c : Char) :
    lowerChar c = c ∨
      ∃ run ∈ caseRuns, run.covers c.toNat = true ∧ (lowerChar c).toNat = run.lower c.toNat := by
  rcases lowerCode_cases c.toNat caseRuns with hsame | ⟨run, hmem, hcovers, hrun⟩
  · left
    rw [lowerChar, hsame, Char.ofNat_toNat]
  · right
    obtain ⟨-, -, hvalid⟩ := caseRuns_facts run hmem
    obtain ⟨hfirst, hlast, -⟩ := CaseRun.covers_iff.mp hcovers
    have hchar : (run.lower c.toNat).isValidChar := by
      rw [Nat.isValidChar, CaseRun.lower]
      omega
    refine ⟨run, hmem, hcovers, ?_⟩
    rw [lowerChar, hrun, Char.ofNat, dif_pos hchar]
    rfl

theorem isLower_lowerChar {c : Char} (hdotted : c ≠ 'İ') : IsLower (lowerChar c) := by
  rcases lowerChar_cases c with hc | ⟨run, hmem, hcovers, hcode⟩
  · rw [hc]
    refine ⟨hdotted, ?_, hc⟩
    rintro rfl
    exact lowerChar_sigma hc
  · obtain ⟨hclears, hdot, -⟩ := caseRuns_facts run hmem
    obtain ⟨hfirst, hlast, -⟩ := CaseRun.covers_iff.mp hcovers
    have hc : lowerChar (lowerChar c) = lowerChar c := by
      rw [lowerChar, hcode, lowerCode_of_clears hcovers hclears, ← hcode, Char.ofNat_toNat]
    refine ⟨fun h => ?_, fun h => ?_, hc⟩
    · have hcodeDotted : (lowerChar c).toNat = 0x130 := by
        rw [h]
        rfl
      rw [hcode, CaseRun.lower] at hcodeDotted
      omega
    · rw [h] at hc
      exact lowerChar_sigma hc

theorem isLower_of_mem_lowerLetter {before after : List Char} {c d : Char}
    (h : d ∈ lowerLetter before c after) : IsLower d := by
  obtain ⟨hletter, hdot, hfinal, hsigma⟩ := exceptions_isLower
  unfold lowerLetter at h
  split_ifs at h with hdotted
  · rcases List.mem_pair.mp h with rfl | rfl
    · exact hletter
    · exact hdot
  · exact List.mem_singleton.mp h ▸ hfinal
  · exact List.mem_singleton.mp h ▸ hsigma
  · exact List.mem_singleton.mp h ▸ isLower_lowerChar hdotted

theorem isLower_of_mem_lowerFrom {c : Char} : ∀ {before text : List Char},
    c ∈ lowerFrom before text → IsLower c
  | before, d :: text, h => by
    rw [lowerFrom, List.mem_append] at h
    exact h.elim isLower_of_mem_lowerLetter isLower_of_mem_lowerFrom

theorem lowerFrom_of_isLower : ∀ {text : List Char} (before : List Char),
    (∀ c ∈ text, IsLower c) → lowerFrom before text = text
  | [], _, _ => rfl
  | c :: text, before, h => by
    obtain ⟨hc, htext⟩ := List.forall_mem_cons.mp h
    rw [lowerFrom, hc.lowerLetter_eq, lowerFrom_of_isLower _ htext, List.singleton_append]

/-- **A text in lower case stays as it is.** -/
theorem lower_lower (text : List Char) : lower (lower text) = lower text :=
  lowerFrom_of_isLower _ fun _ => isLower_of_mem_lowerFrom

/-! ### The case of ASCII letters -/

/-- No ASCII letter is passed over in the search for a cased letter. -/
theorem ignorable_facts : ∀ range ∈ caseIgnorableRanges,
    range.2 < 0x41 ∨ 0x5A < range.1 ∧ range.2 < 0x61 ∨ 0x7A < range.1 := by
  decide +kernel

/-- What the tables say of the capital ASCII letters, by their place in the alphabet, and of the
small ones that belong to them. -/
theorem capital_facts : ∀ k < 26,
    (Char.ofNat (0x41 + k)).toLower.toNat = 0x61 + k ∧ isCased (Char.ofNat (0x41 + k)) = true ∧
      isCased (Char.ofNat (0x41 + k)).toLower = true ∧ Char.ofNat (0x41 + k) ≠ 'Σ' ∧
      lowerLetter [] (Char.ofNat (0x41 + k)).toLower [] =
        lowerLetter [] (Char.ofNat (0x41 + k)) [] := by
  decide +kernel

theorem toLower_cases (c : Char) :
    c.toLower = c ∨ ∃ k < 26, c = Char.ofNat (0x41 + k) ∧ c.toNat = 0x41 + k := by
  by_cases h : c.val ≥ 'A'.val ∧ c.val ≤ 'Z'.val
  · right
    have hfirst : 0x41 ≤ c.toNat := h.1
    have hlast : c.toNat ≤ 0x5A := h.2
    refine ⟨c.toNat - 0x41, by omega, ?_, by omega⟩
    rw [Nat.add_sub_cancel' hfirst, Char.ofNat_toNat]
  · exact .inl (dif_neg h)

theorem not_isCaseIgnorable {c : Char}
    (h : 0x41 ≤ c.toNat ∧ c.toNat ≤ 0x5A ∨ 0x61 ≤ c.toNat ∧ c.toNat ≤ 0x7A) :
    isCaseIgnorable c = false := by
  rw [isCaseIgnorable, inRanges, List.any_eq_false]
  intro range hrange
  have hfact := ignorable_facts range hrange
  rw [Bool.and_eq_true, decide_eq_true_iff, decide_eq_true_iff]
  omega

theorem isCaseIgnorable_toLower (c : Char) : isCaseIgnorable c.toLower = isCaseIgnorable c := by
  rcases toLower_cases c with h | ⟨k, hk, hc, hcode⟩
  · rw [h]
  · have hsmall : c.toLower.toNat = 0x61 + k := hc ▸ (capital_facts k hk).1
    rw [not_isCaseIgnorable (by omega), not_isCaseIgnorable (by omega)]

theorem isCased_toLower (c : Char) : isCased c.toLower = isCased c := by
  rcases toLower_cases c with h | ⟨k, hk, rfl, -⟩
  · rw [h]
  · obtain ⟨-, hcapital, hsmall, -⟩ := capital_facts k hk
    rw [hcapital, hsmall]

theorem casedNext_asciiLower (text : List Char) : casedNext (asciiLower text) = casedNext text := by
  induction text with
  | nil => rfl
  | cons c text ih =>
    rw [asciiLower, List.map_cons]
    by_cases hc : isCaseIgnorable c = true
    · rw [casedNext_cons_of_pos hc, casedNext_cons_of_pos (by rwa [isCaseIgnorable_toLower])]
      exact ih
    · rw [casedNext_cons_of_neg hc, casedNext_cons_of_neg (by rwa [isCaseIgnorable_toLower]),
        isCased_toLower]

theorem lowerLetter_asciiLower (before after : List Char) (c : Char) :
    lowerLetter (asciiLower before) c.toLower (asciiLower after) = lowerLetter before c after := by
  rcases toLower_cases c with h | ⟨k, hk, rfl, -⟩
  · rw [h, lowerLetter, lowerLetter, casedNext_asciiLower, casedNext_asciiLower]
  · obtain ⟨hcode, -, -, hcapital, hletter⟩ := capital_facts k hk
    have hsmall : (Char.ofNat (0x41 + k)).toLower ≠ 'Σ' := by
      intro h
      have hsigma : 'Σ'.toNat = 0x3A3 := rfl
      rw [h] at hcode
      omega
    rw [lowerLetter_of_ne hsmall _ _ [] [], lowerLetter_of_ne hcapital _ _ [] [], hletter]

theorem lowerFrom_asciiLower : ∀ before text : List Char,
    lowerFrom (asciiLower before) (asciiLower text) = lowerFrom before text
  | _, [] => rfl
  | before, c :: text => by
    have hrest := lowerFrom_asciiLower (c :: before) text
    rw [lowerFrom, ← lowerLetter_asciiLower, ← hrest]
    rfl

/-- **The case of ASCII letters does not show** in the lower case of a text. -/
theorem lower_asciiLower (text : List Char) : lower (asciiLower text) = lower text :=
  lowerFrom_asciiLower [] text

/-! ### Words in any case -/

theorem small_facts : ∀ k < 26, (Char.ofNat (0x61 + k)).toLower = Char.ofNat (0x61 + k) ∧
    (Char.ofNat (0x61 + k)).toUpper = Char.ofNat (0x41 + k) := by
  decide

theorem toLower_eq_iff {letter : Char} (h : 0x61 ≤ letter.toNat ∧ letter.toNat ≤ 0x7A) (c : Char) :
    c.toLower = letter ↔ c = letter ∨ c = letter.toUpper := by
  obtain ⟨k, hk⟩ := Nat.exists_eq_add_of_le h.1
  have hletter : letter = Char.ofNat (0x61 + k) := by rw [← hk, Char.ofNat_toNat]
  obtain ⟨hsmall, hcapital⟩ := small_facts k (by omega)
  rw [← hletter] at hsmall hcapital
  rw [hcapital]
  constructor
  · intro hlower
    rcases toLower_cases c with hsame | ⟨j, hj, hc, -⟩
    · exact .inl (hsame.symm.trans hlower)
    · have hcode := (capital_facts j hj).1
      rw [← hc, hlower] at hcode
      obtain rfl : j = k := by omega
      exact .inr hc
  · rintro (rfl | rfl)
    · exact hsmall
    · refine Char.toNat_inj.mp ?_
      rw [(capital_facts k (by omega)).1, hk]

theorem asciiLower_eq_iff : ∀ {word : List Char},
    (∀ letter ∈ word, 0x61 ≤ letter.toNat ∧ letter.toNat ≤ 0x7A) → ∀ {text : List Char},
      asciiLower text = word ↔
        List.Forall₂ (fun c letter => c = letter ∨ c = letter.toUpper) text word
  | [], _, text => by rw [asciiLower, List.map_eq_nil_iff, List.forall₂_nil_right_iff]
  | letter :: word, h, text => by
    obtain ⟨hletter, hword⟩ := List.forall_mem_cons.mp h
    rw [asciiLower, List.map_eq_cons_iff, List.forall₂_cons_right_iff]
    constructor
    · rintro ⟨c, rest, rfl, hc, hrest⟩
      exact ⟨c, rest, (toLower_eq_iff hletter c).mp hc, (asciiLower_eq_iff hword).mp hrest, rfl⟩
    · rintro ⟨c, rest, hc, hrest, rfl⟩
      exact ⟨c, rest, rfl, (toLower_eq_iff hletter c).mpr hc, (asciiLower_eq_iff hword).mpr hrest⟩

/-- **A word in small letters is recognised** if each of its letters is there, small or capital. -/
theorem sameAscii_iff {word : List Char}
    (h : ∀ letter ∈ word, 0x61 ≤ letter.toNat ∧ letter.toNat ≤ 0x7A) {text : List Char} :
    sameAscii text word = true ↔
      List.Forall₂ (fun c letter => c = letter ∨ c = letter.toUpper) text word := by
  have hword : asciiLower word = word :=
    (asciiLower_eq_iff h).mpr (List.forall₂_same.mpr fun _ _ => .inl rfl)
  rw [sameAscii, beq_iff_eq, hword, asciiLower_eq_iff h]

end ListingReview.Text
