import Mathlib.Data.List.Basic
import ListingReview.Text.Lowercase

/-! # Text: lower case of a part

A text is lowered letter by letter, and only a capital sigma looks at its surroundings. A part of a
text is therefore lowered in the whole as it is on its own, unless one of its sigmas is final in the
one and not in the other (`lowerWithin_eq_iff`).

* `lowerWithin_blank_before`, `lowerWithin_blank_after`: a blank hides what is beyond it, so that it
  parts a text (`lower_append_blank`).
* `Steady.sigmasKept`: a steady part is lowered alike wherever it stands.
* `exists_not_lower_infix`: any other part stands in some text that does not hold its lower case. If
  some sigmas change, and all in the same way, one of the two forms gets rarer
  (`NoMore.count_lt`). -/

namespace ListingReview.Text

/-- A part of a text lowered between what stands in front of it, nearest first, and what stands
behind it. -/
def lowerWithin (before : List Char) : List Char → List Char → List Char
  | [], _ => []
  | c :: part, after => lowerLetter before c (part ++ after) ++ lowerWithin (c :: before) part after

/-- A capital sigma ends a word: a cased letter stands in front of it and none behind it. -/
def IsFinal (before after : List Char) : Prop := casedNext before = true ∧ casedNext after = false

instance (before after : List Char) : Decidable (IsFinal before after) :=
  inferInstanceAs (Decidable (_ ∧ _))

/-! ### Letters -/

theorem lowerLetter_sigma (before after : List Char) :
    lowerLetter before 'Σ' after = if IsFinal before after then ['ς'] else ['σ'] := by
  have hfinal : (casedNext before && !casedNext after) = true ↔ IsFinal before after := by
    simp [IsFinal]
  rw [lowerLetter, if_neg (by decide), if_pos rfl]
  exact if_congr hfinal rfl rfl

theorem lowerLetter_of_ne {c : Char} (h : c ≠ 'Σ') (before after before' after' : List Char) :
    lowerLetter before c after = lowerLetter before' c after' := by
  simp only [lowerLetter, if_neg h]

theorem length_lowerLetter (before after before' after' : List Char) (c : Char) :
    (lowerLetter before c after).length = (lowerLetter before' c after').length := by
  by_cases h : c = 'Σ'
  · subst h
    simp only [lowerLetter_sigma]
    split_ifs <;> rfl
  · rw [lowerLetter_of_ne h]

theorem lowerLetter_ne_nil (before after : List Char) (c : Char) :
    lowerLetter before c after ≠ [] := by
  unfold lowerLetter
  split_ifs <;> simp

theorem lower_ne_nil {text : List Char} (h : text ≠ []) : lower text ≠ [] := by
  obtain ⟨c, rest, rfl⟩ := List.exists_cons_of_ne_nil h
  rw [lower, lowerFrom]
  exact List.append_ne_nil_of_left_ne_nil (lowerLetter_ne_nil _ _ _) _

/-! ### Parts -/

theorem lowerWithin_nil (before part : List Char) :
    lowerWithin before part [] = lowerFrom before part := by
  induction part generalizing before with
  | nil => rfl
  | cons c part ih => rw [lowerWithin, lowerFrom, List.append_nil, ih]

theorem lowerFrom_append (before part after : List Char) :
    lowerFrom before (part ++ after) =
      lowerWithin before part after ++ lowerFrom (part.reverse ++ before) after := by
  induction part generalizing before with
  | nil => rfl
  | cons c part ih =>
    rw [List.cons_append, lowerFrom, lowerWithin, ih, List.reverse_cons, List.append_assoc,
      List.append_assoc, List.singleton_append]

/-- The lower case of a text holds that of each of its parts. -/
theorem lowerWithin_infix (front part back : List Char) :
    lowerWithin front.reverse part back <:+: lower (front ++ part ++ back) := by
  rw [List.append_assoc, lower, lowerFrom_append, lowerFrom_append, List.append_nil,
    ← List.append_assoc]
  exact List.infix_append _ _ _

/-- A part is lowered alike in two places if, and only if, its sigmas are final in both or in
neither. -/
theorem lowerWithin_eq_iff {before after before' after' part : List Char} :
    lowerWithin before part after = lowerWithin before' part after' ↔
      ∀ front back, part = front ++ 'Σ' :: back →
        (IsFinal (front.reverse ++ before) (back ++ after) ↔
          IsFinal (front.reverse ++ before') (back ++ after')) := by
  induction part generalizing before before' with
  | nil => simp [lowerWithin]
  | cons c part ih =>
    have hfirst : lowerLetter before c (part ++ after) = lowerLetter before' c (part ++ after') ↔
        (c = 'Σ' → (IsFinal before (part ++ after) ↔ IsFinal before' (part ++ after'))) := by
      by_cases hc : c = 'Σ'
      · subst hc
        rw [lowerLetter_sigma, lowerLetter_sigma]
        split_ifs <;> simp [*]
      · exact iff_of_true (lowerLetter_of_ne hc _ _ _ _) fun h => absurd h hc
    have hsplit : lowerWithin before (c :: part) after = lowerWithin before' (c :: part) after' ↔
        lowerLetter before c (part ++ after) = lowerLetter before' c (part ++ after') ∧
          lowerWithin (c :: before) part after = lowerWithin (c :: before') part after' := by
      rw [lowerWithin, lowerWithin]
      constructor
      · intro h
        exact List.append_inj h (length_lowerLetter _ _ _ _ c)
      · rintro ⟨hhead, htail⟩
        rw [hhead, htail]
    rw [hsplit, hfirst, ih]
    constructor
    · rintro ⟨hhead, htail⟩ front back hpart
      cases front with
      | nil =>
        obtain ⟨rfl, rfl⟩ := List.cons.inj hpart
        exact hhead rfl
      | cons d front =>
        obtain ⟨rfl, rfl⟩ := List.cons.inj hpart
        simpa using htail front back rfl
    · intro h
      constructor
      · rintro rfl
        exact h [] part rfl
      · intro front back hpart
        simpa using h (c :: front) back (by rw [hpart, List.cons_append])

/-! ### Surroundings -/

/-- All characters are passed over in the search for a cased letter. -/
def Ignored (text : List Char) : Prop := ∀ c ∈ text, isCaseIgnorable c = true

theorem casedNext_cons_of_pos {c : Char} (h : isCaseIgnorable c = true) (text : List Char) :
    casedNext (c :: text) = casedNext text := by
  rw [casedNext, casedNext, List.dropWhile_cons_of_pos h]

theorem casedNext_cons_of_neg {c : Char} (h : ¬ isCaseIgnorable c = true) (text : List Char) :
    casedNext (c :: text) = isCased c := by
  rw [casedNext, List.dropWhile_cons_of_neg h]

theorem casedNext_append_of_ignored {text : List Char} (h : Ignored text) (more : List Char) :
    casedNext (text ++ more) = casedNext more := by
  rw [casedNext, casedNext, List.dropWhile_append_of_pos h]

theorem casedNext_of_ignored {text : List Char} (h : Ignored text) : casedNext text = false := by
  rw [← List.append_nil text, casedNext_append_of_ignored h]
  rfl

/-- Nothing is looked for beyond a character that is not passed over. -/
theorem casedNext_append {text : List Char} (h : ¬ Ignored text) (more : List Char) :
    casedNext (text ++ more) = casedNext text := by
  induction text with
  | nil => exact absurd (fun c hc => by cases hc) h
  | cons c text ih =>
    rw [List.cons_append]
    by_cases hc : isCaseIgnorable c = true
    · have htext : ¬ Ignored text := fun hall => h (List.forall_mem_cons.mpr ⟨hc, hall⟩)
      rw [casedNext_cons_of_pos hc, casedNext_cons_of_pos hc, ih htext]
    · rw [casedNext_cons_of_neg hc, casedNext_cons_of_neg hc]

theorem not_ignored_of_casedNext {text : List Char} (h : casedNext text = true) :
    ¬ Ignored text := by
  intro hall
  rw [casedNext_of_ignored hall] at h
  cases h

theorem ignored_reverse {text : List Char} : Ignored text.reverse ↔ Ignored text := by
  simp only [Ignored, List.mem_reverse]

theorem not_isFinal_of_ignored {before : List Char} (h : Ignored before) (after : List Char) :
    ¬ IsFinal before after := by
  rintro ⟨hcased, -⟩
  exact not_ignored_of_casedNext hcased h

theorem not_isFinal_of_casedNext {after : List Char} (h : casedNext after = true)
    (before : List Char) : ¬ IsFinal before after := by
  rintro ⟨-, hnone⟩
  rw [h] at hnone
  cases hnone

theorem isFinal_append_before {before : List Char} (h : ¬ Ignored before)
    (more after : List Char) : IsFinal (before ++ more) after ↔ IsFinal before after := by
  rw [IsFinal, IsFinal, casedNext_append h]

theorem isFinal_append_after {after : List Char} (h : ¬ Ignored after)
    (before more : List Char) : IsFinal before (after ++ more) ↔ IsFinal before after := by
  rw [IsFinal, IsFinal, casedNext_append h]

/-- What the tables say of the blank. -/
theorem blank_facts :
    isCaseIgnorable ' ' = false ∧ isCased ' ' = false ∧ lowerLetter [] ' ' [] = [' '] := by
  decide +kernel

theorem lowerLetter_blank (before after : List Char) : lowerLetter before ' ' after = [' '] := by
  obtain ⟨-, -, hlower⟩ := blank_facts
  rw [lowerLetter_of_ne (by decide) before after [] [], hlower]

/-- A blank is as good as the end of the text. -/
theorem casedNext_blank (text more : List Char) :
    casedNext (text ++ ' ' :: more) = casedNext text := by
  obtain ⟨hstop, hcased, -⟩ := blank_facts
  have hblank : casedNext (' ' :: more) = false := by
    rw [casedNext_cons_of_neg (Bool.eq_false_iff.mp hstop), hcased]
  by_cases h : Ignored text
  · rw [casedNext_append_of_ignored h, casedNext_of_ignored h, hblank]
  · exact casedNext_append h _

/-- A blank in front of a part hides what is beyond it. -/
theorem lowerWithin_blank_before (before front part after : List Char) :
    lowerWithin (before ++ ' ' :: front) part after = lowerWithin before part after := by
  refine lowerWithin_eq_iff.mpr fun left right _ => ?_
  rw [IsFinal, IsFinal, ← List.append_assoc, casedNext_blank]

/-- A blank behind a part hides what is beyond it. -/
theorem lowerWithin_blank_after (before part after back : List Char) :
    lowerWithin before part (after ++ ' ' :: back) = lowerWithin before part after := by
  refine lowerWithin_eq_iff.mpr fun left right _ => ?_
  rw [IsFinal, IsFinal, ← List.append_assoc, casedNext_blank]

/-- A blank parts a text: what stands in front of it and what stands behind it are lowered as they
are on their own. -/
theorem lower_append_blank (front back : List Char) :
    lower (front ++ ' ' :: back) = lower front ++ ' ' :: lower back := by
  have hfront : lowerWithin [] front (' ' :: back) = lower front := by
    have hblank := lowerWithin_blank_after [] front [] back
    rwa [List.nil_append, lowerWithin_nil] at hblank
  have hback : lowerFrom (' ' :: front.reverse) back = lower back := by
    have hblank := lowerWithin_blank_before [] front.reverse back []
    rwa [List.nil_append, lowerWithin_nil, lowerWithin_nil] at hblank
  rw [lower, lowerFrom_append, hfront, List.append_nil, lowerFrom, lowerLetter_blank, hback,
    List.singleton_append]

/-! ### Parts that are lowered alike everywhere -/

/-- Every capital sigma of a part is final in its surroundings if and only if it is final when the
part stands alone. -/
def SigmasKept (before part after : List Char) : Prop :=
  ∀ front back, part = front ++ 'Σ' :: back →
    (IsFinal (front.reverse ++ before) (back ++ after) ↔ IsFinal front.reverse back)

/-- No capital sigma of a part looks beyond the part: neither forward, from the end of a word that
may go on behind the part, nor back, from a beginning of the part that could end a word. -/
def Steady (part : List Char) : Prop :=
  ∀ front back, part = front ++ 'Σ' :: back →
    ¬ (casedNext front.reverse = true ∧ Ignored back) ∧
      ¬ (Ignored front ∧ casedNext back = false)

theorem lowerWithin_eq_lower_iff {before part after : List Char} :
    lowerWithin before part after = lower part ↔ SigmasKept before part after := by
  rw [lower, ← lowerWithin_nil, lowerWithin_eq_iff]
  simp only [List.append_nil, SigmasKept]

theorem Steady.sigmasKept {part : List Char} (h : Steady part) (before after : List Char) :
    SigmasKept before part after := by
  intro front back hpart
  obtain ⟨hforward, hback⟩ := h front back hpart
  by_cases hfront : Ignored front
  · -- no cased letter is sure to stand in front, so there is one behind
    have hnext : casedNext back = true := by
      by_contra hnone
      exact hback ⟨hfront, Bool.not_eq_true _ ▸ hnone⟩
    have hnext' : casedNext (back ++ after) = true := by
      rw [casedNext_append (not_ignored_of_casedNext hnext), hnext]
    exact iff_of_false (not_isFinal_of_casedNext hnext' _) (not_isFinal_of_casedNext hnext _)
  · rw [isFinal_append_before (mt ignored_reverse.mp hfront)]
    by_cases hcased : casedNext front.reverse = true
    · exact isFinal_append_after (fun hall => hforward ⟨hcased, hall⟩) _ _
    · exact iff_of_false (fun hfinal => hcased hfinal.1) (fun hfinal => hcased hfinal.1)

/-- Only a capital sigma can be lowered in two ways. -/
theorem steady_of_not_mem {part : List Char} (h : 'Σ' ∉ part) : Steady part := by
  rintro front back rfl
  exact absurd (List.mem_append_right _ List.mem_cons_self) h

/-! ### Counting the two forms -/

/-- Every capital sigma of a part that is lowered to a letter in the first place is lowered to it in
the second one too. -/
def NoMore (letter : Char) (before after before' after' part : List Char) : Prop :=
  ∀ front back, part = front ++ 'Σ' :: back →
    (lowerLetter (front.reverse ++ before) 'Σ' (back ++ after)).count letter ≤
      (lowerLetter (front.reverse ++ before') 'Σ' (back ++ after')).count letter

variable {letter c : Char} {before after before' after' part front back : List Char}

theorem NoMore.head (h : NoMore letter before after before' after' (c :: part)) :
    (lowerLetter before c (part ++ after)).count letter ≤
      (lowerLetter before' c (part ++ after')).count letter := by
  by_cases hc : c = 'Σ'
  · subst hc
    exact h [] part rfl
  · exact Nat.le_of_eq (congrArg _ (lowerLetter_of_ne hc _ _ _ _))

theorem NoMore.tail (h : NoMore letter before after before' after' (c :: part)) :
    NoMore letter (c :: before) after (c :: before') after' part := by
  rintro front back rfl
  have hfront := h (c :: front) back rfl
  rwa [List.reverse_cons, List.append_assoc, List.append_assoc] at hfront

theorem NoMore.count_le (h : NoMore letter before after before' after' part) :
    (lowerWithin before part after).count letter ≤
      (lowerWithin before' part after').count letter := by
  induction part generalizing before before' with
  | nil => exact Nat.le_refl _
  | cons c part ih =>
    rw [lowerWithin, lowerWithin, List.count_append, List.count_append]
    exact Nat.add_le_add h.head (ih h.tail)

/-- If there is such a sigma less in the first place, the letter is rarer there. -/
theorem NoMore.count_lt (h : NoMore letter before after before' after' (front ++ 'Σ' :: back))
    (hlt : (lowerLetter (front.reverse ++ before) 'Σ' (back ++ after)).count letter <
      (lowerLetter (front.reverse ++ before') 'Σ' (back ++ after')).count letter) :
    (lowerWithin before (front ++ 'Σ' :: back) after).count letter <
      (lowerWithin before' (front ++ 'Σ' :: back) after').count letter := by
  induction front generalizing before before' with
  | nil =>
    rw [List.nil_append, lowerWithin, lowerWithin, List.count_append, List.count_append]
    exact Nat.add_lt_add_of_lt_of_le hlt h.tail.count_le
  | cons c front ih =>
    rw [List.reverse_cons, List.append_assoc, List.append_assoc] at hlt
    rw [List.cons_append, lowerWithin, lowerWithin, List.count_append, List.count_append]
    exact Nat.add_lt_add_of_le_of_lt h.head (ih h.tail hlt)

/-! ### Parts that are not lowered alike everywhere -/

theorem not_infix_of_count_lt (letter : Char) {part text : List Char}
    (h : text.count letter < part.count letter) : ¬ part <:+: text := by
  intro hinfix
  have hle := hinfix.sublist.count_le letter
  omega

/-- What the tables say of a letter. -/
theorem letterA_facts :
    isCaseIgnorable 'A' = false ∧ isCased 'A' = true ∧ lowerLetter [] 'A' [] = ['a'] := by
  decide +kernel

theorem lowerLetter_letterA (before after : List Char) : lowerLetter before 'A' after = ['a'] := by
  obtain ⟨-, -, hlower⟩ := letterA_facts
  rw [lowerLetter_of_ne (by decide) before after [] [], hlower]

theorem casedNext_letterA (text : List Char) : casedNext ('A' :: text) = true := by
  obtain ⟨hstop, hcased, -⟩ := letterA_facts
  rw [casedNext_cons_of_neg (Bool.eq_false_iff.mp hstop), hcased]

theorem not_isFinal_letterA {after : List Char} (h : Ignored after) (before more : List Char) :
    ¬ IsFinal before (after ++ 'A' :: more) := by
  refine not_isFinal_of_casedNext ?_ before
  rw [casedNext_append_of_ignored h, casedNext_letterA]

/-- A letter behind a part makes no sigma final, and one at the end of the part no longer is. -/
theorem not_lower_infix_of_forward (hcased : casedNext front.reverse = true)
    (hback : Ignored back) :
    ¬ lower (front ++ 'Σ' :: back) <:+: lower (front ++ 'Σ' :: back ++ ['A'] ++ [' ']) := by
  have hless : NoMore 'ς' [] ['A', ' '] [] [] (front ++ 'Σ' :: back) := by
    intro left right _
    rw [lowerLetter_sigma, lowerLetter_sigma, List.append_nil, List.append_nil]
    by_cases hright : Ignored right
    · rw [if_neg (not_isFinal_letterA hright _ _)]
      exact Nat.zero_le _
    · simp only [isFinal_append_after hright, Nat.le_refl]
  have hlt : (lowerLetter (front.reverse ++ []) 'Σ' (back ++ ['A', ' '])).count 'ς' <
      (lowerLetter (front.reverse ++ []) 'Σ' (back ++ [])).count 'ς' := by
    have hfinal : IsFinal front.reverse back := ⟨hcased, casedNext_of_ignored hback⟩
    rw [lowerLetter_sigma, lowerLetter_sigma, List.append_nil, List.append_nil,
      if_neg (not_isFinal_letterA hback _ _), if_pos hfinal]
    decide
  have hrarer := hless.count_lt hlt
  refine not_infix_of_count_lt 'ς' ?_
  rw [List.append_assoc, lower, lower, lowerFrom_append,
    ← lowerWithin_nil [] (front ++ 'Σ' :: back)]
  simpa [lowerFrom, lowerLetter_letterA, lowerLetter_blank] using hrarer

/-- A letter in front of a part leaves every final sigma final, and makes one at the beginning of
the part final if no letter follows it. -/
theorem not_lower_infix_of_back (hfront : Ignored front) (hnext : casedNext back = false) :
    ¬ lower (front ++ 'Σ' :: back) <:+: lower ('A' :: (front ++ 'Σ' :: back) ++ [' ']) := by
  have hless : NoMore 'σ' ['A'] [] [] [] (front ++ 'Σ' :: back) := by
    intro left right _
    rw [lowerLetter_sigma, lowerLetter_sigma, List.append_nil, List.append_nil]
    by_cases hleft : Ignored left
    · rw [if_neg (not_isFinal_of_ignored (ignored_reverse.mpr hleft) right)]
      split_ifs <;> decide
    · simp only [isFinal_append_before (mt ignored_reverse.mp hleft), Nat.le_refl]
  have hlt : (lowerLetter (front.reverse ++ ['A']) 'Σ' (back ++ [])).count 'σ' <
      (lowerLetter (front.reverse ++ []) 'Σ' (back ++ [])).count 'σ' := by
    have hfront' : Ignored front.reverse := ignored_reverse.mpr hfront
    have hfinal : IsFinal (front.reverse ++ ['A']) back := by
      refine ⟨?_, hnext⟩
      rw [casedNext_append_of_ignored hfront', casedNext_letterA]
    rw [lowerLetter_sigma, lowerLetter_sigma, List.append_nil, List.append_nil, if_pos hfinal,
      if_neg (not_isFinal_of_ignored hfront' back)]
    decide
  have hrarer := hless.count_lt hlt
  have hblank := lowerWithin_blank_after ['A'] (front ++ 'Σ' :: back) [] []
  rw [List.nil_append] at hblank
  refine not_infix_of_count_lt 'σ' ?_
  rw [List.cons_append, lower, lower, lowerFrom, lowerFrom_append, hblank,
    ← lowerWithin_nil [] (front ++ 'Σ' :: back)]
  simpa [lowerFrom, lowerLetter_letterA, lowerLetter_blank] using hrarer

/-- A part that is not steady stands in some text in which its own lower case does not. -/
theorem exists_not_lower_infix (h : ¬ Steady part) :
    ∃ text, part <:+: text ∧ ¬ lower part <:+: lower (text ++ [' ']) := by
  by_contra hnone
  refine h ?_
  rintro front back rfl
  constructor
  · rintro ⟨hcased, hback⟩
    exact hnone ⟨_, ⟨[], ['A'], rfl⟩, not_lower_infix_of_forward hcased hback⟩
  · rintro ⟨hfront, hnext⟩
    exact hnone ⟨_, ⟨['A'], [], List.append_nil _⟩, not_lower_infix_of_back hfront hnext⟩

end ListingReview.Text
