import ListingReview.Policy
import ListingReview.Proofs.Text.Lowercase

/-! # Policy: terms

A policy holds three lists of terms (`TermList`), each made in the same way. A line of settings is
cut at its commas (`fields_intercalate`, `not_mem_of_mem_fields`), and where no term is left of it
the standard ones take their place (`termsOr_cases`, `TermList.of_ofSettings_cases`).

A term that is given to a policy and is not blank is held in normal form, whether it is given in a
list or in a line of settings (`Bans.mem_bannedTerms`). -/

namespace ListingReview

theorem Text.fields_eq_splitOn (separator : Char) (text : List Char) :
    Text.fields separator text = text.splitOn separator := by
  induction text with
  | nil => rfl
  | cons c text ih =>
    rw [Text.fields, ih, List.splitOn_cons_eq_if_modifyHead]
    obtain ⟨field, others, hfields⟩ :=
      List.exists_cons_of_ne_nil (List.splitOn_ne_nil separator text)
    simp only [hfields, beq_iff_eq, List.modifyHead_cons]

/-- A line cut at its commas gives back the texts that it was made of. -/
theorem Text.fields_intercalate {texts : List String} (hne : texts ≠ [])
    (hcomma : ∀ text ∈ texts, ',' ∉ text.toList) :
    Text.fields ',' (",".intercalate texts).toList = texts.map String.toList := by
  rw [Text.fields_eq_splitOn, String.toList_intercalate]
  refine List.splitOn_intercalate ',' ?_ (by simpa using hne)
  simpa using hcomma

theorem Text.not_mem_of_mem_fields {separator : Char} :
    ∀ {text field : List Char}, field ∈ Text.fields separator text → separator ∉ field
  | [], field, h => by
    obtain rfl := List.mem_singleton.mp h
    exact List.not_mem_nil
  | c :: text, field, h => by
    rw [Text.fields] at h
    obtain ⟨first, others, hfields⟩ :
        ∃ first others, Text.fields separator text = first :: others := by
      rw [Text.fields_eq_splitOn]
      exact List.exists_cons_of_ne_nil (List.splitOn_ne_nil separator text)
    have hrest : ∀ field ∈ first :: others, separator ∉ field :=
      fun _ hmem => not_mem_of_mem_fields (hfields ▸ hmem)
    obtain ⟨hfirst, hothers⟩ := List.forall_mem_cons.mp hrest
    simp only [hfields] at h
    split_ifs at h with hc
    · rcases List.mem_cons.mp h with rfl | hmem
      · exact List.not_mem_nil
      · exact hrest field hmem
    · rcases List.mem_cons.mp h with rfl | hmem
      · exact List.not_mem_cons_of_ne_of_not_mem (Ne.symm hc) hfirst
      · exact hothers field hmem

namespace Policy

/-! ### The three lists -/

/-- The lists that a policy holds. -/
inductive TermList where
  | banned
  | flagged
  | types
deriving DecidableEq, Repr

namespace TermList

/-- The list in a policy. -/
def of (policy : Policy) : TermList → List String
  | banned => policy.bannedTerms
  | flagged => policy.flaggedTerms
  | types => policy.flaggedTypes

/-- The name of the setting with the list. -/
def key : TermList → String
  | banned => bannedKey
  | flagged => flaggedKey
  | types => typesKey

/-- The list where nothing is set. -/
def standard : TermList → List String
  | banned => standardBanned
  | flagged => standardFlagged
  | types => standardTypes

variable (list : TermList)

theorem of_ofSettings (settings : Settings) :
    list.of (ofSettings settings) = termsOr list.standard (settings list.key) := by
  cases list <;> rfl

theorem of_ofLists (banned flagged types : List String) (limit : Int64) :
    list.of (ofLists banned flagged types limit) =
      normalTerms ((list.of ⟨banned, flagged, types, limit⟩).map String.toList) := by
  cases list <;> rfl

/-- There are standard terms, in normal form already, and there are no commas in them. -/
theorem standard_facts :
    list.standard ≠ [] ∧ normalTerms (list.standard.map String.toList) = list.standard ∧
      ∀ term ∈ list.standard, ',' ∉ term.toList := by
  cases list <;> decide +kernel

end TermList

/-! ### Terms of a line -/

theorem termsOr_of_ne_nil (others : List String) {line : String}
    (h : normalTerms (Text.fields ',' line.toList) ≠ []) :
    termsOr others (some line) = normalTerms (Text.fields ',' line.toList) := by
  simp only [termsOr, List.isEmpty_iff, if_neg h]

theorem termsOr_of_eq_nil (others : List String) {line : Option String}
    (h : ∀ text ∈ line, normalTerms (Text.fields ',' text.toList) = []) :
    termsOr others line = normalTerms (others.map String.toList) := by
  cases line with
  | none => rfl
  | some text =>
    have hnil := h text rfl
    simp only [termsOr, hnil, List.isEmpty_nil, if_true]

/-- The terms come of the line or of the other ones. -/
theorem termsOr_cases (others : List String) (line : Option String) :
    (∃ text ∈ line, normalTerms (Text.fields ',' text.toList) ≠ [] ∧
        termsOr others line = normalTerms (Text.fields ',' text.toList)) ∨
      (∀ text ∈ line, normalTerms (Text.fields ',' text.toList) = []) ∧
        termsOr others line = normalTerms (others.map String.toList) := by
  by_cases hnone : ∀ text ∈ line, normalTerms (Text.fields ',' text.toList) = []
  · exact .inr ⟨hnone, termsOr_of_eq_nil others hnone⟩
  · simp only [not_forall] at hnone
    obtain ⟨text, rfl, hne⟩ := hnone
    exact .inl ⟨text, rfl, hne, termsOr_of_ne_nil others hne⟩

section Settings

variable (list : TermList) {settings : Settings}

/-- Texts without commas on a line, some of them not blank, are held as they are in a list. -/
theorem TermList.of_ofSettings_line {texts : List String}
    (hcomma : ∀ text ∈ texts, ',' ∉ text.toList)
    (hfull : normalTerms (texts.map String.toList) ≠ [])
    (hline : settings list.key = some (",".intercalate texts)) :
    list.of (ofSettings settings) = normalTerms (texts.map String.toList) := by
  have hne : texts ≠ [] := by
    rintro rfl
    exact hfull rfl
  rw [← Text.fields_intercalate hne hcomma] at hfull ⊢
  rw [list.of_ofSettings, hline, termsOr_of_ne_nil _ hfull]

theorem TermList.of_ofSettings_cases :
    (∃ text ∈ settings list.key, normalTerms (Text.fields ',' text.toList) ≠ [] ∧
        list.of (ofSettings settings) = normalTerms (Text.fields ',' text.toList)) ∨
      list.of (ofSettings settings) = list.standard := by
  rw [list.of_ofSettings]
  rcases termsOr_cases list.standard (settings list.key) with hterms | ⟨-, hterms⟩
  · exact .inl hterms
  · exact .inr (hterms.trans list.standard_facts.2.1)

end Settings

/-! ### Terms that are held -/

theorem mem_normalTerms {terms : List (List Char)} {term : List Char} (h : term ∈ terms)
    (hblank : Text.trim term ≠ []) : String.ofList (normalTerm term) ∈ normalTerms terms := by
  have hne : normalTerm term ≠ [] := Text.lower_ne_nil hblank
  refine List.mem_map_of_mem (List.mem_filter.mpr ⟨List.mem_map_of_mem h, ?_⟩)
  simpa using hne

/-- The policy was given the terms to ban, in a list or in a line with commas between them, in which
case none of them has a comma itself. -/
inductive Bans (banned : List String) : Policy → Prop where
  | lists (flagged types : List String) (limit : Int64) :
    Bans banned (ofLists banned flagged types limit)
  | settings (settings : Settings) (hline : settings bannedKey = some (",".intercalate banned))
    (hcomma : ∀ term ∈ banned, ',' ∉ term.toList) : Bans banned (ofSettings settings)

theorem Bans.mem_bannedTerms {banned : List String} {policy : Policy} (hbans : Bans banned policy)
    {term : String} (h : term ∈ banned) (hblank : Text.trim term.toList ≠ []) :
    String.ofList (normalTerm term.toList) ∈ policy.bannedTerms := by
  have hmem := mem_normalTerms (List.mem_map_of_mem h) hblank
  cases hbans with
  | lists flagged types limit => exact hmem
  | settings settings hline hcomma =>
    have hsame : (ofSettings settings).bannedTerms = normalTerms (banned.map String.toList) :=
      TermList.banned.of_ofSettings_line hcomma (List.ne_nil_of_mem hmem) hline
    rwa [hsame]

end Policy

end ListingReview
