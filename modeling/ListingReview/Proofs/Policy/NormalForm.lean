import ListingReview.Proofs.Policy.Terms
import ListingReview.Proofs.Text.Trim

/-! # Policy: normal form

The terms of a policy are in normal form (`IsNormal`), however the policy was made, and terms in
normal form are held as they are (`normalTerms_of_isNormal`). So a policy can be made anew of its
own lists. Terms without commas may as well be written on a line with commas between them
(`TermList.of_ofSettings_line`), and those of a policy made of settings are without commas
(`comma_notMem_ofSettings`). -/

namespace ListingReview.Policy

/-- A term as it is held: not empty, without blanks at its ends, and in lower case. -/
structure IsNormal (term : String) : Prop where
  ne_empty : term ≠ ""
  trimmed : Text.Trimmed term.toList
  lower : Text.lower term.toList = term.toList

/-! ### Terms -/

variable {terms : List (List Char)}

theorem mem_normalTerms_iff {term : String} :
    term ∈ normalTerms terms ↔ term ≠ "" ∧ ∃ raw ∈ terms, normalTerm raw = term.toList := by
  have hne : (!term.toList.isEmpty) = true ↔ term ≠ "" := by
    rw [Bool.not_eq_true', List.isEmpty_eq_false_iff, Ne, String.toList_eq_nil_iff]
  rw [normalTerms, List.mem_map]
  constructor
  · rintro ⟨normal, hmem, rfl⟩
    obtain ⟨hraw, hfull⟩ := List.mem_filter.mp hmem
    rw [String.toList_ofList] at hne ⊢
    exact ⟨hne.mp hfull, List.mem_map.mp hraw⟩
  · rintro ⟨hterm, raw, hraw, hnormal⟩
    refine ⟨term.toList, List.mem_filter.mpr ⟨?_, hne.mpr hterm⟩, String.ofList_toList⟩
    exact List.mem_map.mpr ⟨raw, hraw, hnormal⟩

theorem isNormal_of_mem {term : String} (h : term ∈ normalTerms terms) : IsNormal term := by
  obtain ⟨hne, raw, -, hnormal⟩ := mem_normalTerms_iff.mp h
  refine ⟨hne, ?_, ?_⟩
  · rw [← hnormal]
    exact (Text.trims_trim raw).trimmed.lower
  · rw [← hnormal, normalTerm, Text.lower_lower]

theorem IsNormal.normalTerm_eq {term : String} (h : IsNormal term) :
    normalTerm term.toList = term.toList := by
  rw [normalTerm, Text.trim_of_trimmed h.trimmed, h.lower]

/-- **What is in normal form is held as it is.** -/
theorem normalTerms_of_isNormal {terms : List String} (h : ∀ term ∈ terms, IsNormal term) :
    normalTerms (terms.map String.toList) = terms := by
  have hnormal : (terms.map String.toList).map normalTerm = terms.map String.toList := by
    rw [List.map_map]
    exact List.map_congr_left fun term hterm => (h term hterm).normalTerm_eq
  have hfull : (terms.map String.toList).filter (fun term => !term.isEmpty) =
      terms.map String.toList := by
    refine List.filter_eq_self.mpr (List.forall_mem_map.mpr fun term hterm => ?_)
    simpa using (h term hterm).ne_empty
  have hid : String.ofList ∘ String.toList = id := funext fun _ => String.ofList_toList
  rw [normalTerms, hnormal, hfull, List.map_map, hid, List.map_id]

theorem comma_notMem (h : ∀ raw ∈ terms, ',' ∉ raw) :
    ∀ term ∈ normalTerms terms, ',' ∉ term.toList := by
  intro term hterm hcomma
  obtain ⟨-, raw, hraw, hnormal⟩ := mem_normalTerms_iff.mp hterm
  rw [← hnormal] at hcomma
  exact h raw hraw (Text.mem_of_mem_trim (Text.mem_of_mem_lower (.inl rfl) hcomma))

/-! ### Lists of a policy -/

/-- The ways in which a policy is made. -/
inductive Made : Policy → Prop where
  | lists (banned flagged types : List String) (limit : Int64) :
    Made (ofLists banned flagged types limit)
  | settings (settings : Settings) : Made (ofSettings settings)
  | standard : Made standard

theorem Made.exists_terms {policy : Policy} (h : Made policy) (list : TermList) :
    ∃ terms, list.of policy = normalTerms terms := by
  cases h with
  | lists banned flagged types limit => exact ⟨_, list.of_ofLists banned flagged types limit⟩
  | standard => exact ⟨_, list.of_ofLists standardBanned standardFlagged standardTypes _⟩
  | settings settings =>
    rcases list.of_ofSettings_cases with ⟨_, -, -, hterms⟩ | hterms
    · exact ⟨_, hterms⟩
    · exact ⟨_, hterms.trans list.standard_facts.2.1.symm⟩

theorem Made.isNormal {policy : Policy} (h : Made policy) (list : TermList) :
    ∀ term ∈ list.of policy, IsNormal term := by
  obtain ⟨terms, hterms⟩ := h.exists_terms list
  rw [hterms]
  exact fun term hterm => isNormal_of_mem hterm

theorem Made.ofLists_eq {policy : Policy} (h : Made policy) :
    ofLists policy.bannedTerms policy.flaggedTerms policy.flaggedTypes policy.sizeLimit =
      policy := by
  have hlist (list : TermList) :
      normalTerms ((list.of policy).map String.toList) = list.of policy :=
    normalTerms_of_isNormal (h.isNormal list)
  have hbanned : normalTerms (policy.bannedTerms.map String.toList) = policy.bannedTerms :=
    hlist .banned
  have hflagged : normalTerms (policy.flaggedTerms.map String.toList) = policy.flaggedTerms :=
    hlist .flagged
  have htypes : normalTerms (policy.flaggedTypes.map String.toList) = policy.flaggedTypes :=
    hlist .types
  rw [ofLists, hbanned, hflagged, htypes]

/-! ### Lines of settings -/

theorem comma_notMem_ofSettings (list : TermList) (settings : Settings) :
    ∀ term ∈ list.of (ofSettings settings), ',' ∉ term.toList := by
  obtain ⟨-, -, hcomma⟩ := list.standard_facts
  rcases list.of_ofSettings_cases with ⟨_, -, -, hterms⟩ | hterms
  · rw [hterms]
    exact comma_notMem fun _ => Text.not_mem_of_mem_fields
  · rw [hterms]
    exact hcomma

theorem of_ofSettings_ne_nil (list : TermList) (settings : Settings) :
    list.of (ofSettings settings) ≠ [] := by
  obtain ⟨hne, -⟩ := list.standard_facts
  rcases list.of_ofSettings_cases with ⟨_, -, hfull, hterms⟩ | hterms
  · rw [hterms]
    exact hfull
  · rw [hterms]
    exact hne

/-- **What is held is in normal form and can be given again.** The terms of a policy, however it was
made, are in normal form, and the policy made of its own lists is the same. Texts without commas,
one of them at least not blank, give the same terms on a line of settings as in a list; so do the
terms that a policy has from settings, which come out as they are. -/
theorem held_terms :
    (∀ policy, Made policy →
        (∀ (list : TermList), ∀ term ∈ list.of policy, IsNormal term) ∧
          ofLists policy.bannedTerms policy.flaggedTerms policy.flaggedTypes policy.sizeLimit =
            policy) ∧
      (∀ (list : TermList) (banned flagged types : List String) (limit : Int64)
          (settings : Settings),
        (∀ text ∈ list.of ⟨banned, flagged, types, limit⟩, ',' ∉ text.toList) →
        (∃ text ∈ list.of ⟨banned, flagged, types, limit⟩, ∃ c ∈ text.toList,
          Text.isBlank c = false) →
        settings list.key = some (",".intercalate (list.of ⟨banned, flagged, types, limit⟩)) →
        list.of (ofSettings settings) = list.of (ofLists banned flagged types limit)) ∧
      ∀ (list : TermList) (settings again : Settings),
        again list.key = some (",".intercalate (list.of (ofSettings settings))) →
        list.of (ofSettings again) = list.of (ofSettings settings) := by
  refine ⟨fun policy hmade => ⟨hmade.isNormal, hmade.ofLists_eq⟩, ?_, ?_⟩
  · rintro list banned flagged types limit settings hcomma ⟨text, htext, c, hc, hblank⟩ hline
    rw [list.of_ofLists]
    refine list.of_ofSettings_line hcomma ?_ hline
    have htrim : Text.trim text.toList ≠ [] := by
      rw [Ne, Text.trim_eq_nil_iff]
      intro hall
      rw [hall c hc] at hblank
      cases hblank
    exact List.ne_nil_of_mem (mem_normalTerms (List.mem_map_of_mem htext) htrim)
  · intro list settings again hline
    have hsame : normalTerms ((list.of (ofSettings settings)).map String.toList) =
        list.of (ofSettings settings) :=
      normalTerms_of_isNormal ((Made.settings settings).isNormal list)
    have hfull := of_ofSettings_ne_nil list settings
    rw [← hsame] at hfull
    rw [list.of_ofSettings_line (comma_notMem_ofSettings list settings) hfull hline, hsame]

/-- A list with blanks, a blank term and capitals, in a policy made of lists and on a line of
settings, and these settings with the line that comes of them. -/
theorem held_terms_of_knives :
    let given : List String := [" KNIFE ", " ", "ΟΔΟΣ\t", "knife"]
    let held : List String := ["knife", "οδος", "knife"]
    let policy : Policy := ofLists given [] [] 500
    let settings : Settings := fun name =>
      if name = bannedKey then some " KNIFE , ,ΟΔΟΣ\t,knife" else none
    let again : Settings := fun name => if name = bannedKey then some "knife,οδος,knife" else none
    policy.bannedTerms = held ∧ (∀ term ∈ held, IsNormal term) ∧
      ofLists held [] [] 500 = policy ∧
      (ofSettings settings).bannedTerms = held ∧
      (ofSettings again).bannedTerms = (ofSettings settings).bannedTerms := by
  intro given held policy settings again
  obtain ⟨hmade, hline, hagain⟩ := held_terms
  have hheld : policy = ⟨held, [], [], 500⟩ := by decide +kernel
  obtain ⟨hnormal, hsame⟩ := hmade policy (.lists given [] [] 500)
  have hsettings : (ofSettings settings).bannedTerms = policy.bannedTerms :=
    hline .banned given [] [] 500 settings (by decide) ⟨" KNIFE ", by decide, 'K', by decide⟩
      (by decide)
  rw [hheld] at hnormal hsame hsettings
  have hof : TermList.banned.of (ofSettings settings) = held := hsettings
  refine ⟨by rw [hheld], hnormal .banned, hsame.trans hheld.symm, hsettings,
    hagain .banned settings again ?_⟩
  rw [hof]
  decide

end ListingReview.Policy
