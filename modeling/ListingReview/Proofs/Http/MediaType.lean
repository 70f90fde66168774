import ListingReview.Http.MediaType
import ListingReview.Proofs.Text.Search

/-! # HTTP: which bodies are JSON

`NamesJson` says which content types announce JSON, without the functions that take them apart: the
type is `application`, and the subtype or what stands before or behind its last plus sign is `json`
(`announcesJson_iff`). -/

namespace ListingReview.Http

open Text (sameAscii)

/-- What may stand behind the subtype. -/
inductive IsParameters : List Char → Prop where
  | none : IsParameters []
  | some {parameters : List Char} (h : ParameterState.start.accepts parameters = true) :
    IsParameters (';' :: parameters)

/-- A subtype for JSON; one with a plus sign has a suffix, unless nothing is in front of it. -/
inductive IsJsonSubtype : List Char → Prop where
  | whole {subtype : List Char} (h : sameAscii subtype "json".toList = true) :
    IsJsonSubtype subtype
  | suffixed {plain suffix : List Char} (hplain : plain ≠ []) (hsuffix : '+' ∉ suffix)
    (h : sameAscii plain "json".toList = true ∨ sameAscii suffix "json".toList = true) :
    IsJsonSubtype (plain ++ '+' :: suffix)

/-- A content type for JSON. -/
inductive NamesJson : List Char → Prop where
  | parts {type subtype parameters : List Char}
    (htoken : ∀ c ∈ type, isTokenChar c = true) (htoken' : ∀ c ∈ subtype, isTokenChar c = true)
    (htype : sameAscii type "application".toList = true) (hsubtype : IsJsonSubtype subtype)
    (hparameters : IsParameters parameters) :
    NamesJson (type ++ '/' :: (subtype ++ parameters))

/-! ### Suffixes -/

theorem splitSuffix_append {plain suffix : List Char} (hplain : plain ≠ [])
    (hsuffix : '+' ∉ suffix) :
    splitSuffix (plain ++ '+' :: suffix) = (plain, some suffix) := by
  have hreverse : (plain ++ '+' :: suffix).reverse = suffix.reverse ++ '+' :: plain.reverse := by
    simp
  have hnot : ∀ c ∈ suffix.reverse, (c != '+') = true := fun c hc => by
    rw [bne_iff_ne]
    rintro rfl
    exact hsuffix (List.mem_reverse.mp hc)
  obtain ⟨c, before, hbefore⟩ := List.exists_cons_of_ne_nil (List.reverse_ne_nil_iff.mpr hplain)
  have hdrop : (plain ++ '+' :: suffix).reverse.dropWhile (· != '+') = '+' :: c :: before := by
    rw [hreverse, List.dropWhile_append_of_pos hnot, List.dropWhile_cons_of_neg (by decide),
      hbefore]
  have htake : (plain ++ '+' :: suffix).reverse.takeWhile (· != '+') = suffix.reverse := by
    rw [hreverse, List.takeWhile_append_of_pos hnot, List.takeWhile_cons_of_neg (by decide),
      List.append_nil]
  simp only [splitSuffix, hdrop, htake]
  rw [← hbefore, List.reverse_reverse, List.reverse_reverse]

theorem splitSuffix_eq_self {subtype : List Char}
    (h : ∀ plain suffix, '+' ∉ suffix → subtype = plain ++ '+' :: suffix → plain = []) :
    splitSuffix subtype = (subtype, none) := by
  have hparts := (List.takeWhile_append_dropWhile (p := (· != '+')) (l := subtype.reverse)).symm
  have hhead := List.head?_dropWhile_not (· != '+') subtype.reverse
  have hnot : '+' ∉ subtype.reverse.takeWhile (· != '+') := fun hmem => by
    simpa using List.mem_takeWhile_imp hmem
  simp only [splitSuffix]
  generalize subtype.reverse.takeWhile (· != '+') = suffix at *
  generalize subtype.reverse.dropWhile (· != '+') = rest at *
  rcases rest with _ | ⟨plus, _ | ⟨c, before⟩⟩
  · rfl
  · rfl
  · obtain rfl : plus = '+' := by simpa using hhead
    have heq : subtype = (c :: before).reverse ++ '+' :: suffix.reverse := by
      rw [← List.reverse_inj, hparts]
      simp
    exact absurd (h _ _ (fun hmem => hnot (List.mem_reverse.mp hmem)) heq) (by simp)

theorem not_sameAscii_json {plain suffix : List Char} :
    sameAscii (plain ++ '+' :: suffix) "json".toList = false := by
  have hnot : '+' ∉ Text.asciiLower "json".toList := by decide
  rw [sameAscii, beq_eq_false_iff_ne]
  intro heq
  refine hnot (heq ▸ ?_)
  simp [Text.asciiLower]

theorem isJson_iff {type subtype : List Char} :
    MediaType.isJson ⟨type, (splitSuffix subtype).1, (splitSuffix subtype).2⟩ = true ↔
      sameAscii type "application".toList = true ∧ IsJsonSubtype subtype := by
  rw [MediaType.isJson, Bool.and_eq_true, Bool.or_eq_true]
  refine and_congr_right fun _ => ?_
  by_cases hplus : ∃ plain suffix, plain ≠ [] ∧ '+' ∉ suffix ∧ subtype = plain ++ '+' :: suffix
  · obtain ⟨plain, suffix, hplain, hsuffix, rfl⟩ := hplus
    have hsplit := splitSuffix_append hplain hsuffix
    simp only [hsplit, Option.any_some]
    constructor
    · exact .suffixed hplain hsuffix
    · intro h
      generalize htext : plain ++ '+' :: suffix = text at h
      rcases h with h | ⟨hplain', hsuffix', h⟩
      · rw [← htext, not_sameAscii_json] at h
        cases h
      · have hsplit' := splitSuffix_append hplain' hsuffix'
        rw [← htext, hsplit, Prod.mk.injEq, Option.some.injEq] at hsplit'
        obtain ⟨rfl, rfl⟩ := hsplit'
        exact h
  · have hsplit : splitSuffix subtype = (subtype, none) :=
      splitSuffix_eq_self fun plain suffix hsuffix heq => by
        by_contra hplain
        exact hplus ⟨plain, suffix, hplain, hsuffix, heq⟩
    simp only [hsplit, Option.any_none, Bool.false_eq_true, or_false]
    constructor
    · exact .whole
    · rintro (h | ⟨hplain, hsuffix, -⟩)
      · exact h
      · exact absurd ⟨_, _, hplain, hsuffix, rfl⟩ hplus

/-! ### Media types -/

theorem IsParameters.head {parameters : List Char} (h : IsParameters parameters) :
    ∀ c ∈ parameters.head?, isTokenChar c = false := by
  rcases h with _ | h
  · exact fun c hc => absurd hc (by simp)
  · intro c hc
    obtain rfl : ';' = c := by simpa using hc
    decide

theorem ofText?_parts {type subtype parameters : List Char} (htype : type ≠ [])
    (htoken : ∀ c ∈ type, isTokenChar c = true) (htoken' : ∀ c ∈ subtype, isTokenChar c = true)
    (hsubtype : subtype ≠ []) (hparameters : IsParameters parameters) :
    MediaType.ofText? (type ++ '/' :: (subtype ++ parameters)) =
      some ⟨type, (splitSuffix subtype).1, (splitSuffix subtype).2⟩ := by
  have hslash : ∀ c ∈ ('/' :: (subtype ++ parameters)).head?, isTokenChar c = false := by
    intro c hc
    obtain rfl : '/' = c := by simpa using hc
    decide
  obtain ⟨htake, hdrop⟩ := Text.cut_iff.mpr ⟨rfl, htoken, hslash⟩
  obtain ⟨htake', hdrop'⟩ := Text.cut_iff.mpr ⟨rfl, htoken', hparameters.head⟩
  obtain ⟨c, type, rfl⟩ := List.exists_cons_of_ne_nil htype
  simp only [MediaType.ofText?, htake, hdrop, htake', hdrop']
  rcases hparameters with _ | haccepts
  · rfl
  · simp [hsubtype, haccepts]

theorem ofText?_sound {text : List Char} {mediaType : MediaType}
    (h : MediaType.ofText? text = some mediaType) : ∃ type subtype parameters,
      text = type ++ '/' :: (subtype ++ parameters) ∧ (∀ c ∈ type, isTokenChar c = true) ∧
        (∀ c ∈ subtype, isTokenChar c = true) ∧ IsParameters parameters ∧
          mediaType = ⟨type, (splitSuffix subtype).1, (splitSuffix subtype).2⟩ := by
  simp only [MediaType.ofText?] at h
  split at h
  · next c type rest htake hdrop =>
    have htext := (List.takeWhile_append_dropWhile (p := isTokenChar) (l := text)).symm
    have hrest := (List.takeWhile_append_dropWhile (p := isTokenChar) (l := rest)).symm
    have hparts : ∀ {parameters}, rest.dropWhile isTokenChar = parameters →
        text = text.takeWhile isTokenChar ++ '/' :: (rest.takeWhile isTokenChar ++ parameters) := by
      rintro _ rfl
      rwa [← hrest, ← hdrop]
    have htoken : ∀ {chars : List Char}, ∀ c ∈ chars.takeWhile isTokenChar, isTokenChar c = true :=
      fun _ hc => List.mem_takeWhile_imp hc
    split at h
    · next hnone =>
      exact ⟨_, _, _, hparts hnone, htoken, htoken, .none, (Option.some.inj h).symm⟩
    · next parameters hsome =>
      split at h
      · next haccepts =>
        rw [Bool.and_eq_true] at haccepts
        exact ⟨_, _, _, hparts hsome, htoken, htoken, .some haccepts.2, (Option.some.inj h).symm⟩
      · cases h
    · cases h
  · cases h

theorem ne_nil_of_sameAscii {name name' : List Char} (h : sameAscii name name' = true)
    (hname : name' ≠ []) : name ≠ [] := by
  rintro rfl
  rw [sameAscii, beq_iff_eq] at h
  exact hname (List.map_eq_nil_iff.mp h.symm)

theorem IsJsonSubtype.ne_nil {subtype : List Char} (h : IsJsonSubtype subtype) : subtype ≠ [] := by
  rcases h with h | _
  · exact ne_nil_of_sameAscii h (by decide)
  · simp

/-- **Which bodies are announced as JSON.** -/
theorem announcesJson_iff {contentType : Option String} :
    announcesJson contentType = true ↔ ∃ text ∈ contentType, NamesJson text.toList := by
  constructor
  · intro h
    rcases contentType with _ | text
    · cases h
    · refine ⟨text, rfl, ?_⟩
      simp only [announcesJson, Option.bind_some] at h
      split at h
      · next mediaType hmedia =>
        obtain ⟨type, subtype, parameters, htext, htoken, htoken', hparameters, rfl⟩ :=
          ofText?_sound hmedia
        obtain ⟨htype, hsubtype⟩ := isJson_iff.mp h
        exact htext ▸ .parts htoken htoken' htype hsubtype hparameters
      · cases h
  · rintro ⟨text, rfl, hjson⟩
    generalize htext : text.toList = chars at hjson
    obtain ⟨htoken, htoken', htype, hsubtype, hparameters⟩ := hjson
    have hmedia := ofText?_parts (ne_nil_of_sameAscii htype (by decide)) htoken htoken'
      hsubtype.ne_nil hparameters
    simp only [announcesJson, Option.bind_some, htext, hmedia]
    exact isJson_iff.mpr ⟨htype, hsubtype⟩

end ListingReview.Http
