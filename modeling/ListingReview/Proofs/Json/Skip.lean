import ListingReview.Proofs.Json.Spelling
import ListingReview.Proofs.Json.Parts

/-! # JSON: passing over a value

A value that is well formed, of any kind and any depth, is passed over (`skipValue_wellFormed`). The
brackets that are open stay open, and all that they still hold comes next. Nothing but values is
passed over (`skipValue_sound`). And a value has one end: of two values in front of the same octets
neither goes on behind the other (`WellFormed.unique`). -/

namespace ListingReview.Json

open Text (Octets)

/-! ### Steps -/

theorem skipValue_eq (opened : List Bracket) (input : Octets) : skipValue opened input =
    match skipBlanks input with
    | [] => .error .endInValue
    | b :: bytes =>
      match opens? b with
      | some bracket =>
        match skipOpening bracket bytes with
        | .error cause => .error cause
        | .ok (.closed rest) => skipRest opened rest
        | .ok (.part rest) => skipValue (bracket :: opened) rest
      | none =>
        match skipScalar b bytes with
        | .error cause => .error cause
        | .ok rest => skipRest opened rest := by
  rw [skipValue]
  split
  · next h => simp only [h]
  · next h =>
    split
    · next hb => split <;> next ho => simp only [h, hb, ho]
    · next hb => split <;> next hs => simp only [h, hb, hs]

theorem skipRest_cons (bracket : Bracket) (opened : List Bracket) (bytes : Octets) :
    skipRest (bracket :: opened) bytes =
      match skipComma bracket bytes with
      | .error cause => .error cause
      | .ok (.closed rest) => skipRest opened rest
      | .ok (.part rest) => skipValue (bracket :: opened) rest := by
  rw [skipRest]
  split <;> next h => simp only [h]

theorem skipValue_scalar (opened : List Bracket) {input bytes rest : Octets} {b : UInt8}
    (h : skipBlanks input = b :: bytes) (hb : opens? b = none)
    (hscalar : skipScalar b bytes = .ok rest) : skipValue opened input = skipRest opened rest := by
  rw [skipValue_eq, h]
  simp only [hb, hscalar]

theorem skipValue_closed (opened : List Bracket) {input bytes rest : Octets} {b : UInt8}
    {bracket : Bracket} (h : skipBlanks input = b :: bytes) (hb : opens? b = some bracket)
    (hopening : skipOpening bracket bytes = .ok (.closed rest)) :
    skipValue opened input = skipRest opened rest := by
  rw [skipValue_eq, h]
  simp only [hb, hopening]

theorem skipValue_part (opened : List Bracket) {input bytes rest : Octets} {b : UInt8}
    {bracket : Bracket} (h : skipBlanks input = b :: bytes) (hb : opens? b = some bracket)
    (hopening : skipOpening bracket bytes = .ok (.part rest)) :
    skipValue opened input = skipValue (bracket :: opened) rest := by
  rw [skipValue_eq, h]
  simp only [hb, hopening]

theorem skipKey_body {entry : Entry} (h : Loose entry.key) (rest : Octets) :
    skipKey (entry.body ++ rest) = .ok (entry.after ++ (entry.value ++ rest)) := by
  have hcolon : readColon (entry.before ++ octet ':' :: (entry.after ++ (entry.value ++ rest))) =
      .ok (entry.after ++ (entry.value ++ rest)) :=
    readColon_iff.mpr (skipBlanks_mark entry.blanks_before (by decide) _)
  have hkey : skipText (entry.body ++ rest) =
      .ok (entry.before ++ octet ':' :: (entry.after ++ (entry.value ++ rest))) :=
    skipText_iff.mpr ⟨entry.key, h, by simp [Entry.body]⟩
  rw [skipKey, hkey]
  exact hcolon

theorem skipComma_list {bytes rest : Octets} (h : skipBlanks bytes = octet ',' :: rest) :
    skipComma .list bytes = .ok (.part rest) := by
  unfold skipComma
  rw [h]
  exact (if_neg (by decide)).trans (if_pos rfl)

theorem skipComma_object {bytes rest rest' rest'' : Octets}
    (h : skipBlanks bytes = octet ',' :: rest)
    (hquote : skipBlanks rest = octet '"' :: rest') (hkey : skipKey rest' = .ok rest'') :
    skipComma .object bytes = .ok (.part rest'') := by
  unfold skipComma
  rw [h]
  refine (if_neg (by decide)).trans ((if_pos rfl).trans ?_)
  rw [hquote]
  refine (if_pos rfl).trans ?_
  rw [hkey]
  rfl

/-! ### Brackets -/

theorem skipOpening_close {bracket : Bracket} {bytes rest : Octets}
    (h : skipBlanks bytes = bracket.closing :: rest) :
    skipOpening bracket bytes = .ok (.closed rest) := by
  rcases bracket with _ | _
  · exact firstItem_close h
  · rw [skipOpening, firstMember_close h]

theorem skipComma_close {bracket : Bracket} {bytes rest : Octets}
    (h : skipBlanks bytes = bracket.closing :: rest) :
    skipComma bracket bytes = .ok (.closed rest) := by
  unfold skipComma
  rcases bracket with _ | _ <;> simp only [h] <;> exact if_pos rfl

theorem Bracket.opens?_opening (bracket : Bracket) : opens? bracket.opening = some bracket := by
  rcases bracket with _ | _ <;> rfl

/-- A value is passed over, and what the open brackets still hold comes next. -/
def Passed (text : Octets) : Prop :=
  ∀ (opened : List Bracket) {input rest : Octets}, Ends rest → skipBlanks input = text ++ rest →
    skipValue opened input = skipRest opened rest

/-- A part of a bracket is passed over, behind the opening bracket and behind a comma. -/
structure Bracket.Passes (bracket : Bracket) (part : Octets) : Prop where
  first : ∀ (opened : List Bracket) {blanks rest : Octets}, Blanks blanks → Ends rest →
    ∃ inside, skipOpening bracket (blanks ++ (part ++ rest)) = .ok (.part inside) ∧
      skipValue (bracket :: opened) inside = skipRest (bracket :: opened) rest
  next : ∀ (opened : List Bracket) {blanks blanks' rest : Octets}, Blanks blanks →
    Blanks blanks' → Ends rest →
      skipRest (bracket :: opened) (blanks ++ octet ',' :: (blanks' ++ (part ++ rest))) =
        skipRest (bracket :: opened) rest

theorem passes_item {part : Octets} (h : Passed part) (hstarts : Starts part) :
    Bracket.list.Passes part where
  first opened blanks rest hblanks hrest := by
    have hfirst := firstItem_part (hstarts.skipBlanks_append hblanks rest) hstarts
    exact ⟨_, hfirst, h _ hrest (hstarts.skipBlanks rest)⟩
  next opened blanks blanks' rest hblanks hblanks' hrest := by
    rw [skipRest_cons, skipComma_list (skipBlanks_mark hblanks (by decide) _)]
    exact h _ hrest (hstarts.skipBlanks_append hblanks' rest)

theorem skipBlanks_entry {blanks : Octets} (h : Blanks blanks) (entry : Entry) (rest : Octets) :
    skipBlanks (blanks ++ (entry.text ++ rest)) = octet '"' :: (entry.body ++ rest) :=
  skipBlanks_mark h (by decide) _

theorem passes_entry {entry : Entry} (hkey : Loose entry.key) (h : Passed entry.value)
    (hstarts : Starts entry.value) : Bracket.object.Passes entry.text where
  first opened blanks rest hblanks hrest := by
    refine ⟨entry.after ++ (entry.value ++ rest), ?_, ?_⟩
    · rw [skipOpening, firstMember_quote (skipBlanks_entry hblanks entry rest)]
      simp only [skipKey_body hkey]
      rfl
    · exact h _ hrest (hstarts.skipBlanks_append entry.blanks_after rest)
  next opened blanks blanks' rest hblanks hblanks' hrest := by
    rw [skipRest_cons, skipComma_object (skipBlanks_mark hblanks (by decide) _)
      (skipBlanks_entry hblanks' entry rest) (skipKey_body hkey rest)]
    exact h _ hrest (hstarts.skipBlanks_append entry.blanks_after rest)

/-- All that follows a part is passed over, if each part is behind its comma. -/
theorem skipRest_behind {bracket : Bracket} (opened : List Bracket) {parts : List Octets}
    {text rest : Octets} (h : Behind bracket.closing parts text)
    (hparts : ∀ part ∈ parts, bracket.Passes part) :
    skipRest (bracket :: opened) (text ++ rest) = skipRest opened rest := by
  induction h with
  | @close blanks h =>
    have hclose : skipBlanks ((blanks ++ [bracket.closing]) ++ rest) = bracket.closing :: rest :=
      skipBlanks_last h (by rcases bracket with _ | _ <;> decide) rest
    rw [skipRest_cons, skipComma_close hclose]
  | @comma blanks blanks' part text parts h h' hrest ih =>
    have hends : Ends (text ++ rest) := hrest.ends bracket.closing_mem rest
    have hpart := (hparts part List.mem_cons_self).next opened h h' hends
    rw [← ih fun other hother => hparts other (List.mem_cons_of_mem part hother), ← hpart]
    simp only [List.append_assoc, List.cons_append]

/-- What stands in brackets is passed over whatever comes behind it. -/
theorem skipValue_brackets {bracket : Bracket} {parts : List Octets} {text : Octets}
    (h : Brackets bracket.opening bracket.closing parts text)
    (hparts : ∀ part ∈ parts, bracket.Passes part) (opened : List Bracket) {input rest : Octets}
    (hinput : skipBlanks input = text ++ rest) :
    skipValue opened input = skipRest opened rest := by
  rcases h with @⟨blanks, hblanks⟩ | @⟨blanks, part, text, parts, hblanks, hbehind⟩
  · have hclose : skipBlanks ((blanks ++ [bracket.closing]) ++ rest) = bracket.closing :: rest :=
      skipBlanks_last hblanks (by rcases bracket with _ | _ <;> decide) rest
    exact skipValue_closed opened hinput bracket.opens?_opening (skipOpening_close hclose)
  · have hends : Ends (text ++ rest) := hbehind.ends bracket.closing_mem rest
    obtain ⟨inside, hopening, hpart⟩ :=
      (hparts part List.mem_cons_self).first opened hblanks hends
    have hinside : skipOpening bracket ((blanks ++ (part ++ text)) ++ rest) =
        .ok (.part inside) := by
      rw [List.append_assoc, List.append_assoc]
      exact hopening
    rw [skipValue_part opened hinput bracket.opens?_opening hinside, hpart]
    exact skipRest_behind opened hbehind fun other hother =>
      hparts other (List.mem_cons_of_mem part hother)

/-! ### Values -/

theorem passed_numeral {numeral : Numeral} {text : Octets} (h : IsNumeral numeral text) :
    Passed text := by
  intro opened input rest hrest hinput
  obtain ⟨b, text', rfl, hb⟩ := h.startsNumber
  have hread : readNumeral .brokenNumber (b :: (text' ++ rest)) = .ok (numeral, rest) :=
    readNumeral_complete h hrest
  have hne : b ≠ octet '[' ∧ b ≠ octet '\x7b' ∧ b ≠ octet '"' := by
    refine ⟨?_, ?_, ?_⟩ <;> rintro rfl <;> exact absurd hb (by decide)
  have hnone : opens? b = none := by
    rw [opens?, if_neg hne.1, if_neg hne.2.1]
  have hscalar : skipScalar b (text' ++ rest) = .ok rest := by
    rw [skipScalar, if_neg hne.2.2, if_pos hb, hread]
    rfl
  exact skipValue_scalar opened hinput hnone hscalar

/-- **A value is passed over**, and what the open brackets still hold comes next. -/
theorem skipValue_wellFormed {text : Octets} (h : WellFormed text) : Passed text := by
  induction h with
  | @text spelling hloose =>
    intro opened input rest _ hinput
    refine skipValue_scalar opened hinput (by decide) ((if_pos rfl).trans ?_)
    exact skipText_iff.mpr ⟨spelling, hloose, by simp⟩
  | numeral hnumeral => exact passed_numeral hnumeral
  | null =>
    intro opened input rest _ hinput
    exact skipValue_scalar opened hinput (by decide) (readWord_iff.mpr rfl)
  | trueWord =>
    intro opened input rest _ hinput
    exact skipValue_scalar opened hinput (by decide) (readWord_iff.mpr rfl)
  | falseWord =>
    intro opened input rest _ hinput
    exact skipValue_scalar opened hinput (by decide) (readWord_iff.mpr rfl)
  | list hlist hparts ih =>
    refine fun opened _ _ _ => @skipValue_brackets .list _ _ hlist (fun part hpart => ?_) opened _ _
    exact passes_item (ih part hpart) (hparts part hpart).starts
  | object hobject hkeys hvalues ih =>
    refine fun opened _ _ _ =>
      @skipValue_brackets .object _ _ hobject (fun part hpart => ?_) opened _ _
    obtain ⟨entry, hentry, rfl⟩ := List.mem_map.mp hpart
    exact passes_entry (hkeys entry hentry) (ih entry hentry) (hvalues entry hentry).starts

theorem skipValue_object {entries : List Entry} {text : Octets} (h : HasEntries text entries)
    (opened : List Bracket) {input rest : Octets} (hinput : skipBlanks input = text ++ rest) :
    skipValue opened input = skipRest opened rest := by
  refine @skipValue_brackets .object _ _ h.isObject (fun part hpart => ?_) opened _ _ hinput
  obtain ⟨entry, hentry, rfl⟩ := List.mem_map.mp hpart
  obtain ⟨hkey, hvalue⟩ := h.proper entry hentry
  exact passes_entry hkey (skipValue_wellFormed hvalue) hvalue.starts

/-! ### What has been passed over -/

theorem skipScalar_sound {b : UInt8} {bytes rest : Octets} (h : skipScalar b bytes = .ok rest) :
    ∃ text, WellFormed text ∧ b :: bytes = text ++ rest := by
  unfold skipScalar at h
  split_ifs at h with hquote hnumber hnull htrue hfalse
  · obtain ⟨spelling, hloose, rfl⟩ := skipText_iff.mp h
    exact ⟨_, .text hloose, by simp [hquote]⟩
  · cases hread : readNumeral .brokenNumber (b :: bytes) with
    | error cause =>
      rw [hread] at h
      cases h
    | ok found =>
      rw [hread] at h
      cases h
      obtain ⟨text, hnumeral, heq⟩ := readNumeral_sound hread
      exact ⟨text, .numeral hnumeral, heq⟩
  · exact ⟨_, .null, by rw [hnull, readWord_iff.mp h, List.cons_append]⟩
  · exact ⟨_, .trueWord, by rw [htrue, readWord_iff.mp h, List.cons_append]⟩
  · exact ⟨_, .falseWord, by rw [hfalse, readWord_iff.mp h, List.cons_append]⟩

/-- A key, and a value where the key ends. -/
theorem skipKey_part {bytes bytes' bytes'' rest : Octets}
    (h : skipBlanks bytes = octet '"' :: bytes')
    (hkey : skipKey bytes' = .ok bytes'') (hvalue : Leading WellFormed bytes'' rest) :
    Leading Bracket.object.IsPart bytes rest := by
  unfold skipKey at hkey
  split at hkey
  · cases hkey
  · next htext =>
    obtain ⟨key, hloose, rfl⟩ := skipText_iff.mp htext
    obtain ⟨before, hbefore, rfl⟩ := exists_blanks_mark (readColon_iff.mp hkey)
    exact Bracket.part_object h hloose hbefore hvalue

section Bracket

variable {bracket : Bracket} {bytes bytes' rest : Octets}

theorem skipOpening_closed (h : skipOpening bracket bytes = .ok (.closed rest)) :
    skipBlanks bytes = bracket.closing :: rest := by
  rcases bracket with _ | _
  · have hfirst : firstItem bytes = .ok (.closed rest) := h
    rcases firstItem_cases hfirst with ⟨_, hnext, hclose⟩ | hnext
    · cases hnext
      exact hclose
    · cases hnext
  · simp only [skipOpening] at h
    split at h
    · cases h
    · next hfirst =>
      cases h
      rcases firstMember_cases hfirst with ⟨_, hnext, hclose⟩ | ⟨_, hnext, -⟩
      · cases hnext
        exact hclose
      · cases hnext
    · next bytes' _ =>
      cases hkey : skipKey bytes' <;> rw [hkey] at h <;> cases h

theorem skipOpening_value (h : skipOpening bracket bytes = .ok (.part bytes'))
    (hvalue : Leading WellFormed bytes' rest) : Leading bracket.IsPart bytes rest := by
  rcases bracket with _ | _
  · have hfirst : firstItem bytes = .ok (.part bytes') := h
    rcases firstItem_cases hfirst with ⟨_, hnext, -⟩ | hnext
    · cases hnext
    · cases hnext
      exact Bracket.part_list hvalue.of_skipBlanks
  · simp only [skipOpening] at h
    split at h
    · cases h
    · cases h
    · next bytes'' hfirst =>
      rcases firstMember_cases hfirst with ⟨_, hnext, -⟩ | ⟨_, hnext, hquote⟩
      · cases hnext
      · cases hnext
        cases hkey : skipKey bytes'' with
        | error cause =>
          rw [hkey] at h
          cases h
        | ok found =>
          rw [hkey] at h
          cases h
          exact skipKey_part hquote hkey hvalue

theorem skipComma_closed (h : skipComma bracket bytes = .ok (.closed rest)) :
    skipBlanks bytes = bracket.closing :: rest := by
  unfold skipComma at h
  split at h
  · cases h
  · next hbytes =>
    split_ifs at h with hclose
    · cases h
      rw [hbytes, hclose]
      rfl
    · cases h
  · cases h
  · next hbytes =>
    split_ifs at h with hclose
    · cases h
      rw [hbytes, hclose]
      rfl
    · split at h
      · cases h
      · next bytes'' _ =>
        split_ifs at h
        cases hkey : skipKey bytes'' <;> rw [hkey] at h <;> cases h

theorem skipComma_value (h : skipComma bracket bytes = .ok (.part bytes'))
    (hvalue : Leading WellFormed bytes' rest) :
    ∃ bytes'', skipBlanks bytes = octet ',' :: bytes'' ∧ Leading bracket.IsPart bytes'' rest := by
  unfold skipComma at h
  split at h
  · cases h
  · next hbytes =>
    split_ifs at h with hclose hcomma
    · cases h
    · cases h
      exact ⟨_, by rw [hbytes, hcomma], Bracket.part_list hvalue⟩
  · cases h
  · next hbytes =>
    split_ifs at h with hclose hcomma
    · cases h
    split at h
    · cases h
    · next bytes'' hkeys =>
      split_ifs at h with hquote
      cases hkey : skipKey bytes'' with
      | error cause =>
        rw [hkey] at h
        cases h
      | ok found =>
        rw [hkey] at h
        cases h
        exact ⟨_, by rw [hbytes, hcomma], skipKey_part (by rw [hkeys, hquote]) hkey hvalue⟩

end Bracket

/-- All that the open brackets still hold is in front of the rest. -/
inductive Closed : List Bracket → Octets → Octets → Prop where
  | nil {rest : Octets} : Closed [] rest rest
  | cons {bracket : Bracket} {opened : List Bracket} {bytes middle rest : Octets}
    (h : bracket.Closes bytes middle) (hrest : Closed opened middle rest) :
    Closed (bracket :: opened) bytes rest

/-- **Only values are passed over**, however deep the brackets are. -/
theorem skipValue_sound : ∀ (opened : List Bracket) (bytes : Octets) {rest : Octets},
    skipValue opened bytes = .ok rest →
      ∃ middle, Leading WellFormed bytes middle ∧ Closed opened middle rest := by
  -- along both functions at once: what is left after a value closes all brackets still open
  refine skipValue.induct
    (fun opened bytes => ∀ {rest}, skipValue opened bytes = .ok rest →
      ∃ middle, Leading WellFormed bytes middle ∧ Closed opened middle rest)
    (fun opened bytes => ∀ {rest}, skipRest opened bytes = .ok rest → Closed opened bytes rest)
    ?nothing ?broken ?empty ?parts ?badScalar ?scalar ?done ?stuck ?closed ?comma
  case nothing =>
    intro opened bytes hbytes rest h
    rw [skipValue_eq, hbytes] at h
    cases h
  case broken =>
    intro opened bytes b bytes' hbytes bracket hb cause hopening rest h
    rw [skipValue_eq, hbytes] at h
    simp only [hb, hopening] at h
    cases h
  case empty =>
    intro opened bytes b bytes' hbytes bracket hb middle hopening ih rest h
    rw [skipValue_closed opened hbytes hb hopening] at h
    rw [Bracket.eq_opening hb] at hbytes
    exact ⟨middle, (Bracket.holds_nil (skipOpening_closed hopening)).value hbytes, ih h⟩
  case parts =>
    intro opened bytes b bytes' hbytes bracket hb inside hopening ih rest h
    rw [skipValue_part opened hbytes hb hopening] at h
    rw [Bracket.eq_opening hb] at hbytes
    obtain ⟨behind, hvalue, hclosed⟩ := ih h
    -- the bracket that this value opened is the first to be closed
    cases hclosed with
    | cons hcloses hrest =>
      have hpart := skipOpening_value hopening hvalue
      exact ⟨_, (Bracket.holds_cons hpart hcloses).value hbytes, hrest⟩
  case badScalar =>
    intro opened bytes b bytes' hbytes hb cause hscalar rest h
    rw [skipValue_eq, hbytes] at h
    simp only [hb, hscalar] at h
    cases h
  case scalar =>
    intro opened bytes b bytes' hbytes hb middle hscalar ih rest h
    rw [skipValue_scalar opened hbytes hb hscalar] at h
    obtain ⟨text, htext, heq⟩ := skipScalar_sound hscalar
    exact ⟨middle, leading htext (hbytes.trans heq), ih h⟩
  case done =>
    intro bytes rest h
    rw [skipRest] at h
    cases h
    exact .nil
  case stuck =>
    intro bytes bracket outer cause hcomma rest h
    rw [skipRest_cons, hcomma] at h
    cases h
  case closed =>
    intro bytes bracket outer middle hcomma ih rest h
    rw [skipRest_cons, hcomma] at h
    exact .cons (Bracket.closes_nil (skipComma_closed hcomma)) (ih h)
  case comma =>
    intro bytes bracket outer inside hcomma ih rest h
    rw [skipRest_cons, hcomma] at h
    obtain ⟨behind, hvalue, hclosed⟩ := ih h
    obtain ⟨bytes', hbytes, hpart⟩ := skipComma_value hcomma hvalue
    cases hclosed with
    | cons hcloses hrest => exact .cons (Bracket.closes_cons hbytes hpart hcloses) hrest

/-- **A value has one end.** -/
theorem WellFormed.unique {text text' rest rest' : Octets} (h : WellFormed text)
    (h' : WellFormed text') (hrest : Ends rest) (hrest' : Ends rest')
    (heq : text ++ rest = text' ++ rest') : text = text' ∧ rest = rest' := by
  -- both values end where passing over stops
  have hskip := skipValue_wellFormed h [] hrest (h.starts.skipBlanks rest)
  rw [heq, skipValue_wellFormed h' [] hrest' (h'.starts.skipBlanks rest'), skipRest,
    skipRest] at hskip
  obtain rfl : rest' = rest := Except.ok.inj hskip
  exact ⟨List.append_cancel_right heq, rfl⟩

/-- Whether a text is a value can be found out by passing over it. -/
theorem wellFormed_iff {text : Octets} :
    WellFormed text ↔ skipBlanks text = text ∧ skipValue [] text = .ok [] := by
  constructor
  · intro h
    have hstart : skipBlanks text = text ++ [] := by
      simpa using h.starts.skipBlanks []
    refine ⟨by rw [hstart, List.append_nil], ?_⟩
    rw [skipValue_wellFormed h [] .nil hstart, skipRest]
  · rintro ⟨hstart, hskip⟩
    obtain ⟨middle, ⟨blanks, value, hblanks, hvalue, rfl⟩, hclosed⟩ := skipValue_sound [] text hskip
    obtain ⟨⟩ := hclosed
    rw [hvalue.starts.skipBlanks_append hblanks] at hstart
    rwa [← hstart, List.append_nil]

instance (text : Octets) : Decidable (WellFormed text) := decidable_of_iff _ wellFormed_iff.symm

end ListingReview.Json
