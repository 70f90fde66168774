import ListingReview.Proofs.Json.Token

/-! # JSON: what stands between parts, against the grammar

Each function that looks for a part, or behind one, is described by what stands there when the
blanks are left out. A value is never taken for a mark, as no value starts like one
(`WellFormed.starts`), and what stands behind a part of brackets ends it (`Behind.ends`). -/

namespace ListingReview.Json

open Text (Octets)

/-! ### Marks -/

theorem skipBlanks_mark {blanks : Octets} {b : UInt8} (h : Blanks blanks)
    (hb : isBlankOctet b = false) (rest : Octets) :
    skipBlanks (blanks ++ b :: rest) = b :: rest := by
  rw [skipBlanks_append h, skipBlanks_cons hb]

theorem skipBlanks_last {blanks : Octets} {b : UInt8} (h : Blanks blanks)
    (hb : isBlankOctet b = false) (rest : Octets) :
    skipBlanks ((blanks ++ [b]) ++ rest) = b :: rest := by
  rw [List.append_assoc]
  exact skipBlanks_mark h hb rest

theorem exists_blanks_mark {bytes rest : Octets} {b : UInt8} (h : skipBlanks bytes = b :: rest) :
    ∃ blanks, Blanks blanks ∧ bytes = blanks ++ b :: rest := by
  obtain ⟨blanks, hblanks, hbytes⟩ := exists_blanks bytes
  exact ⟨blanks, hblanks, h ▸ hbytes⟩

/-! ### Values -/

/-- The octets with which a value can start. -/
def StartsValue (b : UInt8) : Prop :=
  startsNumber b = true ∨
    b ∈ [octet '"', octet 'n', octet 't', octet 'f', octet '[', octet '\x7b']

instance (b : UInt8) : Decidable (StartsValue b) := inferInstanceAs (Decidable (_ ∨ _))

theorem StartsValue.notMem {b : UInt8} (h : StartsValue b) : b ∉ endings := by
  have hall : endings.all fun b => !decide (StartsValue b) := by decide
  intro hb
  have hnot := List.all_eq_true.mp hall b hb
  rw [decide_eq_true h] at hnot
  cases hnot

theorem StartsValue.notBlank {b : UInt8} (h : StartsValue b) : isBlankOctet b = false := by
  have hnot := h.notMem
  simp only [endings, List.mem_cons, List.not_mem_nil, not_or] at hnot
  simp only [isBlankOctet, Bool.or_eq_false_iff, beq_eq_false_iff_ne]
  exact ⟨⟨⟨hnot.1, hnot.2.1⟩, hnot.2.2.1⟩, hnot.2.2.2.1⟩

theorem StartsValue.ne_close {b : UInt8} (h : StartsValue b) : b ≠ octet ']' := by
  rintro rfl
  exact h.notMem (by decide)

/-- The octets start as a value does. -/
def Starts (text : Octets) : Prop := ∃ b text', text = b :: text' ∧ StartsValue b

theorem Starts.skipBlanks {text : Octets} (h : Starts text) (rest : Octets) :
    skipBlanks (text ++ rest) = text ++ rest := by
  obtain ⟨b, text', rfl, hb⟩ := h
  exact skipBlanks_cons hb.notBlank _

/-- With blanks in front. -/
theorem Starts.skipBlanks_append {blanks text : Octets} (h : Starts text) (hblanks : Blanks blanks)
    (rest : Octets) : Json.skipBlanks (blanks ++ (text ++ rest)) = text ++ rest := by
  rw [Json.skipBlanks_append hblanks, h.skipBlanks]

theorem Starts.head_ne_close {text : Octets} (h : Starts text) (rest : Octets) :
    (text ++ rest).head? ≠ some (octet ']') := by
  obtain ⟨b, text', rfl, hb⟩ := h
  rw [List.cons_append, List.head?_cons]
  exact fun he => hb.ne_close (Option.some.inj he)

theorem Brackets.cons {opening closing : UInt8} {parts : List Octets} {text : Octets}
    (h : Brackets opening closing parts text) : ∃ text', text = opening :: text' := by
  rcases h with ⟨-⟩ | ⟨-, -⟩ <;> exact ⟨_, rfl⟩

theorem WellFormed.starts {text : Octets} (h : WellFormed text) : Starts text := by
  rcases h with ⟨-⟩ | ⟨hnumeral⟩ | _ | _ | _ | ⟨hbrackets, -⟩ | ⟨hbrackets, -, -⟩
  · exact ⟨_, _, rfl, by decide⟩
  · obtain ⟨b, text', rfl, hb⟩ := hnumeral.startsNumber
    exact ⟨b, text', rfl, .inl hb⟩
  · exact ⟨_, _, rfl, by decide⟩
  · exact ⟨_, _, rfl, by decide⟩
  · exact ⟨_, _, rfl, by decide⟩
  · obtain ⟨text', rfl⟩ := hbrackets.cons
    exact ⟨_, text', rfl, by decide⟩
  · obtain ⟨text', rfl⟩ := Brackets.cons hbrackets
    exact ⟨_, text', rfl, by decide⟩

/-- A value by the octet with which it starts. -/
theorem WellFormed.of_cons {b : UInt8} {text : Octets} (h : WellFormed (b :: text)) :
    (b = octet '"' ∧ ∃ spelling, Loose spelling ∧ text = spelling ++ [octet '"']) ∨
    (startsNumber b = true ∧ ∃ numeral, IsNumeral numeral (b :: text)) ∨
    (b = octet 'n' ∧ text = nullTail) ∨ b = octet 't' ∨ b = octet 'f' ∨
    (b = octet '[' ∧ ∃ items, HasItems (b :: text) items) ∨
    (b = octet '\x7b' ∧ ∃ entries, HasEntries (b :: text) entries) := by
  generalize htext : b :: text = all at h
  rcases h with ⟨hl⟩ | ⟨hn⟩ | _ | _ | _ | ⟨hp, hparts⟩ | ⟨he, hkeys, hvalues⟩
  · obtain ⟨rfl, rfl⟩ := List.cons.inj htext
    exact .inl ⟨rfl, _, hl, rfl⟩
  · obtain ⟨b', text', rfl, hb⟩ := hn.startsNumber
    obtain ⟨rfl, rfl⟩ := List.cons.inj htext
    exact .inr (.inl ⟨hb, _, hn⟩)
  · obtain ⟨rfl, rfl⟩ := List.cons.inj htext
    exact .inr (.inr (.inl ⟨rfl, rfl⟩))
  · exact .inr (.inr (.inr (.inl (List.cons.inj htext).1)))
  · exact .inr (.inr (.inr (.inr (.inl (List.cons.inj htext).1))))
  · obtain ⟨text', rfl⟩ := hp.cons
    obtain ⟨rfl, rfl⟩ := List.cons.inj htext
    exact .inr (.inr (.inr (.inr (.inr (.inl ⟨rfl, _, hp, hparts⟩)))))
  · obtain ⟨text', rfl⟩ := Brackets.cons he
    obtain ⟨rfl, rfl⟩ := List.cons.inj htext
    exact .inr (.inr (.inr (.inr (.inr (.inr ⟨rfl, _, he, fun entry h =>
      ⟨hkeys entry h, hvalues entry h⟩⟩)))))

theorem WellFormed.of_quote {text : Octets} (h : WellFormed (octet '"' :: text)) :
    ∃ spelling, Loose spelling ∧ text = spelling ++ [octet '"'] := by
  rcases h.of_cons with ⟨-, h⟩ | ⟨hb, -⟩ | ⟨hb, -⟩ | hb | hb | ⟨hb, -⟩ | ⟨hb, -⟩
  · exact h
  all_goals exact absurd hb (by decide)

theorem WellFormed.of_bracket {text : Octets} (h : WellFormed (octet '[' :: text)) :
    ∃ items, HasItems (octet '[' :: text) items := by
  rcases h.of_cons with ⟨hb, -⟩ | ⟨hb, -⟩ | ⟨hb, -⟩ | hb | hb | ⟨-, h⟩ | ⟨hb, -⟩
  rotate_left 5
  · exact h
  all_goals exact absurd hb (by decide)

theorem WellFormed.of_brace {text : Octets} (h : WellFormed (octet '\x7b' :: text)) :
    ∃ entries, HasEntries (octet '\x7b' :: text) entries := by
  rcases h.of_cons with ⟨hb, -⟩ | ⟨hb, -⟩ | ⟨hb, -⟩ | hb | hb | ⟨hb, -⟩ | ⟨-, h⟩
  rotate_left 6
  · exact h
  all_goals exact absurd hb (by decide)

theorem WellFormed.of_n {text : Octets} (h : WellFormed (octet 'n' :: text)) : text = nullTail := by
  rcases h.of_cons with ⟨hb, -⟩ | ⟨hb, -⟩ | ⟨-, h⟩ | hb | hb | ⟨hb, -⟩ | ⟨hb, -⟩
  rotate_left 2
  · exact h
  all_goals exact absurd hb (by decide)

theorem WellFormed.of_startsNumber {b : UInt8} {text : Octets} (h : WellFormed (b :: text))
    (hb : Json.startsNumber b = true) : ∃ numeral, IsNumeral numeral (b :: text) := by
  rcases h.of_cons with ⟨rfl, -⟩ | ⟨-, h⟩ | ⟨rfl, -⟩ | rfl | rfl | ⟨rfl, -⟩ | ⟨rfl, -⟩
  rotate_left 1
  · exact h
  all_goals exact absurd hb (by decide)

/-- What stands behind a part ends it. -/
theorem Behind.ends {closing : UInt8} (hclosing : closing ∈ [octet ',', octet ']', octet '\x7d'])
    {parts : List Octets} {text : Octets} (h : Behind closing parts text) (rest : Octets) :
    Ends (text ++ rest) := by
  rcases h with ⟨h⟩ | ⟨h, -, -⟩
  · rw [List.append_assoc]
    exact (Ends.mark hclosing rest).blanks_append h
  · rw [List.append_assoc]
    exact (Ends.mark (by decide) _).blanks_append h

/-! ### Without blanks -/

/-- Parts behind others, each behind its comma. -/
def tightBehind (closing : UInt8) : List Octets → Octets
  | [] => [closing]
  | part :: parts => octet ',' :: (part ++ tightBehind closing parts)

/-- Parts between brackets. -/
def tight (opening closing : UInt8) : List Octets → Octets
  | [] => [opening, closing]
  | part :: parts => opening :: (part ++ tightBehind closing parts)

theorem behind_tight (closing : UInt8) : ∀ parts, Behind closing parts (tightBehind closing parts)
  | [] => .close .nil
  | _ :: parts => .comma .nil .nil (behind_tight closing parts)

theorem brackets_tight (opening closing : UInt8) :
    ∀ parts, Brackets opening closing parts (tight opening closing parts)
  | [] => .empty .nil
  | _ :: parts => .parts .nil (behind_tight closing parts)

def Entry.tight (key value : Octets) : Entry := ⟨key, [], [], value, .nil, .nil⟩

/-! ### Behind a part -/

theorem readColon_iff {bytes rest : Octets} :
    readColon bytes = .ok rest ↔ skipBlanks bytes = octet ':' :: rest := by
  rw [readColon]
  rcases skipBlanks bytes with _ | ⟨b, bytes'⟩
  · simp
  · by_cases hb : b = octet ':' <;> simp [hb]

theorem closeList_iff {bytes rest : Octets} :
    closeList bytes = .ok rest ↔ skipBlanks bytes = octet ']' :: rest := by
  constructor
  · intro h
    unfold closeList at h
    split at h
    · cases h
    · next hbytes =>
      split at h
      · next hb =>
        cases h
        rw [hbytes, hb]
      · split at h
        · split at h <;> cases h
        · cases h
  · intro h
    rw [closeList, h]
    exact if_pos rfl

theorem firstItem_cases {bytes : Octets} {next : Next} (h : firstItem bytes = .ok next) :
    (∃ rest, next = .closed rest ∧ skipBlanks bytes = octet ']' :: rest) ∨
      next = .part (skipBlanks bytes) := by
  unfold firstItem at h
  split at h
  · cases h
  · next hbytes =>
    split at h
    · next hb =>
      cases h
      exact .inl ⟨_, rfl, by rw [hbytes, hb]⟩
    · cases h
      exact .inr (by rw [hbytes])

theorem firstItem_close {bytes rest : Octets} (h : skipBlanks bytes = octet ']' :: rest) :
    firstItem bytes = .ok (.closed rest) := by
  rw [firstItem, h]
  exact if_pos rfl

theorem firstItem_part {bytes text rest : Octets} (h : skipBlanks bytes = text ++ rest)
    (htext : Starts text) : firstItem bytes = .ok (.part (text ++ rest)) := by
  obtain ⟨b, text', rfl, hb⟩ := htext
  rw [firstItem, h]
  exact if_neg hb.ne_close

theorem nextItem_cases {bytes : Octets} {next : Next} (h : nextItem bytes = .ok next) :
    (∃ rest, next = .closed rest ∧ skipBlanks bytes = octet ']' :: rest) ∨
      ∃ rest, next = .part (skipBlanks rest) ∧ skipBlanks bytes = octet ',' :: rest := by
  unfold nextItem at h
  split at h
  · cases h
  · next hbytes =>
    split at h
    · next hb =>
      cases h
      exact .inl ⟨_, rfl, by rw [hbytes, hb]⟩
    · split at h
      · next rest _ hcomma =>
        split at h
        · cases h
        · next hrest =>
          split at h
          · cases h
          · cases h
            exact .inr ⟨rest, by rw [hrest], by rw [hbytes, hcomma]⟩
      · cases h

theorem nextItem_close {bytes rest : Octets} (h : skipBlanks bytes = octet ']' :: rest) :
    nextItem bytes = .ok (.closed rest) := by
  rw [nextItem, h]
  exact if_pos rfl

theorem nextItem_comma {bytes rest text rest' : Octets} (h : skipBlanks bytes = octet ',' :: rest)
    (h' : skipBlanks rest = text ++ rest') (htext : Starts text) :
    nextItem bytes = .ok (.part (text ++ rest')) := by
  obtain ⟨b, text', rfl, hb⟩ := htext
  rw [nextItem, h]
  refine (if_neg (by decide)).trans ((if_pos rfl).trans ?_)
  rw [h']
  exact if_neg hb.ne_close

theorem firstMember_cases {bytes : Octets} {next : Next} (h : firstMember bytes = .ok next) :
    (∃ rest, next = .closed rest ∧ skipBlanks bytes = octet '\x7d' :: rest) ∨
      ∃ rest, next = .part rest ∧ skipBlanks bytes = octet '"' :: rest := by
  unfold firstMember at h
  split at h
  · cases h
  · next hbytes =>
    split at h
    · next hb =>
      cases h
      exact .inl ⟨_, rfl, by rw [hbytes, hb]⟩
    · split at h
      · next hquote =>
        cases h
        exact .inr ⟨_, rfl, by rw [hbytes, hquote]⟩
      · cases h

theorem firstMember_close {bytes rest : Octets} (h : skipBlanks bytes = octet '\x7d' :: rest) :
    firstMember bytes = .ok (.closed rest) := by
  rw [firstMember, h]
  exact if_pos rfl

theorem firstMember_quote {bytes rest : Octets} (h : skipBlanks bytes = octet '"' :: rest) :
    firstMember bytes = .ok (.part rest) := by
  rw [firstMember, h]
  exact (if_neg (by decide)).trans (if_pos rfl)

theorem nextMember_cases {bytes : Octets} {next : Next} (h : nextMember bytes = .ok next) :
    (∃ rest, next = .closed rest ∧ skipBlanks bytes = octet '\x7d' :: rest) ∨
      ∃ rest rest', next = .part rest' ∧ skipBlanks bytes = octet ',' :: rest ∧
        skipBlanks rest = octet '"' :: rest' := by
  unfold nextMember at h
  split at h
  · cases h
  · next hbytes =>
    split at h
    · next hb =>
      cases h
      exact .inl ⟨_, rfl, by rw [hbytes, hb]⟩
    · split at h
      · next rest _ hcomma =>
        split at h
        · cases h
        · next hrest =>
          split at h
          · next hquote =>
            cases h
            exact .inr ⟨rest, _, rfl, by rw [hbytes, hcomma], by rw [hrest, hquote]⟩
          · split at h <;> cases h
      · cases h

theorem nextMember_close {bytes rest : Octets} (h : skipBlanks bytes = octet '\x7d' :: rest) :
    nextMember bytes = .ok (.closed rest) := by
  rw [nextMember, h]
  exact if_pos rfl

theorem nextMember_comma {bytes rest rest' : Octets} (h : skipBlanks bytes = octet ',' :: rest)
    (h' : skipBlanks rest = octet '"' :: rest') : nextMember bytes = .ok (.part rest') := by
  rw [nextMember, h]
  refine (if_neg (by decide)).trans ((if_pos rfl).trans ?_)
  rw [h']
  exact if_pos rfl

end ListingReview.Json
