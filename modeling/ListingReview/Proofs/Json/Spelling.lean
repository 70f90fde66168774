import ListingReview.Proofs.Json.Grammar
import Mathlib.Tactic.SplitIfs

/-! # JSON: texts against the grammar

The functions that take a text, or pass over one, accept exactly what the grammar derives up to the
closing quote (`readText_iff`, `skipText_iff`). So a spelling stands for one text only
(`Spells.unique`), and where it ends does not depend on whether it is read or passed over. -/

namespace ListingReview.Json

open Text (Octets octets ofOctets? ofOctets?_octets)

/-! ### Escapes -/

theorem readHex_iff {bytes rest : Octets} {n : Nat} :
    readHex bytes = .ok (n, rest) ↔ ∃ digits, Hex n digits ∧ bytes = digits ++ rest := by
  constructor
  · intro h
    unfold readHex at h
    split at h
    · split at h
      · next ha hb hc hd =>
        obtain ⟨rfl, rfl⟩ := Prod.mk.inj (Except.ok.inj h)
        exact ⟨_, .digits ha hb hc hd, rfl⟩
      · cases h
    · cases h
  · rintro ⟨digits, ⟨ha, hb, hc, hd⟩, rfl⟩
    simp only [List.cons_append, List.nil_append, readHex, ha, hb, hc, hd]

theorem escapeLetter_u : escapeLetter (octet 'u') = none := by decide

theorem readLowHalf_iff {high : Nat} {bytes found rest : Octets} :
    readLowHalf high bytes = .ok (found, rest) ↔ ∃ low digits, Hex low digits ∧
      isLowHalf low = true ∧
      found = codePoint (0x10000 + (high - 0xD800) * 0x400 + (low - 0xDC00)) ∧
      bytes = octet '\\' :: octet 'u' :: (digits ++ rest) := by
  constructor
  · intro h
    rcases bytes with _ | ⟨b, _ | ⟨b', bytes⟩⟩
    · cases h
    · rw [readLowHalf] at h
      split_ifs at h
    · rw [readLowHalf] at h
      split_ifs at h with hslash hu
      rcases hx : readHex bytes with cause | ⟨low, rest'⟩
      · rw [hx] at h
        cases h
      · simp only [hx] at h
        split_ifs at h with hlow
        obtain ⟨rfl, rfl⟩ := Prod.mk.inj (Except.ok.inj h)
        obtain ⟨digits, hdigits, rfl⟩ := readHex_iff.mp hx
        exact ⟨low, digits, hdigits, hlow, rfl, by rw [hslash, hu]⟩
  · rintro ⟨low, digits, hdigits, hlow, hfound, hbytes⟩
    have hx : readHex (digits ++ rest) = .ok (low, rest) := readHex_iff.mpr ⟨digits, hdigits, rfl⟩
    rw [hbytes, hfound]
    simp only [readLowHalf, if_true, hx, hlow]

theorem isLowHalf_of_isHighHalf {n : Nat} (h : isHighHalf n = true) : isLowHalf n = false := by
  rw [isHighHalf, Bool.and_eq_true, decide_eq_true_eq, decide_eq_true_eq] at h
  rw [isLowHalf, Bool.and_eq_false_iff, decide_eq_false_iff_not]
  exact Or.inl (by omega)

theorem readCodePoint_iff {bytes found rest : Octets} :
    readCodePoint bytes = .ok (found, rest) ↔
      ∃ escape, IsEscape found (octet 'u' :: escape) ∧ bytes = escape ++ rest := by
  constructor
  · intro h
    rw [readCodePoint] at h
    rcases hx : readHex bytes with cause | ⟨n, rest'⟩
    · rw [hx] at h
      cases h
    · simp only [hx] at h
      obtain ⟨digits, hdigits, rfl⟩ := readHex_iff.mp hx
      split_ifs at h with hlow hhigh
      · obtain ⟨low, digits', hdigits', hlow', hfound, hbytes⟩ := readLowHalf_iff.mp h
        rw [hbytes, hfound]
        refine ⟨_, .pair hdigits hhigh hdigits' hlow', ?_⟩
        rw [List.append_assoc, List.cons_append, List.cons_append]
      · obtain ⟨rfl, rfl⟩ := Prod.mk.inj (Except.ok.inj h)
        exact ⟨digits, .unit hdigits (by simpa using hlow) (by simpa using hhigh), rfl⟩
  · rintro ⟨escape, hescape, rfl⟩
    generalize htext : octet 'u' :: escape = text at hescape
    rcases hescape with
      ⟨hc⟩ | ⟨hn, hlow, hhigh⟩ | @⟨high, low, digits, digits', hh, hhigh, hl, hlow⟩
    · obtain ⟨rfl, rfl⟩ := List.cons.inj htext
      exact absurd hc (by rw [escapeLetter_u]; simp)
    · obtain ⟨-, rfl⟩ := List.cons.inj htext
      simp only [readCodePoint, readHex_iff.mpr ⟨_, hn, rfl⟩, hlow, hhigh, Bool.false_eq_true,
        if_false]
    · obtain ⟨-, rfl⟩ := List.cons.inj htext
      have hx : readHex (digits ++ octet '\\' :: octet 'u' :: (digits' ++ rest)) = .ok (high, _) :=
        readHex_iff.mpr ⟨digits, hh, rfl⟩
      rw [List.append_assoc, List.cons_append, List.cons_append]
      simp only [readCodePoint, hx, isLowHalf_of_isHighHalf hhigh, hhigh, Bool.false_eq_true,
        if_false, if_true]
      exact readLowHalf_iff.mpr ⟨low, digits', hl, hlow, rfl, rfl⟩

theorem readEscape_iff {bytes found rest : Octets} :
    readEscape bytes = .ok (found, rest) ↔
      ∃ escape, IsEscape found escape ∧ bytes = escape ++ rest := by
  constructor
  · intro h
    rcases bytes with _ | ⟨b, bytes⟩
    · cases h
    · rw [readEscape] at h
      rcases hletter : escapeLetter b with _ | c
      · simp only [hletter] at h
        split_ifs at h with hu
        obtain ⟨escape, hescape, rfl⟩ := readCodePoint_iff.mp h
        exact ⟨_, hescape, by rw [hu]; rfl⟩
      · simp only [hletter] at h
        obtain ⟨rfl, rfl⟩ := Prod.mk.inj (Except.ok.inj h)
        exact ⟨[b], .letter hletter, rfl⟩
  · rintro ⟨escape, hescape, rfl⟩
    have hunit : ∀ {escape'}, escape = octet 'u' :: escape' →
        readEscape (escape ++ rest) = .ok (found, rest) := by
      rintro escape' rfl
      simp only [List.cons_append, readEscape, escapeLetter_u, if_true]
      exact readCodePoint_iff.mpr ⟨escape', hescape, rfl⟩
    rcases hescape with ⟨hc⟩ | ⟨-, -, -⟩ | ⟨-, -, -, -⟩
    · simp only [List.cons_append, readEscape, hc, List.nil_append]
    · exact hunit rfl
    · exact hunit rfl

theorem skipEscape_iff {bytes rest : Octets} :
    skipEscape bytes = .ok rest ↔ ∃ escape, IsLooseEscape escape ∧ bytes = escape ++ rest := by
  constructor
  · intro h
    rcases bytes with _ | ⟨b, bytes⟩
    · cases h
    · rw [skipEscape] at h
      split_ifs at h with hletter hu
      · cases h
        exact ⟨[b], .letter hletter, rfl⟩
      · rcases hx : readHex bytes with cause | ⟨n, rest'⟩
        · rw [hx] at h
          cases h
        · rw [hx] at h
          cases h
          obtain ⟨digits, hdigits, rfl⟩ := readHex_iff.mp hx
          exact ⟨_, .unit hdigits, by rw [hu]; rfl⟩
  · rintro ⟨escape, ⟨hb⟩ | ⟨hn⟩, rfl⟩
    · rw [List.singleton_append, skipEscape, if_pos hb]
    · rw [List.cons_append, skipEscape, escapeLetter_u, if_neg (by simp), if_pos rfl,
        readHex_iff.mpr ⟨_, hn, rfl⟩]
      rfl

/-! ### Texts -/

theorem ofOctets?_eq_some_iff {bytes : Octets} {text : String} :
    ofOctets? bytes = some text ↔ bytes = octets text := by
  constructor
  · intro h
    simp only [ofOctets?, String.fromUTF8?] at h
    split_ifs at h with hvalid
    rw [← Option.some.inj h]
    rfl
  · rintro rfl
    exact ofOctets?_octets text

theorem readOctets_iff {bytes before found rest : Octets} :
    readOctets before bytes = .ok (found, rest) ↔ ∃ value spelling, Spells value spelling ∧
      bytes = spelling ++ octet '"' :: rest ∧ found = before.reverse ++ value := by
  constructor
  · intro h
    fun_induction readOctets before bytes with
    | case1 => cases h
    | case2 before bytes =>
      obtain ⟨rfl, rfl⟩ := Prod.mk.inj (Except.ok.inj h)
      exact ⟨[], [], .nil, rfl, (List.append_nil _).symm⟩
    | case3 => cases h
    | case4 before bytes found' rest' he hne ih =>
      obtain ⟨value, spelling, hspells, rfl, rfl⟩ := ih h
      obtain ⟨escape, hescape, rfl⟩ := readEscape_iff.mp he
      exact ⟨_, _, .escape hescape hspells, by simp, by simp⟩
    | case5 => cases h
    | case6 before b bytes hb hslash hcontrol ih =>
      obtain ⟨value, spelling, hspells, rfl, rfl⟩ := ih h
      exact ⟨_, _, .plain ⟨hb, hslash, hcontrol⟩ hspells, rfl, by simp⟩
  · rintro ⟨value, spelling, hspells, rfl, rfl⟩
    induction hspells generalizing before with
    | nil => rw [List.nil_append, readOctets, if_pos rfl, List.append_nil]
    | @plain b value spelling hb _ ih =>
      rw [List.cons_append, readOctets, if_neg hb.ne_quote, if_neg hb.ne_slash,
        if_neg hb.not_control, ih]
      simp
    | @escape found escape value spelling he _ ih =>
      have hread : readEscape (escape ++ (spelling ++ octet '"' :: rest)) = .ok (found, _) :=
        readEscape_iff.mpr ⟨escape, he, rfl⟩
      rw [List.cons_append, List.append_assoc, readOctets, if_neg (by decide), if_pos rfl]
      split
      · next h =>
        rw [hread] at h
        cases h
      · next h =>
        rw [hread] at h
        obtain ⟨rfl, rfl⟩ := Prod.mk.inj (Except.ok.inj h)
        rw [ih]
        simp

/-- **A text is taken** up to its closing quote. -/
theorem readText_iff {bytes rest : Octets} {text : String} :
    readText bytes = .ok (text, rest) ↔
      ∃ spelling, Spells (octets text) spelling ∧ bytes = spelling ++ octet '"' :: rest := by
  rw [readText]
  constructor
  · intro h
    rcases ho : readOctets [] bytes with cause | ⟨found, rest'⟩
    · rw [ho] at h
      cases h
    · simp only [ho] at h
      rcases ht : ofOctets? found with _ | text'
      · simp only [ht] at h
        cases h
      · simp only [ht] at h
        obtain ⟨rfl, rfl⟩ := Prod.mk.inj (Except.ok.inj h)
        obtain ⟨value, spelling, hspells, rfl, hvalue⟩ := readOctets_iff.mp ho
        rw [List.reverse_nil, List.nil_append] at hvalue
        rw [← hvalue, ofOctets?_eq_some_iff.mp ht] at hspells
        exact ⟨spelling, hspells, rfl⟩
  · rintro ⟨spelling, hspells, rfl⟩
    rw [readOctets_iff.mpr ⟨_, spelling, hspells, rfl, rfl⟩]
    simp only [List.reverse_nil, List.nil_append, ofOctets?_octets]

theorem skipText_iff {bytes rest : Octets} :
    skipText bytes = .ok rest ↔
      ∃ spelling, Loose spelling ∧ bytes = spelling ++ octet '"' :: rest := by
  constructor
  · intro h
    fun_induction skipText bytes with
    | case1 => cases h
    | case2 bytes =>
      cases h
      exact ⟨[], .nil, rfl⟩
    | case3 => cases h
    | case4 bytes rest' he hne ih =>
      obtain ⟨spelling, hloose, rfl⟩ := ih h
      obtain ⟨escape, hescape, rfl⟩ := skipEscape_iff.mp he
      exact ⟨_, .escape hescape hloose, by simp⟩
    | case5 => cases h
    | case6 b bytes hb hslash hcontrol ih =>
      obtain ⟨spelling, hloose, rfl⟩ := ih h
      exact ⟨_, .plain ⟨hb, hslash, hcontrol⟩ hloose, rfl⟩
  · rintro ⟨spelling, hloose, rfl⟩
    induction hloose with
    | nil => rw [List.nil_append, skipText, if_pos rfl]
    | plain hb _ ih =>
      rw [List.cons_append, skipText, if_neg hb.ne_quote, if_neg hb.ne_slash, if_neg hb.not_control,
        ih]
    | @escape escape spelling he _ ih =>
      have hskip : skipEscape (escape ++ (spelling ++ octet '"' :: rest)) = .ok _ :=
        skipEscape_iff.mpr ⟨escape, he, rfl⟩
      rw [List.cons_append, List.append_assoc, skipText, if_neg (by decide), if_pos rfl]
      split
      · next h =>
        rw [hskip] at h
        cases h
      · next h =>
        rw [hskip] at h
        cases h
        exact ih

/-! ### Spellings -/

/-- A spelling has one end. -/
instance (b : UInt8) : Decidable (IsPlain b) :=
  decidable_of_iff (b ≠ octet '"' ∧ b ≠ octet '\\' ∧ ¬ b < 0x20)
    ⟨fun h => ⟨h.1, h.2.1, h.2.2⟩, fun h => ⟨h.ne_quote, h.ne_slash, h.not_control⟩⟩

/-- Octets that stand for themselves. -/
theorem spells_plain : ∀ {bytes : Octets}, (∀ b ∈ bytes, IsPlain b) → Spells bytes bytes
  | [], _ => .nil
  | _ :: _, h => .plain (h _ List.mem_cons_self) (spells_plain fun b hb =>
      h b (List.mem_cons_of_mem _ hb))

theorem Loose.unique {spelling spelling' rest rest' : Octets} (h : Loose spelling)
    (h' : Loose spelling') (heq : spelling ++ octet '"' :: rest = spelling' ++ octet '"' :: rest') :
    spelling = spelling' ∧ rest = rest' := by
  have hskip : skipText (spelling ++ octet '"' :: rest) = .ok rest :=
    skipText_iff.mpr ⟨spelling, h, rfl⟩
  rw [heq, skipText_iff.mpr ⟨spelling', h', rfl⟩] at hskip
  obtain rfl : rest' = rest := Except.ok.inj hskip
  exact ⟨List.append_cancel_right heq, rfl⟩

/-- Whether a text is spelled so can be found out by reading it. -/
theorem spells_iff {text : String} {spelling : Octets} :
    Spells (octets text) spelling ↔ readText (spelling ++ [octet '"']) = .ok (text, []) := by
  rw [readText_iff]
  constructor
  · exact fun h => ⟨spelling, h, rfl⟩
  · rintro ⟨spelling', h, heq⟩
    rwa [List.append_cancel_right heq]

instance (text : String) (spelling : Octets) : Decidable (Spells (octets text) spelling) :=
  decidable_of_iff ((readText (spelling ++ [octet '"'])).toOption = some (text, [])) <| by
    rw [spells_iff]
    rcases readText (spelling ++ [octet '"']) with _ | _ <;> simp [Except.toOption]

theorem Spells.unique {text text' : String} {spelling : Octets} (h : Spells (octets text) spelling)
    (h' : Spells (octets text') spelling) : text = text' := by
  have hread := spells_iff.mp h
  rw [spells_iff.mp h'] at hread
  exact (congrArg Prod.fst (Except.ok.inj hread)).symm

theorem IsEscape.loose {found escape spelling : Octets} (h : IsEscape found escape)
    (hspelling : Loose spelling) : Loose (octet '\\' :: (escape ++ spelling)) := by
  rcases h with ⟨hc⟩ | ⟨hn, -, -⟩ | ⟨hh, -, hl, -⟩
  · exact .escape (.letter (by rw [hc]; rfl)) hspelling
  · exact .escape (.unit hn) hspelling
  · have := Loose.escape (.unit hh) (.escape (.unit hl) hspelling)
    simpa using this

theorem Spells.loose {value spelling : Octets} (h : Spells value spelling) : Loose spelling := by
  induction h with
  | nil => exact .nil
  | plain hb _ ih => exact .plain hb ih
  | escape he _ ih => exact he.loose ih

end ListingReview.Json
