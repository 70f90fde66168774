import ListingReview.Proofs.Json.Document
import ListingReview.Proofs.Json.Record
import ListingReview.Proofs.Json.Unique

/-! # JSON: choices, against the grammar

A choice is written by its name, and is also read from an object with that name as its only key and
null behind it. -/

namespace ListingReview.Json

open Text (Octets octets)

variable {α : Type} {choices : List (String × α)} {value : α}

/-- The name of a choice, as a text or as the only key of an object. -/
inductive IsChoice (choices : List (String × α)) (value : α) : Octets → Prop where
  | text {name : String} {text : Octets} (h : choices.lookup name = some value)
    (htext : IsText name text) : IsChoice choices value text
  | object {name : String} {entry : Entry} {text : Octets} (h : choices.lookup name = some value)
    (hkey : Spells (octets name) entry.key) (hvalue : entry.value = octet 'n' :: nullTail)
    (hobject : IsObject [entry] text) : IsChoice choices value text

/-! ### The parts of a choice -/

section Parts

variable {bytes rest : Octets}

theorem readChoice_iff : Reader.readChoice choices bytes = .ok (value, rest) ↔
    ∃ name, choices.lookup name = some value ∧ readText bytes = .ok (name, rest) := by
  rw [Reader.readChoice]
  rcases readText bytes with cause | ⟨name, rest'⟩
  · simp
  · rcases hlookup : choices.lookup name with _ | value'
    · simp [Reader.choose, hlookup]
    · simp [Reader.choose, hlookup]

theorem nothing_iff : Reader.nothing.read bytes = .ok ((), rest) ↔
    skipBlanks bytes = octet 'n' :: (nullTail ++ rest) := by
  rcases hbytes : skipBlanks bytes with _ | ⟨b, inside⟩
  · simp [Reader.nothing, hbytes]
  · by_cases hword : b = octet 'n'
    · subst hword
      rw [List.cons_inj_right, ← readWord_iff]
      simp only [Reader.nothing, hbytes, if_true]
      rcases readWord nullTail inside with _ | rest' <;> simp
    · simp [Reader.nothing, hbytes, hword]

theorem closeChoice_iff :
    Reader.closeChoice bytes = .ok rest ↔ skipBlanks bytes = octet '\x7d' :: rest := by
  rw [Reader.closeChoice]
  rcases skipBlanks bytes with _ | ⟨b, bytes'⟩
  · simp
  · by_cases hb : b = octet '\x7d' <;> simp [hb]

theorem readChoiceMember_iff : Reader.readChoiceMember choices bytes = .ok (value, rest) ↔
    ∃ name inside middle behind, choices.lookup name = some value ∧
      skipBlanks bytes = octet '"' :: inside ∧ readText inside = .ok (name, middle) ∧
      skipBlanks middle = octet ':' :: behind ∧
      skipBlanks behind = octet 'n' :: (nullTail ++ rest) := by
  constructor
  · intro h
    rw [Reader.readChoiceMember] at h
    split at h
    · cases h
    · cases h
    · next inside hfirst =>
      rcases firstMember_cases hfirst with ⟨_, hclosed, -⟩ | ⟨_, hpart, hquote⟩
      · cases hclosed
      · cases hpart
        split at h
        · cases h
        · next value' middle hchoice =>
          obtain ⟨name, hlookup, hname⟩ := readChoice_iff.mp hchoice
          split at h
          · cases h
          · next behind hcolon =>
            obtain ⟨⟨⟩, hnull, rfl⟩ := map_read_iff.mp h
            exact ⟨name, inside, middle, behind, hlookup, hquote, hname, readColon_iff.mp hcolon,
              nothing_iff.mp hnull⟩
  · rintro ⟨name, inside, middle, behind, hlookup, hquote, hname, hcolon, hnull⟩
    rw [Reader.readChoiceMember, firstMember_quote hquote]
    simp only [readChoice_iff.mpr ⟨name, hlookup, hname⟩, readColon_iff.mpr hcolon]
    exact map_read_iff.mpr ⟨(), nothing_iff.mpr hnull, rfl⟩

theorem choice_text {inside : Octets} (h : skipBlanks bytes = octet '"' :: inside) :
    (Reader.choice choices).read bytes = .ok (value, rest) ↔
      ∃ name, choices.lookup name = some value ∧ readText inside = .ok (name, rest) := by
  rw [← readChoice_iff]
  simp only [Reader.choice, h, if_true]
  rcases Reader.readChoice choices inside with _ | _ <;> simp [Except.mapError]

theorem choice_object {inside : Octets} (h : skipBlanks bytes = octet '\x7b' :: inside) :
    (Reader.choice choices).read bytes = .ok (value, rest) ↔
      ∃ last, Reader.readChoiceMember choices inside = .ok (value, last) ∧
        skipBlanks last = octet '\x7d' :: rest := by
  have hquote : octet '\x7b' ≠ octet '"' := by decide
  simp only [← closeChoice_iff, Reader.choice, h, if_neg hquote, if_true]
  rcases Reader.readChoiceMember choices inside with _ | ⟨value', last⟩
  · simp
  · rcases hclose : Reader.closeChoice last with _ | rest'
    · simp [hclose]
    · simp [hclose]

end Parts

/-! ### Choices -/

theorem IsChoice.hasEntries {name : String} {entry : Entry} {text : Octets}
    (hkey : Spells (octets name) entry.key) (hvalue : entry.value = octet 'n' :: nullTail)
    (hobject : IsObject [entry] text) : HasEntries text [entry] :=
  ⟨hobject, List.forall_mem_singleton.mpr ⟨hkey.loose, hvalue ▸ .null⟩⟩

/-- The only entry of an object, by what stands behind each mark. -/
theorem isObject_single {inside spelling middle behind last rest : Octets}
    (hquote : skipBlanks inside = octet '"' :: (spelling ++ octet '"' :: middle))
    (hcolon : skipBlanks middle = octet ':' :: behind)
    (hnull : skipBlanks behind = octet 'n' :: (nullTail ++ last))
    (hclose : skipBlanks last = octet '\x7d' :: rest) :
    ∃ entry text, entry.key = spelling ∧ entry.value = octet 'n' :: nullTail ∧
      IsObject [entry] text ∧ octet '\x7b' :: inside = text ++ rest := by
  obtain ⟨blanks, hblanks, rfl⟩ := exists_blanks_mark hquote
  obtain ⟨before, hbefore, rfl⟩ := exists_blanks_mark hcolon
  obtain ⟨after, hafter, rfl⟩ := exists_blanks_mark hnull
  obtain ⟨blanks', hblanks', rfl⟩ := exists_blanks_mark hclose
  refine ⟨⟨spelling, before, after, octet 'n' :: nullTail, hbefore, hafter⟩, _, rfl, rfl,
    .parts hblanks (.close hblanks'), ?_⟩
  simp [Entry.text, Entry.body]

theorem IsChoice.wellFormed {text : Octets} (h : IsChoice choices value text) :
    WellFormed text := by
  rcases h with ⟨-, htext⟩ | ⟨-, hkey, hvalue, hobject⟩
  · exact text_reads.wellFormed htext
  · exact (IsChoice.hasEntries hkey hvalue hobject).wellFormed

/-- A choice has its own end, whatever stands behind it. -/
theorem IsChoice.skipValue {text : Octets} (h : IsChoice choices value text) (rest : Octets) :
    skipValue [] (text ++ rest) = .ok rest := by
  have hinput := h.wellFormed.starts.skipBlanks rest
  rcases h with ⟨-, ⟨hspells⟩⟩ | ⟨-, hkey, hvalue, hobject⟩
  · rw [skipValue_scalar [] hinput (by decide) ((if_pos rfl).trans ?_), skipRest]
    exact skipText_iff.mpr ⟨_, hspells.loose, List.append_assoc _ _ _⟩
  · rw [skipValue_object (IsChoice.hasEntries hkey hvalue hobject) [] hinput, skipRest]

theorem choice_complete {text : Octets} (h : IsChoice choices value text) (rest : Octets) :
    (Reader.choice choices).read (text ++ rest) = .ok (value, rest) := by
  rcases h with ⟨hlookup, ⟨hspells⟩⟩ | @⟨name, entry, _, hlookup, hkey, hvalue, hobject⟩
  · refine (choice_text (skipBlanks_cons (by decide) _)).mpr ⟨_, hlookup, ?_⟩
    exact readText_iff.mpr ⟨_, hspells, List.append_assoc _ _ _⟩
  · have hstarts := ((IsChoice.hasEntries hkey hvalue hobject).proper entry
      List.mem_cons_self).value.starts
    obtain _ | @⟨blanks, _, _, _, hblanks, @⟨blanks', hblanks'⟩⟩ := hobject
    have hquote : skipBlanks ((blanks ++ (entry.text ++ (blanks' ++ [octet '\x7d']))) ++ rest) =
        octet '"' :: (entry.body ++ (blanks' ++ [octet '\x7d'] ++ rest)) := by
      rw [List.append_assoc, List.append_assoc]
      exact skipBlanks_mark hblanks (by decide) _
    have hmark : isBlankOctet (octet ':') = false := by decide
    have hcolon := skipBlanks_mark entry.blanks_before hmark
      (entry.after ++ (entry.value ++ (blanks' ++ [octet '\x7d'] ++ rest)))
    have hnull : skipBlanks (entry.after ++ (entry.value ++ (blanks' ++ [octet '\x7d'] ++ rest))) =
        octet 'n' :: (nullTail ++ (blanks' ++ [octet '\x7d'] ++ rest)) := by
      rw [hstarts.skipBlanks_append entry.blanks_after, hvalue, List.cons_append]
    exact (choice_object (skipBlanks_cons (by decide) _)).mpr
      ⟨_, readChoiceMember_iff.mpr ⟨name, _, _, _, hlookup, hquote, Layout.readText_entry hkey _,
        hcolon, hnull⟩, skipBlanks_last hblanks' (by decide) rest⟩

theorem choice_sound {bytes rest : Octets}
    (hread : (Reader.choice choices).read bytes = .ok (value, rest)) :
    Leading (IsChoice choices value) bytes rest := by
  rcases hbytes : skipBlanks bytes with _ | ⟨b, inside⟩
  · simp only [Reader.choice, hbytes] at hread
    cases hread
  · by_cases hquote : b = octet '"'
    · subst hquote
      obtain ⟨name, hlookup, hname⟩ := (choice_text hbytes).mp hread
      exact (text_reads.sound ((text_read hbytes).mpr hname)).imp fun _ => .text hlookup
    · by_cases hbrace : b = octet '\x7b'
      · subst hbrace
        obtain ⟨last, hmember, hclose⟩ := (choice_object hbytes).mp hread
        obtain ⟨name, _, middle, behind, hlookup, hquote, hname, hcolon, hnull⟩ :=
          readChoiceMember_iff.mp hmember
        obtain ⟨spelling, hspells, rfl⟩ := readText_iff.mp hname
        obtain ⟨entry, text, rfl, hvalue, hobject, heq⟩ :=
          isObject_single hquote hcolon hnull hclose
        exact leading (.object hlookup hspells hvalue hobject) (hbytes.trans heq)
      · simp only [Reader.choice, hbytes, if_neg hquote, if_neg hbrace] at hread
        cases hread

/-- **A choice is read** by its name, in either way to write it. -/
theorem choice_reads (choices : List (String × α)) :
    (Reader.choice choices).Reads (IsChoice choices) where
  skips bytes := by simp only [Reader.choice, skipBlanks_skipBlanks]
  wellFormed := IsChoice.wellFormed
  read_iff {value text rest rest'} hwell hrest := by
    constructor
    · intro hread
      obtain ⟨blanks, text', hblanks, hchoice, heq⟩ := choice_sound hread
      have htext := (hwell.starts.unique hchoice.wellFormed.starts .nil hblanks heq).2
      -- both values end where passing over stops
      have hskip := skipValue_wellFormed hwell [] hrest (hwell.starts.skipBlanks rest)
      rw [htext, hchoice.skipValue, skipRest] at hskip
      obtain rfl : rest' = rest := Except.ok.inj hskip
      exact ⟨List.append_cancel_right htext ▸ hchoice, rfl⟩
    · rintro ⟨hchoice, rfl⟩
      exact choice_complete hchoice rest'
  sound := choice_sound

/-- A choice is written as a text. -/
theorem choice_writes {values : List α} {name : α → String} {value : α}
    (h : (values.map fun value => (name value, value)).lookup (name value) = some value) :
    (Format.choice values name).Writes (IsChoice (values.map fun value => (name value, value)))
      value :=
  fun depth => .text h (text_writes (name value) depth)

end ListingReview.Json
