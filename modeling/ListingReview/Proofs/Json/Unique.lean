import ListingReview.Proofs.Json.Skip

/-! # JSON: one way to take a text apart

A value, a key and a run of blanks each have one end. So the parts of brackets are told apart in one
way (`Brackets.unique`), and with them the items of a list and the entries of an object
(`HasItems.unique`, `HasEntries.unique`). -/

namespace ListingReview.Json

open Text (Octets)

/-- Blanks end at the first octet that is none. -/
theorem Blanks.unique {blanks blanks' rest rest' : Octets} {b b' : UInt8} (h : Blanks blanks)
    (h' : Blanks blanks') (hb : isBlankOctet b = false) (hb' : isBlankOctet b' = false)
    (heq : blanks ++ b :: rest = blanks' ++ b' :: rest') :
    blanks = blanks' ∧ b :: rest = b' :: rest' := by
  have hskip := skipBlanks_mark h hb rest
  rw [heq, skipBlanks_mark h' hb'] at hskip
  rw [← hskip] at heq
  exact ⟨List.append_cancel_right heq, hskip.symm⟩

/-- Blanks in front of something that does not start with one. -/
theorem Starts.unique {text text' blanks blanks' rest rest' : Octets} (h : Starts text)
    (h' : Starts text') (hblanks : Blanks blanks) (hblanks' : Blanks blanks')
    (heq : blanks ++ (text ++ rest) = blanks' ++ (text' ++ rest')) :
    blanks = blanks' ∧ text ++ rest = text' ++ rest' := by
  obtain ⟨b, text, rfl, hb⟩ := h
  obtain ⟨b', text', rfl, hb'⟩ := h'
  exact hblanks.unique hblanks' hb.notBlank hb'.notBlank heq

theorem Entry.unique {entry entry' : Entry} {rest rest' : Octets} (h : entry.Proper)
    (h' : entry'.Proper) (hrest : Ends rest) (hrest' : Ends rest')
    (heq : entry.text ++ rest = entry'.text ++ rest') : entry = entry' ∧ rest = rest' := by
  obtain ⟨key, before, after, value, hbefore, hafter⟩ := entry
  obtain ⟨key', before', after', value', hbefore', hafter'⟩ := entry'
  obtain ⟨hkey, hvalue⟩ := h
  obtain ⟨hkey', hvalue'⟩ := h'
  simp only [Entry.text, Entry.body, List.cons_append, List.append_assoc,
    List.cons_inj_right] at heq
  obtain ⟨rfl, hcolon⟩ := hkey.unique hkey' heq
  obtain ⟨rfl, hbehind⟩ := hbefore.unique hbefore' (by decide) (by decide) hcolon
  obtain ⟨rfl, htext⟩ :=
    hvalue.starts.unique hvalue'.starts hafter hafter' (List.cons.inj hbehind).2
  obtain ⟨rfl, rfl⟩ := hvalue.unique hvalue' hrest hrest' htext
  exact ⟨rfl, rfl⟩

section Brackets

variable {bracket : Bracket} {parts parts' : List Octets}

theorem Bracket.IsPart.starts {part : Octets} (h : bracket.IsPart part) : Starts part := by
  rcases h with ⟨h⟩ | _
  · exact h.starts
  · exact ⟨_, _, rfl, by decide⟩

theorem Bracket.IsPart.unique {part part' rest rest' : Octets} (h : bracket.IsPart part)
    (h' : bracket.IsPart part') (hrest : Ends rest) (hrest' : Ends rest')
    (heq : part ++ rest = part' ++ rest') : part = part' ∧ rest = rest' := by
  rcases h with ⟨h⟩ | ⟨h⟩
  · obtain ⟨h'⟩ := h'
    exact h.unique h' hrest hrest' heq
  · obtain _ | ⟨h'⟩ := h'
    obtain ⟨rfl, rfl⟩ := Entry.unique h h' hrest hrest' heq
    exact ⟨rfl, rfl⟩

theorem Behind.ends_text {text : Octets} (h : Behind bracket.closing parts text) : Ends text := by
  simpa using h.ends bracket.closing_mem []

variable (hparts : ∀ part ∈ parts, bracket.IsPart part)
  (hparts' : ∀ part ∈ parts', bracket.IsPart part)
include hparts hparts'

theorem Behind.unique {text text' : Octets} (h : Behind bracket.closing parts text)
    (h' : Behind bracket.closing parts' text') (heq : text = text') : parts = parts' := by
  have hclosing : isBlankOctet bracket.closing = false ∧ bracket.closing ≠ octet ',' := by
    rcases bracket with _ | _ <;> decide
  induction h generalizing parts' text' with
  | close hblanks =>
    rcases h' with _ | ⟨hblanks', -, -⟩
    · rfl
    · have hmark := (hblanks.unique hblanks' hclosing.1 (by decide) heq).2
      exact absurd (List.cons.inj hmark).1 hclosing.2
  | @comma _ _ part text parts hblanks hblanks₁ hrest ih =>
    rcases h' with ⟨hblanks'⟩ | @⟨_, _, part', text', parts', hblanks', hblanks₂, hrest'⟩
    · have hmark := (hblanks.unique hblanks' (by decide) hclosing.1 heq).2
      exact absurd (List.cons.inj hmark).1.symm hclosing.2
    · obtain ⟨hpart, hmore⟩ := List.forall_mem_cons.mp hparts
      obtain ⟨hpart', hmore'⟩ := List.forall_mem_cons.mp hparts'
      have hmark := (List.cons.inj (hblanks.unique hblanks' (by decide) (by decide) heq).2).2
      have htext := (hpart.starts.unique hpart'.starts hblanks₁ hblanks₂ hmark).2
      obtain ⟨rfl, rfl⟩ := hpart.unique hpart' hrest.ends_text hrest'.ends_text htext
      rw [ih hmore hmore' hrest' rfl]

theorem Brackets.unique {text : Octets} (h : Brackets bracket.opening bracket.closing parts text)
    (h' : Brackets bracket.opening bracket.closing parts' text) : parts = parts' := by
  have hclosing : isBlankOctet bracket.closing = false := by
    rcases bracket with _ | _ <;> decide
  -- no part starts with the closing bracket
  have hnot : ∀ {blanks blanks' part text : Octets}, Blanks blanks → Blanks blanks' →
      bracket.IsPart part → blanks ++ [bracket.closing] ≠ blanks' ++ (part ++ text) := by
    intro blanks blanks' part text hblanks hblanks' hpart heq
    obtain ⟨b, part, rfl, hb⟩ := hpart.starts
    have hmark := (hblanks.unique hblanks' hclosing hb.notBlank heq).2
    have hends : Ends (b :: (part ++ text)) := hmark ▸ .mark bracket.closing_mem []
    exact hb.notMem (hends.mem b rfl)
  generalize htext : text = text' at h'
  rcases h with hblanks | @⟨blanks, part, text, parts, hblanks, hrest⟩
  · rcases h' with hblanks' | ⟨hblanks', hrest'⟩
    · rfl
    · exact absurd (List.cons.inj htext).2
        (hnot hblanks hblanks' (hparts' _ List.mem_cons_self))
  · rcases h' with hblanks' | @⟨blanks', part', text', parts', hblanks', hrest'⟩
    · exact absurd (List.cons.inj htext).2.symm
        (hnot hblanks' hblanks (hparts _ List.mem_cons_self))
    · obtain ⟨hpart, hmore⟩ := List.forall_mem_cons.mp hparts
      obtain ⟨hpart', hmore'⟩ := List.forall_mem_cons.mp hparts'
      have heq := (hpart.starts.unique hpart'.starts hblanks hblanks' (List.cons.inj htext).2).2
      obtain ⟨rfl, rfl⟩ := hpart.unique hpart' hrest.ends_text hrest'.ends_text heq
      rw [hrest.unique hmore hmore' hrest' rfl]

end Brackets

theorem HasItems.unique {text : Octets} {items items' : List Octets} (h : HasItems text items)
    (h' : HasItems text items') : items = items' := by
  have hpart : ∀ {items : List Octets}, (∀ item ∈ items, WellFormed item) →
      ∀ item ∈ items, Bracket.list.IsPart item := fun h item hitem => .item (h item hitem)
  exact Brackets.unique (hpart h.wellFormed) (hpart h'.wellFormed) h.isList h'.isList

theorem Entry.eq_of_texts : ∀ {entries entries' : List Entry},
    (∀ entry ∈ entries, entry.Proper) → (∀ entry ∈ entries', entry.Proper) →
      entries.map Entry.text = entries'.map Entry.text → entries = entries'
  | [], [], _, _, _ => rfl
  | entry :: entries, entry' :: entries', h, h', heq => by
    obtain ⟨hentry, hentries⟩ := List.forall_mem_cons.mp h
    obtain ⟨hentry', hentries'⟩ := List.forall_mem_cons.mp h'
    obtain ⟨htext, htexts⟩ := List.cons.inj heq
    obtain ⟨rfl, -⟩ := Entry.unique hentry hentry' .nil .nil (congrArg (· ++ []) htext)
    rw [Entry.eq_of_texts hentries hentries' htexts]

theorem HasEntries.unique {text : Octets} {entries entries' : List Entry}
    (h : HasEntries text entries) (h' : HasEntries text entries') : entries = entries' := by
  have hpart : ∀ {entries : List Entry}, (∀ entry ∈ entries, entry.Proper) →
      ∀ part ∈ entries.map Entry.text, Bracket.object.IsPart part :=
    fun hproper => List.forall_mem_map.mpr fun entry hentry => .entry (hproper entry hentry)
  exact Entry.eq_of_texts h.proper h'.proper
    (Brackets.unique (hpart h.proper) (hpart h'.proper) h.isObject h'.isObject)

end ListingReview.Json
