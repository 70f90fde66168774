import ListingReview.Proofs.Json.Structure

/-! # JSON: what has been taken off the front

A function that takes something off the front of the octets leaves a rest. What it took is said here
by two ends, the octets it was given and the rest: blanks and something of a form (`Leading`), all
parts of a bracket that stand behind one of them (`Bracket.Closes`) or behind the opening bracket
(`Bracket.Holds`). A bracket that has been closed is a value again (`Bracket.Holds.value`). -/

namespace ListingReview.Json

open Text (Octets)

/-- Blanks, and octets of a form behind them, are in front of the rest. -/
def Leading (form : Octets → Prop) (bytes rest : Octets) : Prop :=
  ∃ blanks text, Blanks blanks ∧ form text ∧ bytes = blanks ++ (text ++ rest)

section Leading

variable {form form' : Octets → Prop} {bytes rest : Octets}

theorem Leading.of_skipBlanks (h : Leading form (skipBlanks bytes) rest) :
    Leading form bytes rest := by
  obtain ⟨blanks, text, hblanks, htext, heq⟩ := h
  obtain ⟨before, hbefore, hbytes⟩ := exists_blanks bytes
  refine ⟨before ++ blanks, text, hbefore.append hblanks, htext, ?_⟩
  rw [List.append_assoc, ← heq]
  exact hbytes

theorem leading {text : Octets} (h : form text) (hbytes : skipBlanks bytes = text ++ rest) :
    Leading form bytes rest :=
  .of_skipBlanks ⟨[], text, .nil, h, hbytes⟩

theorem Leading.imp (h : Leading form bytes rest) (himp : ∀ text, form text → form' text) :
    Leading form' bytes rest := by
  obtain ⟨blanks, text, hblanks, htext, heq⟩ := h
  exact ⟨blanks, text, hblanks, himp text htext, heq⟩

end Leading

namespace Bracket

/-- The octet that opens a bracket. -/
def opening : Bracket → UInt8
  | list => octet '['
  | object => octet '\x7b'

/-- The octet that closes a bracket. -/
def closing : Bracket → UInt8
  | list => octet ']'
  | object => octet '\x7d'

theorem eq_opening {b : UInt8} {bracket : Bracket} (h : opens? b = some bracket) :
    b = bracket.opening := by
  unfold opens? at h
  split_ifs at h with hlist hobject
  · cases h
    exact hlist
  · cases h
    exact hobject

theorem closing_mem (bracket : Bracket) :
    bracket.closing ∈ [octet ',', octet ']', octet '\x7d'] := by
  rcases bracket with _ | _ <;> decide

/-- What may stand between the commas of a bracket. -/
inductive IsPart : Bracket → Octets → Prop where
  | item {text : Octets} (h : WellFormed text) : IsPart list text
  | entry {entry : Entry} (h : entry.Proper) : IsPart object entry.text

/-- What follows a part of the bracket, up to its end, is in front of the rest. -/
def Closes (bracket : Bracket) (bytes rest : Octets) : Prop :=
  ∃ parts text, Behind bracket.closing parts text ∧ (∀ part ∈ parts, bracket.IsPart part) ∧
    bytes = text ++ rest

/-- What follows the opening bracket, up to its end, is in front of the rest. -/
def Holds (bracket : Bracket) (bytes rest : Octets) : Prop :=
  ∃ parts text, Brackets bracket.opening bracket.closing parts (bracket.opening :: text) ∧
    (∀ part ∈ parts, bracket.IsPart part) ∧ bytes = text ++ rest

variable {bracket : Bracket} {bytes bytes' rest rest' : Octets}

/-! ### Parts -/

theorem part_list (h : Leading WellFormed bytes rest) : Leading list.IsPart bytes rest :=
  h.imp fun _ => .item

/-- A key, the colon and a value. -/
theorem part_object {key before : Octets} (h : skipBlanks bytes =
      octet '"' :: (key ++ octet '"' :: (before ++ octet ':' :: bytes')))
    (hkey : Loose key) (hbefore : Blanks before) (hvalue : Leading WellFormed bytes' rest) :
    Leading object.IsPart bytes rest := by
  obtain ⟨blanks, hblanks, hbytes⟩ := exists_blanks bytes
  obtain ⟨after, value, hafter, htext, rfl⟩ := hvalue
  refine ⟨blanks, Entry.text ⟨key, before, after, value, hbefore, hafter⟩, hblanks,
    .entry ⟨hkey, htext⟩, ?_⟩
  rw [hbytes, h]
  simp [Entry.text, Entry.body]

/-! ### Up to the end -/

theorem closes_nil (h : skipBlanks bytes = bracket.closing :: rest) :
    bracket.Closes bytes rest := by
  obtain ⟨blanks, hblanks, rfl⟩ := exists_blanks_mark h
  refine ⟨[], _, .close hblanks, fun part hpart => absurd hpart List.not_mem_nil, ?_⟩
  rw [List.append_assoc]
  rfl

theorem closes_cons (h : skipBlanks bytes = octet ',' :: bytes')
    (hpart : Leading bracket.IsPart bytes' rest) (hrest : bracket.Closes rest rest') :
    bracket.Closes bytes rest' := by
  obtain ⟨blanks, hblanks, rfl⟩ := exists_blanks_mark h
  obtain ⟨blanks', part, hblanks', hmem, rfl⟩ := hpart
  obtain ⟨parts, text, hbehind, hparts, rfl⟩ := hrest
  refine ⟨part :: parts, _, .comma hblanks hblanks' hbehind,
    List.forall_mem_cons.mpr ⟨hmem, hparts⟩, ?_⟩
  simp only [List.append_assoc, List.cons_append]

theorem holds_nil (h : skipBlanks bytes = bracket.closing :: rest) :
    bracket.Holds bytes rest := by
  obtain ⟨blanks, hblanks, rfl⟩ := exists_blanks_mark h
  refine ⟨[], _, .empty hblanks, fun part hpart => absurd hpart List.not_mem_nil, ?_⟩
  rw [List.append_assoc]
  rfl

theorem holds_cons (hpart : Leading bracket.IsPart bytes rest) (hrest : bracket.Closes rest rest') :
    bracket.Holds bytes rest' := by
  obtain ⟨blanks, part, hblanks, hmem, rfl⟩ := hpart
  obtain ⟨parts, text, hbehind, hparts, rfl⟩ := hrest
  refine ⟨part :: parts, _, .parts hblanks hbehind,
    List.forall_mem_cons.mpr ⟨hmem, hparts⟩, ?_⟩
  simp only [List.append_assoc]

/-! ### Whole brackets -/

theorem exists_entries : ∀ {parts : List Octets}, (∀ part ∈ parts, object.IsPart part) →
    ∃ entries : List Entry, entries.map Entry.text = parts ∧ ∀ entry ∈ entries, entry.Proper
  | [], _ => ⟨[], rfl, fun entry hentry => absurd hentry List.not_mem_nil⟩
  | part :: parts, h => by
    obtain ⟨hpart, hparts⟩ := List.forall_mem_cons.mp h
    obtain ⟨entries, rfl, hproper⟩ := exists_entries hparts
    obtain ⟨_⟩ | @⟨entry, hentry⟩ := hpart
    exact ⟨entry :: entries, rfl, List.forall_mem_cons.mpr ⟨hentry, hproper⟩⟩

theorem Holds.items (h : list.Holds bytes rest) :
    ∃ items text, HasItems (octet '[' :: text) items ∧ bytes = text ++ rest := by
  obtain ⟨parts, text, hlist, hparts, rfl⟩ := h
  refine ⟨parts, text, ⟨hlist, fun part hpart => ?_⟩, rfl⟩
  obtain ⟨h⟩ := hparts part hpart
  exact h

theorem Holds.entries (h : object.Holds bytes rest) :
    ∃ entries text, HasEntries (octet '\x7b' :: text) entries ∧ bytes = text ++ rest := by
  obtain ⟨parts, text, hobject, hparts, rfl⟩ := h
  obtain ⟨entries, rfl, hproper⟩ := exists_entries hparts
  exact ⟨entries, text, ⟨hobject, hproper⟩, rfl⟩

/-- A bracket that is closed is a value. -/
theorem Holds.value (h : bracket.Holds bytes rest)
    (hbytes : skipBlanks bytes' = bracket.opening :: bytes) : Leading WellFormed bytes' rest := by
  rcases bracket with _ | _
  · obtain ⟨items, text, hitems, rfl⟩ := h.items
    exact leading (WellFormed.list hitems.isList hitems.wellFormed) hbytes
  · obtain ⟨entries, text, hentries, rfl⟩ := h.entries
    exact leading hentries.wellFormed hbytes

end Bracket

end ListingReview.Json
