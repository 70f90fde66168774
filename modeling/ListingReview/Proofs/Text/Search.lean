import ListingReview.Text.Search
import ListingReview.Text.Fields
import Mathlib.Data.List.Infix
import Mathlib.Data.List.TakeWhile

/-! # Text: occurrences

The search is for infixes: `occursIn_iff`. The hits of a text are therefore the needles that are
infixes of it, and an enumeration puts a comma and a blank between them. A longer text has all hits
of the shorter one (`hits_mono`), and a needle without a separator occurs on one side of it
(`infix_separated_iff`).

A text can be cut where a separator stands (`pieces`), which gives back what was enumerated with it
(`pieces_intercalate`), or where a run of letters of one kind in front of it ends (`cut_iff`). -/

namespace ListingReview.Text

theorem occursIn_iff {needle : List Char} : ∀ {text : List Char},
    occursIn needle text = true ↔ needle <:+: text
  | [] => by simp [occursIn]
  | c :: text => by
    rw [occursIn, Bool.or_eq_true, List.isPrefixOf_iff_prefix, occursIn_iff, List.infix_cons_iff]

theorem hits_eq_filter (text : List Char) (needles : List String) :
    hits text needles = needles.filter fun needle => needle.toList <:+: text := by
  refine List.filter_congr fun needle _ => ?_
  rw [Bool.eq_iff_iff, occursIn_iff, decide_eq_true_iff]

theorem mem_hits {text : List Char} {needle : String} {needles : List String} :
    needle ∈ hits text needles ↔ needle ∈ needles ∧ needle.toList <:+: text := by
  rw [hits_eq_filter, List.mem_filter, decide_eq_true_iff]

theorem hits_mono {text longer : List Char} (h : text <:+: longer) (needles : List String) :
    hits text needles ⊆ hits longer needles := by
  intro needle hmem
  obtain ⟨hneedle, hinfix⟩ := mem_hits.mp hmem
  exact mem_hits.mpr ⟨hneedle, hinfix.trans h⟩

/-- A needle lies on one side of a separator that is not in it. -/
theorem infix_separated_iff {needle : List Char} {separator : Char} (h : separator ∉ needle)
    (front back : List Char) :
    needle <:+: front ++ separator :: back ↔ needle <:+: front ∨ needle <:+: back := by
  -- what begins at the separator and is part of the needle is empty
  have hnil : ∀ {part : List Char}, (∀ c ∈ part, c ∈ needle) → part <+: separator :: back →
      part = [] := by
    intro part hpart hprefix
    rcases List.prefix_cons_iff.mp hprefix with hempty | ⟨rest, rfl, -⟩
    · exact hempty
    · exact absurd (hpart separator List.mem_cons_self) h
  constructor
  · intro hinfix
    rcases List.infix_append_iff.mp hinfix with hfront | hback | ⟨left, right, rfl, hleft, hright⟩
    · exact .inl hfront
    · rcases List.infix_cons_iff.mp hback with hprefix | hback
      · rw [hnil (fun _ hc => hc) hprefix]
        exact .inl List.nil_infix
      · exact .inr hback
    · rw [hnil (fun _ hc => List.mem_append_right _ hc) hright, List.append_nil]
      exact .inl hleft.isInfix
  · rintro (hfront | hback)
    · exact List.infix_append_of_infix_left hfront
    · exact List.infix_append_of_infix_right (List.infix_cons hback)

theorem ofList_enumeration (texts : List String) :
    String.ofList (enumeration texts) = ", ".intercalate texts := by
  rw [← String.toList_inj, String.toList_ofList, String.toList_intercalate]
  rfl

/-! ### Pieces -/

/-- The pieces of a text between the places where a separator, which is not empty, stands. It is
looked for from left to right, each time behind the place found last. -/
def pieces (separator : List Char) : List Char → List (List Char)
  | [] => [[]]
  | c :: rest =>
    if separator.isPrefixOf (c :: rest) then
      [] :: pieces separator (rest.drop (separator.length - 1))
    else (pieces separator rest).modifyHead (c :: ·)
termination_by text => text.length
decreasing_by
  · simp only [List.length_drop, List.length_cons]
    omega
  · exact Nat.lt_succ_self _

section

variable {mark : Char} {more : List Char}

theorem pieces_separator_append (text : List Char) :
    pieces (mark :: more) (mark :: more ++ text) = [] :: pieces (mark :: more) text := by
  have hprefix : (mark :: more).isPrefixOf (mark :: (more ++ text)) = true :=
    List.isPrefixOf_iff_prefix.mpr (List.prefix_append (mark :: more) text)
  rw [List.cons_append, pieces, if_pos hprefix, List.length_cons, Nat.add_sub_cancel,
    List.drop_left]

theorem pieces_cons {c : Char} (h : c ≠ mark) (text : List Char) :
    pieces (mark :: more) (c :: text) = (pieces (mark :: more) text).modifyHead (c :: ·) := by
  have hprefix : ¬ (mark :: more).isPrefixOf (c :: text) = true := by
    rw [List.isPrefixOf_iff_prefix, List.cons_prefix_cons]
    exact fun hboth => h hboth.1.symm
  rw [pieces, if_neg hprefix]

/-- A text that lacks the first character of the separator is in one piece with what follows. -/
theorem pieces_append {piece : List Char} (h : mark ∉ piece) (text : List Char) :
    pieces (mark :: more) (piece ++ text) =
      (pieces (mark :: more) text).modifyHead (piece ++ ·) := by
  induction piece with
  | nil =>
    cases hpieces : pieces (mark :: more) text <;> simp [hpieces]
  | cons c piece ih =>
    rw [List.mem_cons, not_or] at h
    obtain ⟨hc, hpiece⟩ := h
    rw [List.cons_append, pieces_cons (Ne.symm hc), ih hpiece, List.modifyHead_modifyHead]
    rfl

/-- Texts that lack the first character of the separator are the pieces of what they make up with
it between them. -/
theorem pieces_intercalate : ∀ {texts : List (List Char)}, texts ≠ [] →
    (∀ text ∈ texts, mark ∉ text) →
    pieces (mark :: more) ((mark :: more).intercalate texts) = texts
  | [text], _, h => by
    rw [List.intercalate_singleton, ← List.append_nil text,
      pieces_append (h text List.mem_cons_self), pieces, List.modifyHead_cons]
  | text :: next :: texts, _, h => by
    obtain ⟨htext, hrest⟩ := List.forall_mem_cons.mp h
    rw [List.intercalate_cons_cons, List.append_assoc, pieces_append htext,
      pieces_separator_append, pieces_intercalate (List.cons_ne_nil next texts) hrest,
      List.modifyHead_cons, List.append_nil]

end

/-! ### Runs -/

/-- The run in front of a text and what follows it are the two parts of which the first is in the
run and the second does not go on with it. -/
theorem cut_iff {α : Type} {p : α → Bool} {text front rest : List α} :
    text.takeWhile p = front ∧ text.dropWhile p = rest ↔
      text = front ++ rest ∧ (∀ c ∈ front, p c = true) ∧ ∀ c ∈ rest.head?, p c = false := by
  constructor
  · rintro ⟨rfl, rfl⟩
    refine ⟨List.takeWhile_append_dropWhile.symm, fun _ hc => List.mem_takeWhile_imp hc,
      fun c hc => ?_⟩
    have hhead := List.head?_dropWhile_not p text
    rw [Option.mem_def.mp hc] at hhead
    simpa using hhead
  · rintro ⟨rfl, hfront, hrest⟩
    rw [List.takeWhile_append_of_pos hfront, List.dropWhile_append_of_pos hfront]
    cases rest with
    | nil => exact ⟨List.append_nil _, rfl⟩
    | cons c rest =>
      have hc : ¬ p c = true := by simp [hrest c rfl]
      rw [List.takeWhile_cons_of_neg hc, List.dropWhile_cons_of_neg hc, List.append_nil]
      exact ⟨rfl, rfl⟩

end ListingReview.Text
