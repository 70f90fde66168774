import ListingReview.Review.Draft
import Mathlib.Algebra.BigOperators.Group.List.Basic
import Mathlib.Logic.Nontrivial.Basic

/-! # Review: overrides

Overrides are a monoid: two of them put over a draft one after the other are one override, in which
the later value counts and all labels are kept (`Override.merge`). The monoid acts on drafts
(`Draft.apply_one`, `Draft.apply_mul`), so a list of overrides does what its product does
(`foldl_apply`), and in a product each value is the last one that is given (`getLast?_prod`). The
action is faithful: overrides that do the same to every draft are equal (`eq_of_apply`). -/

namespace ListingReview

namespace Override

/-! ### The monoid -/

/-- Two overrides as one: where both give a value that of the second counts, and the labels of the
second stand behind those of the first. -/
def merge (first second : Override) : Override where
  status := second.status.or first.status
  score := second.score.or first.score
  notes := second.notes.or first.notes
  labels := first.labels ++ second.labels

theorem merge_empty (override : Override) : override.merge {} = override := by
  cases override
  simp only [merge, Option.none_or, List.append_nil]

theorem empty_merge (override : Override) : Override.merge {} override = override := by
  cases override
  simp only [merge, Option.or_none, List.nil_append]

theorem merge_assoc (first second third : Override) :
    (first.merge second).merge third = first.merge (second.merge third) := by
  simp only [merge, Option.or_assoc, List.append_assoc]

instance : Monoid Override where
  mul := merge
  one := {}
  mul_assoc := merge_assoc
  one_mul := empty_merge
  mul_one := merge_empty

theorem isEmpty_iff {override : Override} : override.isEmpty = true ↔ override = 1 := by
  have hone : (1 : Override) = ⟨none, none, none, []⟩ := rfl
  obtain ⟨status, score, notes, labels⟩ := override
  rw [hone, mk.injEq]
  simp only [isEmpty, Bool.and_eq_true, Option.isNone_iff_eq_none, List.isEmpty_iff, and_assoc]

/-- The last of the values is the value of the product. -/
theorem getLast?_prod {α : Type} (value : Override → Option α) (hone : value 1 = none)
    (hmul : ∀ first second, value (first * second) = (value second).or (value first))
    (overrides : List Override) :
    value overrides.prod = (overrides.filterMap value).getLast? := by
  induction overrides with
  | nil => exact hone
  | cons override overrides ih =>
    rw [List.prod_cons, hmul, ih]
    cases hvalue : value override with
    | none => rw [List.filterMap_cons_none hvalue, Option.or_none]
    | some last =>
      rw [List.filterMap_cons_some hvalue, List.getLast?_cons]
      cases (overrides.filterMap value).getLast? <;> rfl

theorem labels_prod (overrides : List Override) :
    overrides.prod.labels = overrides.flatMap labels := by
  induction overrides with
  | nil => rfl
  | cons override overrides ih =>
    rw [List.prod_cons, List.flatMap_cons, ← ih]
    rfl

end Override

namespace Draft

/-! ### Its action on drafts -/

variable (draft : Draft)

theorem apply_one : draft.apply 1 = draft := by
  have hlabels : draft.labels ++ [] = draft.labels := List.append_nil _
  exact congrArg (Draft.mk draft.status draft.score draft.notes) hlabels

theorem apply_mul (first second : Override) :
    draft.apply (first * second) = (draft.apply first).apply second := by
  have hgetD {α : Type} (new old : Option α) (value : α) :
      (new.or old).getD value = new.getD (old.getD value) := by
    cases new <;> rfl
  have hmul : first * second = first.merge second := rfl
  simp only [hmul, Override.merge, apply, hgetD, List.append_assoc]

theorem foldl_apply (overrides : List Override) :
    overrides.foldl apply draft = draft.apply overrides.prod := by
  induction overrides generalizing draft with
  | nil => exact draft.apply_one.symm
  | cons override overrides ih => rw [List.foldl_cons, ih, List.prod_cons, apply_mul]

/-- Two values that give the same in place of every other are both there or both missing. -/
theorem eq_of_getD {α : Type} [Nontrivial α] {value other : Option α}
    (h : ∀ default, value.getD default = other.getD default) : value = other := by
  cases value with
  | none =>
    cases other with
    | none => rfl
    | some given =>
      obtain ⟨default, hne⟩ := exists_ne given
      exact absurd (h default) hne
  | some given =>
    cases other with
    | none =>
      obtain ⟨default, hne⟩ := exists_ne given
      exact absurd (h default).symm hne
    | some _ => exact congrArg some (h given)

instance : Nontrivial Status := ⟨.approved, .flagged, by decide⟩

instance : Nontrivial Binary64 := ⟨⟨false, 0⟩, ⟨true, 0⟩, by decide⟩

/-- What an override does to all drafts tells what is in it. -/
theorem eq_of_apply {first second : Override}
    (h : ∀ draft : Draft, draft.apply first = draft.apply second) : first = second := by
  have htexts : Nontrivial String := ⟨"", " ", by decide⟩
  obtain ⟨status, score, notes, labels⟩ := first
  obtain ⟨otherStatus, otherScore, otherNotes, otherLabels⟩ := second
  rw [Override.mk.injEq]
  refine ⟨eq_of_getD fun value => ?_, eq_of_getD fun value => ?_, eq_of_getD fun value => ?_, ?_⟩
  · exact congrArg Draft.status (h { initial with status := value })
  · exact congrArg Draft.score (h { initial with score := value })
  · exact congrArg Draft.notes (h { initial with notes := value })
  · exact congrArg Draft.labels (h initial)

/-- **The last override wins.** Of overrides put over a draft in order each value is that of the
last one that gives it, or the draft's own if none does, and the labels stand behind one another.
Merging is associative with the empty override as its unit, and a draft takes two overrides in order
as it takes them merged; so overrides that follow one another can be merged into one that does the
same at their place, and no other one does. Only the empty override changes no draft. -/
theorem last_override_wins :
    (∀ (draft : Draft) (overrides : List Override),
      (overrides.foldl apply draft).status =
          (overrides.filterMap Override.status).getLast?.getD draft.status ∧
        (overrides.foldl apply draft).score =
          (overrides.filterMap Override.score).getLast?.getD draft.score ∧
        (overrides.foldl apply draft).notes =
          (overrides.filterMap Override.notes).getLast?.getD draft.notes ∧
        (overrides.foldl apply draft).labels =
          draft.labels ++ overrides.flatMap Override.labels) ∧
      (∀ first second third : Override,
        (first.merge second).merge third = first.merge (second.merge third) ∧
          first.merge {} = first ∧ Override.merge {} first = first) ∧
      (∀ (draft : Draft) (first second : Override),
        draft.apply (first.merge second) = (draft.apply first).apply second) ∧
      (∀ group : List Override, ∃! merged : Override, ∀ before after (draft : Draft),
        (before ++ merged :: after).foldl apply draft =
          (before ++ group ++ after).foldl apply draft) ∧
      ∀ override : Override,
        (∀ draft : Draft, draft.apply override = draft) ↔ override.isEmpty = true := by
  refine ⟨fun draft overrides => ?_, fun first second third => ?_, apply_mul, fun group => ?_,
    fun override => ?_⟩
  · have hstatus := Override.getLast?_prod Override.status rfl (fun _ _ => rfl) overrides
    have hscore := Override.getLast?_prod Override.score rfl (fun _ _ => rfl) overrides
    have hnotes := Override.getLast?_prod Override.notes rfl (fun _ _ => rfl) overrides
    rw [foldl_apply, ← hstatus, ← hscore, ← hnotes, ← Override.labels_prod]
    exact ⟨rfl, rfl, rfl, rfl⟩
  · exact ⟨Override.merge_assoc first second third, first.merge_empty, first.empty_merge⟩
  · refine ⟨group.prod, fun before after draft => ?_, fun merged hmerged => ?_⟩
    · simp only [foldl_apply, List.prod_append, List.prod_cons, mul_assoc]
    · -- with nothing around it a group does what its product does
      refine eq_of_apply fun draft => ?_
      rw [← foldl_apply draft group]
      simpa using hmerged [] [] draft
  · rw [Override.isEmpty_iff]
    constructor
    · exact fun h => eq_of_apply fun draft => (h draft).trans draft.apply_one.symm
    · rintro rfl
      exact apply_one

end Draft

end ListingReview
