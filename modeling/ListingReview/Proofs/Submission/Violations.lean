import ListingReview.Proofs.Submission.Check
import Mathlib.Data.List.Basic
import Mathlib.Tactic.MkIffOfInductiveProp

/-! # Submissions: the first violation

The members at which a submission can be at fault are its places (`Submission.Place`): five of its
own, three of every image and one of every variant, in this order. At each of them there may be a
violation, whatever there is at the others.

* `failure?_check`: the check reports the violation at the first place that has one.
* `check_spec`: so it passes exactly the submissions that are complete, loses nothing of them, and
  names the first place at fault of all others. -/

namespace ListingReview

namespace Submission

/-! ### Places -/

/-- A member that can be at fault, those of images and variants by the index of their item. -/
inductive Place where
  | listingId
  | sellerId
  | reason
  | title
  | priceCents
  | imageId (index : Nat)
  | imageUrl (index : Nat)
  | imageSize (index : Nat)
  | variantLabel (index : Nat)
deriving DecidableEq, Repr

/-- The name of a place. -/
def Place.field : Place → String
  | listingId => "listingId"
  | sellerId => "sellerId"
  | reason => "reason"
  | title => "title"
  | priceCents => "priceCents"
  | imageId index => "images[" ++ toString index ++ "].id"
  | imageUrl index => "images[" ++ toString index ++ "].url"
  | imageSize index => "images[" ++ toString index ++ "].fileSizeBytes"
  | variantLabel index => "variants[" ++ toString index ++ "].label"

/-- The places of an image. -/
def Place.ofImage (index : Nat) : List Place := [.imageId index, .imageUrl index, .imageSize index]

/-- The places of a submission in their order. -/
def places (submission : Submission) : List Place :=
  [.listingId, .sellerId, .reason, .title, .priceCents]
    ++ (List.range (submission.images.getD []).length).flatMap Place.ofImage
    ++ (List.range (submission.variants.getD []).length).map .variantLabel

/-- The violation of a member that must be there. -/
def absence? {α : Type} (field : String) (found : Option α) : Option Violation :=
  if found = none then some (.missing field) else none

/-- The violation of a number that is no whole number from zero on. -/
def misfit? (field : String) : Option Json.Number → Option Violation
  | some (.negative n) => some (.negative field n)
  | some (.float x) => some (.notWhole field (String.ofList (Json.writeFloat x)))
  | some (.unsigned _) | none => none

/-- The violation at a place, whatever is wrong at others. -/
def violationAt (submission : Submission) (place : Place) : Option Violation :=
  match place with
  | .listingId => absence? place.field submission.listingId
  | .sellerId => absence? place.field submission.sellerId
  | .reason => absence? place.field submission.reason
  | .title => absence? place.field submission.title
  | .priceCents => misfit? place.field submission.priceCents
  | .imageId index =>
    (submission.images.getD [])[index]?.bind fun image => absence? place.field image.id
  | .imageUrl index =>
    (submission.images.getD [])[index]?.bind fun image => absence? place.field image.url
  | .imageSize index =>
    (submission.images.getD [])[index]?.bind fun image => misfit? place.field image.fileSize
  | .variantLabel index =>
    (submission.variants.getD [])[index]?.bind fun variant => absence? place.field variant.label

/-! ### Checks by their failures -/

/-- The violation that a check reports. -/
def failure? {α : Type} : Except Violation α → Option Violation
  | .error violation => some violation
  | .ok _ => none

section Failures

variable {α β : Type} {field : String}

theorem failure?_eq_some_iff {result : Except Violation α} {violation : Violation} :
    failure? result = some violation ↔ result = .error violation := by
  cases result <;> simp [failure?]

theorem failure?_eq_none_iff {result : Except Violation α} :
    failure? result = none ↔ ∃ value, result = .ok value := by
  cases result <;> simp [failure?]

@[simp] theorem failure?_pure (value : α) : failure? (pure value) = none := rfl

@[simp] theorem failure?_required (found : Option α) :
    failure? (required field found) = absence? field found := by
  cases found <;> rfl

@[simp] theorem failure?_nonNegative (number : Option Json.Number) :
    failure? (nonNegative field number) = misfit? field number := by
  rcases number with _ | (n | n | x) <;> rfl

/-- Of two checks in a row, the second of which fails alike on all that the first one gives, the
first one comes first. -/
theorem failure?_bind {first : Except Violation α} {next : α → Except Violation β}
    {later : Option Violation} (h : ∀ value, failure? (next value) = later) :
    failure? (first >>= next) = (failure? first).or later := by
  cases first with
  | error violation => rfl
  | ok value => exact h value

theorem findSome?_cons_eq_or (f : α → Option β) (item : α) (items : List α) :
    (item :: items).findSome? f = (f item).or (items.findSome? f) := by
  rw [List.findSome?_cons]
  cases f item <;> rfl

theorem findSome?_flatMap {γ : Type} (f : β → Option γ) (g : α → List β) (items : List α) :
    (items.flatMap g).findSome? f = items.findSome? fun item => (g item).findSome? f := by
  induction items with
  | nil => rfl
  | cons item items ih =>
    rw [List.flatMap_cons, List.findSome?_append, ih, findSome?_cons_eq_or]

theorem failure?_checkEach (check : Nat → α → Except Violation β) (items : List α) (start : Nat) :
    failure? (checkEach check start items) =
      (List.range items.length).findSome? fun index =>
        items[index]?.bind fun item => failure? (check (start + index) item) := by
  induction items generalizing start with
  | nil => rfl
  | cons item items ih =>
    have hnext : failure? (checkEach check start (item :: items)) =
        (failure? (check start item)).or (failure? (checkEach check (start + 1) items)) := by
      rw [checkEach]
      refine failure?_bind fun value => ?_
      rw [failure?_bind fun _ => failure?_pure _, Option.or_none]
    -- behind the first item every index is one higher
    have hindex (index : Nat) : start + 1 + index = start + (index + 1) := by omega
    rw [hnext, ih, List.length_cons, List.range_succ_eq_map, findSome?_cons_eq_or,
      List.findSome?_map]
    simp only [hindex, List.getElem?_cons_zero, Option.bind_some, Nat.add_zero,
      Function.comp_def, Nat.succ_eq_add_one, List.getElem?_cons_succ]

end Failures

/-- The name of a member of an item, for its constant parts put together. -/
theorem itemField_eq (list field : String) (index : Nat) {opened closed : String}
    (hopened : list ++ "[" = opened) (hclosed : "]." ++ field = closed) :
    itemField list index field = opened ++ toString index ++ closed := by
  rw [← hopened, ← hclosed, ← String.append_assoc]
  rfl

theorem failure?_checkImage (index : Nat) (image : ImageSubmission) :
    failure? (checkImage index image) =
      (absence? (Place.imageId index).field image.id).or
        ((absence? (Place.imageUrl index).field image.url).or
          (misfit? (Place.imageSize index).field image.fileSize)) := by
  rw [checkImage, failure?_bind fun _ => failure?_bind fun _ => failure?_bind fun _ =>
    failure?_pure _, failure?_required, failure?_required, failure?_nonNegative, Option.or_none,
    itemField_eq "images" "id" index rfl rfl, itemField_eq "images" "url" index rfl rfl,
    itemField_eq "images" "fileSizeBytes" index rfl rfl]
  rfl

theorem failure?_checkVariant (index : Nat) (variant : VariantSubmission) :
    failure? (checkVariant index variant) =
      absence? (Place.variantLabel index).field variant.label := by
  rw [checkVariant, failure?_bind fun _ => failure?_pure _, failure?_required, Option.or_none,
    itemField_eq "variants" "label" index rfl rfl]
  rfl

section Check

variable (submission : Submission)

/-- At the places of the images stand the violations that their checks report. -/
theorem failure?_images :
    failure? (checkEach checkImage 0 (submission.images.getD [])) =
      ((List.range (submission.images.getD []).length).flatMap Place.ofImage).findSome?
        submission.violationAt := by
  rw [failure?_checkEach, findSome?_flatMap]
  congr 1
  funext index
  simp only [Place.ofImage, findSome?_cons_eq_or, List.findSome?_nil, Option.or_none, violationAt,
    Nat.zero_add, failure?_checkImage]
  cases (submission.images.getD [])[index]? <;> rfl

theorem failure?_variants :
    failure? (checkEach checkVariant 0 (submission.variants.getD [])) =
      ((List.range (submission.variants.getD []).length).map Place.variantLabel).findSome?
        submission.violationAt := by
  simp only [failure?_checkEach, List.findSome?_map, Function.comp_def, violationAt, Nat.zero_add,
    failure?_checkVariant]

/-- **The violation that the check reports** is the one at the first place that has one. -/
theorem failure?_check :
    failure? submission.check = submission.places.findSome? submission.violationAt := by
  rw [check, failure?_bind fun _ => failure?_bind fun _ => failure?_bind fun _ =>
    failure?_bind fun _ => failure?_bind fun _ => failure?_bind fun _ => failure?_bind fun _ =>
      failure?_pure _]
  simp only [failure?_required, failure?_nonNegative, failure?_images, failure?_variants, places,
    List.findSome?_append, findSome?_cons_eq_or, List.findSome?_nil, violationAt, Place.field,
    Option.or_none, Option.or_assoc]

theorem field_of_absence? {α : Type} {field : String} {found : Option α} {violation : Violation}
    (h : absence? field found = some violation) : violation.field = field := by
  unfold absence? at h
  split_ifs at h
  cases h
  rfl

theorem field_of_misfit? {field : String} {number : Option Json.Number} {violation : Violation}
    (h : misfit? field number = some violation) : violation.field = field := by
  rcases number with _ | (n | n | x) <;> cases h <;> rfl

variable {submission} in
/-- A violation has the name of its place. -/
theorem field_of_violationAt {place : Place} {violation : Violation}
    (h : submission.violationAt place = some violation) : violation.field = place.field := by
  unfold violationAt at h
  cases place with
  | listingId | sellerId | reason | title => exact field_of_absence? h
  | priceCents => exact field_of_misfit? h
  | imageId index | imageUrl index | variantLabel index =>
    obtain ⟨_, -, h⟩ := Option.bind_eq_some_iff.mp h
    exact field_of_absence? h
  | imageSize index =>
    obtain ⟨_, -, h⟩ := Option.bind_eq_some_iff.mp h
    exact field_of_misfit? h

/-! ### Complete submissions -/

/-- A number that is absent or of 64 bits without a sign. -/
def IsAmount (number : Option Json.Number) : Prop := ∀ found ∈ number, ∃ n, found = .unsigned n

theorem absence?_eq_none_iff {α : Type} {field : String} {found : Option α} :
    absence? field found = none ↔ found ≠ none := by
  simp [absence?]

theorem misfit?_eq_none_iff {field : String} {number : Option Json.Number} :
    misfit? field number = none ↔ IsAmount number := by
  rcases number with _ | (n | n | x) <;> simp [misfit?, IsAmount]

/-- What a submission needs in order to be a listing. -/
@[mk_iff complete_iff_and]
structure Complete : Prop where
  listingId : submission.listingId ≠ none
  sellerId : submission.sellerId ≠ none
  reason : submission.reason ≠ none
  title : submission.title ≠ none
  priceCents : IsAmount submission.priceCents
  images : ∀ image ∈ submission.images.getD [],
    image.id ≠ none ∧ image.url ≠ none ∧ IsAmount image.fileSize
  variants : ∀ variant ∈ submission.variants.getD [], variant.label ≠ none

/-- None of the items of a list has a finding at its index. -/
theorem forall_bind_eq_none {α β : Type} {items : List α} {finding : Nat → α → Option β}
    {p : α → Prop} (h : ∀ index item, finding index item = none ↔ p item) :
    (∀ index < items.length, items[index]?.bind (finding index) = none) ↔
      ∀ item ∈ items, p item := by
  constructor
  · intro hnone item hmem
    obtain ⟨index, hindex⟩ := List.mem_iff_getElem?.mp hmem
    have hlt : index < items.length := (List.getElem?_eq_some_iff.mp hindex).1
    have hfinding := hnone index hlt
    rw [hindex, Option.bind_some] at hfinding
    exact (h index item).mp hfinding
  · intro hall index _
    rw [Option.bind_eq_none_iff]
    exact fun item hitem => (h index item).mpr (hall item (List.mem_of_getElem? hitem))

/-- A submission is complete if there is no violation at any of its places. -/
theorem complete_iff :
    submission.Complete ↔ ∀ place ∈ submission.places, submission.violationAt place = none := by
  have hids : (∀ index < (submission.images.getD []).length,
      submission.violationAt (.imageId index) = none) ↔
        ∀ image ∈ submission.images.getD [], image.id ≠ none :=
    forall_bind_eq_none fun _ _ => absence?_eq_none_iff
  have hurls : (∀ index < (submission.images.getD []).length,
      submission.violationAt (.imageUrl index) = none) ↔
        ∀ image ∈ submission.images.getD [], image.url ≠ none :=
    forall_bind_eq_none fun _ _ => absence?_eq_none_iff
  have hsizes : (∀ index < (submission.images.getD []).length,
      submission.violationAt (.imageSize index) = none) ↔
        ∀ image ∈ submission.images.getD [], IsAmount image.fileSize :=
    forall_bind_eq_none fun _ _ => misfit?_eq_none_iff
  have hlabels : (∀ index < (submission.variants.getD []).length,
      submission.violationAt (.variantLabel index) = none) ↔
        ∀ variant ∈ submission.variants.getD [], variant.label ≠ none :=
    forall_bind_eq_none fun _ _ => absence?_eq_none_iff
  rw [complete_iff_and]
  simp only [places, List.forall_mem_append, List.forall_mem_cons, List.forall_mem_flatMap,
    List.forall_mem_map, List.mem_range, Place.ofImage, forall_and, hids, hurls, hsizes, hlabels]
  simp [violationAt, absence?_eq_none_iff, misfit?_eq_none_iff, and_assoc]

/-- **What the check comes to.** It passes the complete submissions; what passes says all of the
listing, lists that are absent counting as empty; and of any other submission it reports the
violation at the first place that has one, by the name of that place. -/
theorem check_spec :
    ((∃ listing, submission.check = .ok listing) ↔ submission.Complete) ∧
      (∀ listing, submission.check = .ok listing ↔ submission.filled = listing.submitted) ∧
      ∀ violation, submission.check = .error violation ↔
        ∃ before place after, submission.places = before ++ place :: after ∧
          (∀ earlier ∈ before, submission.violationAt earlier = none) ∧
          submission.violationAt place = some violation ∧ violation.field = place.field := by
  refine ⟨?_, fun listing => check_eq_ok_iff, fun violation => ?_⟩
  · rw [complete_iff, ← failure?_eq_none_iff, failure?_check, List.findSome?_eq_none_iff]
  · rw [← failure?_eq_some_iff, failure?_check, List.findSome?_eq_some_iff]
    constructor
    · rintro ⟨before, place, after, hplaces, hfound, hnone⟩
      exact ⟨before, place, after, hplaces, hnone, hfound, field_of_violationAt hfound⟩
    · rintro ⟨before, place, after, hplaces, hnone, hfound, -⟩
      exact ⟨before, place, after, hplaces, hfound, hnone⟩

end Check

end Submission

end ListingReview
