import ListingReview.Review.Pipeline
import ListingReview.Proofs.Text.Search

/-! # Review: the verdict

What a review comes to, said without the rules and their drafts. The terms that occur in the text
and the images that are flagged decide on what ground a listing is judged (`Policy.ground`): banned
terms come before flagged ones, and these before flagged images. The ground settles the status, the
notes and the label of the text; every image adds its own labels, and whether there are images at
all the last one.

* `run_pipeline`: the draft that the rules leave, score included.
* `review_verdict`: status, notes, labels and name of the decision. -/

namespace ListingReview

/-! ### What is found -/

namespace Policy

/-- The banned terms that occur in the title and description of a listing. -/
def bannedIn (policy : Policy) (listing : Listing) : List String :=
  policy.bannedTerms.filter fun term =>
    term.toList <:+:
      Text.lower (listing.title.toList ++ ' ' :: (listing.description.getD "").toList)

/-- The flagged terms that occur in the title and description of a listing. -/
def flaggedIn (policy : Policy) (listing : Listing) : List String :=
  policy.flaggedTerms.filter fun term =>
    term.toList <:+:
      Text.lower (listing.title.toList ++ ' ' :: (listing.description.getD "").toList)

/-- The type of the image is known and, in lower case, begins like a flagged one. -/
def Flags (policy : Policy) (image : Image) : Prop :=
  ∃ mimeType ∈ image.mimeType, ∃ beginning ∈ policy.flaggedTypes,
    beginning.toList <+: Text.lower mimeType.toList

/-- The size of the image is known and above the limit. -/
def Exceeds (policy : Policy) (image : Image) : Prop :=
  ∃ size ∈ image.fileSize, policy.sizeLimit.toInt < (size.toNat : Int)

theorem isFlagged_iff (policy : Policy) (image : Image) :
    Rule.isFlagged policy image = true ↔ policy.Flags image := by
  unfold Rule.isFlagged Flags
  cases image.mimeType with
  | none => simp
  | some mimeType => simp [List.any_eq_true, List.isPrefixOf_iff_prefix]

theorem isTooLarge_iff (policy : Policy) (image : Image) :
    Rule.isTooLarge policy image = true ↔ policy.Exceeds image := by
  unfold Rule.isTooLarge Exceeds
  cases image.fileSize with
  | none => simp
  | some size => simp

instance (policy : Policy) (image : Image) : Decidable (policy.Flags image) :=
  decidable_of_iff _ (policy.isFlagged_iff image)

instance (policy : Policy) (image : Image) : Decidable (policy.Exceeds image) :=
  decidable_of_iff _ (policy.isTooLarge_iff image)

/-- The number of images that are too large. -/
def tooLarge (policy : Policy) (listing : Listing) : Nat :=
  listing.images.countP fun image => policy.Exceeds image

end Policy

/-! ### Grounds -/

/-- On what ground a listing is judged. -/
inductive Ground where
  | bannedText
  | flaggedText
  | flaggedImage
  | nothing
deriving DecidableEq, Repr

namespace Ground

def status : Ground → Status
  | bannedText => .rejected
  | flaggedText | flaggedImage => .flagged
  | nothing => .approved

/-- The label of the text. -/
def textLabels : Ground → List Label
  | bannedText => [.bannedKeyword]
  | flaggedText => [.textRequiresReview]
  | flaggedImage | nothing => []

/-- A score after images that are too large, if there are any. -/
def lowered (score : Binary64) (tooLarge : Nat) : Binary64 :=
  if tooLarge = 0 then score else Rule.penalized score tooLarge

/-- The score before it is rounded. -/
def score (tooLarge : Nat) : Ground → Binary64
  | bannedText => lowered Rule.rejectedScore tooLarge
  | flaggedText => lowered Rule.textReviewScore tooLarge
  | flaggedImage => Rule.imageReviewScore
  | nothing => lowered Draft.approvedScore tooLarge

end Ground

namespace Policy

/-- The gravest ground that there is. -/
def ground (policy : Policy) (listing : Listing) : Ground :=
  if policy.bannedIn listing ≠ [] then .bannedText
  else if policy.flaggedIn listing ≠ [] then .flaggedText
  else if ∃ image ∈ listing.images, policy.Flags image then .flaggedImage
  else .nothing

/-- The notes on a listing. -/
def notes (policy : Policy) (listing : Listing) : String :=
  match policy.ground listing with
  | .bannedText => "Blocked terms detected: " ++ ", ".intercalate (policy.bannedIn listing)
  | .flaggedText => "Sensitive terms present: " ++ ", ".intercalate (policy.flaggedIn listing)
  | .flaggedImage => "Image metadata triggered manual review."
  | .nothing => "No policy violations detected."

/-- The labels of one image. -/
def labelsOf (policy : Policy) (image : Image) : List Label :=
  (if policy.Flags image then [.imageFlagged] else [])
    ++ if policy.Exceeds image then [.imageTooLarge] else []

/-- The labels of a listing: that of its text, those of its images in order, and whether there are
images. -/
def labels (policy : Policy) (listing : Listing) : List Label :=
  (policy.ground listing).textLabels ++ listing.images.flatMap policy.labelsOf
    ++ [if listing.images = [] then .noImagesSubmitted else .imageryPresent]

/-! ### The rules one by one -/

variable (policy : Policy) (listing : Listing)

theorem hits_bannedTerms :
    Text.hits listing.text policy.bannedTerms = policy.bannedIn listing :=
  Text.hits_eq_filter _ _

theorem hits_flaggedTerms :
    Text.hits listing.text policy.flaggedTerms = policy.flaggedIn listing :=
  Text.hits_eq_filter _ _

theorem imageLabels_eq : Rule.imageLabels policy = policy.labelsOf := by
  funext image
  simp only [Rule.imageLabels, labelsOf, isFlagged_iff, isTooLarge_iff]

theorem presenceLabel_eq (images : List Image) :
    Rule.presenceLabel images = if images = [] then .noImagesSubmitted else .imageryPresent := by
  simp only [Rule.presenceLabel, List.isEmpty_iff]

theorem termNotes_eq (heading : String) (terms : List String) :
    Rule.termNotes heading terms = heading ++ ", ".intercalate terms := by
  rw [Rule.termNotes, String.ofList_append, String.ofList_toList, Text.ofList_enumeration]

theorem judgeText_of_banned (h : policy.bannedIn listing ≠ []) :
    Rule.judgeText policy listing.text = .verdict .rejected Rule.rejectedScore
      ("Blocked terms detected: " ++ ", ".intercalate (policy.bannedIn listing))
      [.bannedKeyword] := by
  obtain ⟨term, terms, ht⟩ := List.exists_cons_of_ne_nil h
  rw [Rule.judgeText, hits_bannedTerms, ht, ← termNotes_eq]

theorem judgeText_of_flagged (hb : policy.bannedIn listing = [])
    (h : policy.flaggedIn listing ≠ []) :
    Rule.judgeText policy listing.text = .verdict .flagged Rule.textReviewScore
      ("Sensitive terms present: " ++ ", ".intercalate (policy.flaggedIn listing))
      [.textRequiresReview] := by
  obtain ⟨term, terms, ht⟩ := List.exists_cons_of_ne_nil h
  rw [Rule.judgeText, hits_bannedTerms, hb, hits_flaggedTerms, ht, ← termNotes_eq]

theorem judgeText_of_clear (hb : policy.bannedIn listing = [])
    (hf : policy.flaggedIn listing = []) :
    Rule.judgeText policy listing.text =
      .verdict .approved Draft.approvedScore Draft.approvedNotes [] := by
  rw [Rule.judgeText, hits_bannedTerms, hb, hits_flaggedTerms, hf]

theorem step_imageMetadata (draft : Draft) :
    draft.step policy listing .imageMetadata =
      { draft with labels := draft.labels ++ listing.images.flatMap policy.labelsOf
          ++ [if listing.images = [] then .noImagesSubmitted else .imageryPresent] } := by
  simp only [Draft.step, Draft.apply, Rule.judge, imageLabels_eq, presenceLabel_eq,
    Option.getD_none, List.append_assoc]

theorem step_oversizePenalty (draft : Draft) :
    draft.step policy listing .oversizePenalty =
      { draft with score := Ground.lowered draft.score (draft.labels.count .imageTooLarge) } := by
  simp only [Draft.step, Draft.apply, Rule.judge, Ground.lowered]
  split_ifs <;> simp

theorem step_flaggedImage (draft : Draft) :
    draft.step policy listing .flaggedImage =
      if draft.status = .approved ∧ .imageFlagged ∈ draft.labels then
        ⟨.flagged, Rule.imageReviewScore, Rule.imageReviewNotes, draft.labels⟩
      else draft := by
  simp only [Draft.step, Draft.apply, Rule.judge, Bool.and_eq_true, decide_eq_true_eq,
    List.contains_iff_mem]
  split_ifs <;> simp [Override.verdict]

/-! ### The labels of the images -/

theorem count_imageTooLarge (images : List Image) :
    (images.flatMap policy.labelsOf).count .imageTooLarge =
      images.countP fun image => policy.Exceeds image := by
  induction images with
  | nil => rfl
  | cons image images ih =>
    have one : (policy.labelsOf image).count .imageTooLarge =
        if policy.Exceeds image then 1 else 0 := by
      unfold labelsOf
      split_ifs <;> rfl
    rw [List.flatMap_cons, List.count_append, ih, one, List.countP_cons, Nat.add_comm]
    simp only [decide_eq_true_eq]

theorem imageFlagged_mem (images : List Image) :
    .imageFlagged ∈ images.flatMap policy.labelsOf ↔ ∃ image ∈ images, policy.Flags image := by
  have one : ∀ image, .imageFlagged ∈ policy.labelsOf image ↔ policy.Flags image := by
    intro image
    unfold labelsOf
    split_ifs <;> simp_all
  simp only [List.mem_flatMap, one]

/-- The images that are too large can be counted in the labels behind any that a text may give. -/
theorem count_imageTooLarge_behind {text : List Label} (h : .imageTooLarge ∉ text) :
    List.count .imageTooLarge (text ++ listing.images.flatMap policy.labelsOf
      ++ [if listing.images = [] then .noImagesSubmitted else .imageryPresent]) =
        policy.tooLarge listing := by
  rw [List.count_append, List.count_append, count_imageTooLarge, List.count_eq_zero.mpr h, tooLarge,
    Nat.zero_add]
  split_ifs <;> rfl

/-- So can flagged images be found in them. -/
theorem imageFlagged_mem_behind {text : List Label} (h : .imageFlagged ∉ text) :
    .imageFlagged ∈ text ++ listing.images.flatMap policy.labelsOf
        ++ [if listing.images = [] then .noImagesSubmitted else .imageryPresent] ↔
      ∃ image ∈ listing.images, policy.Flags image := by
  rw [List.mem_append, List.mem_append, imageFlagged_mem]
  split_ifs <;> simp [h]

/-! ### All rules -/

/-- The draft that the rules about images leave, if the text has given none of their labels. -/
theorem run_imageRules (draft : Draft) (hflagged : .imageFlagged ∉ draft.labels)
    (hlarge : .imageTooLarge ∉ draft.labels) :
    draft.run policy listing [.imageMetadata, .oversizePenalty, .flaggedImage] =
      if draft.status = .approved ∧ ∃ image ∈ listing.images, policy.Flags image then
        ⟨.flagged, Rule.imageReviewScore, Rule.imageReviewNotes,
          draft.labels ++ listing.images.flatMap policy.labelsOf
            ++ [if listing.images = [] then .noImagesSubmitted else .imageryPresent]⟩
      else
        ⟨draft.status, Ground.lowered draft.score (policy.tooLarge listing), draft.notes,
          draft.labels ++ listing.images.flatMap policy.labelsOf
            ++ [if listing.images = [] then .noImagesSubmitted else .imageryPresent]⟩ := by
  have hcount := policy.count_imageTooLarge_behind listing hlarge
  have hmem := policy.imageFlagged_mem_behind listing hflagged
  rw [Draft.run, List.foldl_cons, step_imageMetadata, List.foldl_cons, step_oversizePenalty,
    List.foldl_cons, step_flaggedImage, List.foldl_nil]
  -- the labels are in place after the first of the three rules
  simp only [hcount, hmem]

theorem initial_apply_verdict (status : Status) (score : Binary64) (notes : String)
    (labels : List Label) :
    Draft.initial.apply (.verdict status score notes labels) = ⟨status, score, notes, labels⟩ :=
  rfl

/-- **The draft after all rules.** -/
theorem run_pipeline :
    Draft.initial.run policy listing Rule.pipeline =
      ⟨(policy.ground listing).status, (policy.ground listing).score (policy.tooLarge listing),
        policy.notes listing, policy.labels listing⟩ := by
  have hfirst : Draft.initial.run policy listing Rule.pipeline =
      (Draft.initial.apply (Rule.judgeText policy listing.text)).run policy listing
        [.imageMetadata, .oversizePenalty, .flaggedImage] := rfl
  rw [hfirst]
  by_cases hb : policy.bannedIn listing = []
  · by_cases hf : policy.flaggedIn listing = []
    · rw [judgeText_of_clear policy listing hb hf, initial_apply_verdict,
        run_imageRules _ _ _ (by simp) (by simp)]
      -- only a listing whose text is clear can be judged by its images
      by_cases hi : ∃ image ∈ listing.images, policy.Flags image
      · have hg : policy.ground listing = .flaggedImage := by simp [ground, hb, hf, hi]
        rw [if_pos ⟨rfl, hi⟩, notes, labels, hg]
        rfl
      · have hg : policy.ground listing = .nothing := by simp [ground, hb, hf, hi]
        rw [if_neg fun h => hi h.2, notes, labels, hg]
        rfl
    · have hg : policy.ground listing = .flaggedText := by simp [ground, hb, hf]
      rw [judgeText_of_flagged policy listing hb hf, initial_apply_verdict,
        run_imageRules _ _ _ (by simp) (by simp), if_neg (by simp), notes, labels, hg]
      rfl
  · have hg : policy.ground listing = .bannedText := by simp [ground, hb]
    rw [judgeText_of_banned policy listing hb, initial_apply_verdict,
      run_imageRules _ _ _ (by simp) (by simp), if_neg (by simp), notes, labels, hg]
    rfl

/-- **The decision on a listing** but for its score: the ground that its text and images give
settles the status, the notes and the label of the text. -/
theorem review_verdict :
    (policy.review listing).listingId = listing.listingId ∧
      (policy.review listing).status = (policy.ground listing).status ∧
      (policy.review listing).notes = policy.notes listing ∧
      (policy.review listing).labels = policy.labels listing := by
  rw [review, run_pipeline]
  exact ⟨rfl, rfl, rfl, rfl⟩

end Policy

end ListingReview
