import Mathlib.Algebra.Group.Int.Defs
import Mathlib.Data.List.Forall2
import ListingReview.Proofs.Policy.Terms
import ListingReview.Proofs.Text.Numeral
import ListingReview.Proofs.Text.Trim

/-! # Policy: settings

The policy that settings describe, whatever texts they hold, said without reading them. A list comes
of the line under its own name (`Listed`): what the line names, if it names anything. The limit
comes of the size in megabytes (`Limits`): of a whole number of 64 bits in octets, up to the ends of
such numbers, and of the standard size otherwise.

* `names_iff`: what a line names is what is made of its fields.
* `sizeLimit_of_integer`: the limit for a whole number of whatever length.
* `ofSettings_iff`: the lists and the limit of a policy. -/

namespace ListingReview.Policy

/-! ### Lists -/

/-- The terms that a line names: what stands between its commas, without the blanks around it and in
lower case, as far as anything is left. -/
def Names (line : String) (terms : List String) : Prop :=
  ∃ fields parts : List (List Char),
    line.toList = [','].intercalate fields ∧ fields ≠ [] ∧ (∀ field ∈ fields, ',' ∉ field) ∧
      List.Forall₂ Text.Trims fields parts ∧
        terms = ((parts.map Text.lower).filter (· ≠ [])).map String.ofList

/-- The list that comes of a setting: the terms of its line, or other ones if there is no line or it
names none. -/
inductive Listed (others : List String) (line : Option String) : List String → Prop where
  | named {text : String} {terms : List String} : line = some text → Names text terms →
    terms ≠ [] → Listed others line terms
  | others : (∀ text ∈ line, Names text []) → Listed others line others

theorem forall₂_trims_iff {fields parts : List (List Char)} :
    List.Forall₂ Text.Trims fields parts ↔ parts = fields.map Text.trim := by
  have hmap : List.Forall₂ Text.Trims fields parts ↔
      List.Forall₂ (· = ·) (fields.map Text.trim) parts := by
    have hsame : Text.Trims = fun field part => Text.trim field = part := by
      funext field part
      exact propext (Text.trims_iff.trans eq_comm)
    rw [List.forall₂_map_left_iff, hsame]
  rw [hmap, List.forall₂_eq_eq_eq, eq_comm]

theorem normalTerms_eq (fields : List (List Char)) :
    normalTerms fields =
      (((fields.map Text.trim).map Text.lower).filter (· ≠ [])).map String.ofList := by
  have hnormal : fields.map normalTerm = (fields.map Text.trim).map Text.lower := by
    rw [List.map_map]
    rfl
  rw [normalTerms, hnormal]
  refine congrArg _ (List.filter_congr fun term _ => ?_)
  rw [Bool.eq_iff_iff, Bool.not_eq_true', List.isEmpty_eq_false_iff, decide_eq_true_iff]

theorem names_iff {line : String} {terms : List String} :
    Names line terms ↔ terms = normalTerms (Text.fields ',' line.toList) := by
  constructor
  · rintro ⟨fields, parts, hline, hne, hcomma, htrims, rfl⟩
    have hfields : Text.fields ',' line.toList = fields := by
      rw [Text.fields_eq_splitOn, hline, List.splitOn_intercalate ',' hcomma hne]
    rw [hfields, normalTerms_eq, forall₂_trims_iff.mp htrims]
  · rintro rfl
    refine ⟨_, _, ?_, ?_, fun _ => Text.not_mem_of_mem_fields, forall₂_trims_iff.mpr rfl,
      normalTerms_eq _⟩
    · rw [Text.fields_eq_splitOn, List.intercalate_splitOn]
    · rw [Text.fields_eq_splitOn]
      exact List.splitOn_ne_nil _ _

/-- The terms of a setting, if the other ones are in normal form. -/
theorem termsOr_eq_iff {others : List String}
    (hothers : normalTerms (others.map String.toList) = others) {line : Option String}
    {terms : List String} :
    termsOr others line = terms ↔ Listed others line terms := by
  constructor
  · rintro rfl
    rcases termsOr_cases others line with ⟨text, htext, hne, hterms⟩ | ⟨hnone, hterms⟩
    · rw [hterms]
      exact .named htext (names_iff.mpr rfl) hne
    · rw [hterms, hothers]
      exact .others fun text htext => names_iff.mpr (hnone text htext).symm
  · intro h
    cases h with
    | named hline hnames hne =>
      obtain rfl := names_iff.mp hnames
      rw [hline, termsOr_of_ne_nil others hne]
    | others hnone =>
      have hnil := fun text htext => (names_iff.mp (hnone text htext)).symm
      rw [termsOr_of_eq_nil others hnil, hothers]

/-! ### The limit -/

/-- A whole number in decimal digits with a sign or without, and blanks around it at most. -/
def IsInteger (text : String) (n : Int) : Prop :=
  ∃ part, Text.Trims text.toList part ∧ Text.IsSignedDecimal part n

/-- The limit that comes of a setting, in octets: a whole number of megabytes of 64 bits, up to the
ends of such numbers, or the standard one if there is no such number. -/
inductive Limits (size : Option String) : Int → Prop where
  | given {text : String} {n : Int} : size = some text → IsInteger text n → -2 ^ 63 ≤ n →
    n < 2 ^ 63 → Limits size (max (-2 ^ 63) (min (n * 2 ^ 20) (2 ^ 63 - 1)))
  | standard : (¬ ∃ text ∈ size, ∃ n, IsInteger text n ∧ -2 ^ 63 ≤ n ∧ n < 2 ^ 63) →
    Limits size (20 * 2 ^ 20)

theorem isInteger_iff {text : String} {n : Int} :
    IsInteger text n ↔ Text.ofSignedDecimal? (Text.trim text.toList) = some n := by
  rw [Text.ofSignedDecimal?_eq_some_iff]
  constructor
  · rintro ⟨part, htrims, hnumber⟩
    rwa [← Text.trims_iff.mp htrims]
  · exact fun hnumber => ⟨_, Text.trims_trim _, hnumber⟩

theorem IsInteger.unique {text : String} {m n : Int} (hm : IsInteger text m)
    (hn : IsInteger text n) : m = n :=
  Option.some.inj ((isInteger_iff.mp hm).symm.trans (isInteger_iff.mp hn))

theorem megabytes?_eq_some_iff {text : String} {n : Int} :
    megabytes? text = some n ↔ IsInteger text n ∧ -2 ^ 63 ≤ n ∧ n < 2 ^ 63 := by
  rw [megabytes?, Option.filter_eq_some_iff, ← isInteger_iff]
  refine and_congr_right fun _ => ?_
  rw [Bool.and_eq_true, decide_eq_true_iff, decide_eq_true_iff, minSize, maxSize]
  omega

/-- **Saturation is exact up to the ends of the range.** -/
theorem toInt_saturated (n : Int) :
    (saturated n).toInt = max (-2 ^ 63) (min n (2 ^ 63 - 1)) := by
  unfold saturated minSize maxSize
  split_ifs with hlow hhigh
  · rw [Int64.toInt_ofInt_of_le (by decide) (by decide)]
    omega
  · rw [Int64.toInt_ofInt_of_le (by decide) (by decide)]
    omega
  · rw [Int64.toInt_ofInt_of_le (by omega) (by omega)]
    omega

variable {settings : Settings}

theorem sizeLimit_of_megabytes {text : String} {n : Int} (hsize : settings megabytesKey = some text)
    (h : megabytes? text = some n) :
    (ofSettings settings).sizeLimit.toInt = max (-2 ^ 63) (min (n * 2 ^ 20) (2 ^ 63 - 1)) := by
  rw [ofSettings, hsize, Option.bind_some, h, Option.getD_some, toInt_saturated, megabyte]
  rfl

theorem sizeLimit_of_none (h : (settings megabytesKey).bind megabytes? = none) :
    (ofSettings settings).sizeLimit.toInt = 20 * 2 ^ 20 := by
  rw [ofSettings, h, Option.getD_none, toInt_saturated]
  decide

/-- The limit for a whole number of megabytes, however many digits it has: one that does not fit
into 64 bits counts as none. -/
theorem sizeLimit_of_integer {text : String} {n : Int} (hsize : settings megabytesKey = some text)
    (h : IsInteger text n) :
    (ofSettings settings).sizeLimit.toInt =
      if -2 ^ 63 ≤ n ∧ n < 2 ^ 63 then max (-2 ^ 63) (min (n * 2 ^ 20) (2 ^ 63 - 1))
      else 20 * 2 ^ 20 := by
  split_ifs with hfits
  · exact sizeLimit_of_megabytes hsize (megabytes?_eq_some_iff.mpr ⟨h, hfits⟩)
  · refine sizeLimit_of_none ?_
    rw [hsize, Option.bind_some, Option.eq_none_iff_forall_ne_some]
    intro m hm
    obtain ⟨hinteger, hbounds⟩ := megabytes?_eq_some_iff.mp hm
    exact hfits (h.unique hinteger ▸ hbounds)

theorem limits_iff {limit : Int} :
    (ofSettings settings).sizeLimit.toInt = limit ↔ Limits (settings megabytesKey) limit := by
  constructor
  · rintro rfl
    cases hmegabytes : (settings megabytesKey).bind megabytes? with
    | none =>
      rw [sizeLimit_of_none hmegabytes]
      refine .standard ?_
      rintro ⟨text, htext, n, hn⟩
      rw [Option.mem_def.mp htext, Option.bind_some, megabytes?_eq_some_iff.mpr hn] at hmegabytes
      cases hmegabytes
    | some n =>
      obtain ⟨text, htext, hn⟩ := Option.bind_eq_some_iff.mp hmegabytes
      obtain ⟨hinteger, hlow, hhigh⟩ := megabytes?_eq_some_iff.mp hn
      rw [sizeLimit_of_megabytes htext hn]
      exact .given htext hinteger hlow hhigh
  · intro h
    cases h with
    | given htext hinteger hlow hhigh =>
      exact sizeLimit_of_megabytes htext (megabytes?_eq_some_iff.mpr ⟨hinteger, hlow, hhigh⟩)
    | standard hnone =>
      refine sizeLimit_of_none (Option.bind_eq_none_iff.mpr fun text htext => ?_)
      rw [Option.eq_none_iff_forall_ne_some]
      exact fun n hn => hnone ⟨text, htext, n, megabytes?_eq_some_iff.mp hn⟩

/-- **What settings describe.** Each list is what comes of the setting under its own name, and the
limit what comes of the size, exactly and for all settings. -/
theorem ofSettings_iff (settings : Settings) :
    (∀ (list : TermList) (terms : List String),
        list.of (ofSettings settings) = terms ↔
          Listed list.standard (settings list.key) terms) ∧
      ∀ limit : Int,
        (ofSettings settings).sizeLimit.toInt = limit ↔ Limits (settings megabytesKey) limit := by
  refine ⟨fun list terms => ?_, fun limit => limits_iff⟩
  rw [list.of_ofSettings]
  exact termsOr_eq_iff list.standard_facts.2.1

end ListingReview.Policy
