import ListingReview.Proofs.Json.Range
import ListingReview.Proofs.Submission.Amount
import ListingReview.Proofs.Submission.Strict

/-! # Submissions: what becomes of a numeral

A numeral of any length is put into a text that is otherwise valid, as an amount or as the price of
a variant. It is carried as exactly what it stands for, or refused: none is changed on the way
(`numerals_carried`).

The violations tell how a numeral is written rather than what it stands for: a whole number that is
written with an exponent is reported as none. What they say of numbers below zero is true, and so is
what is accepted (`number_violations_true`). -/

namespace ListingReview

open Json
open Text (Octets octets)

namespace Submission

variable {decode : Octets → Except Fault Submission} {frame : Octets → Octets} {listing : Listing}
  {numeral : Numeral} {literal : Octets}

/-! ### Numerals as they are written -/

/-- **No numeral is changed.** For an amount, a plain numeral of 64 bits is carried as what it
stands for, and is reported with it if it is below zero. Any other one is reported as no whole
number, or is malformed if it is out of range. As the price of a variant, a plain numeral of 64 bits
with a sign is carried, and any other one is refused. A numeral is in range up to four units in the
last place below `2 ^ 1024`, and out of range from as many above, unless its exponent is beyond the
largest one that is looked at. -/
theorem numerals_carried (hliteral : IsNumeral numeral literal) :
    (∀ {amount : Amount}, OtherwiseValid amount.Around decode frame listing →
      (numeral.IsBetween 0 (2 ^ 64) → ∃ n : UInt64, (n.toNat : Int) = numeral.integer ∧
        guard decode (frame literal) = .ok (.ok (amount.put (some n) listing)) ∧
          amount.held (amount.put (some n) listing) = some n) ∧
      (numeral.IsBetween (-2 ^ 63) 0 → ∃ n : Int64, n.toInt = numeral.integer ∧
        guard decode (frame literal) = .ok (.error (.negative amount.place.field n))) ∧
      (¬ numeral.IsBetween (-2 ^ 63) (2 ^ 64) →
        (∀ x, numeral.float? = some x → guard decode (frame literal) =
          .ok (.error (.notWhole amount.place.field (String.ofList (writeFloat x))))) ∧
        (numeral.float? = none → ∃ fault, guard decode (frame literal) = .error fault ∧
          fault.cause = .numberOutOfRange ∧ fault.cause.category = .malformed))) ∧
    (∀ {index : Nat}, OtherwiseValid (AroundVariantPrice index) decode frame listing →
      (numeral.IsBetween (-2 ^ 63) (2 ^ 63) → ∃ n : Int64, n.toInt = numeral.integer ∧
        guard decode (frame literal) = .ok (.ok (listing.putVariantPrice index (some n))) ∧
          (listing.putVariantPrice index (some n)).variantPrice index = some n) ∧
      (¬ numeral.IsBetween (-2 ^ 63) (2 ^ 63) →
        ∃ fault, guard decode (frame literal) = .error fault)) ∧
    (numeral.IsModest →
      (numeral.magnitude ≤ 2 ^ 1024 - 2 ^ 973 → ∃ x, numeral.float? = some x) ∧
      (2 ^ 1024 + 2 ^ 973 ≤ numeral.magnitude → numeral.float? = none)) ∧
    (maxExponent < numeral.exponent.getD 0 → (numeral.float? = none ↔ numeral.magnitude ≠ 0)) ∧
    (numeral.exponent.getD 0 < -maxExponent → ∃ x, numeral.float? = some x) := by
  have hdigits := Numeral.hasDigits hliteral
  obtain ⟨hlarge, hsmall⟩ := Numeral.float?_of_exponent hdigits
  refine ⟨fun {amount} hvalid => ⟨fun hfits => ?_, fun hneg => ?_, fun hother => ⟨?_, ?_⟩⟩,
    fun {index} hvalid => ⟨fun hfits => ?_, guard_notSigned hvalid hliteral⟩,
    fun hmodest => ⟨Numeral.float?_of_le hdigits hmodest, Numeral.float?_of_ge hdigits hmodest⟩,
    hlarge, hsmall⟩
  · obtain ⟨n, hn, hnumber⟩ := hfits.unsigned
    exact ⟨n, hn, Amount.guard_numeral hvalid hliteral hnumber, Amount.held_put_of_valid hvalid _⟩
  · obtain ⟨n, hn, hnumber⟩ := hneg.negative
    exact ⟨n, hn, Amount.guard_numeral hvalid hliteral hnumber⟩
  · intro x hx
    have hnumber : numeral.number? = some (.float x) := by
      rw [Numeral.number?_float hother, hx, Option.map_some]
    exact Amount.guard_numeral hvalid hliteral hnumber
  · intro hx
    have hnumber : numeral.number? = none := by
      rw [Numeral.number?_float hother, hx, Option.map_none]
    obtain ⟨fault, hfault, hcause⟩ := Amount.guard_outOfRange hvalid hliteral hnumber
    exact ⟨fault, hfault, hcause, hcause ▸ rfl⟩
  · have hn : numeral.integer = (Int64.ofInt numeral.integer).toInt :=
      (Int64.toInt_ofInt_of_le hfits.low_le hfits.lt_high).symm
    exact ⟨_, hn.symm, guard_signed hvalid hliteral hfits hn⟩

/-! ### A stool -/

theorem isNumeral_of_read {numeral : Numeral} {text : Octets}
    (h : readNumeral .endInValue text = .ok (numeral, [])) : IsNumeral numeral text := by
  obtain ⟨text', hnumeral, rfl⟩ := readNumeral_sound h
  rwa [List.append_nil]

/-- Members, and the key of one more. -/
def keyFront (members : List (String × Octets)) (key : String) : Octets :=
  octet '\x7b' :: (tightBegun ((plainEntries members).map Entry.text) ++ octet '"' ::
    (octets key ++ octet '"' :: ([] ++ octet ':' :: [])))

theorem around_keyFront {σ : Type} {layout : Layout σ} {field : Json.Field σ}
    {members : List (String × Octets)} {key : String}
    (hmembers : ∀ member ∈ members,
      Spells (octets member.1) (octets member.1) ∧ WellFormed member.2)
    (hname : field.Names (octets key)) :
    layout.Around field (keyFront members key) [octet '\x7d'] := by
  refine .entry (begun_tight _) (List.forall_mem_map.mpr fun member hmember => ?_) hname .nil .nil
    (.close .nil) (List.forall_mem_nil _)
  exact ⟨(hmembers member hmember).1.loose, (hmembers member hmember).2⟩

def stoolMembers : List (String × Octets) :=
  [("listingId", quoted (octets "l")), ("sellerId", quoted (octets "s")),
   ("reason", quoted (octets "r")), ("title", quoted (octets "t"))]

def stoolImage : List (String × Octets) :=
  [("id", quoted (octets "i")), ("url", quoted (octets "u"))]

def stoolVariant : List (String × Octets) := [("label", quoted (octets "v"))]

/-- A stool, by its price. -/
def stoolPrice (value : Octets) : Octets :=
  keyFront stoolMembers "price_cents" ++ (value ++ [octet '\x7d'])

/-- A stool, by the size of its second image. -/
def stoolSize (value : Octets) : Octets :=
  (keyFront stoolMembers "images" ++ ((octet '[' :: tightBegun [plainObject stoolImage]) ++
    keyFront stoolImage "fileSize")) ++ (value ++ [octet '\x7d', octet ']', octet '\x7d'])

/-- A stool, by the price of its variant. -/
def stoolVariantPrice (value : Octets) : Octets :=
  (keyFront stoolMembers "variants" ++ ([octet '['] ++ keyFront stoolVariant "priceCents")) ++
    (value ++ [octet '\x7d', octet ']', octet '\x7d'])

def stool : Listing where
  listingId := "l"
  sellerId := "s"
  reason := "r"
  title := "t"
  description := none
  priceCents := none
  currency := none
  desiredStatus := none
  images := []
  variants := []

def seenStool : Listing :=
  { stool with images := [⟨"i", "u", none, none⟩, ⟨"i", "u", none, none⟩] }

def paintedStool : Listing := { stool with variants := [⟨none, "v", none, none, none⟩] }

theorem stool_spelled :
    (∀ member ∈ stoolMembers, Spells (octets member.1) (octets member.1) ∧ WellFormed member.2) ∧
    (∀ member ∈ stoolImage, Spells (octets member.1) (octets member.1) ∧ WellFormed member.2) ∧
    (∀ member ∈ stoolVariant, Spells (octets member.1) (octets member.1) ∧ WellFormed member.2) ∧
    ∀ key ∈ ["price_cents", "images", "fileSize", "variants", "priceCents"],
      Spells (octets key) (octets key) := by
  decide +kernel

theorem stool_accepted :
    guard layout.shape.reader.whole (stoolPrice (octet 'n' :: nullTail)) = .ok (.ok stool) ∧
    guard layout.shape.reader.front (stoolSize (octet 'n' :: nullTail)) = .ok (.ok seenStool) ∧
    guard layout.shape.reader.whole (stoolVariantPrice (octet 'n' :: nullTail)) =
      .ok (.ok paintedStool) := by
  decide +kernel

theorem framed_tight {around : Octets → Octets → Prop} {front behind : Octets}
    (h : around front behind) : Frame around fun value => front ++ (value ++ behind) :=
  ⟨[], front, behind, [], .nil, h, fun _ => by rw [List.append_nil, List.nil_append]⟩

theorem stoolPrice_valid :
    OtherwiseValid Amount.price.Around layout.shape.reader.whole stoolPrice stool := by
  obtain ⟨hmembers, -, -, hkeys⟩ := stool_spelled
  have hprice : layout.Around priceField (keyFront stoolMembers "price_cents") [octet '\x7d'] :=
    around_keyFront hmembers ⟨"price_cents", by decide, hkeys _ (by decide)⟩
  exact ⟨.whole, framed_tight (.price hprice), _, .null, stool_accepted.1⟩

theorem stoolSize_valid :
    OtherwiseValid (Amount.size 1).Around layout.shape.reader.front stoolSize seenStool := by
  obtain ⟨hmembers, himage, -, hkeys⟩ := stool_spelled
  have himages : layout.Around imagesField (keyFront stoolMembers "images") [octet '\x7d'] :=
    around_keyFront hmembers ⟨"images", by decide, hkeys _ (by decide)⟩
  have hitem : AroundItem 1 (octet '[' :: tightBegun [plainObject stoolImage]) [octet ']'] :=
    .item (begun_tight _) (List.forall_mem_singleton.mpr (plainObject_hasEntries himage).wellFormed)
      rfl (.close .nil) (List.forall_mem_nil _)
  have hsize : ImageSubmission.layout.Around sizeField (keyFront stoolImage "fileSize")
      [octet '\x7d'] :=
    around_keyFront himage ⟨"fileSize", by decide, hkeys _ (by decide)⟩
  exact ⟨.front, framed_tight (.size (.within himages hitem hsize)), _, .null, stool_accepted.2.1⟩

theorem stoolVariantPrice_valid : OtherwiseValid (AroundVariantPrice 0) layout.shape.reader.whole
    stoolVariantPrice paintedStool := by
  obtain ⟨hmembers, -, hvariant, hkeys⟩ := stool_spelled
  have hvariants : layout.Around variantsField (keyFront stoolMembers "variants") [octet '\x7d'] :=
    around_keyFront hmembers ⟨"variants", by decide, hkeys _ (by decide)⟩
  have hitem : AroundItem 0 [octet '['] [octet ']'] :=
    .item (.nil .nil) (List.forall_mem_nil _) rfl (.close .nil) (List.forall_mem_nil _)
  have hprice : VariantSubmission.layout.Around variantPriceField
      (keyFront stoolVariant "priceCents") [octet '\x7d'] :=
    around_keyFront hvariant ⟨"priceCents", by decide, hkeys _ (by decide)⟩
  exact ⟨.whole, framed_tight (.within hvariants hitem hprice), _, .null, stool_accepted.2.2⟩

def numeralMax : Numeral :=
  ⟨false, [1, 8, 4, 4, 6, 7, 4, 4, 0, 7, 3, 7, 0, 9, 5, 5, 1, 6, 1, 5], [], none⟩

def hundred : Numeral := ⟨false, [1], [], some 2⟩

/-- Just below the largest float. -/
def almostLargest : Numeral :=
  ⟨false, [1], [7, 9, 7, 6, 9, 3, 1, 3, 4, 8, 6, 2, 3, 1, 5, 7, 0, 8], some 308⟩

theorem numerals_spelled :
    readNumeral .endInValue (octets "18446744073709551615") = .ok (numeralMax, []) ∧
    readNumeral .endInValue (octets "1e2") = .ok (hundred, []) ∧
    readNumeral .endInValue (octets "1.797693134862315708e308") = .ok (almostLargest, []) := by
  decide +kernel

/-- The largest number that is carried, one with an exponent, and one next to the largest float. -/
theorem numerals_carried_for_stools :
    (∃ n : UInt64, (n.toNat : Int) = numeralMax.integer ∧
      guard layout.shape.reader.whole (stoolPrice (octets "18446744073709551615")) =
        .ok (.ok (Amount.price.put (some n) stool)) ∧
      Amount.price.held (Amount.price.put (some n) stool) = some n) ∧
    guard layout.shape.reader.front (stoolSize (octets "1e2")) = .ok (.error
      (.notWhole "images[1].fileSizeBytes" "100.0")) ∧
    ∃ fault, guard layout.shape.reader.whole (stoolVariantPrice (octets "1e2")) = .error fault := by
  have hmax := isNumeral_of_read numerals_spelled.1
  have hhundred := isNumeral_of_read numerals_spelled.2.1
  have hplain (h : hundred.IsPlain) : False := absurd h.exponent (by decide)
  have hheld : numeralMax.IsBetween 0 (2 ^ 64) :=
    ⟨⟨rfl, rfl, by decide⟩, by decide +kernel, by decide +kernel⟩
  have hfloat : ∃ x, hundred.float? = some x ∧ String.ofList (writeFloat x) = "100.0" :=
    ⟨Binary64.mul (Binary64.ofNat 1) (Binary64.ofNat 100), by decide +kernel⟩
  obtain ⟨x, hx, hshown⟩ := hfloat
  have hsize := ((numerals_carried hhundred).1 stoolSize_valid).2.2
    (fun h => hplain h.plain) |>.1 x hx
  refine ⟨((numerals_carried hmax).1 stoolPrice_valid).1 hheld, ?_,
    ((numerals_carried hhundred).2.1 stoolVariantPrice_valid).2 fun h => hplain h.plain⟩
  rwa [hshown] at hsize

/-- A numeral that is no further from zero than the largest float, and yet out of range. -/
theorem numeral_out_of_range_early :
    OtherwiseValid Amount.price.Around layout.shape.reader.whole stoolPrice stool ∧
      IsNumeral almostLargest (octets "1.797693134862315708e308") ∧
      ¬ almostLargest.IsBetween (-2 ^ 63) (2 ^ 64) ∧
      almostLargest.magnitude ≤ ((2 ^ 53 - 1) * 2 ^ 971 : Nat) ∧
      ∃ fault, guard layout.shape.reader.whole
          (stoolPrice (octets "1.797693134862315708e308")) = .error fault ∧
        fault.cause = .numberOutOfRange := by
  have hliteral := isNumeral_of_read numerals_spelled.2.2
  refine ⟨stoolPrice_valid, hliteral, fun h => absurd h.plain.exponent (by decide), ?_,
    Amount.guard_outOfRange stoolPrice_valid hliteral (by decide +kernel)⟩
  obtain ⟨hvalue, hexponent, hle⟩ : digitsValue (almostLargest.whole ++ almostLargest.fraction) =
      1797693134862315708 ∧
      almostLargest.exponent.getD 0 - almostLargest.fraction.length = (290 : Nat) ∧
      1797693134862315708 * 10 ^ 290 ≤ (2 ^ 53 - 1) * 2 ^ 971 := by
    decide +kernel
  rw [Numeral.magnitude, hvalue, hexponent, zpow_natCast]
  exact_mod_cast hle

/-! ### Numerals by their values -/

/-- What a result says of the numeral that comes to it. -/
inductive Outcome (numeral : Numeral) (amount : Amount) (listing : Listing) :
    Except Violation Listing → Prop where
  | accepted {n : UInt64} (hplain : numeral.IsPlain) (hn : numeral.value = n.toNat) :
    Outcome numeral amount listing (.ok (amount.put (some n) listing))
  | negative {n : Int64} (hplain : numeral.IsPlain) (hn : numeral.value = n.toInt)
    (hneg : numeral.value < 0) :
    Outcome numeral amount listing (.error (.negative amount.place.field n))
  | notWhole {shown : String} (hother : ¬ numeral.IsBetween (-2 ^ 63) (2 ^ 64)) :
    Outcome numeral amount listing (.error (.notWhole amount.place.field shown))

theorem outcome_of_guard {amount : Amount}
    (hvalid : OtherwiseValid amount.Around decode frame listing)
    (hliteral : IsNumeral numeral literal) {result : Except Violation Listing}
    (hresult : guard decode (frame literal) = .ok result) :
    Outcome numeral amount listing result := by
  cases hnumber : numeral.number? with
  | none =>
    obtain ⟨fault, hfault, -⟩ := Amount.guard_outOfRange hvalid hliteral hnumber
    rw [hresult] at hfault
    cases hfault
  | some number =>
    rw [Amount.guard_numeral hvalid hliteral hnumber] at hresult
    obtain rfl := Except.ok.inj hresult
    cases number with
    | unsigned n =>
      obtain ⟨hplain, hn⟩ := Numeral.of_unsigned hnumber
      exact .accepted hplain (by rw [hplain.value_eq, hn, Int.cast_natCast])
    | negative n =>
      obtain ⟨hplain, hn, hneg⟩ := Numeral.of_negative hnumber
      have hvalue := hplain.value_eq
      exact .negative hplain (by rw [hvalue, hn]) (by rw [hvalue]; exact_mod_cast hneg)
    | float x => exact .notWhole (Numeral.of_float hnumber)

/-- **What is said of numbers.** A number that is accepted is the one that was sent, and so is one
that is reported to be below zero, which it is. Plain numerals of 64 bits are accepted, or reported
as below zero, as they should be; they are never reported as no whole numbers, and what is no whole
number is. Nothing but the amount is ever reported. -/
theorem number_violations_true {amount : Amount}
    (hvalid : OtherwiseValid amount.Around decode frame listing)
    (hliteral : IsNumeral numeral literal) :
    (∀ found, guard decode (frame literal) = .ok (.ok found) → ∃ n : UInt64,
      (n.toNat : ℚ) = numeral.value ∧ found = amount.put (some n) listing ∧
        amount.held found = some n) ∧
    (numeral.IsPlain → 0 ≤ numeral.value → numeral.value < 2 ^ 64 →
      ∃ found, guard decode (frame literal) = .ok (.ok found)) ∧
    (∀ field n, guard decode (frame literal) = .ok (.error (.negative field n)) →
      (n.toInt : ℚ) = numeral.value ∧ numeral.value < 0) ∧
    (numeral.IsPlain → -2 ^ 63 ≤ numeral.value → numeral.value < 0 →
      ∃ n, guard decode (frame literal) = .ok (.error (.negative amount.place.field n))) ∧
    (∀ field shown, guard decode (frame literal) = .ok (.error (.notWhole field shown)) →
      ¬ (numeral.IsPlain ∧ -2 ^ 63 ≤ numeral.value ∧ numeral.value < 2 ^ 64)) ∧
    ((∀ k : Int, numeral.value ≠ k) → ∀ result, guard decode (frame literal) = .ok result →
      ∃ shown, result = .error (.notWhole amount.place.field shown)) ∧
    ∀ violation, guard decode (frame literal) = .ok (.error violation) →
      violation.field = amount.place.field := by
  refine ⟨fun found hfound => ?_, fun hplain hle hlt => ?_, fun field n hnegative => ?_,
    fun hplain hle hlt => ?_, fun field shown hshown => ?_, fun hnone result hresult => ?_,
    fun violation hviolation => ?_⟩
  · cases outcome_of_guard hvalid hliteral hfound with
    | accepted hplain hn => exact ⟨_, hn.symm, rfl, Amount.held_put_of_valid hvalid _⟩
  · have hfits : numeral.IsBetween 0 (2 ^ 64) :=
      hplain.isBetween_iff.mpr ⟨by exact_mod_cast hle, by exact_mod_cast hlt⟩
    obtain ⟨n, -, hnumber⟩ := hfits.unsigned
    exact ⟨_, Amount.guard_numeral hvalid hliteral hnumber⟩
  · cases outcome_of_guard hvalid hliteral hnegative with
    | negative hplain hn hneg => exact ⟨hn.symm, hneg⟩
  · have hfits : numeral.IsBetween (-2 ^ 63) 0 :=
      hplain.isBetween_iff.mpr ⟨by exact_mod_cast hle, by exact_mod_cast hlt⟩
    obtain ⟨n, -, hnumber⟩ := hfits.negative
    exact ⟨n, Amount.guard_numeral hvalid hliteral hnumber⟩
  · cases outcome_of_guard hvalid hliteral hshown with
    | notWhole hother =>
      rintro ⟨hplain, hle, hlt⟩
      exact hother (hplain.isBetween_iff.mpr ⟨by exact_mod_cast hle, by exact_mod_cast hlt⟩)
  · cases outcome_of_guard hvalid hliteral hresult with
    | accepted _ hn => exact absurd (hn.trans (Int.cast_natCast _).symm) (hnone _)
    | negative _ hn => exact absurd hn (hnone _)
    | notWhole => exact ⟨_, rfl⟩
  · cases outcome_of_guard hvalid hliteral hviolation with
    | negative => rfl
    | notWhole => rfl

/-- A price that is read and is accepted. -/
theorem number_violations_true_for_stool :
    (∃ found, guard layout.shape.reader.whole (stoolPrice (octets "18446744073709551615")) =
      .ok (.ok found)) ∧
    ∀ field shown, guard layout.shape.reader.front (stoolSize (octets "1e2")) =
      .ok (.error (.notWhole field shown)) → field = "images[1].fileSizeBytes" := by
  have hmax := isNumeral_of_read numerals_spelled.1
  have hhundred := isNumeral_of_read numerals_spelled.2.1
  have hplain : numeralMax.IsPlain := ⟨rfl, rfl, by decide⟩
  have hfits : numeralMax.IsBetween 0 (2 ^ 64) := ⟨hplain, by decide +kernel, by decide +kernel⟩
  obtain ⟨hle, hlt⟩ := hplain.isBetween_iff.mp hfits
  refine ⟨(number_violations_true stoolPrice_valid hmax).2.1 hplain (by exact_mod_cast hle)
    (by exact_mod_cast hlt), fun field shown hshown => ?_⟩
  exact (number_violations_true stoolSize_valid hhundred).2.2.2.2.2.2 _ hshown

def belowZero : Numeral := ⟨true, [1], [5], none⟩

/-- A hundred is reported as no whole number, and a number below zero as no whole number only. -/
theorem hundred_not_accepted :
    OtherwiseValid Amount.price.Around layout.shape.reader.whole stoolPrice stool ∧
      (IsNumeral hundred (octets "1e2") ∧ hundred.value = 100 ∧
        guard layout.shape.reader.whole (stoolPrice (octets "1e2")) =
          .ok (.error (.notWhole "priceCents" "100.0"))) ∧
      IsNumeral belowZero (octets "-1.5") ∧ belowZero.value < 0 ∧
        guard layout.shape.reader.whole (stoolPrice (octets "-1.5")) =
          .ok (.error (.notWhole "priceCents" "-1.5")) := by
  have hread : readNumeral .endInValue (octets "-1.5") = .ok (belowZero, []) ∧
      guard layout.shape.reader.whole (stoolPrice (octets "1e2")) =
        .ok (.error (.notWhole "priceCents" "100.0")) ∧
      guard layout.shape.reader.whole (stoolPrice (octets "-1.5")) =
        .ok (.error (.notWhole "priceCents" "-1.5")) := by
    decide +kernel
  refine ⟨stoolPrice_valid, ⟨isNumeral_of_read numerals_spelled.2.1, ?_, hread.2.1⟩,
    isNumeral_of_read hread.1, ?_, hread.2.2⟩
  · simp [Numeral.value, Numeral.magnitude, hundred, digitsValue]
    norm_num
  · simp [Numeral.value, Numeral.magnitude, belowZero, digitsValue]

end Submission

end ListingReview
