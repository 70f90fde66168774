import Mathlib.Data.List.Forall2
import ListingReview.Proofs.Json.Skip

/-! # JSON: readers, against the grammar

A form says which octets are written for a value; a value may be written in many ways, but what is
written has one value. A reader reads a form (`Reader.Reads`) if of the values that stand in a text
it takes those that are of the form, as what they are written for, and refuses all others; and if
whatever it takes is such a value. -/

namespace ListingReview.Json

open Text (Octets octets)

variable {α : Type}

/-! ### Forms -/

/-- A number as a numeral. -/
def IsNumber (number : Number) (text : Octets) : Prop :=
  ∃ numeral, IsNumeral numeral text ∧ numeral.number? = some number

/-- The whole number that a number is. -/
def Number.toInt? : Number → Option Int
  | unsigned n => some n.toNat
  | negative n => some n.toInt
  | float _ => none

/-- The float closest to a number. -/
def Number.toFloat : Number → Binary64
  | unsigned n => Binary64.ofNat n.toNat
  | negative n => Binary64.ofInt n.toInt
  | float x => x

/-- A whole number of 64 bits with a sign as a numeral. -/
def IsSigned (n : Int64) (text : Octets) : Prop :=
  ∃ number, IsNumber number text ∧ number.toInt? = some n.toInt

/-- A whole number of 64 bits without a sign as a numeral. -/
def IsUnsigned (n : UInt64) (text : Octets) : Prop := IsNumber (.unsigned n) text

/-- A number as a float, as a numeral. -/
def IsFloat (x : Binary64) (text : Octets) : Prop :=
  ∃ number, IsNumber number text ∧ number.toFloat = x

/-- The word null for none. -/
inductive OrNull (form : α → Octets → Prop) : Option α → Octets → Prop where
  | null : OrNull form none (octet 'n' :: nullTail)
  | value {value : α} {text : Octets} (h : form value text) : OrNull form (some value) text

/-- A list of values. -/
inductive ListOf (form : α → Octets → Prop) (values : List α) : Octets → Prop where
  | items {parts : List Octets} {text : Octets} (h : IsList parts text)
    (hitems : List.Forall₂ form values parts) : ListOf form values text

/-- Of the values in a text, the reader takes those of a form, and it takes nothing else. -/
structure Reader.Reads (reader : Reader α) (form : α → Octets → Prop) : Prop where
  skips : ∀ bytes, reader.read (skipBlanks bytes) = reader.read bytes
  wellFormed : ∀ {value text}, form value text → WellFormed text
  read_iff : ∀ {value text rest rest'}, WellFormed text → Ends rest →
    (reader.read (text ++ rest) = .ok (value, rest') ↔ form value text ∧ rest' = rest)
  sound : ∀ {bytes value rest}, reader.read bytes = .ok (value, rest) →
    Leading (form value) bytes rest

section Reads

variable {reader : Reader α} {form : α → Octets → Prop}

/-- The value behind the blanks. -/
theorem Reader.Reads.blanks_iff (h : reader.Reads form) {value : α}
    {blanks text rest rest' : Octets} (hblanks : Blanks blanks) (htext : WellFormed text)
    (hrest : Ends rest) : reader.read (blanks ++ (text ++ rest)) = .ok (value, rest') ↔
      form value text ∧ rest' = rest := by
  rw [← h.skips, htext.starts.skipBlanks_append hblanks]
  exact h.read_iff htext hrest

/-- Whether a text is written for a value can be found out by reading it. -/
theorem Reader.Reads.form_iff (h : reader.Reads form) {value : α} {text : Octets} :
    form value text ↔ WellFormed text ∧ reader.read text = .ok (value, []) := by
  constructor
  · intro htext
    have hwell := h.wellFormed htext
    exact ⟨hwell, by simpa using (h.read_iff hwell .nil).mpr ⟨htext, rfl⟩⟩
  · rintro ⟨hwell, hread⟩
    rw [← List.append_nil text] at hread
    exact ((h.read_iff hwell .nil).mp hread).1

theorem read_of_front {bytes : Octets} {value : α} (h : reader.front bytes = .ok value) :
    ∃ rest, reader.read bytes = .ok (value, rest) := by
  rw [Reader.front] at h
  cases hread : reader.read bytes with
  | error fault =>
    rw [hread] at h
    cases h
  | ok found =>
    rw [hread] at h
    cases h
    exact ⟨found.2, rfl⟩

theorem read_of_whole {bytes : Octets} {value : α} (h : reader.whole bytes = .ok value) :
    ∃ rest, reader.read bytes = .ok (value, rest) ∧ Blanks rest := by
  rw [Reader.whole] at h
  split at h
  · cases h
  · next rest hread =>
    split_ifs at h with hblank
    cases h
    exact ⟨rest, hread, blanks_of_skipBlanks (List.isEmpty_iff.mp hblank)⟩

/-- The value in front is read whatever stands behind it. -/
theorem Reader.front_of_read {bytes rest : Octets} {value : α}
    (h : reader.read bytes = .ok (value, rest)) : reader.front bytes = .ok value := by
  rw [Reader.front, h]
  rfl

theorem Reader.whole_of_read {bytes rest : Octets} {value : α}
    (h : reader.read bytes = .ok (value, rest)) (hrest : Blanks rest) :
    reader.whole bytes = .ok value := by
  rw [Reader.whole, h]
  simp only [skipBlanks_of_blanks hrest]
  rfl

/-- The value in front of a text. -/
theorem Reader.Reads.front_iff (h : reader.Reads form) {value : α} {before text rest : Octets}
    (hbefore : Blanks before) (htext : WellFormed text) (hrest : Ends rest) :
    reader.front (before ++ (text ++ rest)) = .ok value ↔ form value text := by
  constructor
  · intro hfront
    obtain ⟨rest', hread⟩ := read_of_front hfront
    exact ((h.blanks_iff hbefore htext hrest).mp hread).1
  · exact fun hvalue => Reader.front_of_read ((h.blanks_iff hbefore htext hrest).mpr ⟨hvalue, rfl⟩)

/-- The only value of a text. -/
theorem Reader.Reads.whole_iff (h : reader.Reads form) {value : α} {before text after : Octets}
    (hbefore : Blanks before) (htext : WellFormed text) (hafter : Blanks after) :
    reader.whole (before ++ (text ++ after)) = .ok value ↔ form value text := by
  constructor
  · intro hwhole
    obtain ⟨rest', hread, -⟩ := read_of_whole hwhole
    exact ((h.blanks_iff hbefore htext (.blanks hafter)).mp hread).1
  · intro hvalue
    exact Reader.whole_of_read
      ((h.blanks_iff hbefore htext (.blanks hafter)).mpr ⟨hvalue, rfl⟩) hafter

end Reads

/-! ### Forms and the word null -/

theorem IsText.ne_null {text : String} : ¬ IsText text (octet 'n' :: nullTail) := fun h => by
  generalize hnull : octet 'n' :: nullTail = all at h
  obtain ⟨-⟩ := h
  exact absurd (List.cons.inj hnull).1 (by decide)

theorem IsNumber.ne_null {number : Number} : ¬ IsNumber number (octet 'n' :: nullTail) := by
  rintro ⟨numeral, h, -⟩
  obtain ⟨b, text, hnull, hb⟩ := h.startsNumber
  rw [← (List.cons.inj hnull).1] at hb
  exact absurd hb (by decide)

theorem IsSigned.ne_null {n : Int64} : ¬ IsSigned n (octet 'n' :: nullTail) := fun ⟨_, h, _⟩ =>
  h.ne_null

theorem IsUnsigned.ne_null {n : UInt64} : ¬ IsUnsigned n (octet 'n' :: nullTail) :=
  IsNumber.ne_null

theorem ListOf.ne_null {form : α → Octets → Prop} {values : List α} :
    ¬ ListOf form values (octet 'n' :: nullTail) := by
  rintro ⟨hlist, -⟩
  obtain ⟨_, hnull⟩ := hlist.cons
  exact absurd (List.cons.inj hnull).1 (by decide)

/-! ### Texts -/

theorem text_read {bytes rest rest' : Octets} {text : String}
    (h : skipBlanks bytes = octet '"' :: rest) :
    Reader.text.read bytes = .ok (text, rest') ↔ readText rest = .ok (text, rest') := by
  simp only [Reader.text, h, if_true]
  rcases readText rest with _ | _ <;> simp [Except.mapError]

theorem text_reads : Reader.text.Reads IsText where
  skips bytes := by simp only [Reader.text, skipBlanks_skipBlanks]
  wellFormed := by
    rintro _ _ ⟨h⟩
    exact .text h.loose
  read_iff {value text rest rest'} hwell _ := by
    constructor
    · intro h
      obtain ⟨b, text', rfl, hb⟩ := hwell.starts
      have hskip : skipBlanks (b :: text' ++ rest) = b :: (text' ++ rest) :=
        hwell.starts.skipBlanks rest
      by_cases hquote : b = octet '"'
      · subst hquote
        obtain ⟨spelling, hloose, rfl⟩ := hwell.of_quote
        obtain ⟨spelling', hspells, heq⟩ := readText_iff.mp ((text_read hskip).mp h)
        rw [List.append_assoc] at heq
        obtain ⟨rfl, rfl⟩ := Loose.unique hloose hspells.loose heq
        exact ⟨.quoted hspells, rfl⟩
      · simp only [Reader.text, hskip, if_neg hquote] at h
        cases h
    · rintro ⟨⟨hspells⟩, rfl⟩
      refine (text_read (hwell.starts.skipBlanks _)).mpr (readText_iff.mpr ⟨_, hspells, ?_⟩)
      exact List.append_assoc _ _ _
  sound {bytes text rest} h := by
    rcases hbytes : skipBlanks bytes with _ | ⟨b, inside⟩
    · simp only [Reader.text, hbytes] at h
      cases h
    · by_cases hquote : b = octet '"'
      · subst hquote
        obtain ⟨spelling, hspells, rfl⟩ := readText_iff.mp ((text_read hbytes).mp h)
        refine leading (.quoted hspells) (hbytes.trans ?_)
        simp
      · simp only [Reader.text, hbytes, if_neg hquote] at h
        cases h

/-! ### Numbers -/

/-- A numeral and what it is read as, wherever it ends. -/
theorem readNumber_iff {numeral : Numeral} {number : Number} {text rest rest' : Octets}
    (h : IsNumeral numeral text) (hrest : Ends rest) :
    readNumber (text ++ rest) = .ok (number, rest') ↔ IsNumber number text ∧ rest' = rest := by
  constructor
  · intro hread
    simp only [readNumber, readNumeral_complete h hrest] at hread
    split at hread
    · next hnumber =>
      cases hread
      exact ⟨⟨numeral, h, hnumber⟩, rfl⟩
    · cases hread
  · rintro ⟨⟨numeral', h', hnumber⟩, rfl⟩
    simp only [readNumber, readNumeral_complete h' hrest, hnumber]

theorem readNumber_sound {number : Number} {bytes rest : Octets}
    (h : readNumber bytes = .ok (number, rest)) :
    ∃ text, IsNumber number text ∧ bytes = text ++ rest := by
  unfold readNumber at h
  split at h
  · cases h
  · next numeral _ hread =>
    split at h
    · next hnumber =>
      cases h
      obtain ⟨text, hnumeral, heq⟩ := readNumeral_sound hread
      exact ⟨text, ⟨numeral, hnumeral, hnumber⟩, heq⟩
    · cases h

theorem numeric_read_iff {wanted : Wanted} {accept : Number → Except Cause α} {value : α}
    {bytes rest : Octets} : (Reader.numeric wanted accept).read bytes = .ok (value, rest) ↔
      ∃ b inside number, skipBlanks bytes = b :: inside ∧ startsNumber b = true ∧
        readNumber (b :: inside) = .ok (number, rest) ∧ accept number = .ok value := by
  rcases hbytes : skipBlanks bytes with _ | ⟨b, inside⟩
  · simp [Reader.numeric, hbytes]
  · by_cases hstarts : startsNumber b = true
    · rcases hread : readNumber (b :: inside) with cause | ⟨number, rest'⟩
      · simp [Reader.numeric, hbytes, hstarts, hread]
      · rcases haccept : accept number with cause | value'
        · simp [Reader.numeric, hbytes, hstarts, hread, haccept]
        · simp [Reader.numeric, hbytes, hstarts, hread, haccept, and_comm]
    · simp [Reader.numeric, hbytes, hstarts]

theorem numeric_reads (wanted : Wanted) (accept : Number → Except Cause α) :
    (Reader.numeric wanted accept).Reads fun value text =>
      ∃ number, IsNumber number text ∧ accept number = .ok value where
  skips bytes := by simp only [Reader.numeric, skipBlanks_skipBlanks]
  wellFormed := by
    rintro _ _ ⟨_, ⟨numeral, h, -⟩, -⟩
    exact .numeral h
  read_iff {value text rest rest'} hwell hrest := by
    rw [numeric_read_iff, hwell.starts.skipBlanks]
    constructor
    · rintro ⟨b, inside, number, hbytes, hstarts, hread, haccept⟩
      obtain ⟨b', text, rfl, -⟩ := hwell.starts
      obtain ⟨rfl, rfl⟩ := List.cons.inj hbytes
      obtain ⟨numeral, hnumeral⟩ := hwell.of_startsNumber hstarts
      obtain ⟨hnumber, rfl⟩ := (readNumber_iff hnumeral hrest).mp hread
      exact ⟨⟨number, hnumber, haccept⟩, rfl⟩
    · rintro ⟨⟨number, hnumber, haccept⟩, rfl⟩
      obtain ⟨numeral, hnumeral, -⟩ := id hnumber
      obtain ⟨b, text, rfl, hstarts⟩ := hnumeral.startsNumber
      exact ⟨b, _, number, List.cons_append, hstarts,
        (readNumber_iff hnumeral hrest).mpr ⟨hnumber, rfl⟩, haccept⟩
  sound {bytes value rest} h := by
    obtain ⟨b, inside, number, hbytes, -, hread, haccept⟩ := numeric_read_iff.mp h
    obtain ⟨text, hnumber, heq⟩ := readNumber_sound hread
    exact leading ⟨number, hnumber, haccept⟩ (hbytes.trans heq)

theorem Reader.Reads.congr {reader : Reader α} {form form' : α → Octets → Prop}
    (h : reader.Reads form) (heq : ∀ value text, form value text ↔ form' value text) :
    reader.Reads form' where
  skips := h.skips
  wellFormed htext := h.wellFormed ((heq _ _).mpr htext)
  read_iff hwell hrest := (h.read_iff hwell hrest).trans (and_congr_left' (heq _ _))
  sound hread := (h.sound hread).imp fun text => (heq _ text).mp

theorem number_reads : Reader.number.Reads IsNumber :=
  (numeric_reads .number .ok).congr fun value _ =>
    ⟨fun ⟨_, h, hvalue⟩ => Except.ok.inj hvalue ▸ h, fun h => ⟨value, h, rfl⟩⟩

theorem signed_reads : Reader.signed.Reads IsSigned := by
  refine (numeric_reads .signed _).congr fun value text => exists_congr fun number =>
    and_congr_right fun _ => ?_
  rcases number with n | n | x
  · simp only [Number.toInt?, Option.some.injEq]
    split
    · next hn =>
      rw [Except.ok.injEq, ← Int64.toInt_inj, Int64.toInt_ofNat_of_lt hn]
    · next hn =>
      have := Int64.toInt_lt value
      simp only [reduceCtorEq, false_iff]
      omega
  · simp [Number.toInt?, Int64.toInt_inj]
  · simp [Number.toInt?]

theorem unsigned_reads : Reader.unsigned.Reads IsUnsigned := by
  refine (numeric_reads .unsigned _).congr fun value text => ?_
  constructor
  · rintro ⟨n | n | x, h, hvalue⟩
    · exact Except.ok.inj hvalue ▸ h
    · cases hvalue
    · cases hvalue
  · exact fun h => ⟨_, h, rfl⟩

theorem float_reads : Reader.float.Reads IsFloat :=
  (numeric_reads .float _).congr fun value text => exists_congr fun number =>
    and_congr_right fun _ => by rcases number with n | n | x <;> simp [Number.toFloat]

/-! ### Values that may be absent -/

theorem map_read_iff {β : Type} {f : α → β} {reader : Reader α} {bytes rest : Octets} {found : β} :
    (reader.map f).read bytes = .ok (found, rest) ↔
      ∃ value, reader.read bytes = .ok (value, rest) ∧ f value = found := by
  simp only [Reader.map]
  rcases reader.read bytes with _ | ⟨value, rest'⟩
  · simp
  · simp [and_comm]

/-- Null, or a value that starts with another letter. -/
theorem optional_read_iff {reader : Reader α} {found : Option α} {bytes rest : Octets} :
    reader.optional.read bytes = .ok (found, rest) ↔ ∃ b inside, skipBlanks bytes = b :: inside ∧
      ((b = octet 'n' ∧ inside = nullTail ++ rest ∧ found = none) ∨
        (b ≠ octet 'n' ∧ ∃ value, reader.read (b :: inside) = .ok (value, rest) ∧
          some value = found)) := by
  rcases hbytes : skipBlanks bytes with _ | ⟨b, inside⟩
  · simp [Reader.optional, hbytes]
  · by_cases hword : b = octet 'n'
    · subst hword
      rcases hread : readWord nullTail inside with cause | rest'
      · simp [Reader.optional, hbytes, ← readWord_iff, hread]
      · simp [Reader.optional, hbytes, ← readWord_iff, hread, and_comm, eq_comm]
    · simp [← map_read_iff, Reader.optional, hbytes, hword]

theorem optional_reads {reader : Reader α} {form : α → Octets → Prop} (h : reader.Reads form)
    (hnull : ∀ value, ¬ form value (octet 'n' :: nullTail)) :
    reader.optional.Reads (OrNull form) where
  skips bytes := by simp only [Reader.optional, skipBlanks_skipBlanks]
  wellFormed := by
    rintro _ _ (_ | ⟨hvalue⟩)
    · exact .null
    · exact h.wellFormed hvalue
  read_iff {value text rest rest'} hwell hrest := by
    rw [optional_read_iff, hwell.starts.skipBlanks]
    constructor
    · rintro ⟨b, inside, hbytes, hfound⟩
      obtain ⟨b', text, rfl, -⟩ := hwell.starts
      obtain ⟨rfl, rfl⟩ := List.cons.inj hbytes
      rcases hfound with ⟨rfl, hword, rfl⟩ | ⟨-, value', hread, rfl⟩
      · obtain rfl := hwell.of_n
        exact ⟨.null, (List.append_cancel_left hword).symm⟩
      · obtain ⟨hform, rfl⟩ := (h.read_iff hwell hrest).mp hread
        exact ⟨.value hform, rfl⟩
    · rintro ⟨_ | @⟨value', _, hvalue⟩, rfl⟩
      · exact ⟨_, _, List.cons_append, .inl ⟨rfl, rfl, rfl⟩⟩
      · obtain ⟨b, text, rfl, -⟩ := hwell.starts
        have hread := (h.read_iff hwell hrest).mpr ⟨hvalue, rfl⟩
        -- null is the only value that starts with this letter
        have hword : b ≠ octet 'n' := by
          rintro rfl
          obtain rfl := hwell.of_n
          exact hnull _ hvalue
        exact ⟨b, _, List.cons_append, .inr ⟨hword, value', hread, rfl⟩⟩
  sound {bytes found rest} hread := by
    obtain ⟨b, inside, hbytes, ⟨rfl, rfl, rfl⟩ | ⟨-, value, hvalue, rfl⟩⟩ :=
      optional_read_iff.mp hread
    · exact leading .null hbytes
    · rw [← hbytes, h.skips] at hvalue
      exact (h.sound hvalue).imp fun _ => .value

/-! ### Lists -/

/-- What is done behind an item; `before` holds it and those in front of it, last one first. -/
def behindItem (item : Reader α) (before : List α) (bytes : Octets) :
    Except Fault (List α × Octets) :=
  match nextItem bytes with
  | .error cause => .error cause.here
  | .ok (.closed rest) => .ok (before.reverse, rest)
  | .ok (.part rest) => item.itemsFrom before rest

theorem itemsFrom_eq (item : Reader α) (before : List α) (bytes : Octets) :
    item.itemsFrom before bytes =
      match item.read bytes with
      | .error fault => .error (fault.under (.index before.length))
      | .ok (value, rest) => behindItem item (value :: before) rest := by
  rw [Reader.itemsFrom]
  split
  · next h => simp only [h]
  · next h =>
    simp only [h, behindItem]
    split <;> next h => simp only [h]

section List

variable {item : Reader α} {form : α → Octets → Prop}

theorem exists_item {γ : Type*} {δ : Type*} {form : γ → δ → Prop} :
    ∀ {values : List γ} {parts : List δ},
    List.Forall₂ form values parts → ∀ part ∈ parts, ∃ value ∈ values, form value part
  | _, _, .nil, part, hpart => absurd hpart List.not_mem_nil
  | _, _, .cons hvalue hvalues, part, hpart => by
    rcases List.mem_cons.mp hpart with rfl | hpart
    · exact ⟨_, List.mem_cons_self, hvalue⟩
    · obtain ⟨value, hmem, h⟩ := exists_item hvalues part hpart
      exact ⟨value, List.mem_cons_of_mem _ hmem, h⟩

theorem Reader.Reads.parts (h : item.Reads form) {values : List α} {parts : List Octets}
    (hitems : List.Forall₂ form values parts) : ∀ part ∈ parts, WellFormed part := by
  intro part hpart
  obtain ⟨value, -, hvalue⟩ := exists_item hitems part hpart
  exact h.wellFormed hvalue

theorem itemsFrom_step (h : item.Reads form) {part tail rest : Octets} {before found : List α}
    (hpart : WellFormed part) (htail : Ends tail) :
    item.itemsFrom before (part ++ tail) = .ok (found, rest) ↔ ∃ value, form value part ∧
      behindItem item (value :: before) tail = .ok (found, rest) := by
  rw [itemsFrom_eq]
  constructor
  · intro hfound
    split at hfound
    · cases hfound
    · next value _ hread =>
      obtain ⟨hvalue, rfl⟩ := (h.read_iff hpart htail).mp hread
      exact ⟨value, hvalue, hfound⟩
  · rintro ⟨value, hvalue, hfound⟩
    rw [(h.read_iff hpart htail).mpr ⟨hvalue, rfl⟩]
    exact hfound

theorem behindItem_comma (item : Reader α) (before : List α) {blanks blanks' part : Octets}
    (h : Blanks blanks) (h' : Blanks blanks') (hpart : Starts part) (rest : Octets) :
    behindItem item before (blanks ++ octet ',' :: (blanks' ++ (part ++ rest))) =
      item.itemsFrom before (part ++ rest) := by
  rw [behindItem,
    nextItem_comma (skipBlanks_mark h (by decide) _) (hpart.skipBlanks_append h' _) hpart]

/-- The items behind some of them. -/
theorem behindItem_iff (h : item.Reads form) {parts : List Octets} {text : Octets}
    (hbehind : Behind (octet ']') parts text) (hparts : ∀ part ∈ parts, WellFormed part)
    {before found : List α} {rest rest' : Octets} :
    behindItem item before (text ++ rest) = .ok (found, rest') ↔
      (∃ values, List.Forall₂ form values parts ∧ found = before.reverse ++ values) ∧
        rest' = rest := by
  induction hbehind generalizing before with
  | @close blanks hblanks =>
    have hclose : skipBlanks ((blanks ++ [octet ']']) ++ rest) = octet ']' :: rest :=
      skipBlanks_last hblanks (by decide) rest
    rw [behindItem, nextItem_close hclose]
    constructor
    · intro heq
      cases heq
      exact ⟨⟨[], .nil, (List.append_nil _).symm⟩, rfl⟩
    · rintro ⟨⟨_, ⟨⟩, rfl⟩, rfl⟩
      rw [List.append_nil]
  | @comma blanks blanks' part text parts hblanks hblanks' hrest ih =>
    have hpart := hparts part List.mem_cons_self
    have hread : behindItem item before
        ((blanks ++ octet ',' :: (blanks' ++ (part ++ text))) ++ rest) =
          item.itemsFrom before (part ++ (text ++ rest)) := by
      rw [← behindItem_comma item before hblanks hblanks' hpart.starts]
      simp only [List.append_assoc, List.cons_append]
    rw [hread, itemsFrom_step h hpart (hrest.ends (by decide) rest)]
    simp only [ih fun p hp => hparts p (List.mem_cons_of_mem part hp)]
    constructor
    · rintro ⟨value, hvalue, ⟨values, hvalues, rfl⟩, rfl⟩
      exact ⟨⟨value :: values, .cons hvalue hvalues, by simp⟩, rfl⟩
    · rintro ⟨⟨_, _ | ⟨hvalue, hvalues⟩, rfl⟩, rfl⟩
      exact ⟨_, hvalue, ⟨_, hvalues, by simp⟩, rfl⟩

theorem list_read {bytes rest : Octets} (h : skipBlanks bytes = octet '[' :: rest) :
    item.list.read bytes = item.readItems rest := by
  simp only [Reader.list, h, if_true]

/-- The items of a list, whichever way its parts are told apart. -/
theorem list_read_iff (h : item.Reads form) {parts : List Octets} {values : List α}
    {text rest rest' : Octets} (hitems : HasItems text parts) :
    item.list.read (text ++ rest) = .ok (values, rest') ↔
      List.Forall₂ form values parts ∧ rest' = rest := by
  obtain ⟨hlist, hparts⟩ := hitems
  rcases hlist with @⟨blanks, hblanks⟩ | @⟨blanks, part, text, parts, hblanks, hbehind⟩
  · have hclose : skipBlanks ((blanks ++ [octet ']']) ++ rest) = octet ']' :: rest :=
      skipBlanks_last hblanks (by decide) rest
    rw [List.cons_append, list_read (skipBlanks_cons (by decide) _), Reader.readItems,
      firstItem_close hclose]
    simp [eq_comm]
  · have hpart := hparts part List.mem_cons_self
    have hfirst : firstItem ((blanks ++ (part ++ text)) ++ rest) =
        .ok (.part (part ++ (text ++ rest))) := by
      refine firstItem_part ?_ hpart.starts
      rw [List.append_assoc, List.append_assoc]
      exact hpart.starts.skipBlanks_append hblanks _
    rw [List.cons_append, list_read (skipBlanks_cons (by decide) _), Reader.readItems, hfirst]
    refine (itemsFrom_step h hpart (hbehind.ends (by decide) rest)).trans ?_
    simp only [behindItem_iff h hbehind fun p hp => hparts p (List.mem_cons_of_mem part hp)]
    constructor
    · rintro ⟨value, hvalue, ⟨values, hvalues, rfl⟩, rfl⟩
      exact ⟨.cons hvalue hvalues, rfl⟩
    · rintro ⟨_ | ⟨hvalue, hvalues⟩, rfl⟩
      exact ⟨_, hvalue, ⟨_, hvalues, rfl⟩, rfl⟩

/-- The items that have been taken stand in front of the rest. -/
theorem itemsFrom_sound (h : item.Reads form) {before values : List α} {bytes rest : Octets}
    (hread : item.itemsFrom before bytes = .ok (values, rest)) :
    ∃ middle, Leading WellFormed bytes middle ∧ Bracket.list.Closes middle rest := by
  fun_induction Reader.itemsFrom item before bytes with
  | case1 => cases hread
  | case2 => cases hread
  | case3 before bytes value middle hitem behind hnext =>
    cases hread
    rcases nextItem_cases hnext with ⟨_, hclosed, hclose⟩ | ⟨_, hpart, -⟩
    · cases hclosed
      exact ⟨middle, (h.sound hitem).imp fun _ => h.wellFormed, Bracket.closes_nil hclose⟩
    · cases hpart
  | case4 before bytes value middle hitem behind hnext ih =>
    obtain ⟨middle', hvalue, hcloses⟩ := ih hread
    rcases nextItem_cases hnext with ⟨_, hclosed, -⟩ | ⟨inside, hpart, hcomma⟩
    · cases hclosed
    · cases hpart
      exact ⟨middle, (h.sound hitem).imp fun _ => h.wellFormed,
        Bracket.closes_cons hcomma (Bracket.part_list hvalue.of_skipBlanks) hcloses⟩

theorem readItems_sound (h : item.Reads form) {values : List α} {bytes rest : Octets}
    (hread : item.readItems bytes = .ok (values, rest)) : Bracket.list.Holds bytes rest := by
  unfold Reader.readItems at hread
  split at hread
  · cases hread
  · next hfirst =>
    cases hread
    rcases firstItem_cases hfirst with ⟨_, hclosed, hclose⟩ | hpart
    · cases hclosed
      exact Bracket.holds_nil hclose
    · cases hpart
  · next hfirst =>
    obtain ⟨middle, hvalue, hcloses⟩ := itemsFrom_sound h hread
    rcases firstItem_cases hfirst with ⟨_, hclosed, -⟩ | hpart
    · cases hclosed
    · cases hpart
      exact Bracket.holds_cons (Bracket.part_list hvalue.of_skipBlanks) hcloses

theorem list_reads (h : item.Reads form) : item.list.Reads (ListOf form) where
  skips bytes := by simp only [Reader.list, skipBlanks_skipBlanks]
  wellFormed := by
    rintro _ _ ⟨hlist, hitems⟩
    exact .list hlist (h.parts hitems)
  read_iff {values text rest rest'} hwell hrest := by
    constructor
    · intro hread
      obtain ⟨b, text', rfl, hb⟩ := hwell.starts
      have hskip : skipBlanks (b :: text' ++ rest) = b :: (text' ++ rest) :=
        hwell.starts.skipBlanks rest
      by_cases hbracket : b = octet '['
      · subst hbracket
        obtain ⟨parts, hparts⟩ := hwell.of_bracket
        obtain ⟨hitems, rfl⟩ := (list_read_iff h hparts).mp hread
        exact ⟨.items hparts.isList hitems, rfl⟩
      · simp only [Reader.list, hskip, if_neg hbracket] at hread
        cases hread
    · rintro ⟨⟨hlist, hitems⟩, rfl⟩
      exact (list_read_iff h ⟨hlist, h.parts hitems⟩).mpr ⟨hitems, rfl⟩
  sound {bytes values rest} hread := by
    rcases hbytes : skipBlanks bytes with _ | ⟨b, inside⟩
    · simp only [Reader.list, hbytes] at hread
      cases hread
    · by_cases hbracket : b = octet '['
      · subst hbracket
        rw [list_read hbytes] at hread
        obtain ⟨items, text, hitems, rfl⟩ := (readItems_sound h hread).items
        rw [← list_read (skipBlanks_cons (b := octet '[') (by decide) _)] at hread
        obtain ⟨hvalues, -⟩ := (list_read_iff h hitems).mp hread
        exact leading (.items hitems.isList hvalues) hbytes
      · simp only [Reader.list, hbytes, if_neg hbracket] at hread
        cases hread

end List

end ListingReview.Json
