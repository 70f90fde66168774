import ListingReview.Json.Skip

/-! # JSON: readers

A reader takes a value of one kind off the front of the octets, blanks before it included, or says
what is wrong first. It always takes something, so lists of values come to an end. -/

namespace ListingReview.Json

open Text (Octets)

/-- A way to read values of a type. -/
structure Reader (α : Type) where
  read : Octets → Except Fault (α × Octets)
  length_lt : ∀ {bytes value rest}, read bytes = .ok (value, rest) → rest.length < bytes.length

/-- Takes a number. -/
def readNumber (bytes : Octets) : Except Cause (Number × Octets) :=
  match readNumeral .endInValue bytes with
  | .error cause => .error cause
  | .ok (numeral, rest) =>
    match numeral.number? with
    | some number => .ok (number, rest)
    | none => .error .numberOutOfRange

theorem length_of_readNumber {bytes rest : Octets} {number : Number}
    (h : readNumber bytes = .ok (number, rest)) : rest.length < bytes.length := by
  unfold readNumber at h
  split at h
  · cases h
  · next hn =>
    split at h
    · cases h; exact length_of_readNumeral hn
    · cases h

/-- A number as something found. -/
def Number.found : Number → Found
  | unsigned n => .integer n.toNat
  | negative n => .integer n.toInt
  | float x => .float x

/-- What is wrong with a value, starting with the octet `b`, that is not of the kind wanted. Texts,
numbers and words are read to be named, so a broken one is reported as such. -/
def misfit (wanted : Wanted) (b : UInt8) (rest : Octets) : Cause :=
  if b = octet '"' then
    match readText rest with
    | .error cause => cause
    | .ok (text, _) => .misfit (.text text) wanted
  else if startsNumber b then
    match readNumber (b :: rest) with
    | .error cause => cause
    | .ok (number, _) => .misfit number.found wanted
  else if b = octet 'n' then
    match readWord nullTail rest with
    | .error cause => cause
    | .ok _ => .misfit .null wanted
  else if b = octet 't' then
    match readWord trueTail rest with
    | .error cause => cause
    | .ok _ => .misfit (.boolean true) wanted
  else if b = octet 'f' then
    match readWord falseTail rest with
    | .error cause => cause
    | .ok _ => .misfit (.boolean false) wanted
  else if b = octet '[' then .misfit .list wanted
  else if b = octet '\x7b' then .misfit .object wanted
  else .noValue

namespace Reader

variable {α β : Type}

/-- A reader whose values are changed by a function. -/
def map (f : α → β) (reader : Reader α) : Reader β where
  read bytes :=
    match reader.read bytes with
    | .error fault => .error fault
    | .ok (value, rest) => .ok (f value, rest)
  length_lt {bytes value rest} h := by
    split at h
    · cases h
    · next hr => cases h; exact reader.length_lt hr

/-! ### Single values -/

/-- Takes a text with its quotes. -/
def text : Reader String where
  read bytes :=
    match skipBlanks bytes with
    | [] => .error Cause.endInValue.here
    | b :: rest =>
      if b = octet '"' then (readText rest).mapError Cause.here
      else .error (misfit .text b rest).here
  length_lt {bytes value rest} h := by
    split at h
    · cases h
    · next hb =>
      have := length_lt_of_skipBlanks hb
      split at h
      · next rest _ =>
        cases ht : readText rest with
        | error cause => rw [ht] at h; cases h
        | ok found => rw [ht] at h; cases h; exact Nat.lt_trans (length_of_readText ht) this
      · cases h

/-- Takes a number that is acceptable. -/
def numeric (wanted : Wanted) (accept : Number → Except Cause α) : Reader α where
  read bytes :=
    match skipBlanks bytes with
    | [] => .error Cause.endInValue.here
    | b :: rest =>
      if startsNumber b then
        match readNumber (b :: rest) with
        | .error cause => .error cause.here
        | .ok (number, rest') =>
          match accept number with
          | .error cause => .error cause.here
          | .ok value => .ok (value, rest')
      else .error (misfit wanted b rest).here
  length_lt {bytes value rest} h := by
    split at h
    · cases h
    · next hb =>
      have := length_lt_of_skipBlanks hb
      split at h
      · split at h
        · cases h
        · next hn =>
          have := length_of_readNumber hn
          simp only [List.length_cons] at this
          split at h
          · cases h
          · cases h; omega
      · cases h

/-- Takes any number. -/
def number : Reader Number := numeric .number .ok

/-- Takes a whole number of 64 bits without a sign. -/
def unsigned : Reader UInt64 := numeric .unsigned fun
  | .unsigned n => .ok n
  | .negative n => .error (.unsuitable n.toInt .unsigned)
  | .float x => .error (.misfit (.float x) .unsigned)

/-- Takes a whole number of 64 bits with a sign. -/
def signed : Reader Int64 := numeric .signed fun
  | .unsigned n =>
    if n.toNat < 0x8000000000000000 then .ok (Int64.ofNat n.toNat)
    else .error (.unsuitable n.toNat .signed)
  | .negative n => .ok n
  | .float x => .error (.misfit (.float x) .signed)

/-- Takes a number as a float. -/
def float : Reader Binary64 := numeric .float fun
  | .unsigned n => .ok (Binary64.ofNat n.toNat)
  | .negative n => .ok (Binary64.ofInt n.toInt)
  | .float x => .ok x

/-- Takes nothing but the word null. -/
def nothing : Reader Unit where
  read bytes :=
    match skipBlanks bytes with
    | [] => .error Cause.endInValue.here
    | b :: rest =>
      if b = octet 'n' then
        match readWord nullTail rest with
        | .error cause => .error cause.here
        | .ok rest' => .ok ((), rest')
      else .error (misfit .nothing b rest).here
  length_lt {bytes value rest} h := by
    split at h
    · cases h
    · next hb =>
      have := length_lt_of_skipBlanks hb
      split at h
      · split at h
        · cases h
        · next hw =>
          cases h
          have := length_of_readWord hw
          omega
      · cases h

/-- Passes over a value of any kind. -/
def anything : Reader Unit where
  read bytes :=
    match skipValue [] bytes with
    | .error cause => .error cause.here
    | .ok rest => .ok ((), rest)
  length_lt {bytes value rest} h := by
    split at h
    · cases h
    · next hs => cases h; exact length_of_skipValue hs

/-- Takes a value or the word null, which stands for none. -/
def optional (reader : Reader α) : Reader (Option α) where
  read bytes :=
    match skipBlanks bytes with
    | [] => .error Cause.endInValue.here
    | b :: rest =>
      if b = octet 'n' then
        match readWord nullTail rest with
        | .error cause => .error cause.here
        | .ok rest' => .ok (none, rest')
      else (reader.map some).read (b :: rest)
  length_lt {bytes value rest} h := by
    split at h
    · cases h
    · next hb =>
      have := length_lt_of_skipBlanks hb
      split at h
      · split at h
        · cases h
        · next hw =>
          cases h
          have := length_of_readWord hw
          omega
      · have := (reader.map some).length_lt h
        simp only [List.length_cons] at this
        omega

/-! ### Choices -/

/-- The choice of a name. -/
def choose (choices : List (String × α)) (name : String) : Except Cause α :=
  match choices.lookup name with
  | some value => .ok value
  | none => .error (.unknownChoice name (choices.map Prod.fst))

/-- Takes the name of a choice behind its opening quote. -/
def readChoice (choices : List (String × α)) (bytes : Octets) : Except Cause (α × Octets) :=
  match readText bytes with
  | .error cause => .error cause
  | .ok (name, rest) =>
    match choose choices name with
    | .error cause => .error cause
    | .ok value => .ok (value, rest)

/-- Takes the key of a choice inside an object, its colon and the word null. As in any object the
quote of the key is looked for first: whatever else stands there is refused as a key that is no
text, and is not read as a value to be named. In an empty object it is a value that is missing. -/
def readChoiceMember (choices : List (String × α)) (bytes : Octets) :
    Except Fault (α × Octets) :=
  match firstMember bytes with
  | .error cause => .error cause.here
  | .ok (.closed _) => .error Cause.noValue.here
  | .ok (.part rest) =>
    match readChoice choices rest with
    | .error cause => .error cause.here
    | .ok (value, rest) =>
      match readColon rest with
      | .error cause => .error cause.here
      | .ok rest => (nothing.map fun _ => value).read rest

/-- Takes the closing brace behind a choice. -/
def closeChoice (bytes : Octets) : Except Cause Octets :=
  match skipBlanks bytes with
  | [] => .error .endInObject
  | b :: rest => if b = octet '\x7d' then .ok rest else .error .noValue

theorem length_of_readChoice {choices : List (String × α)} {bytes rest : Octets} {value : α}
    (h : readChoice choices bytes = .ok (value, rest)) : rest.length < bytes.length := by
  unfold readChoice at h
  split at h
  · cases h
  · next ht =>
    split at h
    · cases h
    · cases h; exact length_of_readText ht

theorem length_of_readChoiceMember {choices : List (String × α)} {bytes rest : Octets} {value : α}
    (h : readChoiceMember choices bytes = .ok (value, rest)) : rest.length < bytes.length := by
  unfold readChoiceMember at h
  split at h
  · cases h
  · cases h
  · next hm =>
    have := length_of_firstMember hm
    split at h
    · cases h
    · next hc =>
      have := length_of_readChoice hc
      split at h
      · cases h
      · next hr =>
        have := length_of_readColon hr
        have := Reader.length_lt _ h
        simp only [Next.rest] at *
        omega

theorem length_of_closeChoice {bytes rest : Octets} (h : closeChoice bytes = .ok rest) :
    rest.length < bytes.length := by
  unfold closeChoice at h
  split at h
  · cases h
  · next hb =>
    split at h
    · cases h; exact length_lt_of_skipBlanks hb
    · cases h

/-- Takes a choice by its name: a text, or an object with that name as its only key and null
behind it. -/
def choice (choices : List (String × α)) : Reader α where
  read bytes :=
    match skipBlanks bytes with
    | [] => .error Cause.endInValue.here
    | b :: rest =>
      if b = octet '"' then (readChoice choices rest).mapError Cause.here
      else if b = octet '\x7b' then
        match readChoiceMember choices rest with
        | .error fault => .error fault
        | .ok (value, rest') =>
          match closeChoice rest' with
          | .error cause => .error cause.here
          | .ok rest'' => .ok (value, rest'')
      else .error Cause.noValue.here
  length_lt {bytes value rest} h := by
    split at h
    · cases h
    · next hb =>
      have := length_lt_of_skipBlanks hb
      split at h
      · next rest _ =>
        cases hc : readChoice choices rest with
        | error cause => rw [hc] at h; cases h
        | ok found => rw [hc] at h; cases h; exact Nat.lt_trans (length_of_readChoice hc) this
      · split at h
        · split at h
          · cases h
          · next hm =>
            have := length_of_readChoiceMember hm
            split at h
            · cases h
            · next hc =>
              cases h
              have := length_of_closeChoice hc
              omega
        · cases h

/-! ### Lists -/

/-- Takes the items of a list from one of them on; `before` holds those in front of it, last one
first. -/
def itemsFrom (item : Reader α) (before : List α) (bytes : Octets) :
    Except Fault (List α × Octets) :=
  match _hi : item.read bytes with
  | .error fault => .error (fault.under (.index before.length))
  | .ok (value, rest) =>
    match _hn : nextItem rest with
    | .error cause => .error cause.here
    | .ok (.closed rest') => .ok ((value :: before).reverse, rest')
    | .ok (.part rest') => itemsFrom item (value :: before) rest'
termination_by bytes.length
decreasing_by
  have := item.length_lt _hi
  have := length_of_nextItem _hn
  simp only [Next.rest] at *
  omega

theorem length_of_itemsFrom {item : Reader α} {before found : List α} {bytes rest : Octets}
    (h : itemsFrom item before bytes = .ok (found, rest)) : rest.length < bytes.length := by
  fun_induction itemsFrom item before bytes with
  | case1 => cases h
  | case2 => cases h
  | case3 _ _ _ _ hi _ hn =>
    cases h
    have := item.length_lt hi
    have := length_of_nextItem hn
    simp only [Next.rest] at *
    omega
  | case4 _ _ _ _ hi _ hn ih =>
    have := item.length_lt hi
    have := length_of_nextItem hn
    have := ih h
    simp only [Next.rest] at *
    omega

/-- Takes the items of a list behind its opening bracket. -/
def readItems (item : Reader α) (bytes : Octets) : Except Fault (List α × Octets) :=
  match firstItem bytes with
  | .error cause => .error cause.here
  | .ok (.closed rest) => .ok ([], rest)
  | .ok (.part rest) => itemsFrom item [] rest

theorem length_of_readItems {item : Reader α} {found : List α} {bytes rest : Octets}
    (h : readItems item bytes = .ok (found, rest)) : rest.length ≤ bytes.length := by
  unfold readItems at h
  split at h
  · cases h
  · next hf => cases h; exact length_of_firstItem hf
  · next hf =>
    have := length_of_firstItem hf
    have := length_of_itemsFrom h
    simp only [Next.rest] at *
    omega

/-- Takes a list. -/
def list (item : Reader α) : Reader (List α) where
  read bytes :=
    match skipBlanks bytes with
    | [] => .error Cause.endInValue.here
    | b :: rest =>
      if b = octet '[' then readItems item rest else .error (misfit .list b rest).here
  length_lt {bytes value rest} h := by
    split at h
    · cases h
    · next hb =>
      have := length_lt_of_skipBlanks hb
      split at h
      · have := length_of_readItems h
        omega
      · cases h

/-! ### Whole texts -/

/-- The first value of a text, whatever follows it. -/
def front (reader : Reader α) (bytes : Octets) : Except Fault α :=
  (reader.read bytes).map Prod.fst

/-- The only value of a text. -/
def whole (reader : Reader α) (bytes : Octets) : Except Fault α :=
  match reader.read bytes with
  | .error fault => .error fault
  | .ok (value, rest) =>
    if (skipBlanks rest).isEmpty then .ok value else .error Cause.trailingCharacters.here

end Reader

end ListingReview.Json
