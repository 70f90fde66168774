import ListingReview.Json.Structure

/-! # JSON: passing over a value

A value that nobody asked for is passed over. It has to be JSON, but its texts need not be Unicode
and its numbers may be of any size; and it may be nested to any depth, so the brackets that are
still open are kept in a list, innermost first. -/

namespace ListingReview.Json

open Text (Octets)

/-- An open bracket. -/
inductive Bracket where
  | list
  | object
deriving DecidableEq, Repr

/-- The bracket that an octet opens. -/
def opens? (b : UInt8) : Option Bracket :=
  if b = octet '[' then some .list else if b = octet '\x7b' then some .object else none

/-- Passes over the escape after a backslash. -/
def skipEscape : Octets → Except Cause Octets
  | [] => .error .endInText
  | b :: rest =>
    if (escapeLetter b).isSome then .ok rest
    else if b = octet 'u' then (readHex rest).map Prod.snd
    else .error .brokenEscape

theorem length_of_skipEscape {bytes rest : Octets} (h : skipEscape bytes = .ok rest) :
    rest.length < bytes.length := by
  unfold skipEscape at h
  split at h
  · cases h
  · split at h
    · cases h; exact Nat.lt_succ_self _
    · split at h
      · next bytes _ _ =>
        cases hx : readHex bytes with
        | error cause => rw [hx] at h; cases h
        | ok found =>
          rw [hx] at h
          cases h
          exact Nat.lt_succ_of_lt (length_of_readHex hx)
      · cases h

/-- Passes over a text after its opening quote. -/
def skipText (bytes : Octets) : Except Cause Octets :=
  match bytes with
  | [] => .error .endInText
  | b :: rest =>
    if b = octet '"' then .ok rest
    else if b = octet '\\' then
      match _h : skipEscape rest with
      | .error cause => .error cause
      | .ok rest' => skipText rest'
    else if b < 0x20 then .error .controlCharacter
    else skipText rest
termination_by bytes.length
decreasing_by
  · have := length_of_skipEscape _h; simp only [List.length_cons]; omega
  · simp only [List.length_cons]; omega

theorem length_of_skipText {bytes rest : Octets} (h : skipText bytes = .ok rest) :
    rest.length < bytes.length := by
  fun_induction skipText bytes with
  | case1 => cases h
  | case2 => cases h; exact Nat.lt_succ_self _
  | case3 => cases h
  | case4 _ _ he _ ih =>
    have := length_of_skipEscape he
    have := ih h
    simp only [List.length_cons]
    omega
  | case5 => cases h
  | case6 _ _ _ _ _ ih => exact Nat.lt_succ_of_lt (ih h)

/-- Passes over a value that is neither list nor object and starts with the octet `b`. -/
def skipScalar (b : UInt8) (rest : Octets) : Except Cause Octets :=
  if b = octet '"' then skipText rest
  else if startsNumber b then (readNumeral .brokenNumber (b :: rest)).map Prod.snd
  else if b = octet 'n' then readWord nullTail rest
  else if b = octet 't' then readWord trueTail rest
  else if b = octet 'f' then readWord falseTail rest
  else .error .noValue

theorem length_of_skipScalar {b : UInt8} {bytes rest : Octets}
    (h : skipScalar b bytes = .ok rest) : rest.length ≤ bytes.length := by
  unfold skipScalar at h
  split at h
  · exact Nat.le_of_lt (length_of_skipText h)
  · split at h
    · cases hn : readNumeral .brokenNumber (b :: bytes) with
      | error cause => rw [hn] at h; cases h
      | ok found =>
        rw [hn] at h
        cases h
        exact Nat.le_of_lt_succ (length_of_readNumeral hn)
    · repeat (first | split at h | exact length_of_readWord h | cases h)

/-- Passes over a key behind its opening quote, and over the colon after it. -/
def skipKey (bytes : Octets) : Except Cause Octets :=
  match skipText bytes with
  | .error cause => .error cause
  | .ok rest => readColon rest

theorem length_of_skipKey {bytes rest : Octets} (h : skipKey bytes = .ok rest) :
    rest.length < bytes.length := by
  unfold skipKey at h
  split at h
  · cases h
  · next ht => exact Nat.lt_trans (length_of_readColon h) (length_of_skipText ht)

/-- What follows a part of the innermost bracket. Unlike a list that is read, one that is passed
over asks for a value behind every comma, and an object for a key. -/
def skipComma (bracket : Bracket) (bytes : Octets) : Except Cause Next :=
  match bracket, skipBlanks bytes with
  | .list, [] => .error .endInList
  | .list, b :: rest =>
    if b = octet ']' then .ok (.closed rest)
    else if b = octet ',' then .ok (.part rest)
    else .error .noListComma
  | .object, [] => .error .endInObject
  | .object, b :: rest =>
    if b = octet '\x7d' then .ok (.closed rest)
    else if b = octet ',' then
      match skipBlanks rest with
      | [] => .error .endInObject
      | b :: rest =>
        if b = octet '"' then (skipKey rest).map Next.part else .error .keyNotText
    else .error .noObjectComma

theorem length_of_skipComma {bracket : Bracket} {bytes : Octets} {next : Next}
    (h : skipComma bracket bytes = .ok next) : next.rest.length < bytes.length := by
  unfold skipComma at h
  split at h
  · cases h
  · next hb =>
    have := length_lt_of_skipBlanks hb
    split at h
    · cases h; exact this
    · split at h
      · cases h; exact this
      · cases h
  · cases h
  · next hb =>
    have := length_lt_of_skipBlanks hb
    split at h
    · cases h; exact this
    · split at h
      · split at h
        · cases h
        · next hb' =>
          have := length_lt_of_skipBlanks hb'
          split at h
          · next rest _ =>
            cases hk : skipKey rest with
            | error cause => rw [hk] at h; cases h
            | ok found =>
              rw [hk] at h
              cases h
              have := length_of_skipKey hk
              simp only [Next.rest]
              omega
          · cases h
      · cases h

/-- What follows the opening bracket `bracket`: a value, or the end of the brackets. -/
def skipOpening (bracket : Bracket) (bytes : Octets) : Except Cause Next :=
  match bracket with
  | .list => firstItem bytes
  | .object =>
    match firstMember bytes with
    | .error cause => .error cause
    | .ok (.closed rest) => .ok (.closed rest)
    | .ok (.part rest) => (skipKey rest).map Next.part

theorem length_of_skipOpening {bracket : Bracket} {bytes : Octets} {next : Next}
    (h : skipOpening bracket bytes = .ok next) : next.rest.length ≤ bytes.length := by
  unfold skipOpening at h
  split at h
  · exact length_of_firstItem h
  · split at h
    · cases h
    · next hm => cases h; exact Nat.le_of_lt (length_of_firstMember hm)
    · next rest hm =>
      cases hk : skipKey rest with
      | error cause => rw [hk] at h; cases h
      | ok found =>
        rw [hk] at h
        cases h
        have := length_of_skipKey hk
        have := length_of_firstMember hm
        simp only [Next.rest] at *
        omega

mutual

/-- Passes over a value and then over all that the open brackets still hold. -/
def skipValue (opened : List Bracket) (bytes : Octets) : Except Cause Octets :=
  match _hb : skipBlanks bytes with
  | [] => .error .endInValue
  | b :: rest =>
    match opens? b with
    | some bracket =>
      match _hn : skipOpening bracket rest with
      | .error cause => .error cause
      | .ok (.closed rest') => skipRest opened rest'
      | .ok (.part rest') => skipValue (bracket :: opened) rest'
    | none =>
      match _hs : skipScalar b rest with
      | .error cause => .error cause
      | .ok rest' => skipRest opened rest'
termination_by bytes.length
decreasing_by
  · have := length_lt_of_skipBlanks _hb; have := length_of_skipOpening _hn
    simp only [Next.rest] at *; omega
  · have := length_lt_of_skipBlanks _hb; have := length_of_skipOpening _hn
    simp only [Next.rest] at *; omega
  · have := length_lt_of_skipBlanks _hb; have := length_of_skipScalar _hs; omega

/-- Passes over all that the open brackets still hold, after a value. -/
def skipRest (opened : List Bracket) (bytes : Octets) : Except Cause Octets :=
  match opened with
  | [] => .ok bytes
  | bracket :: outer =>
    match _hn : skipComma bracket bytes with
    | .error cause => .error cause
    | .ok (.closed rest) => skipRest outer rest
    | .ok (.part rest) => skipValue (bracket :: outer) rest
termination_by bytes.length
decreasing_by
  · have := length_of_skipComma _hn; simp only [Next.rest] at *; omega
  · have := length_of_skipComma _hn; simp only [Next.rest] at *; omega

end

/-- Passing over takes at least one octet, or none after the last value. -/
theorem length_of_skipValue_skipRest (n : Nat) (opened : List Bracket) (bytes rest : Octets)
    (hn : bytes.length ≤ n) :
    (skipValue opened bytes = .ok rest → rest.length < bytes.length) ∧
      (skipRest opened bytes = .ok rest → rest.length ≤ bytes.length) := by
  induction n using Nat.strongRecOn generalizing opened bytes rest with
  | ind n ih =>
    -- a call on fewer octets, in the two forms in which it is used
    have value : ∀ {opened bytes' rest'}, bytes'.length < bytes.length →
        skipValue opened bytes' = .ok rest' → rest'.length < bytes'.length := fun hl h =>
      (ih _ (Nat.lt_of_lt_of_le hl hn) _ _ _ (Nat.le_refl _)).1 h
    have after : ∀ {opened bytes' rest'}, bytes'.length < bytes.length →
        skipRest opened bytes' = .ok rest' → rest'.length ≤ bytes'.length := fun hl h =>
      (ih _ (Nat.lt_of_lt_of_le hl hn) _ _ _ (Nat.le_refl _)).2 h
    constructor
    · intro h
      rw [skipValue] at h
      split at h
      · cases h
      · next hb =>
        have := length_lt_of_skipBlanks hb
        split at h
        · split at h
          · cases h
          · next ho =>
            have := length_of_skipOpening ho
            simp only [Next.rest] at this
            have := after (by omega) h
            omega
          · next ho =>
            have := length_of_skipOpening ho
            simp only [Next.rest] at this
            have := value (by omega) h
            omega
        · split at h
          · cases h
          · next hs =>
            have := length_of_skipScalar hs
            have := after (by omega) h
            omega
    · intro h
      rw [skipRest.eq_def] at h
      split at h
      · cases h; exact Nat.le_refl _
      · split at h
        · cases h
        · next hc =>
          have := length_of_skipComma hc
          simp only [Next.rest] at this
          have := after this h
          omega
        · next hc =>
          have := length_of_skipComma hc
          simp only [Next.rest] at this
          have := value this h
          omega

theorem length_of_skipValue {opened : List Bracket} {bytes rest : Octets}
    (h : skipValue opened bytes = .ok rest) : rest.length < bytes.length :=
  (length_of_skipValue_skipRest _ opened bytes rest (Nat.le_refl _)).1 h

end ListingReview.Json
