import ListingReview.Json.Token

/-! # JSON: texts

A text stands between quotes. A backslash starts an escape: a letter for a common character, or four
hexadecimal digits for a unit of UTF-16, of which a surrogate half needs the other half in an escape
right behind it. Whether all octets together are UTF-8 is only asked at the closing quote. -/

namespace ListingReview.Json

open Text (Octets ofOctets?)

/-- The octet that a letter stands for after a backslash. -/
def escapeLetter (b : UInt8) : Option UInt8 :=
  if b = octet '"' then some (octet '"')
  else if b = octet '\\' then some (octet '\\')
  else if b = octet '/' then some (octet '/')
  else if b = octet 'b' then some 0x08
  else if b = octet 'f' then some 0x0C
  else if b = octet 'n' then some (octet '\n')
  else if b = octet 'r' then some (octet '\r')
  else if b = octet 't' then some (octet '\t')
  else none

/-- The value of a hexadecimal digit. -/
def hexValue (b : UInt8) : Option Nat :=
  if octet '0' ≤ b && b ≤ octet '9' then some (b.toNat - 0x30)
  else if octet 'a' ≤ b && b ≤ octet 'f' then some (b.toNat - 0x57)
  else if octet 'A' ≤ b && b ≤ octet 'F' then some (b.toNat - 0x37)
  else none

/-- Takes four hexadecimal digits. -/
def readHex : Octets → Except Cause (Nat × Octets)
  | a :: b :: c :: d :: rest =>
    match hexValue a, hexValue b, hexValue c, hexValue d with
    | some a, some b, some c, some d => .ok (((a * 16 + b) * 16 + c) * 16 + d, rest)
    | _, _, _, _ => .error .brokenEscape
  | _ => .error .endInText

/-- Whether a unit of UTF-16 is the first half of a pair. -/
def isHighHalf (n : Nat) : Bool := 0xD800 ≤ n && n ≤ 0xDBFF

/-- Whether a unit of UTF-16 is the second half of a pair. -/
def isLowHalf (n : Nat) : Bool := 0xDC00 ≤ n && n ≤ 0xDFFF

/-- The octets of a code point. -/
def codePoint (n : Nat) : Octets := String.utf8EncodeChar (Char.ofNat n)

/-- Takes the escape with the second half of a pair, after the first. -/
def readLowHalf (high : Nat) : Octets → Except Cause (Octets × Octets)
  | [] => .error .endInText
  | b :: rest =>
    if b = octet '\\' then
      match rest with
      | [] => .error .endInText
      | b :: rest =>
        if b = octet 'u' then
          match readHex rest with
          | .error cause => .error cause
          | .ok (low, rest) =>
            if isLowHalf low then
              .ok (codePoint (0x10000 + (high - 0xD800) * 0x400 + (low - 0xDC00)), rest)
            else .error .loneHalf
        else .error .halfWithoutEscape
    else .error .halfWithoutEscape

/-- Takes what follows the backslash and the u of an escape. -/
def readCodePoint (bytes : Octets) : Except Cause (Octets × Octets) :=
  match readHex bytes with
  | .error cause => .error cause
  | .ok (n, rest) =>
    if isLowHalf n then .error .loneHalf
    else if isHighHalf n then readLowHalf n rest
    else .ok (codePoint n, rest)

/-- Takes what follows a backslash, and gives the octets that it stands for. -/
def readEscape : Octets → Except Cause (Octets × Octets)
  | [] => .error .endInText
  | b :: rest =>
    match escapeLetter b with
    | some c => .ok ([c], rest)
    | none => if b = octet 'u' then readCodePoint rest else .error .brokenEscape

theorem length_of_readHex {bytes rest : Octets} {n : Nat} (h : readHex bytes = .ok (n, rest)) :
    rest.length < bytes.length := by
  unfold readHex at h
  split at h
  · split at h
    · cases h; simp only [List.length_cons]; omega
    · cases h
  · cases h

theorem length_of_readLowHalf {high : Nat} {bytes found rest : Octets}
    (h : readLowHalf high bytes = .ok (found, rest)) : rest.length < bytes.length := by
  unfold readLowHalf at h
  split at h
  · cases h
  · split at h
    · split at h
      · cases h
      · split at h
        · split at h
          · cases h
          · next hx =>
            have := length_of_readHex hx
            split at h
            · obtain ⟨-, rfl⟩ := Prod.mk.inj (Except.ok.inj h)
              simp only [List.length_cons]; omega
            · cases h
        · cases h
    · cases h

theorem length_of_readCodePoint {bytes found rest : Octets}
    (h : readCodePoint bytes = .ok (found, rest)) : rest.length < bytes.length := by
  unfold readCodePoint at h
  split at h
  · cases h
  · next hx =>
    have := length_of_readHex hx
    split at h
    · cases h
    · split at h
      · exact Nat.lt_trans (length_of_readLowHalf h) this
      · cases h; exact this

theorem length_of_readEscape {bytes found rest : Octets}
    (h : readEscape bytes = .ok (found, rest)) : rest.length < bytes.length := by
  unfold readEscape at h
  split at h
  · cases h
  · split at h
    · cases h; exact Nat.lt_succ_self _
    · split at h
      · exact Nat.lt_succ_of_lt (length_of_readCodePoint h)
      · cases h

/-- Takes a text up to its closing quote; `before` holds the octets so far, last one first. -/
def readOctets (before : Octets) (bytes : Octets) : Except Cause (Octets × Octets) :=
  match bytes with
  | [] => .error .endInText
  | b :: rest =>
    if b = octet '"' then .ok (before.reverse, rest)
    else if b = octet '\\' then
      match _h : readEscape rest with
      | .error cause => .error cause
      | .ok (found, rest') => readOctets (found.reverse ++ before) rest'
    else if b < 0x20 then .error .controlCharacter
    else readOctets (b :: before) rest
termination_by bytes.length
decreasing_by
  · have := length_of_readEscape _h; simp only [List.length_cons]; omega
  · simp only [List.length_cons]; omega

/-- Takes a text after its opening quote. -/
def readText (bytes : Octets) : Except Cause (String × Octets) :=
  match readOctets [] bytes with
  | .error cause => .error cause
  | .ok (found, rest) =>
    match ofOctets? found with
    | some text => .ok (text, rest)
    | none => .error .notUnicode

theorem length_of_readOctets {before bytes found rest : Octets}
    (h : readOctets before bytes = .ok (found, rest)) : rest.length < bytes.length := by
  fun_induction readOctets before bytes with
  | case1 => cases h
  | case2 => cases h; exact Nat.lt_succ_self _
  | case3 => cases h
  | case4 _ _ _ _ he _ ih =>
    have := length_of_readEscape he
    have := ih h
    simp only [List.length_cons]
    omega
  | case5 => cases h
  | case6 _ _ _ _ _ _ ih => exact Nat.lt_succ_of_lt (ih h)

theorem length_of_readText {bytes rest : Octets} {text : String}
    (h : readText bytes = .ok (text, rest)) : rest.length < bytes.length := by
  unfold readText at h
  split at h
  · cases h
  · next ho =>
    split at h
    · cases h; exact length_of_readOctets ho
    · cases h

end ListingReview.Json
