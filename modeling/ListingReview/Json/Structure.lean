import ListingReview.Json.Escape

/-! # JSON: lists and objects

What stands between the parts of a list or an object. After an opening bracket and after each part,
either another part follows or the bracket is closed. -/

namespace ListingReview.Json

open Text (Octets)

/-- What comes next inside brackets: another part, which starts at the octets left, or none, and
then the octets left stand behind the closing bracket. -/
inductive Next where
  | part (rest : Octets)
  | closed (rest : Octets)

def Next.rest : Next → Octets
  | part rest => rest
  | closed rest => rest

/-- What follows the opening bracket of a list. -/
def firstItem (bytes : Octets) : Except Cause Next :=
  match skipBlanks bytes with
  | [] => .error .endInList
  | b :: rest => if b = octet ']' then .ok (.closed rest) else .ok (.part (b :: rest))

/-- What follows an item of a list. -/
def nextItem (bytes : Octets) : Except Cause Next :=
  match skipBlanks bytes with
  | [] => .error .endInList
  | b :: rest =>
    if b = octet ']' then .ok (.closed rest)
    else if b = octet ',' then
      match skipBlanks rest with
      | [] => .error .endInValue
      | b :: rest => if b = octet ']' then .error .trailingComma else .ok (.part (b :: rest))
    else .error .noListComma

/-- Takes the closing bracket of a list that must have no further item. -/
def closeList (bytes : Octets) : Except Cause Octets :=
  match skipBlanks bytes with
  | [] => .error .endInList
  | b :: rest =>
    if b = octet ']' then .ok rest
    else if b = octet ',' then
      match skipBlanks rest with
      | [] => .error .trailingCharacters
      | b :: _ => .error (if b = octet ']' then .trailingComma else .trailingCharacters)
    else .error .trailingCharacters

/-- What follows the opening bracket of an object; a part starts behind the quote of its key. -/
def firstMember (bytes : Octets) : Except Cause Next :=
  match skipBlanks bytes with
  | [] => .error .endInObject
  | b :: rest =>
    if b = octet '\x7d' then .ok (.closed rest)
    else if b = octet '"' then .ok (.part rest)
    else .error .keyNotText

/-- What follows a member of an object; a part starts behind the quote of its key. -/
def nextMember (bytes : Octets) : Except Cause Next :=
  match skipBlanks bytes with
  | [] => .error .endInObject
  | b :: rest =>
    if b = octet '\x7d' then .ok (.closed rest)
    else if b = octet ',' then
      match skipBlanks rest with
      | [] => .error .endInValue
      | b :: rest =>
        if b = octet '"' then .ok (.part rest)
        else if b = octet '\x7d' then .error .trailingComma
        else .error .keyNotText
    else .error .noObjectComma

/-- Takes the colon between a key and its value. -/
def readColon (bytes : Octets) : Except Cause Octets :=
  match skipBlanks bytes with
  | [] => .error .endInObject
  | b :: rest => if b = octet ':' then .ok rest else .error .noColon

/-! ### Nothing is made up: what is left is part of what was there -/

theorem length_lt_of_skipBlanks {bytes rest : Octets} {b : UInt8}
    (h : skipBlanks bytes = b :: rest) : rest.length < bytes.length := by
  have := length_skipBlanks_le bytes
  rw [h, List.length_cons] at this
  omega

theorem length_of_firstItem {bytes : Octets} {next : Next} (h : firstItem bytes = .ok next) :
    next.rest.length ≤ bytes.length := by
  unfold firstItem at h
  split at h
  · cases h
  · next hb =>
    have := length_lt_of_skipBlanks hb
    split at h
    · cases h; exact Nat.le_of_lt this
    · cases h; exact this

theorem length_of_nextItem {bytes : Octets} {next : Next} (h : nextItem bytes = .ok next) :
    next.rest.length < bytes.length := by
  unfold nextItem at h
  split at h
  · cases h
  · next hb =>
    have := length_lt_of_skipBlanks hb
    split at h
    · cases h; exact this
    · split at h
      · split at h
        · cases h
        · next hb' =>
          have := length_lt_of_skipBlanks hb'
          split at h
          · cases h
          · cases h; simp only [Next.rest, List.length_cons]; omega
      · cases h

theorem length_of_closeList {bytes rest : Octets} (h : closeList bytes = .ok rest) :
    rest.length < bytes.length := by
  unfold closeList at h
  split at h
  · cases h
  · next hb =>
    split at h
    · cases h; exact length_lt_of_skipBlanks hb
    · split at h
      · split at h <;> cases h
      · cases h

theorem length_of_firstMember {bytes : Octets} {next : Next} (h : firstMember bytes = .ok next) :
    next.rest.length < bytes.length := by
  unfold firstMember at h
  split at h
  · cases h
  · next hb =>
    have := length_lt_of_skipBlanks hb
    split at h
    · cases h; exact this
    · split at h
      · cases h; exact this
      · cases h

theorem length_of_nextMember {bytes : Octets} {next : Next} (h : nextMember bytes = .ok next) :
    next.rest.length < bytes.length := by
  unfold nextMember at h
  split at h
  · cases h
  · next hb =>
    have := length_lt_of_skipBlanks hb
    split at h
    · cases h; exact this
    · split at h
      · split at h
        · cases h
        · next hb' =>
          have := length_lt_of_skipBlanks hb'
          split at h
          · cases h; exact Nat.lt_trans ‹_› ‹_›
          · split at h <;> cases h
      · cases h

theorem length_of_readColon {bytes rest : Octets} (h : readColon bytes = .ok rest) :
    rest.length < bytes.length := by
  unfold readColon at h
  split at h
  · cases h
  · next hb =>
    split at h
    · cases h; exact length_lt_of_skipBlanks hb
    · cases h

end ListingReview.Json
