import ListingReview.Json.Format

/-! # JSON: records

A record is written as an object with its members in a fixed order. It is read from an object with
members in any order, each at most once under any of its names, or from a list of the values of its
members in their order. Members of other names are passed over.

The shape of a record names its members and says which of them an object must have, and whether a
list may stop before the last of them. Reading starts from a blank record, in which each member that
is found puts its value. -/

namespace ListingReview.Json

open Text (Octets)

/-- A member of records of type `σ`. -/
structure Member (σ : Type) where
  name : String
  /-- Other names under which the member is read. -/
  others : List String
  isRequired : Bool
  /-- Takes the value and puts it into a record. -/
  reader : Reader (σ → σ)
  write : σ → Document

/-- A member that every record has. -/
def Member.required {σ α : Type} (name : String) (format : Format α) (get : σ → α)
    (put : α → σ → σ) : Member σ where
  name := name
  others := []
  isRequired := true
  reader := format.reader.map put
  write record := format.write (get record)

/-- A member that may be absent, with its other names. -/
def Member.optional {σ α : Type} (name : String) (others : List String) (format : Format α)
    (get : σ → Option α) (put : Option α → σ → σ) : Member σ where
  name := name
  others := others
  isRequired := false
  reader := format.optional.reader.map put
  write record := format.optional.write (get record)

/-- Whether the member is read under a key. -/
def Member.answers {σ : Type} (member : Member σ) (key : String) : Bool :=
  member.name == key || member.others.contains key

/-- The shape of records of type `σ`. -/
structure Shape (σ : Type) where
  name : String
  members : List (Member σ)
  /-- Whether a list may stop before the last member. -/
  mayStop : Bool
  /-- The record in which nothing has been found yet. -/
  blank : σ

namespace Shape

variable {σ : Type}

/-! ### From an object -/

/-- The member that is read under a key. -/
def find? (shape : Shape σ) (key : String) : Option (Member σ) :=
  shape.members.find? fun member => member.answers key

/-- A record in the making: what has been found, and the names of the members found. -/
structure Partial (σ : Type) where
  record : σ
  seen : List String

/-- Takes the value of a member behind its key and puts it into the record. -/
def readMember (member : Member σ) (key : String) (found : Partial σ) (bytes : Octets) :
    Except Fault (Partial σ × Octets) :=
  if found.seen.contains member.name then .error (Cause.duplicate member.name).here
  else
    match readColon bytes with
    | .error cause => .error cause.here
    | .ok rest =>
      match member.reader.read rest with
      | .error fault => .error (fault.under (.key key))
      | .ok (put, rest') => .ok (⟨put found.record, member.name :: found.seen⟩, rest')

/-- Passes over the value of a member that no record has. -/
def passMember (key : String) (found : Partial σ) (bytes : Octets) :
    Except Fault (Partial σ × Octets) :=
  match readColon bytes with
  | .error cause => .error cause.here
  | .ok rest =>
    match Reader.anything.read rest with
    | .error fault => .error (fault.under (.key key))
    | .ok (_, rest') => .ok (found, rest')

/-- Takes a key behind its opening quote, and the member's value. -/
def readEntry (shape : Shape σ) (found : Partial σ) (bytes : Octets) :
    Except Fault (Partial σ × Octets) :=
  match readText bytes with
  | .error cause => .error cause.inKey
  | .ok (key, rest) =>
    match shape.find? key with
    | some member => readMember member key found rest
    | none => passMember key found rest

theorem length_of_readMember {member : Member σ} {key : String} {found found' : Partial σ}
    {bytes rest : Octets} (h : readMember member key found bytes = .ok (found', rest)) :
    rest.length < bytes.length := by
  unfold readMember at h
  split at h
  · cases h
  · split at h
    · cases h
    · next hc =>
      split at h
      · cases h
      · next hr =>
        cases h
        exact Nat.lt_trans (member.reader.length_lt hr) (length_of_readColon hc)

theorem length_of_passMember {key : String} {found found' : Partial σ} {bytes rest : Octets}
    (h : passMember key found bytes = .ok (found', rest)) : rest.length < bytes.length := by
  unfold passMember at h
  split at h
  · cases h
  · next hc =>
    split at h
    · cases h
    · next hr =>
      cases h
      exact Nat.lt_trans (Reader.anything.length_lt hr) (length_of_readColon hc)

theorem length_of_readEntry {shape : Shape σ} {found found' : Partial σ} {bytes rest : Octets}
    (h : shape.readEntry found bytes = .ok (found', rest)) : rest.length < bytes.length := by
  unfold readEntry at h
  split at h
  · cases h
  · next ht =>
    have := length_of_readText ht
    split at h
    · exact Nat.lt_trans (length_of_readMember h) this
    · exact Nat.lt_trans (length_of_passMember h) this

/-- Takes the members of an object from the opening quote of a key on. -/
def readEntries (shape : Shape σ) (found : Partial σ) (bytes : Octets) :
    Except Fault (Partial σ × Octets) :=
  match _he : shape.readEntry found bytes with
  | .error fault => .error fault
  | .ok (found', rest) =>
    match _hn : nextMember rest with
    | .error cause => .error cause.inKey
    | .ok (.closed rest') => .ok (found', rest')
    | .ok (.part rest') => shape.readEntries found' rest'
termination_by bytes.length
decreasing_by
  have := length_of_readEntry _he
  have := length_of_nextMember _hn
  simp only [Next.rest] at *
  omega

theorem length_of_readEntries {shape : Shape σ} {found found' : Partial σ} {bytes rest : Octets}
    (h : shape.readEntries found bytes = .ok (found', rest)) : rest.length < bytes.length := by
  fun_induction readEntries shape found bytes with
  | case1 => cases h
  | case2 => cases h
  | case3 _ _ _ _ he _ hn =>
    cases h
    have := length_of_readEntry he
    have := length_of_nextMember hn
    simp only [Next.rest] at *
    omega
  | case4 _ _ _ _ he _ hn ih =>
    have := length_of_readEntry he
    have := length_of_nextMember hn
    have := ih h
    simp only [Next.rest] at *
    omega

/-- The record made of the members found, if none that it must have is missing. -/
def complete (shape : Shape σ) (found : Partial σ) : Except Cause σ :=
  match shape.members.find? fun member => member.isRequired && !found.seen.contains member.name with
  | some member => .error (.missing member.name)
  | none => .ok found.record

/-- Takes the members of an object behind its opening brace. -/
def readObject (shape : Shape σ) (bytes : Octets) : Except Fault (σ × Octets) :=
  let found : Except Fault (Partial σ × Octets) :=
    match firstMember bytes with
    | .error cause => .error cause.inKey
    | .ok (.closed rest) => .ok (⟨shape.blank, []⟩, rest)
    | .ok (.part rest) => shape.readEntries ⟨shape.blank, []⟩ rest
  match found with
  | .error fault => .error fault
  | .ok (found, rest) =>
    match shape.complete found with
    | .error cause => .error cause.here
    | .ok record => .ok (record, rest)

theorem length_of_readObject {shape : Shape σ} {record : σ} {bytes rest : Octets}
    (h : shape.readObject bytes = .ok (record, rest)) : rest.length < bytes.length := by
  simp only [readObject] at h
  split at h
  · cases h
  · next hf =>
    split at h
    · cases h
    · cases h
      split at hf
      · cases hf
      · next hm => cases hf; exact length_of_firstMember hm
      · next hm => exact Nat.lt_trans (length_of_readEntries hf) (length_of_firstMember hm)

/-! ### From a list -/

/-- Takes the values of the members given; `index` counts those taken before. -/
def readPlaces (shape : Shape σ) (index : Nat) (record : σ) (bytes : Octets) :
    List (Member σ) → Except Fault (σ × Octets)
  | [] =>
    match closeList bytes with
    | .error cause => .error cause.here
    | .ok rest => .ok (record, rest)
  | member :: members =>
    match if index = 0 then firstItem bytes else nextItem bytes with
    | .error cause => .error cause.here
    | .ok (.closed rest) =>
      if shape.mayStop then .ok (record, rest)
      else .error (Cause.tooShort index shape.name shape.members.length).here
    | .ok (.part rest) =>
      match member.reader.read rest with
      | .error fault => .error (fault.under (.index index))
      | .ok (put, rest') => shape.readPlaces (index + 1) (put record) rest' members

theorem length_of_readPlaces {shape : Shape σ} {index : Nat} {record found : σ}
    {bytes rest : Octets} {members : List (Member σ)}
    (h : shape.readPlaces index record bytes members = .ok (found, rest)) :
    rest.length ≤ bytes.length := by
  induction members generalizing index record bytes with
  | nil =>
    simp only [readPlaces] at h
    split at h
    · cases h
    · next hc => cases h; exact Nat.le_of_lt (length_of_closeList hc)
  | cons member members ih =>
    have step : ∀ {next}, (if index = 0 then firstItem bytes else nextItem bytes) = .ok next →
        next.rest.length ≤ bytes.length := by
      intro next hn
      split at hn
      · exact length_of_firstItem hn
      · exact Nat.le_of_lt (length_of_nextItem hn)
    simp only [readPlaces] at h
    split at h
    · cases h
    · next hn =>
      split at h
      · cases h; exact step hn
      · cases h
    · next hn =>
      have := step hn
      split at h
      · cases h
      · next hr =>
        have := member.reader.length_lt hr
        have := ih h
        simp only [Next.rest] at *
        omega

/-! ### Both -/

/-- Takes a record. -/
def reader (shape : Shape σ) : Reader σ where
  read bytes :=
    match skipBlanks bytes with
    | [] => .error Cause.endInValue.here
    | b :: rest =>
      if b = octet '\x7b' then shape.readObject rest
      else if b = octet '[' then shape.readPlaces 0 shape.blank rest shape.members
      else .error (misfit (.record shape.name) b rest).here
  length_lt {bytes value rest} h := by
    split at h
    · cases h
    · next hb =>
      have := length_lt_of_skipBlanks hb
      split at h
      · exact Nat.lt_trans (length_of_readObject h) this
      · split at h
        · exact Nat.lt_of_le_of_lt (length_of_readPlaces h) this
        · cases h

/-- The format of records of a shape. -/
def format (shape : Shape σ) : Format σ where
  reader := shape.reader
  write record := .object (shape.members.map fun member => (member.name, member.write record))

end Shape

end ListingReview.Json
