import ListingReview.Text.Numeral

/-! # Net: addresses

An address is of four octets, written in decimal with full stops, or of eight groups of 16 bits,
written in hexadecimal with colons. In the longer form two colons stand for groups of zeros, once,
and the last two groups may be written as an address of four octets.

An address of eight groups is shown without leading zeros and with the longest run of at least two
zero groups left out, the first of equally long ones; one that stands for four octets shows them. -/

namespace ListingReview.Net

open Text (isDigitIn valueIn)

/-- An address of four octets, or of eight groups of two octets. -/
inductive Address where
  | four (a b c d : Nat)
  /-- The eight groups of the longer form. -/
  | six (groups : List Nat)
deriving DecidableEq, Repr

/-! ### Reading -/

/-- Takes all digits in front, of which there must be one and not more than `most`. -/
def readDigits (base most : Nat) (text : List Char) : Option (List Char × List Char) :=
  let digits := text.takeWhile (isDigitIn base)
  if 0 < digits.length && digits.length ≤ most then some (digits, text.dropWhile (isDigitIn base))
  else none

/-- Takes an octet in decimal without leading zeros. -/
def readOctet (text : List Char) : Option (Nat × List Char) := do
  let (digits, rest) ← readDigits 10 3 text
  if digits.head? = some '0' && digits.length ≠ 1 then none
  else if valueIn 10 digits < 0x100 then some (valueIn 10 digits, rest)
  else none

/-- Takes a group of 16 bits in hexadecimal. -/
def readGroup (text : List Char) : Option (Nat × List Char) := do
  let (digits, rest) ← readDigits 16 4 text
  return (valueIn 16 digits, rest)

/-- Takes a character. -/
def readMark (mark : Char) : List Char → Option (List Char)
  | [] => none
  | c :: rest => if c = mark then some rest else none

/-- Takes an address of four octets. -/
def readFour (text : List Char) : Option ((Nat × Nat × Nat × Nat) × List Char) := do
  let (a, rest) ← readOctet text
  let (b, rest) ← readOctet (← readMark '.' rest)
  let (c, rest) ← readOctet (← readMark '.' rest)
  let (d, rest) ← readOctet (← readMark '.' rest)
  return ((a, b, c, d), rest)

/-- What groups were taken, and whether the last two were written as four octets. -/
structure Groups where
  groups : List Nat
  endsInFour : Bool
  rest : List Char

/-- Takes up to `most` groups with colons between them; the first one has none in front. -/
def readGroups (most : Nat) (isFirst : Bool) (text : List Char) : Groups :=
  match most with
  | 0 => ⟨[], false, text⟩
  | left + 1 =>
    match if isFirst then some text else readMark ':' text with
    | none => ⟨[], false, text⟩
    | some start =>
      match if left = 0 then none else readFour start with
      | some ((a, b, c, d), rest) => ⟨[a * 0x100 + b, c * 0x100 + d], true, rest⟩
      | none =>
        match readGroup start with
        | none => ⟨[], false, text⟩
        | some (group, rest) =>
          let others := readGroups left false rest
          ⟨group :: others.groups, others.endsInFour, others.rest⟩

/-- Takes an address of eight groups. -/
def readSix (text : List Char) : Option (List Nat × List Char) := do
  let front := readGroups 8 true text
  if front.groups.length = 8 then some (front.groups, front.rest)
  else if front.endsInFour then none
  else
    let start ← readMark ':' (← readMark ':' front.rest)
    let back := readGroups (7 - front.groups.length) true start
    let zeros := List.replicate (8 - front.groups.length - back.groups.length) 0
    some (front.groups ++ zeros ++ back.groups, back.rest)

/-- The address that a text is, if it is one. -/
def Address.ofText? (text : List Char) : Option Address :=
  match readFour text with
  | some ((a, b, c, d), rest) => if rest.isEmpty then some (.four a b c d) else none
  | none =>
    match readSix text with
    | some (groups, rest) => if rest.isEmpty then some (.six groups) else none
    | none => none

/-! ### Writing -/

/-- Four octets with full stops. -/
def fourText (a b c d : Nat) : List Char :=
  ['.'].intercalate [Nat.toDigits 10 a, Nat.toDigits 10 b, Nat.toDigits 10 c, Nat.toDigits 10 d]

/-- Groups with colons. -/
def groupsText (groups : List Nat) : List Char := [':'].intercalate (groups.map (Nat.toDigits 16))

/-- The number of zeros in front. -/
def zerosInFront (groups : List Nat) : Nat := (groups.takeWhile (· == 0)).length

/-- Where the longest run of zeros starts, and how long it is. -/
def longestZeros (groups : List Nat) : Nat × Nat :=
  (List.range groups.length).foldl
    (fun best start =>
      let length := zerosInFront (groups.drop start)
      if best.2 < length then (start, length) else best)
    (0, 0)

/-- Eight groups with their longest run of zeros left out. -/
def sixText (groups : List Nat) : List Char :=
  match groups with
  | [0, 0, 0, 0, 0, 0xFFFF, high, low] =>
    "::ffff:".toList ++ fourText (high / 0x100) (high % 0x100) (low / 0x100) (low % 0x100)
  | _ =>
    let (start, length) := longestZeros groups
    if length < 2 then groupsText groups
    else groupsText (groups.take start) ++ ':' :: ':' :: groupsText (groups.drop (start + length))

def Address.text : Address → List Char
  | four a b c d => fourText a b c d
  | six groups => sixText groups

def Address.isSix : Address → Bool
  | four .. => false
  | six _ => true

/-- An address with a port. -/
structure Endpoint where
  address : Address
  port : UInt16
deriving DecidableEq, Repr

/-- An endpoint as it is shown; an address of eight groups stands in brackets. -/
def Endpoint.text (endpoint : Endpoint) : String :=
  let port := ':' :: Nat.toDigits 10 endpoint.port.toNat
  if endpoint.address.isSix then
    String.ofList ('[' :: (endpoint.address.text ++ ']' :: port))
  else String.ofList (endpoint.address.text ++ port)

end ListingReview.Net
