import ListingReview.Json.Record

/-! # JSON: the grammar

What a JSON text looks like, said without the functions that read it: as relations between octets
and what they stand for.

* `Spells`, `Loose`: what stands between the quotes of a text. The same text can be spelled in many
  ways; a loose one need not be Unicode, which is all that is asked where a value is passed over.
* `IsNumeral`: numerals by their parts.
* `Brackets`: parts between brackets, with commas between them and blanks everywhere.
* `WellFormed`: values of any kind and any depth. -/

namespace ListingReview.Json

open Text (Octets octets)

/-- Nothing but blanks. -/
def Blanks (bytes : Octets) : Prop := ∀ b ∈ bytes, isBlankOctet b = true

/-! ### Texts -/

/-- Four hexadecimal digits and their value. -/
inductive Hex : Nat → Octets → Prop where
  | digits {a b c d : UInt8} {i j k l : Nat} (ha : hexValue a = some i) (hb : hexValue b = some j)
    (hc : hexValue c = some k) (hd : hexValue d = some l) :
    Hex (((i * 16 + j) * 16 + k) * 16 + l) [a, b, c, d]

/-- What an escape stands for, and the escape behind its backslash: a letter, a unit of UTF-16, or
two units that are the halves of a pair. -/
inductive IsEscape : Octets → Octets → Prop where
  | letter {b c : UInt8} (hc : escapeLetter b = some c) : IsEscape [c] [b]
  | unit {n : Nat} {digits : Octets} (hn : Hex n digits) (hlow : isLowHalf n = false)
    (hhigh : isHighHalf n = false) : IsEscape (codePoint n) (octet 'u' :: digits)
  | pair {high low : Nat} {digits digits' : Octets} (hh : Hex high digits)
    (hhigh : isHighHalf high = true) (hl : Hex low digits') (hlow : isLowHalf low = true) :
    IsEscape (codePoint (0x10000 + (high - 0xD800) * 0x400 + (low - 0xDC00)))
      (octet 'u' :: (digits ++ octet '\\' :: octet 'u' :: digits'))

/-- An octet that stands for itself between quotes. -/
structure IsPlain (b : UInt8) : Prop where
  ne_quote : b ≠ octet '"'
  ne_slash : b ≠ octet '\\'
  not_control : ¬ b < 0x20

/-- The octets of a text and how they are spelled between quotes. -/
inductive Spells : Octets → Octets → Prop where
  | nil : Spells [] []
  | plain {b : UInt8} {value spelling : Octets} (hb : IsPlain b) (h : Spells value spelling) :
    Spells (b :: value) (b :: spelling)
  | escape {found escape value spelling : Octets} (he : IsEscape found escape)
    (h : Spells value spelling) : Spells (found ++ value) (octet '\\' :: (escape ++ spelling))

/-- An escape that need not stand for anything. -/
inductive IsLooseEscape : Octets → Prop where
  | letter {b : UInt8} (hb : (escapeLetter b).isSome = true) : IsLooseEscape [b]
  | unit {n : Nat} {digits : Octets} (hn : Hex n digits) : IsLooseEscape (octet 'u' :: digits)

/-- What may stand between quotes if nobody asks what it spells. -/
inductive Loose : Octets → Prop where
  | nil : Loose []
  | plain {b : UInt8} {spelling : Octets} (hb : IsPlain b) (h : Loose spelling) :
    Loose (b :: spelling)
  | escape {escape spelling : Octets} (he : IsLooseEscape escape) (h : Loose spelling) :
    Loose (octet '\\' :: (escape ++ spelling))

/-- A text between quotes. -/
inductive IsText (text : String) : Octets → Prop where
  | quoted {spelling : Octets} (h : Spells (octets text) spelling) :
    IsText text (octet '"' :: (spelling ++ [octet '"']))

/-! ### Numerals -/

/-- The octets of digits that are given by their values. -/
def digitOctets (digits : List Nat) : Octets := digits.map fun digit => UInt8.ofNat (0x30 + digit)

/-- At least one digit, and none of them above nine. -/
structure AreDigits (digits : List Nat) : Prop where
  ne_nil : digits ≠ []
  lt_ten : ∀ digit ∈ digits, digit < 10

/-- An exponent with its letter, if there is one. -/
inductive IsExponent : Option Int → Octets → Prop where
  | none : IsExponent none []
  | positive {letter : UInt8} {sign : Octets} {digits : List Nat}
    (hletter : letter = octet 'e' ∨ letter = octet 'E') (hsign : sign = [] ∨ sign = [octet '+'])
    (hdigits : AreDigits digits) :
    IsExponent (some (digitsValue digits)) (letter :: (sign ++ digitOctets digits))
  | negative {letter : UInt8} {digits : List Nat}
    (hletter : letter = octet 'e' ∨ letter = octet 'E') (hdigits : AreDigits digits) :
    IsExponent (some (-digitsValue digits)) (letter :: octet '-' :: digitOctets digits)

/-- A point and the digits behind it, if there are any. -/
def fractionOctets (digits : List Nat) : Octets :=
  if digits = [] then [] else octet '.' :: digitOctets digits

/-- A numeral: a sign, digits without a leading zero, a fraction and an exponent. -/
inductive IsNumeral (numeral : Numeral) : Octets → Prop where
  | parts {exponent : Octets} (hwhole : AreDigits numeral.whole)
    (hzero : numeral.whole.head? = some 0 → numeral.whole.length = 1)
    (hfraction : ∀ digit ∈ numeral.fraction, digit < 10)
    (hexponent : IsExponent numeral.exponent exponent) :
    IsNumeral numeral ((if numeral.negative then [octet '-'] else []) ++
      (digitOctets numeral.whole ++ (fractionOctets numeral.fraction ++ exponent)))

/-! ### Brackets -/

/-- What follows a part inside brackets: the closing bracket, or a comma and more parts. -/
inductive Behind (closing : UInt8) : List Octets → Octets → Prop where
  | close {blanks : Octets} (h : Blanks blanks) : Behind closing [] (blanks ++ [closing])
  | comma {blanks blanks' part text : Octets} {parts : List Octets} (h : Blanks blanks)
    (h' : Blanks blanks') (hrest : Behind closing parts text) :
    Behind closing (part :: parts) (blanks ++ octet ',' :: (blanks' ++ (part ++ text)))

/-- Parts between brackets. -/
inductive Brackets (opening closing : UInt8) : List Octets → Octets → Prop where
  | empty {blanks : Octets} (h : Blanks blanks) :
    Brackets opening closing [] (opening :: (blanks ++ [closing]))
  | parts {blanks part text : Octets} {parts : List Octets} (h : Blanks blanks)
    (hrest : Behind closing parts text) :
    Brackets opening closing (part :: parts) (opening :: (blanks ++ (part ++ text)))

/-- The parts of a list. -/
abbrev IsList : List Octets → Octets → Prop := Brackets (octet '[') (octet ']')

/-- A key, as it is spelled, and the value behind it. -/
structure Entry where
  key : Octets
  /-- In front of the colon. -/
  before : Octets
  /-- Behind the colon. -/
  after : Octets
  value : Octets
  blanks_before : Blanks before
  blanks_after : Blanks after

/-- An entry behind the opening quote of its key. -/
def Entry.body (entry : Entry) : Octets :=
  entry.key ++ octet '"' :: (entry.before ++ octet ':' :: (entry.after ++ entry.value))

def Entry.text (entry : Entry) : Octets := octet '"' :: entry.body

/-- The entries of an object. -/
def IsObject (entries : List Entry) : Octets → Prop :=
  Brackets (octet '\x7b') (octet '\x7d') (entries.map Entry.text)

/-! ### Values -/

/-- A value of any kind. -/
inductive WellFormed : Octets → Prop where
  | text {spelling : Octets} (h : Loose spelling) :
    WellFormed (octet '"' :: (spelling ++ [octet '"']))
  | numeral {numeral : Numeral} {text : Octets} (h : IsNumeral numeral text) : WellFormed text
  | null : WellFormed (octet 'n' :: nullTail)
  | trueWord : WellFormed (octet 't' :: trueTail)
  | falseWord : WellFormed (octet 'f' :: falseTail)
  | list {parts : List Octets} {text : Octets} (h : IsList parts text)
    (hparts : ∀ part ∈ parts, WellFormed part) : WellFormed text
  | object {entries : List Entry} {text : Octets} (h : IsObject entries text)
    (hkeys : ∀ entry ∈ entries, Loose entry.key)
    (hvalues : ∀ entry ∈ entries, WellFormed entry.value) : WellFormed text

/-- An entry that is JSON. -/
structure Entry.Proper (entry : Entry) : Prop where
  key : Loose entry.key
  value : WellFormed entry.value

/-- A text is an object with these entries. -/
structure HasEntries (text : Octets) (entries : List Entry) : Prop where
  isObject : IsObject entries text
  proper : ∀ entry ∈ entries, entry.Proper

/-- A text is a list with these items. -/
structure HasItems (text : Octets) (items : List Octets) : Prop where
  isList : IsList items text
  wellFormed : ∀ item ∈ items, WellFormed item

theorem HasEntries.wellFormed {text : Octets} {entries : List Entry} (h : HasEntries text entries) :
    WellFormed text :=
  .object h.isObject (fun entry he => (h.proper entry he).key) fun entry he =>
    (h.proper entry he).value

/-- What stands behind a value does not go on with it. -/
def Ends (rest : Octets) : Prop :=
  ∀ b ∈ rest.head?, isBlankOctet b = true ∨ b ∈ [octet ',', octet ']', octet '\x7d']

end ListingReview.Json
