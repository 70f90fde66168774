import ListingReview.Text.CaseTable
import ListingReview.Text.CaseContext

/-! # Text: lower case

The full lower case of a text, the same in every language. A letter is lowered on its own, with two
exceptions: the capital i with a dot above becomes two characters, and a capital sigma is lowered to
its final form at the end of a word. -/

namespace ListingReview.Text

/-- The code point to which `n` is lowered by runs in ascending order. -/
def lowerCode : List CaseRun → Nat → Nat
  | [], n => n
  | run :: runs, n =>
    if n < run.first then n
    else if run.covers n then run.lower n
    else lowerCode runs n

/-- A letter lowered on its own to a single character. -/
def lowerChar (c : Char) : Char := Char.ofNat (lowerCode caseRuns c.toNat)

/-- Whether the first character that is not passed over is a cased one. -/
def casedNext (text : List Char) : Bool :=
  match text.dropWhile isCaseIgnorable with
  | [] => false
  | c :: _ => isCased c

/-- A letter in its surroundings lowered: `before` is what stands in front of it, nearest first. -/
def lowerLetter (before : List Char) (c : Char) (after : List Char) : List Char :=
  if c = 'İ' then ['i', '\u0307']
  else if c = 'Σ' then if casedNext before && !casedNext after then ['ς'] else ['σ']
  else [lowerChar c]

/-- The rest of a text lowered, after the characters of `before`. -/
def lowerFrom (before : List Char) : List Char → List Char
  | [] => []
  | c :: rest => lowerLetter before c rest ++ lowerFrom (c :: before) rest

/-- A text in lower case. -/
def lower (text : List Char) : List Char := lowerFrom [] text

end ListingReview.Text
