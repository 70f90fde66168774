import ListingReview.Text.HiddenTable

/-! # Text: quoted

A text inside double quotes as messages show it: quotes, backslashes and the common controls are
written by a letter after a backslash, every other hidden character by its code point. -/

namespace ListingReview.Text

/-- The letter that stands for a character after a backslash. -/
def quoteLetter : Char → Option Char
  | '\x00' => some '0'
  | '\t' => some 't'
  | '\n' => some 'n'
  | '\r' => some 'r'
  | '"' => some '"'
  | '\\' => some '\\'
  | _ => none

/-- A character inside quotes. -/
def quoteChar (c : Char) : List Char :=
  match quoteLetter c with
  | some letter => ['\\', letter]
  | none =>
    if isHidden c then '\\' :: 'u' :: '\x7b' :: (Nat.toDigits 16 c.toNat ++ ['\x7d']) else [c]

/-- A text between quotes. -/
def quoted (text : List Char) : List Char := '"' :: (text.flatMap quoteChar ++ ['"'])

end ListingReview.Text
