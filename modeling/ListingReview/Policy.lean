import ListingReview.Text.Blank
import ListingReview.Text.Fields
import ListingReview.Text.Lowercase
import ListingReview.Text.Numeral
import ListingReview.Json.Format

/-! # The policy

A policy holds the terms that are banned or call for a review, the beginnings of image types that
do, and the largest size an image may have. Terms are kept in normal form: trimmed, in lower case
and not empty. The limit has a sign; below zero every image of a known size is too large.

A policy is made of lists, or of settings by name. A list that is missing or holds no term, and a
size that is missing or no whole number of 64 bits, fall back to the standard policy. -/

namespace ListingReview

/-- Values by their names. -/
abbrev Settings := String → Option String

/-- By what listings are judged. -/
structure Policy where
  bannedTerms : List String
  flaggedTerms : List String
  flaggedTypes : List String
  /-- The largest size of an image that is not too large, in octets. -/
  sizeLimit : Int64
deriving DecidableEq, Repr

namespace Policy

/-- A term without blanks around it and in lower case. -/
def normalTerm (term : List Char) : List Char := Text.lower (Text.trim term)

/-- The terms in normal form, without empty ones. -/
def normalTerms (terms : List (List Char)) : List String :=
  ((terms.map normalTerm).filter fun term => !term.isEmpty).map String.ofList

/-- The policy with the terms and types given. -/
def ofLists (banned flagged types : List String) (limit : Int64) : Policy where
  bannedTerms := normalTerms (banned.map String.toList)
  flaggedTerms := normalTerms (flagged.map String.toList)
  flaggedTypes := normalTerms (types.map String.toList)
  sizeLimit := limit

def standardBanned : List String := ["firearm", "weapon", "fentanyl", "ivory", "counterfeit"]
def standardFlagged : List String := ["replica", "adult", "lottery", "knife"]
def standardTypes : List String := ["image/svg", "image/x-icon"]

/-- The standard limit in megabytes. -/
def standardMegabytes : Int := 20

/-- The number of octets in a megabyte. -/
def megabyte : Int := 0x100000

def minSize : Int := -0x8000000000000000
def maxSize : Int := 0x7FFFFFFFFFFFFFFF

/-- A whole number of octets, or the bound that it passes. -/
def saturated (n : Int) : Int64 :=
  if n < minSize then Int64.ofInt minSize
  else if maxSize < n then Int64.ofInt maxSize
  else Int64.ofInt n

/-- The policy where nothing is set. -/
def standard : Policy :=
  ofLists standardBanned standardFlagged standardTypes (saturated (standardMegabytes * megabyte))

/-- The terms of a line with commas between them, or the standard ones if there are none. -/
def termsOr (others : List String) (line : Option String) : List String :=
  let terms := match line with
    | none => []
    | some line => normalTerms (Text.fields ',' line.toList)
  if terms.isEmpty then normalTerms (others.map String.toList) else terms

/-- A whole number of megabytes of 64 bits. -/
def megabytes? (text : String) : Option Int :=
  (Text.ofSignedDecimal? (Text.trim text.toList)).filter fun n => minSize ≤ n && n ≤ maxSize

def bannedKey : String := "MODERATION_BANNED_KEYWORDS"
def flaggedKey : String := "MODERATION_FLAGGED_KEYWORDS"
def typesKey : String := "MODERATION_FLAGGED_MIME_PREFIXES"
def megabytesKey : String := "MODERATION_MAX_IMAGE_SIZE_MB"

/-- The names of the settings that make a policy. -/
def keys : List String := [bannedKey, flaggedKey, typesKey, megabytesKey]

/-- The policy that settings describe. -/
def ofSettings (settings : Settings) : Policy where
  bannedTerms := termsOr standardBanned (settings bannedKey)
  flaggedTerms := termsOr standardFlagged (settings flaggedKey)
  flaggedTypes := termsOr standardTypes (settings typesKey)
  sizeLimit :=
    saturated (((settings megabytesKey).bind megabytes?).getD standardMegabytes * megabyte)

/-- A policy as it is shown. -/
def document (policy : Policy) : Json.Document :=
  .object
    [("banned_keywords", (Json.Format.list .text).write policy.bannedTerms),
     ("flagged_keywords", (Json.Format.list .text).write policy.flaggedTerms),
     ("flagged_mime_prefixes", (Json.Format.list .text).write policy.flaggedTypes),
     ("max_image_size_bytes", Json.Format.signed.write policy.sizeLimit)]

end Policy

end ListingReview
