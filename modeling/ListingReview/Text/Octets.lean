/-! # Text: octets

A text travels as octets in UTF-8. Not every run of octets is a text; those of a text give it
back. -/

namespace ListingReview.Text

/-- What arrives or is sent: a run of octets. -/
abbrev Octets := List UInt8

/-- The octets of a text. -/
def octets (text : String) : Octets := text.toUTF8.data.toList

/-- The text with these octets, unless they are not UTF-8. -/
def ofOctets? (bytes : Octets) : Option String := String.fromUTF8? ⟨bytes.toArray⟩

theorem ofOctets?_octets (text : String) : ofOctets? (octets text) = some text := by
  simp only [ofOctets?, octets, Array.toArray_toList, String.fromUTF8?,
    String.toUTF8_eq_toByteArray]
  rw [dif_pos text.isValidUTF8]
  rfl

end ListingReview.Text
