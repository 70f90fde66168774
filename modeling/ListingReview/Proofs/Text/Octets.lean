import Mathlib.Tactic.SplitIfs
import ListingReview.Text.Octets

/-! # Text: octets, character by character

The octets of a text are those of its characters, one after another. A character of seven bits has
one octet, and all octets of another one have their highest bit set. -/

namespace ListingReview.Text

/-- The octets of characters. -/
def encode (chars : List Char) : Octets := chars.flatMap String.utf8EncodeChar

theorem octets_ofList (chars : List Char) : octets (String.ofList chars) = encode chars := by
  rw [octets, String.toUTF8_eq_toByteArray, String.toByteArray_ofList, List.utf8Encode,
    List.data_toByteArray]
  rfl

theorem octets_eq (text : String) : octets text = encode text.toList := by
  rw [← octets_ofList, String.ofList_toList]

theorem encode_append (chars chars' : List Char) :
    encode (chars ++ chars') = encode chars ++ encode chars' := List.flatMap_append

theorem encode_cons (c : Char) (chars : List Char) :
    encode (c :: chars) = String.utf8EncodeChar c ++ encode chars := List.flatMap_cons

theorem utf8EncodeChar_of_lt {c : Char} (h : c.toNat < 0x80) :
    String.utf8EncodeChar c = [c.toUInt8] := by
  have : c.val.toNat ≤ 127 := Nat.le_of_lt_succ h
  simp only [String.utf8EncodeChar, if_pos this]
  rfl

theorem le_of_mem_utf8EncodeChar {c : Char} (h : 0x80 ≤ c.toNat) :
    ∀ b ∈ String.utf8EncodeChar c, 0x80 ≤ b := by
  have hc : ¬ c.val.toNat ≤ 127 := Nat.not_le.mpr h
  have hle : ∀ n < 256, 0x80 ≤ n → 0x80 ≤ UInt8.ofNat n := fun n hn hle => by
    rw [UInt8.le_iff_toNat_le, UInt8.toNat_ofNat_of_lt' hn]
    exact hle
  simp only [String.utf8EncodeChar, if_neg hc]
  split_ifs <;> simp only [List.forall_mem_cons]
  · exact ⟨hle _ (by omega) (by omega), hle _ (by omega) (by omega), List.forall_mem_nil _⟩
  · exact ⟨hle _ (by omega) (by omega), hle _ (by omega) (by omega), hle _ (by omega) (by omega),
      List.forall_mem_nil _⟩
  · exact ⟨hle _ (by omega) (by omega), hle _ (by omega) (by omega), hle _ (by omega) (by omega),
      hle _ (by omega) (by omega), List.forall_mem_nil _⟩

end ListingReview.Text
