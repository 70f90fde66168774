/-! # Text: places

A place in a text is the number of octets in front of it. -/

namespace ListingReview.Text

/-- The number of octets of a text. -/
def size : List Char → Nat
  | [] => 0
  | c :: rest => c.utf8Size + size rest

/-- The text behind a place. -/
def behind : Nat → List Char → List Char
  | _, [] => []
  | place, c :: rest => if place = 0 then c :: rest else behind (place - c.utf8Size) rest

/-- The text in front of a place. -/
def before : Nat → List Char → List Char
  | _, [] => []
  | place, c :: rest => if place = 0 then [] else c :: before (place - c.utf8Size) rest

theorem behind_size (front rest : List Char) : behind (size front) (front ++ rest) = rest := by
  induction front with
  | nil => cases rest <;> simp [size, behind]
  | cons c front ih =>
    have h := c.utf8Size_pos
    rw [List.cons_append, size, behind, if_neg (by omega), Nat.add_sub_cancel_left, ih]

theorem before_size (front rest : List Char) : before (size front) (front ++ rest) = front := by
  induction front with
  | nil => cases rest <;> simp [size, before]
  | cons c front ih =>
    have h := c.utf8Size_pos
    rw [List.cons_append, size, before, if_neg (by omega), Nat.add_sub_cancel_left, ih]

end ListingReview.Text
