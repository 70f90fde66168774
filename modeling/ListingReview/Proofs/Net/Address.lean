import ListingReview.Net.Address
import ListingReview.Proofs.Text.Search
import Mathlib.Tactic.SplitIfs

/-! # Net: the texts of addresses

Which texts are addresses, as a grammar (`IsAddress`), and that just these are read
(`ofText?_eq_some_iff`). Digits are taken as far as they go, so what is read off the front of a text
is settled by where they end: `readFour_eq_some_iff`, `readGroup_eq_some_iff`. Groups are read one
after another (`readGroups_sound`) until the text ends or two colons stand next
(`readGroups_complete`). -/

namespace ListingReview.Net

open Text (isDigitIn valueIn)

/-! ### The grammar -/

/-- Digits in a base, at least one and no more than `most`, and the number that they stand for. -/
structure IsDigits (base most : Nat) (text : List Char) (n : Nat) : Prop where
  ne_nil : text ≠ []
  length_le : text.length ≤ most
  digits : ∀ c ∈ text, isDigitIn base c = true
  value : valueIn base text = n

/-- An octet in decimal: it has no zero in front unless it is zero. -/
structure IsOctet (text : List Char) (n : Nat) : Prop extends IsDigits 10 3 text n where
  lt : n < 0x100
  eq_zero : text.head? = some '0' → text = ['0']

/-- Four octets with full stops between them. -/
def IsFour (text : List Char) (a b c d : Nat) : Prop :=
  ∃ first second third fourth, IsOctet first a ∧ IsOctet second b ∧ IsOctet third c ∧
    IsOctet fourth d ∧ text = first ++ '.' :: (second ++ '.' :: (third ++ '.' :: fourth))

/-- The colon in front of a group, which the first one lacks. -/
def mark (isFirst : Bool) : List Char := if isFirst then [] else [':']

/-- Groups of sixteen bits in hexadecimal with colons between them, and whether the last two are
written as four octets. -/
inductive AreGroups : Bool → List Char → List Nat → Bool → Prop where
  | nil {isFirst : Bool} : AreGroups isFirst [] [] false
  | group {isFirst inFour : Bool} {text more : List Char} {n : Nat} {groups : List Nat} :
    IsDigits 16 4 text n → AreGroups false more groups inFour →
      AreGroups isFirst (mark isFirst ++ text ++ more) (n :: groups) inFour
  | four {isFirst : Bool} {text : List Char} {a b c d : Nat} :
    IsFour text a b c d →
      AreGroups isFirst (mark isFirst ++ text) [a * 0x100 + b, c * 0x100 + d] true

/-- An address: four octets, or eight groups, or fewer groups with two colons in the place of zeros,
where only groups behind the colons may be written as four octets. -/
inductive IsAddress : List Char → Address → Prop where
  | four {text : List Char} {a b c d : Nat} : IsFour text a b c d → IsAddress text (.four a b c d)
  | full {text : List Char} {groups : List Nat} {inFour : Bool} :
    AreGroups true text groups inFour → groups.length = 8 → IsAddress text (.six groups)
  | shortened {front back : List Char} {left right : List Nat} {inFour : Bool} :
    AreGroups true front left false → AreGroups true back right inFour →
      left.length + right.length < 8 →
      IsAddress (front ++ ':' :: ':' :: back)
        (.six (left ++ List.replicate (8 - left.length - right.length) 0 ++ right))

/-! ### Digits -/

theorem IsDigits.hexadecimal {base most n : Nat} {text : List Char} (h : IsDigits base most text n)
    (hbase : base ≤ 16) : ∀ c ∈ text, isDigitIn 16 c = true := fun c hc =>
  decide_eq_true ((of_decide_eq_true (h.digits c hc)).trans_le hbase)

/-- No digit stands next. -/
def NoDigit (base : Nat) (rest : List Char) : Prop := ∀ c ∈ rest.head?, isDigitIn base c = false

variable {base most : Nat} {text rest : List Char}

theorem readDigits_eq_some_iff {digits : List Char} :
    readDigits base most text = some (digits, rest) ↔
      text = digits ++ rest ∧ NoDigit base rest ∧
        IsDigits base most digits (valueIn base digits) := by
  have hguard (digits : List Char) :
      (0 < digits.length && digits.length ≤ most : Bool) = true ↔
        digits ≠ [] ∧ digits.length ≤ most := by
    rw [Bool.and_eq_true, decide_eq_true_iff, decide_eq_true_iff, List.length_pos_iff]
  simp only [readDigits]
  constructor
  · intro h
    split_ifs at h with hlength
    obtain ⟨hne, hle⟩ := (hguard _).mp hlength
    obtain ⟨htake, hdrop⟩ := Prod.mk.inj (Option.some.inj h)
    obtain ⟨htext, hdigits, hrest⟩ := Text.cut_iff.mp ⟨htake, hdrop⟩
    rw [htake] at hne hle
    exact ⟨htext, hrest, hne, hle, hdigits, rfl⟩
  · rintro ⟨htext, hrest, hne, hle, hdigits, -⟩
    obtain ⟨htake, hdrop⟩ := Text.cut_iff.mpr ⟨htext, hdigits, hrest⟩
    rw [htake, hdrop, if_pos ((hguard digits).mpr ⟨hne, hle⟩)]

theorem readDigits_eq_none (h : NoDigit base text) : readDigits base most text = none := by
  refine Option.eq_none_iff_forall_ne_some.mpr fun ⟨digits, rest⟩ hsome => ?_
  obtain ⟨rfl, -, hdigits⟩ := readDigits_eq_some_iff.mp hsome
  obtain ⟨c, digits, rfl⟩ := List.exists_cons_of_ne_nil hdigits.ne_nil
  exact Bool.false_ne_true ((h c rfl).symm.trans (hdigits.digits c List.mem_cons_self))

theorem readMark_eq_some_iff {c : Char} : readMark c text = some rest ↔ text = c :: rest := by
  cases text with
  | nil => simp [readMark]
  | cons first text =>
    rw [readMark]
    split_ifs with h <;> simp [h]

theorem readOctet_eq_some_iff {n : Nat} :
    readOctet text = some (n, rest) ↔
      ∃ digits, text = digits ++ rest ∧ NoDigit 10 rest ∧ IsOctet digits n := by
  simp only [readOctet, Option.bind_eq_bind, Option.bind_eq_some_iff, Prod.exists,
    readDigits_eq_some_iff, Bool.and_eq_true, decide_eq_true_iff]
  constructor
  · rintro ⟨digits, _, ⟨htext, hrest, hdigits⟩, h⟩
    split_ifs at h with hzeros hlt
    obtain ⟨rfl, rfl⟩ := Prod.mk.inj (Option.some.inj h)
    refine ⟨digits, htext, hrest, hdigits, hlt, fun hhead => ?_⟩
    obtain ⟨c, hone⟩ := List.length_eq_one_iff.mp (by simpa [hhead] using hzeros)
    rw [hone] at hhead ⊢
    exact congrArg (fun c => [c]) (Option.some.inj hhead)
  · rintro ⟨digits, htext, hrest, hdigits, hlt, hzero⟩
    obtain rfl := hdigits.value
    have hzeros : ¬ (digits.head? = some '0' ∧ digits.length ≠ 1) := by
      rintro ⟨hhead, hlength⟩
      exact hlength (by rw [hzero hhead]; rfl)
    exact ⟨digits, rest, ⟨htext, hrest, hdigits⟩, by rw [if_neg hzeros, if_pos hlt]⟩

theorem readGroup_eq_some_iff {n : Nat} :
    readGroup text = some (n, rest) ↔
      ∃ digits, text = digits ++ rest ∧ NoDigit 16 rest ∧ IsDigits 16 4 digits n := by
  simp only [readGroup, Option.bind_eq_bind, Option.bind_eq_some_iff, Prod.exists,
    readDigits_eq_some_iff]
  constructor
  · rintro ⟨digits, _, ⟨htext, hrest, hdigits⟩, h⟩
    obtain ⟨rfl, rfl⟩ := Prod.mk.inj (Option.some.inj h)
    exact ⟨digits, htext, hrest, hdigits⟩
  · rintro ⟨digits, htext, hrest, hdigits⟩
    obtain rfl := hdigits.value
    exact ⟨digits, rest, ⟨htext, hrest, hdigits⟩, rfl⟩

theorem noDigit_cons {c : Char} (hc : isDigitIn base c = false) (rest : List Char) :
    NoDigit base (c :: rest) := by
  rintro _ ⟨⟩
  exact hc

theorem readFour_eq_some_iff {a b c d : Nat} :
    readFour text = some ((a, b, c, d), rest) ↔
      ∃ front, text = front ++ rest ∧ NoDigit 10 rest ∧ IsFour front a b c d := by
  have hstop (rest : List Char) : NoDigit 10 ('.' :: rest) := noDigit_cons (by decide) rest
  simp only [readFour, Option.bind_eq_bind, Option.bind_eq_some_iff, Prod.exists,
    readOctet_eq_some_iff, readMark_eq_some_iff]
  constructor
  · rintro ⟨_, _, ⟨first, rfl, -, hfirst⟩, _, rfl, _, _, ⟨second, rfl, -, hsecond⟩, _, rfl, _, _,
      ⟨third, rfl, -, hthird⟩, _, rfl, _, _, ⟨fourth, rfl, hrest, hfourth⟩, ⟨⟩⟩
    exact ⟨_, by simp, hrest, first, second, third, fourth, hfirst, hsecond, hthird, hfourth, rfl⟩
  · rintro ⟨_, rfl, hrest, first, second, third, fourth, hfirst, hsecond, hthird, hfourth, rfl⟩
    exact ⟨a, _, ⟨first, by simp, hstop _, hfirst⟩, _, rfl, b, _, ⟨second, rfl, hstop _, hsecond⟩,
      _, rfl, c, _, ⟨third, rfl, hstop _, hthird⟩, _, rfl, d, _, ⟨fourth, rfl, hrest, hfourth⟩, rfl⟩

/-! ### Groups -/

/-- The text ends, or a colon stands next. -/
def Parted (rest : List Char) : Prop := ∀ c ∈ rest.head?, c = ':'

theorem parted_nil : Parted [] := by
  rintro _ ⟨⟩

theorem parted_colon (rest : List Char) : Parted (':' :: rest) := by
  rintro _ ⟨⟩
  rfl

theorem Parted.noDigit (h : Parted rest) (hbase : base ≤ 16) : NoDigit base rest := by
  intro c hc
  have hvalue : Text.digitValue ':' = 16 := by decide
  rw [h c hc, isDigitIn, hvalue, decide_eq_false_iff_not]
  exact Nat.not_lt.mpr hbase

/-- Four octets do not begin with digits that a full stop does not follow. -/
theorem readFour_eq_none {digits : List Char} (hdigits : ∀ c ∈ digits, isDigitIn 16 c = true)
    (h : Parted rest) : readFour (digits ++ rest) = none := by
  refine Option.eq_none_iff_forall_ne_some.mpr fun ⟨⟨a, b, c, d⟩, _⟩ hsome => ?_
  obtain ⟨_, htext, -, first, second, third, fourth, hfirst, -, -, -, rfl⟩ :=
    readFour_eq_some_iff.mp hsome
  -- both before the full stop and before the rest the text is cut where its digits end
  obtain ⟨-, hdrop⟩ := Text.cut_iff.mpr ⟨rfl, hdigits, h.noDigit (Nat.le_refl _)⟩
  rw [List.append_assoc, List.cons_append] at htext
  obtain ⟨-, hdrop'⟩ := Text.cut_iff.mpr
    ⟨htext, hfirst.hexadecimal (by decide), noDigit_cons (by decide) _⟩
  have hrest := hdrop.symm.trans hdrop'
  exact absurd (h '.' (by rw [hrest]; rfl)) (by decide)

theorem start_eq_some_iff {isFirst : Bool} {start : List Char} :
    (if isFirst then some text else readMark ':' text) = some start ↔
      text = mark isFirst ++ start := by
  cases isFirst with
  | true => exact Option.some_inj
  | false => exact readMark_eq_some_iff

/-- What is read as groups is groups. -/
theorem readGroups_sound (most : Nat) : ∀ (isFirst : Bool) (text : List Char),
    ∃ front, text = front ++ (readGroups most isFirst text).rest ∧
      AreGroups isFirst front (readGroups most isFirst text).groups
        (readGroups most isFirst text).endsInFour ∧
      (readGroups most isFirst text).groups.length ≤ most := by
  induction most with
  | zero => exact fun isFirst text => ⟨[], rfl, .nil, Nat.le_refl _⟩
  | succ left ih =>
    intro isFirst text
    have hnone : ∃ front, text = front ++ text ∧ AreGroups isFirst front [] false ∧ 0 ≤ left + 1 :=
      ⟨[], rfl, .nil, Nat.zero_le _⟩
    rw [readGroups]
    split
    · exact hnone
    · rename_i start hstart
      obtain rfl := start_eq_some_iff.mp hstart
      split
      · rename_i a b c d rest hfour
        split_ifs at hfour with hleft
        obtain ⟨front, rfl, -, hfront⟩ := readFour_eq_some_iff.mp hfour
        exact ⟨_, (List.append_assoc _ _ _).symm, .four hfront,
          Nat.succ_le_succ (Nat.pos_of_ne_zero hleft)⟩
      · split
        · exact hnone
        · rename_i group rest hgroup
          obtain ⟨digits, rfl, -, hdigits⟩ := readGroup_eq_some_iff.mp hgroup
          obtain ⟨front, hrest, hfront, hlength⟩ := ih false rest
          exact ⟨_, by simp only [List.append_assoc, ← hrest], .group hdigits hfront,
            Nat.succ_le_succ hlength⟩

/-- The text ends, or two colons stand next. -/
def Stops (rest : List Char) : Prop := rest = [] ∨ ∃ more, rest = ':' :: ':' :: more

theorem Stops.parted (h : Stops rest) : Parted rest := by
  rcases h with rfl | ⟨more, rfl⟩
  · exact parted_nil
  · exact parted_colon _

theorem parted_append {front : List Char} {groups : List Nat} {inFour : Bool}
    (h : AreGroups false front groups inFour) (hrest : Parted rest) : Parted (front ++ rest) := by
  cases h with
  | nil => exact hrest
  | group _ _ => exact parted_colon _
  | four _ => exact parted_colon _

theorem readGroup_of_parted (h : Parted text) : readGroup text = none := by
  rw [readGroup, readDigits_eq_none (h.noDigit (Nat.le_refl _))]
  rfl

/-- Where nothing more can be read, no group is. -/
theorem readGroups_stop (h : Stops rest) (most : Nat) (isFirst : Bool) :
    readGroups most isFirst rest = ⟨[], false, rest⟩ := by
  cases most with
  | zero => rfl
  | succ left =>
    rw [readGroups]
    split
    · rfl
    · rename_i start hstart
      have hparted : Parted start := by
        have htext := start_eq_some_iff.mp hstart
        cases isFirst with
        | true =>
          obtain rfl : rest = start := htext
          exact h.parted
        | false =>
          rcases h with rfl | ⟨more, rfl⟩
          · exact absurd htext (List.cons_ne_nil _ _).symm
          · obtain rfl := (List.cons.inj htext).2
            exact parted_colon _
      have hfour : readFour start = none := readFour_eq_none (List.forall_mem_nil _) hparted
      rw [hfour, readGroup_of_parted hparted, ite_self]

/-- All groups are read up to where they stop. -/
theorem readGroups_complete {isFirst inFour : Bool} {front : List Char} {groups : List Nat}
    (h : AreGroups isFirst front groups inFour) (hrest : Stops rest) :
    ∀ {most : Nat}, groups.length ≤ most →
      readGroups most isFirst (front ++ rest) = ⟨groups, inFour, rest⟩ := by
  induction h with
  | nil => exact fun _ => readGroups_stop hrest _ _
  | @group isFirst inFour digits more n groups hdigits hmore ih =>
    intro most hlength
    cases most with
    | zero => exact absurd hlength (Nat.not_succ_le_zero _)
    | succ left =>
      have hparted := parted_append hmore hrest.parted
      have hstart := start_eq_some_iff.mpr (rfl : mark isFirst ++ (digits ++ (more ++ rest)) = _)
      have hgroup : readGroup (digits ++ (more ++ rest)) = some (n, more ++ rest) :=
        readGroup_eq_some_iff.mpr ⟨digits, rfl, hparted.noDigit (Nat.le_refl _), hdigits⟩
      rw [List.append_assoc, List.append_assoc, readGroups, hstart]
      simp only [readFour_eq_none hdigits.digits hparted, ite_self, hgroup,
        ih (Nat.le_of_succ_le_succ hlength)]
  | @four isFirst digits a b c d hfour =>
    intro most hlength
    cases most with
    | zero => exact absurd hlength (Nat.not_succ_le_zero _)
    | succ left =>
      have hstart := start_eq_some_iff.mpr (rfl : mark isFirst ++ (digits ++ rest) = _)
      have hread : readFour (digits ++ rest) = some ((a, b, c, d), rest) :=
        readFour_eq_some_iff.mpr ⟨digits, rfl, hrest.parted.noDigit (by decide), hfour⟩
      have hleft : left ≠ 0 := Nat.one_le_iff_ne_zero.mp (Nat.le_of_succ_le_succ hlength)
      rw [List.append_assoc, readGroups, hstart]
      simp only [if_neg hleft, hread]

/-! ### Addresses -/

/-- Groups are no four octets, unless they are nothing else. -/
theorem readFour_groups {front : List Char} {groups : List Nat} {inFour : Bool}
    (h : AreGroups true front groups inFour) (hgroups : inFour = false ∨ groups.length ≠ 2)
    (hrest : Parted rest) : readFour (front ++ rest) = none := by
  cases h with
  | nil => exact readFour_eq_none (List.forall_mem_nil _) hrest
  | @group _ _ digits more n groups hdigits hmore =>
    have hnone : readFour (digits ++ (more ++ rest)) = none :=
      readFour_eq_none hdigits.digits (parted_append hmore hrest)
    rw [List.append_assoc, List.append_assoc]
    exact hnone
  | four _ => simp at hgroups

theorem readSix_sound {groups : List Nat} (h : readSix text = some (groups, [])) :
    IsAddress text (.six groups) := by
  obtain ⟨front, htext, hfront, hlength⟩ := readGroups_sound 8 true text
  simp only [readSix, Option.bind_eq_bind] at h
  generalize readGroups 8 true text = read at *
  split_ifs at h with hfull hfour
  · obtain ⟨rfl, hrest⟩ := Prod.mk.inj (Option.some.inj h)
    rw [hrest, List.append_nil] at htext
    rw [htext]
    exact .full hfront hfull
  · simp only [Option.bind_eq_some_iff, readMark_eq_some_iff] at h
    obtain ⟨_, hcolons, start, rfl, h⟩ := h
    obtain ⟨rfl, hend⟩ := Prod.mk.inj (Option.some.inj h)
    obtain ⟨back, hstart, hback, hlength'⟩ := readGroups_sound (7 - read.groups.length) true start
    rw [hend, List.append_nil] at hstart
    subst hstart
    rw [Bool.not_eq_true] at hfour
    rw [hfour] at hfront
    rw [htext, hcolons]
    exact .shortened hfront hback (by omega)

theorem readSix_full {groups : List Nat} {inFour : Bool} (h : AreGroups true text groups inFour)
    (hlength : groups.length = 8) : readSix text = some (groups, []) := by
  have hread := readGroups_complete h (.inl rfl) (Nat.le_of_eq hlength)
  rw [List.append_nil] at hread
  rw [readSix]
  simp only [hread, if_pos hlength]

theorem readSix_shortened {front back : List Char} {left right : List Nat} {inFour : Bool}
    (hfront : AreGroups true front left false) (hback : AreGroups true back right inFour)
    (hlength : left.length + right.length < 8) :
    readSix (front ++ ':' :: ':' :: back) =
      some (left ++ List.replicate (8 - left.length - right.length) 0 ++ right, []) := by
  have hleft : readGroups 8 true (front ++ ':' :: ':' :: back) =
      ⟨left, false, ':' :: ':' :: back⟩ :=
    readGroups_complete hfront (.inr ⟨back, rfl⟩) (by omega)
  have hright : readGroups (7 - left.length) true (back ++ []) = ⟨right, inFour, []⟩ :=
    readGroups_complete hback (.inl rfl) (by omega)
  have hfew : left.length ≠ 8 := by omega
  rw [List.append_nil] at hright
  rw [readSix]
  simp only [hleft, if_neg hfew, if_neg Bool.false_ne_true,
    readMark_eq_some_iff.mpr (rfl : ':' :: ':' :: back = _),
    readMark_eq_some_iff.mpr (rfl : ':' :: back = _), Option.bind_eq_bind, Option.bind_some, hright]

/-- An address begins with a digit or a colon. -/
theorem IsAddress.head {address : Address} (h : IsAddress text address) :
    ∃ c ∈ text.head?, c = ':' ∨ isDigitIn 16 c = true := by
  have hbegin {base most n : Nat} {digits : List Char} (hdigits : IsDigits base most digits n)
      (hbase : base ≤ 16) (more : List Char) :
      ∃ c ∈ (digits ++ more).head?, c = ':' ∨ isDigitIn 16 c = true := by
    obtain ⟨c, rest, rfl⟩ := List.exists_cons_of_ne_nil hdigits.ne_nil
    exact ⟨c, rfl, .inr (hdigits.hexadecimal hbase c List.mem_cons_self)⟩
  have hfour {a b c d : Nat} {front : List Char} (hfront : IsFour front a b c d) :
      ∃ c ∈ front.head?, c = ':' ∨ isDigitIn 16 c = true := by
    obtain ⟨first, _, _, _, hfirst, -, -, -, rfl⟩ := hfront
    exact hbegin hfirst.toIsDigits (by decide) _
  cases h with
  | four h => exact hfour h
  | full h hlength =>
    cases h with
    | nil => exact absurd hlength (by decide)
    | group hdigits _ =>
      rw [List.append_assoc]
      exact hbegin hdigits (Nat.le_refl _) _
    | four h => exact hfour h
  | shortened hfront _ _ =>
    cases hfront with
    | nil => exact ⟨':', rfl, .inl rfl⟩
    | group hdigits _ =>
      rw [List.append_assoc, List.append_assoc]
      exact hbegin hdigits (Nat.le_refl _) _

/-- **Which texts are addresses, and of what.** -/
theorem ofText?_eq_some_iff {address : Address} :
    Address.ofText? text = some address ↔ IsAddress text address := by
  constructor
  · intro h
    rw [Address.ofText?] at h
    split at h
    · rename_i a b c d rest hfour
      obtain ⟨front, rfl, -, hfront⟩ := readFour_eq_some_iff.mp hfour
      split_ifs at h with hrest
      obtain rfl := Option.some.inj h
      rw [List.isEmpty_iff.mp hrest, List.append_nil]
      exact .four hfront
    · split at h
      · rename_i groups rest hsix
        split_ifs at h with hrest
        obtain rfl := Option.some.inj h
        rw [List.isEmpty_iff.mp hrest] at hsix
        exact readSix_sound hsix
      · exact absurd h.symm (Option.some_ne_none _)
  · intro h
    rw [Address.ofText?]
    cases h with
    | @four _ a b c d hfour =>
      have hread : readFour text = some ((a, b, c, d), []) :=
        readFour_eq_some_iff.mpr ⟨text, (List.append_nil _).symm, by rintro _ ⟨⟩, hfour⟩
      rw [hread]
      rfl
    | @full _ groups inFour hgroups hlength =>
      have hnot := readFour_groups hgroups (.inr (by omega)) parted_nil
      rw [List.append_nil] at hnot
      rw [hnot, readSix_full hgroups hlength]
      rfl
    | @shortened front back left right inFour hfront hback hlength =>
      have hnot := readFour_groups hfront (.inl rfl) (parted_colon (':' :: back))
      rw [hnot, readSix_shortened hfront hback hlength]
      rfl

end ListingReview.Net
