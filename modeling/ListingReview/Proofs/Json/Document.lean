import ListingReview.Proofs.Json.Layout
import ListingReview.Proofs.Json.Scalar

/-! # JSON: documents that are written

A document is written on one line or on lines of its own (`Document.laidOut`). Either way the parts
of a list or an object are joined between brackets, with blanks around them at most (`joined`), so
what is written for a list is a list of what is written for its items, and likewise for an object
(`Document.laidOut_list`, `Document.laidOut_object`).

A format writes a value if what it writes is of a form, however it is laid out (`Format.Writes`);
the formats of this library write all that they read back, and so do the shapes of records
(`Layout.writes`). -/

namespace ListingReview.Json

open Text (Octets octets encode encode_append encode_cons octets_eq)

/-! ### Brackets -/

/-- Parts up to the closing bracket, with what stands in front of each and of the bracket. -/
def joined (before after : List Char) (closing : Char) : List (List Char) → List Char
  | [] => after ++ [closing]
  | [part] => before ++ (part ++ (after ++ [closing]))
  | part :: parts => before ++ (part ++ ',' :: joined before after closing parts)

section Joined

variable {before after : List Char} (opening closing : Char) (hbefore : Blanks (encode before))
  (hafter : Blanks (encode after)) (hopening : opening.toNat < 0x80)
  (hclosing : closing.toNat < 0x80)
include hbefore hafter hclosing

theorem behind_joined (part : List Char) : ∀ parts : List (List Char),
    ∃ text, encode (joined before after closing (part :: parts)) =
        encode before ++ (encode part ++ text) ∧
      Behind (octet closing) (parts.map encode) text
  | [] => by
    refine ⟨encode after ++ [octet closing], ?_, .close hafter⟩
    simp [joined, encode, Text.utf8EncodeChar_of_lt hclosing]
  | part' :: parts => by
    obtain ⟨text, htext, hbehind⟩ := behind_joined part' parts
    refine ⟨[] ++ octet ',' :: (encode before ++ (encode part' ++ text)), ?_,
      .comma .nil hbefore hbehind⟩
    rw [joined, encode_append, encode_append, encode_cons, htext]
    · rfl
    · simp

include hopening

theorem brackets_joined (parts : List (List Char)) : Brackets (octet opening) (octet closing)
    (parts.map encode) (encode (opening :: joined before after closing parts)) := by
  rw [encode_cons, Text.utf8EncodeChar_of_lt hopening]
  rcases parts with _ | ⟨part, parts⟩
  · rw [joined, encode_append, encode_cons, Text.utf8EncodeChar_of_lt hclosing]
    exact .empty hafter
  · obtain ⟨text, htext, hbehind⟩ := behind_joined closing hbefore hafter hclosing part parts
    rw [htext]
    exact .parts hbefore hbehind

end Joined

/-! ### Documents -/

namespace Document

/-- What is written for a document: on one line, or on lines of its own, those after the first
indented to a depth. -/
def laidOut : Option Nat → Document → List Char
  | none => compact
  | some depth => indented depth

/-- What stands in front of a closing bracket. -/
def lineBreak : Option Nat → List Char
  | none => []
  | some depth => newLine depth

/-- What stands behind a colon. -/
def gap : Option Nat → List Char
  | none => []
  | some _ => [' ']

/-- How the parts of a document are laid out. -/
def inner (depth : Option Nat) : Option Nat := depth.map (· + 1)

/-- A member with its key. -/
def laidOutMember (depth : Option Nat) (member : String × Document) : List Char :=
  writeText member.1 ++ ':' :: (gap depth ++ laidOut (inner depth) member.2)

theorem compactItems_eq : ∀ items : List Document,
    compactItems items = joined [] [] ']' (items.map compact)
  | [] => by simp [compactItems, joined]
  | [item] => by simp [compactItems, joined]
  | item :: item' :: items => by
    simp only [compactItems, compactItems_eq (item' :: items), List.map_cons, joined,
      List.nil_append]

theorem compactMembers_eq : ∀ members : List (String × Document),
    compactMembers members = joined [] [] '\x7d' (members.map (laidOutMember none))
  | [] => by simp [compactMembers, joined]
  | [(key, value)] => by simp [compactMembers, joined, laidOutMember, gap, laidOut, inner]
  | (key, value) :: member :: members => by
    simp [compactMembers, compactMembers_eq (member :: members), joined, laidOutMember, gap,
      laidOut, inner]

theorem indentedItems_eq (depth : Nat) : ∀ items : List Document, indentedItems depth items =
    joined (newLine (depth + 1)) (newLine depth) ']' (items.map (indented (depth + 1)))
  | [] => by simp [indentedItems, joined]
  | [item] => by simp [indentedItems, joined]
  | item :: item' :: items => by
    simp [indentedItems, indentedItems_eq depth (item' :: items), joined]

theorem indentedMembers_eq (depth : Nat) : ∀ members : List (String × Document),
    indentedMembers depth members = joined (newLine (depth + 1)) (newLine depth) '\x7d'
      (members.map (laidOutMember (some depth)))
  | [] => by simp [indentedMembers, joined]
  | [(key, value)] => by simp [indentedMembers, joined, laidOutMember, gap, laidOut, inner]
  | (key, value) :: member :: members => by
    simp [indentedMembers, indentedMembers_eq depth (member :: members), joined, laidOutMember, gap,
      laidOut, inner]

theorem blanks_lineBreak (depth : Option Nat) : Blanks (encode (lineBreak depth)) := by
  rcases depth with _ | depth
  · exact .nil
  · intro b hb
    obtain ⟨c, hc, hb⟩ := List.mem_flatMap.mp hb
    rcases List.mem_cons.mp hc with rfl | hc
    · rw [List.mem_singleton.mp hb]
      decide
    · rw [List.eq_of_mem_replicate hc] at hb
      rw [List.mem_singleton.mp hb]
      decide

theorem blanks_gap (depth : Option Nat) : Blanks (encode (gap depth)) := by
  rcases depth with _ | depth
  · exact .nil
  · intro b hb
    rw [List.mem_singleton.mp hb]
    decide

/-- The items of a list that is written. -/
theorem laidOut_list (depth : Option Nat) (items : List Document) :
    IsList (items.map fun item => encode (item.laidOut (inner depth)))
      (encode ((list items).laidOut depth)) := by
  have hjoined := brackets_joined '[' ']' (blanks_lineBreak (inner depth)) (blanks_lineBreak depth)
    (by decide) (by decide) (items.map (laidOut (inner depth)))
  rw [List.map_map] at hjoined
  rcases depth with _ | depth
  · rw [laidOut, compact, compactItems_eq]
    exact hjoined
  · rcases items with _ | ⟨item, items⟩
    · exact .empty .nil
    · rw [laidOut, indented, indentedItems_eq]
      · exact hjoined
      · simp

/-- A member of an object that is written. -/
def entry (depth : Option Nat) (member : String × Document) : Entry where
  key := encode (member.1.toList.flatMap escapeChar)
  before := []
  after := encode (gap depth)
  value := encode (member.2.laidOut (inner depth))
  blanks_before := .nil
  blanks_after := blanks_gap depth

theorem entry_text (depth : Option Nat) (member : String × Document) :
    (entry depth member).text = encode (laidOutMember depth member) := by
  simp only [laidOutMember, writeText, encode_append, encode_cons, List.append_assoc]
  rfl

theorem laidOut_object (depth : Option Nat) (members : List (String × Document)) :
    IsObject (members.map (entry depth)) (encode ((object members).laidOut depth)) := by
  have hjoined := brackets_joined '\x7b' '\x7d' (blanks_lineBreak (inner depth))
    (blanks_lineBreak depth) (by decide) (by decide) (members.map (laidOutMember depth))
  have htexts : (members.map (entry depth)).map Entry.text =
      (members.map (laidOutMember depth)).map encode := by
    simp only [List.map_map, Function.comp_def, entry_text]
  rw [IsObject, htexts]
  rcases depth with _ | depth
  · rw [laidOut, compact, compactMembers_eq]
    exact hjoined
  · rcases members with _ | ⟨member, members⟩
    · exact .empty .nil
    · rw [laidOut, indented, indentedMembers_eq]
      · exact hjoined
      · simp

end Document

/-! ### Formats -/

/-- What is written for a value is of a form, however it is laid out. -/
def Format.Writes {α : Type} (format : Format α) (form : α → Octets → Prop) (value : α) : Prop :=
  ∀ depth, form value (encode ((format.write value).laidOut depth))

section Formats

variable {α : Type} {format : Format α} {form : α → Octets → Prop}

theorem text_writes (text : String) : Format.text.Writes IsText text
  | none => isText_writeText text
  | some _ => isText_writeText text

theorem unsigned_writes (n : UInt64) : Format.unsigned.Writes IsUnsigned n
  | none => isUnsigned_decimal n
  | some _ => isUnsigned_decimal n

theorem number_writes (n : UInt64) : Format.number.Writes IsNumber (.unsigned n)
  | none => isUnsigned_decimal n
  | some _ => isUnsigned_decimal n

theorem signed_writes (n : Int64) : Format.signed.Writes IsSigned n
  | none => isSigned_decimal n
  | some _ => isSigned_decimal n

theorem float_writes {x : Binary64} (h : IsFloat x (encode (writeFloat x))) :
    Format.float.Writes IsFloat x
  | none => h
  | some _ => h

theorem optional_writes {found : Option α} (h : ∀ value ∈ found, format.Writes form value) :
    format.optional.Writes (OrNull form) found := by
  intro depth
  rcases found with _ | value
  · rcases depth with _ | _ <;> exact .null
  · exact .value (h value rfl depth)

theorem list_writes {values : List α} (h : ∀ value ∈ values, format.Writes form value) :
    (Format.list format).Writes (ListOf form) values := by
  intro depth
  refine .items (Document.laidOut_list depth _) ?_
  rw [List.map_map, List.forall₂_map_right_iff, List.forall₂_same]
  exact fun value hvalue => h value hvalue _

end Formats

/-! ### Records -/

namespace Layout

variable {σ : Type} {layout : Layout σ}

/-- The entry that is written for a field. -/
def entry (depth : Option Nat) (record : σ) (field : Field σ) : Entry :=
  Document.entry depth (field.name, field.format.write (field.get record))

theorem spells_entry (depth : Option Nat) (record : σ) (field : Field σ) :
    Spells (octets field.name) (entry depth record field).key :=
  octets_eq field.name ▸ spells_flatMap field.name.toList

theorem names_entry (depth : Option Nat) (record : σ) (field : Field σ) :
    field.Names (entry depth record field).key :=
  ⟨field.name, List.mem_cons_self, spells_entry depth record field⟩

theorem eq_of_names_entry {depth : Option Nat} {record : σ} {field field' : Field σ}
    (h : field ∈ layout.fields) (h' : field' ∈ layout.fields)
    (hname : field'.Names (entry depth record field).key) : field' = field :=
  eq_of_names h' h hname (names_entry depth record field)

/-- **A record is written** with all of its fields, if their values are. -/
theorem writes {record : σ}
    (h : ∀ field ∈ layout.fields, field.format.Writes field.form (field.get record)) :
    layout.shape.format.Writes layout.Written record := by
  intro depth
  have hobject : IsObject (layout.fields.map (entry depth record))
      (encode ((layout.shape.format.write record).laidOut depth)) := by
    have hentries : layout.fields.map (entry depth record) =
        (layout.shape.members.map fun member => (member.name, member.write record)).map
          (Document.entry depth) := by
      rw [layout.members_eq, List.map_map, List.map_map]
      rfl
    rw [hentries]
    exact Document.laidOut_object depth _
  refine .object hobject ⟨List.forall_mem_map.mpr fun field hfield => ?_, ?_, ?_⟩
  · exact .field hfield (names_entry depth record field) (h field hfield _)
  · refine List.pairwise_map.mpr (layout.apart.imp_of_mem ?_)
    intro field field' hfield hfield' hapart other hother hboth
    -- the entries of two fields cannot both be those of a third
    obtain rfl := eq_of_names_entry hfield hother hboth.1
    obtain rfl := eq_of_names_entry hfield' hother hboth.2
    exact hapart.names _ List.mem_cons_self List.mem_cons_self
  · intro field hfield hnone
    exact absurd (names_entry depth record field) (hnone _ (List.mem_map_of_mem hfield))

end Layout

end ListingReview.Json
