import ListingReview.Proofs.Json.Relaxed
import ListingReview.Proofs.Json.Unique
import ListingReview.Proofs.Listing.Written
import ListingReview.Proofs.Submission.Check
import ListingReview.Proofs.Submission.Repeated

/-! # Submissions: what is read as a listing

A text that is read as a listing is read as a submission too, which passes the check and gives that
listing (`Submission.strict_agrees`). Only the other names of a field are in the way: to a listing
such a key is foreign, and its value may be anything. So no record in the text may have one
(`Submission.Unaliased`).

What is written for a listing is also written for the submission that says it, one kind of record
after another (`Image.written_submitted`, `Variant.written_submitted`,
`Listing.written_submitted`). -/

namespace ListingReview

open Json
open Text (Octets octets)

/-! ### What is written for a listing -/

/-- The items of a list can be read as other values. -/
theorem Json.ListOf.map {α β : Type} {reader : Reader α} {form : α → Octets → Prop}
    {form' : β → Octets → Prop} (hreads : reader.Reads form) {f : α → β} {values : List α}
    {text : Octets} (h : ListOf form values text) (himp : ∀ items, HasItems text items →
      ∀ value, ∀ item ∈ items, form value item → form' (f value) item) :
    ListOf form' (values.map f) text := by
  obtain ⟨hlist, hitems⟩ := h
  refine .items hlist (List.forall₂_map_left_iff.mpr ?_)
  rw [List.forall₂_iff_zip] at hitems ⊢
  refine ⟨hitems.1, fun {value item} hzip => ?_⟩
  exact himp _ ⟨hlist, hreads.parts (List.forall₂_iff_zip.mpr hitems)⟩ value item
    (List.of_mem_zip hzip).2 (hitems.2 hzip)

/-- A size or a price, as a number of any kind. -/
theorem Json.OrNull.unsigned {found : Option UInt64} {text : Octets}
    (h : OrNull IsUnsigned found text) : OrNull IsNumber (found.map .unsigned) text := by
  rcases h with _ | ⟨h⟩
  · exact .null
  · exact .value h

section Written

variable {text : Octets}

theorem Image.written_submitted {image : Image} (hplain : ImageSubmission.layout.PlainKeys text)
    (h : layout.Written image text) : ImageSubmission.layout.Written image.submitted text := by
  refine h.relaxed (.cons ?id (.cons ?url (.cons ?mimeType (.cons ?fileSize .nil)))) rfl hplain
  case id | url => exact ⟨rfl, fun _ _ => .value, fun h => absurd h (by decide)⟩
  case mimeType => exact ⟨rfl, fun _ _ h => h, fun _ h => ⟨rfl, h⟩⟩
  case fileSize =>
    exact ⟨rfl, fun _ _ => OrNull.unsigned, fun _ h => ⟨rfl, congrArg (Option.map _) h⟩⟩

theorem Variant.written_submitted {variant : Variant}
    (hplain : VariantSubmission.layout.PlainKeys text) (h : layout.Written variant text) :
    VariantSubmission.layout.Written variant.submitted text := by
  refine h.relaxed (.cons ?id (.cons ?label (.cons ?price (.cons ?currency (.cons ?sku .nil)))))
    rfl hplain
  case label => exact ⟨rfl, fun _ _ => .value, fun h => absurd h (by decide)⟩
  all_goals exact ⟨rfl, fun _ _ h => h, fun _ h => ⟨rfl, h⟩⟩

end Written

namespace Submission

/-- No record of a submission, wherever in the text it stands, has a key that is another name of one
of its fields. -/
structure Unaliased (text : Octets) : Prop where
  plain : ∀ {σ : Type} {item : Layout σ} {view : Submission → Option σ} {part : Octets},
    Shows text item view part → item.PlainKeys part

end Submission

section Written

variable {text : Octets}

theorem Listing.written_submitted {listing : Listing} (hplain : Submission.Unaliased text)
    (h : layout.Written listing text) : Submission.layout.Written listing.submitted text := by
  refine h.relaxed (.cons ?listingId (.cons ?sellerId (.cons ?reason (.cons ?title
    (.cons ?description (.cons ?price (.cons ?currency (.cons ?desiredStatus
      (.cons ?images (.cons ?variants .nil)))))))))) rfl (hplain.plain .whole)
  case listingId | sellerId | reason | title =>
    exact ⟨rfl, fun _ _ => .value, fun h => absurd h (by decide)⟩
  case description | currency | desiredStatus => exact ⟨rfl, fun _ _ h => h, fun _ h => ⟨rfl, h⟩⟩
  case price =>
    exact ⟨rfl, fun _ _ => OrNull.unsigned, fun _ h => ⟨rfl, congrArg (Option.map _) h⟩⟩
  case images =>
    refine ⟨rfl, fun value hvalue hform => .value ?_, fun h => absurd h (by decide)⟩
    refine ListOf.map Image.layout.shape_reads hform fun items hitems image item hitem => ?_
    obtain ⟨i, hi⟩ := List.mem_iff_getElem?.mp hitem
    exact Image.written_submitted (hplain.plain (.image hvalue hitems hi))
  case variants =>
    refine ⟨rfl, fun value hvalue hform => .value ?_, fun h => absurd h (by decide)⟩
    refine ListOf.map Variant.layout.shape_reads hform fun items hitems variant item hitem => ?_
    obtain ⟨i, hi⟩ := List.mem_iff_getElem?.mp hitem
    exact Variant.written_submitted (hplain.plain (.variant hvalue hitems hi))

end Written

/-! ### Reading a listing -/

namespace Submission

/-- **What is read as a listing** is read as the submission that says it, and passes the check as it
was, if no record has another name for a key. -/
theorem strict_agrees {bytes : Octets} (hplain : ∀ text, Heads text bytes → Unaliased text)
    {listing : Listing} :
    (Listing.shape.reader.whole bytes = .ok listing → ∃ submission : Submission,
      shape.reader.whole bytes = .ok submission ∧ submission.check = .ok listing) ∧
    (Listing.shape.reader.front bytes = .ok listing → ∃ submission : Submission,
      shape.reader.front bytes = .ok submission ∧ submission.check = .ok listing) := by
  have hsubmitted : ∀ {rest}, Listing.shape.reader.read bytes = .ok (listing, rest) →
      shape.reader.read bytes = .ok (listing.submitted, rest) := by
    intro rest hread
    obtain ⟨blanks, text, hblanks, htext, rfl⟩ := Listing.layout.shape_reads.sound hread
    have hwell := Listing.layout.shape_reads.wellFormed htext
    have hheads : Heads text (blanks ++ (text ++ rest)) := ⟨hwell, blanks, rest, hblanks, rfl⟩
    have hwritten := Listing.written_submitted (hplain text hheads) htext
    exact layout.read_of_written hblanks hwritten rest
  refine ⟨fun hwhole => ?_, fun hfront => ?_⟩
  · obtain ⟨rest, hread, hrest⟩ := read_of_whole hwhole
    exact ⟨_, Reader.whole_of_read (hsubmitted hread) hrest, check_submitted listing⟩
  · obtain ⟨rest, hread⟩ := read_of_front hfront
    exact ⟨_, Reader.front_of_read (hsubmitted hread), check_submitted listing⟩

/-! ### A chair -/

/-- Keys that are spelled as they are, with their values. -/
def plainEntries (members : List (String × Octets)) : List Entry :=
  members.map fun member => .tight (octets member.1) member.2

def plainObject (members : List (String × Octets)) : Octets :=
  tight (octet '\x7b') (octet '\x7d') ((plainEntries members).map Entry.text)

section Plain

variable {members : List (String × Octets)}
  (h : ∀ member ∈ members, Spells (octets member.1) (octets member.1) ∧ WellFormed member.2)
include h

theorem plainObject_hasEntries : HasEntries (plainObject members) (plainEntries members) :=
  ⟨brackets_tight _ _ _, List.forall_mem_map.mpr fun member hmember =>
    ⟨(h member hmember).1.loose, (h member hmember).2⟩⟩

theorem plainObject_plainKeys {σ : Type} {layout : Layout σ}
    (hplain : ∀ member ∈ members, ∀ field ∈ layout.fields, member.1 ∉ field.others) :
    layout.PlainKeys (plainObject members) :=
  Layout.plainKeys_of_entries (plainObject_hasEntries h) <| List.forall_mem_map.mpr
    fun member hmember => ⟨member.1, (h member hmember).1, hplain member hmember⟩

theorem plainObject_shows {σ : Type} {layout : Layout σ} {field : Json.Field σ} {value : Octets}
    (hvalue : layout.Shows (plainObject members) field value) :
    ∃ member ∈ members, member.1 ∈ field.names ∧ member.2 = value := by
  obtain ⟨entry, hentry, ⟨name, hname, hspells⟩, rfl⟩ :=
    hvalue.of_entries (plainObject_hasEntries h)
  obtain ⟨member, hmember, rfl⟩ := List.mem_map.mp hentry
  obtain rfl := hspells.unique (h member hmember).1
  exact ⟨member, hmember, hname, rfl⟩

end Plain

/-- A value that is read as a whole is the only one with which it starts. -/
theorem eq_of_heads {σ : Type} (layout : Layout σ) {record : σ} {text bytes : Octets}
    (hread : layout.shape.reader.whole bytes = .ok record) (hbytes : WellFormed bytes)
    (h : Heads text bytes) : text = bytes := by
  obtain ⟨rest', hread, hrest⟩ := read_of_whole hread
  obtain ⟨htext, blanks, rest, hblanks, heq⟩ := h
  have hstart : blanks = [] ∧ text ++ rest = bytes ++ [] :=
    htext.starts.unique hbytes.starts hblanks .nil (by simpa using heq.symm)
  rw [← List.append_nil bytes, ← hstart.2] at hread
  obtain ⟨-, rfl⟩ := (Layout.read_iff htext).mp hread
  exact (htext.unique hbytes (.blanks hrest) .nil hstart.2).1

/-- The image of the chair. -/
def chairImage : List (String × Octets) :=
  [("url", quoted (octets "u")), ("id", quoted (octets "i")), ("fileSizeBytes", octets "7")]

def chairVariant : Octets := octets "[null,\"v\",-5,null,null]"

/-- In another order, with an image that is an object, a variant that is a list, and a foreign
member. What is in that one is no submission, so its key does not matter. -/
def chairMembers : List (String × Octets) :=
  [("title", quoted (octets "t")), ("listingId", quoted (octets "l")),
   ("sellerId", quoted (octets "s")), ("reason", quoted (octets "r")),
   ("x", plainObject [("price_cents", octets "1")]),
   ("images", tight (octet '[') (octet ']') [plainObject chairImage]),
   ("variants", tight (octet '[') (octet ']') [chairVariant])]

def chair : Listing where
  listingId := "l"
  sellerId := "s"
  reason := "r"
  title := "t"
  description := none
  priceCents := none
  currency := none
  desiredStatus := none
  images := [⟨"i", "u", none, some 7⟩]
  variants := [⟨none, "v", some (-5), none, none⟩]

theorem chair_facts :
    (∀ member ∈ chairMembers, Spells (octets member.1) (octets member.1) ∧ WellFormed member.2) ∧
      (∀ member ∈ chairImage, Spells (octets member.1) (octets member.1) ∧ WellFormed member.2) ∧
      WellFormed chairVariant ∧
      Listing.shape.reader.whole (plainObject chairMembers) = .ok chair := by
  decide +kernel

/-- The only item of a list in the text. -/
theorem chair_item {field : Json.Field Submission} {value part only : Octets} {items : List Octets}
    {i : Nat} (honly : ∀ member ∈ chairMembers, member.1 ∈ field.names → HasItems member.2 [only])
    (hvalue : layout.Shows (plainObject chairMembers) field value) (hitems : HasItems value items)
    (hpart : items[i]? = some part) : part = only := by
  obtain ⟨member, hmember, hname, rfl⟩ := plainObject_shows chair_facts.1 hvalue
  obtain rfl := hitems.unique (honly member hmember hname)
  exact List.mem_singleton.mp (List.mem_of_getElem? hpart)

theorem chair_unaliased : Unaliased (plainObject chairMembers) := by
  obtain ⟨hmembers, himage, hvariant, -⟩ := chair_facts
  have hlist : ∀ {part}, WellFormed part → HasItems (tight (octet '[') (octet ']') [part]) [part] :=
    fun h => ⟨brackets_tight _ _ _, List.forall_mem_singleton.mpr h⟩
  refine ⟨fun {σ item view part} hshows => ?_⟩
  rcases hshows with _ | ⟨hvalue, hitems, hpart⟩ | ⟨hvalue, hitems, hpart⟩
  · exact plainObject_plainKeys hmembers (by decide)
  · have honly : ∀ member ∈ chairMembers, member.1 ∈ imagesField.names →
        HasItems member.2 [plainObject chairImage] := by
      simpa [chairMembers, imagesField, Layout.listField, Field.optional, Field.names] using
        hlist (plainObject_hasEntries himage).wellFormed
    obtain rfl := chair_item honly hvalue hitems hpart
    exact plainObject_plainKeys himage (by decide)
  · have honly : ∀ member ∈ chairMembers, member.1 ∈ variantsField.names →
        HasItems member.2 [chairVariant] := by
      simpa [chairMembers, variantsField, Layout.listField, Field.optional, Field.names] using
        hlist hvariant
    obtain rfl := chair_item honly hvalue hitems hpart
    obtain ⟨items, hitems⟩ := hvariant.of_bracket
    exact Layout.plainKeys_of_items hitems

/-- The chair is read as a listing, and so as a submission that is a chair. -/
theorem strict_agrees_on_chair :
    (∀ text, Heads text (plainObject chairMembers) → Unaliased text) ∧
      Listing.shape.reader.whole (plainObject chairMembers) = .ok chair ∧
      ∃ submission : Submission, shape.reader.whole (plainObject chairMembers) = .ok submission ∧
        submission.check = .ok chair := by
  obtain ⟨hmembers, -, -, hread⟩ := chair_facts
  have hplain : ∀ text, Heads text (plainObject chairMembers) → Unaliased text := by
    intro text htext
    have hwell := (plainObject_hasEntries hmembers).wellFormed
    obtain rfl := eq_of_heads Listing.layout hread hwell htext
    exact chair_unaliased
  exact ⟨hplain, hread, (strict_agrees hplain).1 hread⟩

end Submission

end ListingReview
