import ListingReview.Proofs.Json.Record

/-! # JSON: what a text has for a field

A text that is written for a record has a value for a field in one of its entries, or at the place
of the field (`Layout.Shows`). That value is written for what the record has in the field
(`Layout.Written.form`); if it is a list of records, each of its items is written for one of them
(`Layout.Written.item`). -/

namespace ListingReview.Json

open Text (Octets octets)

theorem ListOf.forms {α : Type} {reader : Reader α} {form : α → Octets → Prop}
    (hreads : reader.Reads form) {values : List α} {text : Octets} (h : ListOf form values text)
    {items : List Octets} (hitems : HasItems text items) : List.Forall₂ form values items := by
  have hlist := list_reads hreads
  have hread := (hlist.read_iff (hlist.wellFormed h) .nil).mpr ⟨h, rfl⟩
  exact ((list_read_iff hreads hitems).mp hread).1

theorem form_getElem {α : Type} {form : α → Octets → Prop} : ∀ {values : List α}
    {items : List Octets} {i : Nat} {item : Octets}, List.Forall₂ form values items →
      items[i]? = some item → ∃ value, values[i]? = some value ∧ form value item
  | _, _, 0, _, .cons h _, hitem => by
    cases hitem
    exact ⟨_, rfl, h⟩
  | _, _, _ + 1, _, .cons _ hrest, hitem => by
    obtain ⟨value, hvalue, h⟩ := form_getElem hrest hitem
    exact ⟨value, hvalue, h⟩

namespace Layout

variable {σ τ : Type} {layout : Layout σ} {record : σ} {text : Octets}

/-- The value that a text has for a field, in an object or in a list. -/
inductive Shows (layout : Layout σ) (text : Octets) (field : Field σ) : Octets → Prop where
  | entry {entries : List Entry} {entry : Entry} (h : HasEntries text entries)
    (hentry : entry ∈ entries) (hname : field.Names entry.key) : Shows layout text field entry.value
  | place {parts : List Octets} {part : Octets} {i : Nat} (h : HasItems text parts)
    (hfield : layout.fields[i]? = some field) (hpart : parts[i]? = some part) :
    Shows layout text field part

theorem Written.members (h : layout.Written record text) {entries : List Entry}
    (hentries : HasEntries text entries) : layout.Members record entries := by
  have hread := (layout.shape_reads.read_iff (layout.shape_reads.wellFormed h) .nil).mpr ⟨h, rfl⟩
  exact ((object_read_iff hentries).mp hread).1

theorem Written.places (h : layout.Written record text) {parts : List Octets}
    (hparts : HasItems text parts) : layout.Places record layout.fields parts := by
  have hread := (layout.shape_reads.read_iff (layout.shape_reads.wellFormed h) .nil).mpr ⟨h, rfl⟩
  exact ((places_read_iff hparts).mp hread).1

theorem Places.form : ∀ {fields : List (Field σ)} {parts : List Octets} {i : Nat} {field : Field σ}
    {part : Octets}, layout.Places record fields parts → fields[i]? = some field →
      parts[i]? = some part → field.form (field.get record) part
  | _, _, 0, _, _, .place h _, hfield, hpart => by
    cases hfield
    cases hpart
    exact h
  | _, _, _ + 1, _, _, .place _ hrest, hfield, hpart => hrest.form hfield hpart

/-- What a text has for a field is written for the value that the record has. -/
theorem Written.form (h : layout.Written record text) {field : Field σ}
    (hfield : field ∈ layout.fields) {value : Octets} (hvalue : layout.Shows text field value) :
    field.form (field.get record) value := by
  rcases hvalue with ⟨hentries, hentry, hname⟩ | ⟨hparts, hplace, hpart⟩
  · rcases (h.members hentries).tells _ hentry with ⟨hfield', hname', hform⟩ | ⟨hforeign, -⟩
    · obtain rfl := eq_of_names hfield hfield' hname hname'
      exact hform
    · exact absurd hname (hforeign.not_names hfield)
  · exact (h.places hparts).form hplace hpart

/-- A record inside a list that a text has for a field. -/
theorem Written.item {item : Layout τ} {name : String} {get : σ → Option (List τ)}
    {put : Option (List τ) → σ → σ} (hfield : item.listField name get put ∈ layout.fields)
    (h : layout.Written record text) {value part : Octets} {items : List Octets} {i : Nat}
    (hvalue : layout.Shows text (item.listField name get put) value) (hitems : HasItems value items)
    (hpart : items[i]? = some part) :
    ∃ inner, (get record).bind (·[i]?) = some inner ∧ item.Written inner part := by
  have hform : OrNull (ListOf item.Written) (get record) value := h.form hfield hvalue
  generalize get record = found at hform
  rcases hform with _ | ⟨hlist⟩
  · obtain ⟨_, hnull⟩ := hitems.isList.cons
    exact absurd (List.cons.inj hnull).1 (by decide)
  · exact form_getElem (hlist.forms item.shape_reads hitems) hpart

end Layout

end ListingReview.Json
