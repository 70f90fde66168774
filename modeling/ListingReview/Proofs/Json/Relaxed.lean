import ListingReview.Proofs.Json.Shown
import ListingReview.Proofs.Json.Unique

/-! # JSON: layouts that ask for less

Two layouts can have the same fields in the same order, where the second one has other names for
some of them, does not insist on any, and takes more values. What is written for a record of the
first is then also written for one of the second (`Layout.Written.relaxed`), unless an object in it
has a key that is one of the other names: to the first layout such a key is foreign, and the second
one reads it. -/

namespace ListingReview.Json.Layout

open Text (Octets octets)

variable {σ τ : Type}

/-- No key of an object is one of the other names of a field. -/
def PlainKeys (layout : Layout τ) (text : Octets) : Prop :=
  ∀ entries, HasEntries text entries → ∀ entry ∈ entries, ∀ field ∈ layout.fields,
    ∀ other ∈ field.others, ¬ Spells (octets other) entry.key

section PlainKeys

variable {layout : Layout τ} {text : Octets}

theorem plainKeys_of_entries {entries : List Entry} (hentries : HasEntries text entries)
    (h : ∀ entry ∈ entries, ∃ name : String, Spells (octets name) entry.key ∧
      ∀ field ∈ layout.fields, name ∉ field.others) : layout.PlainKeys text := by
  intro entries' hentries' entry hentry field hfield other hother hspells
  obtain rfl := hentries'.unique hentries
  obtain ⟨name, hname, hplain⟩ := h entry hentry
  obtain rfl := hspells.unique hname
  exact hplain field hfield hother

theorem plainKeys_of_items {items : List Octets} (hitems : HasItems text items) :
    layout.PlainKeys text := by
  intro entries hentries
  obtain ⟨_, rfl⟩ := hitems.isList.cons
  obtain ⟨_, hbrace⟩ := Brackets.cons hentries.isObject
  exact absurd (List.cons.inj hbrace).1 (by decide)

theorem Shows.of_entries {entries : List Entry} (hentries : HasEntries text entries)
    {field : Field τ} {value : Octets} (h : layout.Shows text field value) :
    ∃ entry ∈ entries, field.Names entry.key ∧ entry.value = value := by
  rcases h with ⟨hentries', hentry, hname⟩ | ⟨hitems, -, -⟩
  · exact ⟨_, hentries'.unique hentries ▸ hentry, hname, rfl⟩
  · obtain ⟨_, rfl⟩ := hitems.isList.cons
    obtain ⟨_, hbrace⟩ := Brackets.cons hentries.isObject
    exact absurd (List.cons.inj hbrace).1 (by decide)

end PlainKeys

/-- A field and the one that takes its place: it has the same name; what stands in the text for the
value of the one stands for that of the other; and it may be absent, and blank, where the first may
be. -/
structure Relaxes (strict : Layout σ) (lenient : Layout τ) (record : σ) (record' : τ)
    (text : Octets) (field : Field σ) (field' : Field τ) : Prop where
  names : field.names = [field'.name]
  form : ∀ value, lenient.Shows text field' value → field.form (field.get record) value →
    field'.form (field'.get record') value
  absent : field.isRequired = false → field.get record = field.get strict.shape.blank →
    field'.isRequired = false ∧ field'.get record' = field'.get lenient.shape.blank

variable {strict : Layout σ} {lenient : Layout τ} {record : σ} {record' : τ} {text : Octets}

section Entries

variable {entries : List Entry} (hplain : lenient.PlainKeys text)
  (hentries : HasEntries text entries)
include hplain hentries

theorem Relaxes.names_iff {field : Field σ} {field' : Field τ} (h : field' ∈ lenient.fields)
    (hrelaxes : strict.Relaxes lenient record record' text field field') {entry : Entry}
    (hentry : entry ∈ entries) : field'.Names entry.key ↔ field.Names entry.key := by
  rw [Field.Names, Field.Names, hrelaxes.names]
  constructor
  · rintro ⟨name, hname, hspells⟩
    rcases List.mem_cons.mp hname with rfl | hother
    · exact ⟨_, List.mem_singleton_self _, hspells⟩
    · exact absurd hspells (hplain entries hentries entry hentry field' h name hother)
  · rintro ⟨name, hname, hspells⟩
    exact ⟨name, List.mem_singleton.mp hname ▸ List.mem_cons_self, hspells⟩

theorem Members.relaxed
    (hfields : List.Forall₂ (strict.Relaxes lenient record record' text) strict.fields
      lenient.fields)
    (h : strict.Members record entries) : lenient.Members record' entries := by
  have hstrict : ∀ field' ∈ lenient.fields, ∃ field ∈ strict.fields,
      strict.Relaxes lenient record record' text field field' := exists_item hfields
  have hlenient : ∀ field ∈ strict.fields, ∃ field' ∈ lenient.fields,
      strict.Relaxes lenient record record' text field field' :=
    exists_item (List.Forall₂.flip (R := flip (strict.Relaxes lenient record record' text)) hfields)
  refine ⟨fun entry hentry => ?_, ?_, fun field' hfield' hnone => ?_⟩
  · rcases h.tells entry hentry with ⟨hfield, hname, hform⟩ | ⟨⟨name, hspells, hforeign⟩, hvalue⟩
    · obtain ⟨field', hfield', hrelaxes⟩ := hlenient _ hfield
      have hname' := (hrelaxes.names_iff hplain hentries hfield' hentry).mpr hname
      exact .field hfield' hname' (hrelaxes.form _ (.entry hentries hentry hname') hform)
    · refine .foreign ⟨name, hspells, fun field' hfield' hname => ?_⟩ hvalue
      obtain ⟨field, hfield, hrelaxes⟩ := hstrict field' hfield'
      rcases List.mem_cons.mp hname with rfl | hother
      · exact hforeign field hfield (hrelaxes.names ▸ List.mem_singleton_self _)
      · exact hplain entries hentries entry hentry field' hfield' name hother hspells
  · refine h.once.imp_of_mem fun {entry entry'} hentry hentry' hapart field' hfield' hboth => ?_
    obtain ⟨field, hfield, hrelaxes⟩ := hstrict field' hfield'
    exact hapart field hfield
      ⟨(hrelaxes.names_iff hplain hentries hfield' hentry).mp hboth.1,
        (hrelaxes.names_iff hplain hentries hfield' hentry').mp hboth.2⟩
  · obtain ⟨field, hfield, hrelaxes⟩ := hstrict field' hfield'
    have hnone' : ∀ entry ∈ entries, ¬ field.Names entry.key := fun entry hentry hname =>
      hnone entry hentry ((hrelaxes.names_iff hplain hentries hfield' hentry).mpr hname)
    obtain ⟨hrequired, hblank⟩ := h.absent field hfield hnone'
    exact hrelaxes.absent hrequired hblank

end Entries

theorem Places.relaxed (hstop : strict.shape.mayStop = false) :
    ∀ {fields : List (Field σ)} {fields' : List (Field τ)} {parts : List Octets},
      List.Forall₂ (strict.Relaxes lenient record record' text) fields fields' →
      (∀ (i : Nat) field' part, fields'[i]? = some field' → parts[i]? = some part →
        lenient.Shows text field' part) →
      strict.Places record fields parts → lenient.Places record' fields' parts
  | _, _, _, .nil, _, .all => .all
  | _, _, _, .nil, _, .stop h _ => absurd h (by rw [hstop]; decide)
  | _, _, _, .cons _ _, _, .stop h _ => absurd h (by rw [hstop]; decide)
  | _, _, _, .cons hrelaxes hfields, hshows, .place hform hrest =>
    .place (hrelaxes.form _ (hshows 0 _ _ rfl rfl) hform)
      (hrest.relaxed hstop hfields fun i => hshows (i + 1))

/-- **What is written for a record** is also written for one of a layout that asks for less, if
all keys are plain. -/
theorem Written.relaxed
    (hfields : List.Forall₂ (strict.Relaxes lenient record record' text) strict.fields
      lenient.fields)
    (hstop : strict.shape.mayStop = false) (hplain : lenient.PlainKeys text)
    (h : strict.Written record text) : lenient.Written record' text := by
  rcases h with ⟨hobject, hmembers⟩ | ⟨hlist, hplaces⟩
  · exact .object hobject (hmembers.relaxed hplain ⟨hobject, hmembers.proper⟩ hfields)
  · have hitems : HasItems text _ := ⟨hlist, hplaces.wellFormed fun _ hfield => hfield⟩
    exact .list hlist (hplaces.relaxed hstop hfields fun _ _ _ hfield' hpart =>
      .place hitems hfield' hpart)

end ListingReview.Json.Layout
