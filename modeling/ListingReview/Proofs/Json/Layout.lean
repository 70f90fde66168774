import Mathlib.Data.List.Pairwise
import ListingReview.Proofs.Json.Reading

/-! # JSON: the layout of records

A layout says of records of a type which fields they have, what is written for each, and that no
field is in the way of another. Then it is settled how records are written (`Layout.Written`): as an
object with the fields in any order, each at most once under any of its names, and anything else
between them; or as a list of the values in the order of the fields.

What one entry of an object does to a record in the making is said by `Layout.Takes`, and what all
of them do, one after another, by `Layout.TakesAll`. A run comes to a record just if the entries
give that record, each for itself (`takesAll_iff_gives`). -/

namespace ListingReview.Json

open Text (Octets octets)

variable {σ : Type}

/-! ### Fields -/

/-- A field of records of type `σ`: its names, how its values are written, and its place in a
record. -/
structure Field (σ : Type) where
  Value : Type
  name : String
  others : List String
  isRequired : Bool
  format : Format Value
  form : Value → Octets → Prop
  get : σ → Value
  put : Value → σ → σ

namespace Field

/-- A field that may be absent. -/
def optional {α : Type} (name : String) (others : List String) (format : Format α)
    (form : α → Octets → Prop) (get : σ → Option α) (put : Option α → σ → σ) : Field σ where
  Value := Option α
  name := name
  others := others
  isRequired := false
  format := format.optional
  form := OrNull form
  get := get
  put := put

/-- A field that every record has. -/
def required {α : Type} (name : String) (format : Format α) (form : α → Octets → Prop)
    (get : σ → α) (put : α → σ → σ) : Field σ where
  Value := α
  name := name
  others := []
  isRequired := true
  format := format
  form := form
  get := get
  put := put

def member (field : Field σ) : Member σ where
  name := field.name
  others := field.others
  isRequired := field.isRequired
  reader := field.format.reader.map field.put
  write record := field.format.write (field.get record)

def names (field : Field σ) : List String := field.name :: field.others

/-- A key, as it is spelled, is one of the names. -/
def Names (field : Field σ) (key : Octets) : Prop := ∃ name ∈ field.names, Spells (octets name) key

/-- No name in common, and what is put into one is not seen in the other. -/
structure Apart (field field' : Field σ) : Prop where
  names : ∀ name ∈ field.names, name ∉ field'.names
  get_put : ∀ value record, field.get (field'.put value record) = field.get record
  get_put' : ∀ value record, field'.get (field.put value record) = field'.get record

theorem apart_iff {field field' : Field σ} : field.Apart field' ↔
    (∀ name ∈ field.names, name ∉ field'.names) ∧
      (∀ value record, field.get (field'.put value record) = field.get record) ∧
        ∀ value record, field'.get (field.put value record) = field'.get record :=
  ⟨fun h => ⟨h.names, h.get_put, h.get_put'⟩, fun h => ⟨h.1, h.2.1, h.2.2⟩⟩

theorem Apart.symm {field field' : Field σ} (h : field.Apart field') : field'.Apart field :=
  ⟨fun name hname hname' => h.names name hname' hname, h.get_put', h.get_put⟩

instance : Std.Symm (@Apart σ) := ⟨fun _ _ => Apart.symm⟩

theorem Names.loose {field : Field σ} {key : Octets} (h : field.Names key) : Loose key := by
  obtain ⟨name, -, hspells⟩ := h
  exact hspells.loose

theorem answers_member (field : Field σ) (key : String) :
    field.member.answers key = true ↔ key ∈ field.names := by
  simp only [Member.answers, member, names, List.mem_cons, Bool.or_eq_true, beq_iff_eq,
    List.contains_iff_mem]
  exact or_congr_left eq_comm

end Field

/-! ### Layouts -/

/-- A shape with its fields. -/
structure Layout (σ : Type) where
  shape : Shape σ
  fields : List (Field σ)
  members_eq : shape.members = fields.map Field.member
  reads : ∀ field ∈ fields, field.format.reader.Reads field.form
  apart : fields.Pairwise Field.Apart
  get_put : ∀ field ∈ fields, ∀ value record, field.get (field.put value record) = value
  ext : ∀ record record', (∀ field ∈ fields, field.get record = field.get record') →
    record = record'

namespace Layout

variable (layout : Layout σ)

/-- A key, as it is spelled, that no field is read under. -/
def Foreign (key : Octets) : Prop :=
  ∃ name : String, Spells (octets name) key ∧ ∀ field ∈ layout.fields, name ∉ field.names

/-- An entry fits a record: it gives the value that the record has, or it belongs to no field. -/
inductive Tells (record : σ) (entry : Entry) : Prop where
  | field {field : Field σ} (h : field ∈ layout.fields) (hname : field.Names entry.key)
    (hvalue : field.form (field.get record) entry.value)
  | foreign (h : layout.Foreign entry.key) (hvalue : WellFormed entry.value)

/-- Two entries that no field is read from both of. -/
def Apart (entry entry' : Entry) : Prop :=
  ∀ field ∈ layout.fields, ¬ (field.Names entry.key ∧ field.Names entry'.key)

/-- The entries of an object, in any order, for a record. -/
structure Members (record : σ) (entries : List Entry) : Prop where
  tells : ∀ entry ∈ entries, layout.Tells record entry
  once : entries.Pairwise layout.Apart
  absent : ∀ field ∈ layout.fields, (∀ entry ∈ entries, ¬ field.Names entry.key) →
    field.isRequired = false ∧ field.get record = field.get layout.shape.blank

/-- Values in the order of the fields; some of the last may be left out, if they are blank. -/
inductive Places (record : σ) : List (Field σ) → List Octets → Prop where
  | all : Places record [] []
  | stop {fields : List (Field σ)} (hstop : layout.shape.mayStop = true)
    (h : ∀ field ∈ fields, field.get record = field.get layout.shape.blank) :
    Places record fields []
  | place {field : Field σ} {fields : List (Field σ)} {part : Octets} {parts : List Octets}
    (h : field.form (field.get record) part) (hrest : Places record fields parts) :
    Places record (field :: fields) (part :: parts)

/-- What is written for a record. -/
inductive Written (record : σ) : Octets → Prop where
  | object {entries : List Entry} {text : Octets} (h : IsObject entries text)
    (hmembers : layout.Members record entries) : Written record text
  | list {parts : List Octets} {text : Octets} (h : IsList parts text)
    (hplaces : layout.Places record layout.fields parts) : Written record text

variable {layout}

/-- Only one field is read under a name. -/
theorem eq_of_name {field field' : Field σ} (h : field ∈ layout.fields)
    (h' : field' ∈ layout.fields) {name : String} (hname : name ∈ field.names)
    (hname' : name ∈ field'.names) : field = field' := by
  by_contra hne
  have hapart := layout.apart.forall h h' hne
  exact hapart.names name hname hname'

theorem eq_of_names {field field' : Field σ} (h : field ∈ layout.fields)
    (h' : field' ∈ layout.fields) {key : Octets} (hname : field.Names key)
    (hname' : field'.Names key) : field = field' := by
  obtain ⟨name, hmem, hspells⟩ := hname
  obtain ⟨name', hmem', hspells'⟩ := hname'
  obtain rfl := hspells.unique hspells'
  exact eq_of_name h h' hmem hmem'

theorem get_put_ne {field field' : Field σ} (h : field ∈ layout.fields)
    (h' : field' ∈ layout.fields) (hne : field ≠ field') (value : field'.Value) (record : σ) :
    field.get (field'.put value record) = field.get record :=
  (layout.apart.forall h h' hne).get_put value record

theorem Foreign.not_names {key : Octets} (h : layout.Foreign key) {field : Field σ}
    (hfield : field ∈ layout.fields) : ¬ field.Names key := by
  obtain ⟨name, hspells, hnone⟩ := h
  rintro ⟨name', hmem, hspells'⟩
  obtain rfl := hspells.unique hspells'
  exact hnone field hfield hmem

theorem Tells.proper {record : σ} {entry : Entry} (h : layout.Tells record entry) :
    entry.Proper := by
  rcases h with ⟨hfield, hname, hform⟩ | ⟨⟨name, hspells, -⟩, hvalue⟩
  · exact ⟨hname.loose, (layout.reads _ hfield).wellFormed hform⟩
  · exact ⟨hspells.loose, hvalue⟩

theorem Members.proper {record : σ} {entries : List Entry} (h : layout.Members record entries) :
    ∀ entry ∈ entries, entry.Proper := fun entry hentry =>
  (h.tells entry hentry).proper

theorem Places.wellFormed {record : σ} {fields : List (Field σ)} {parts : List Octets}
    (h : layout.Places record fields parts) (hfields : ∀ field ∈ fields, field ∈ layout.fields) :
    ∀ part ∈ parts, WellFormed part := by
  induction h with
  | all | stop => exact fun part hpart => absurd hpart List.not_mem_nil
  | @place field fields part parts hform _ ih =>
    intro part' hpart
    rcases List.mem_cons.mp hpart with rfl | hpart
    · exact (layout.reads field (hfields field List.mem_cons_self)).wellFormed hform
    · exact ih (fun field h => hfields field (List.mem_cons_of_mem _ h)) part' hpart

/-! ### Entries, one after another -/

open Shape (Partial)

variable (layout) in
/-- What an entry does to a record in the making. -/
inductive Takes (found : Partial σ) (entry : Entry) : Partial σ → Prop where
  | field {field : Field σ} {value : field.Value} (h : field ∈ layout.fields)
    (hname : field.Names entry.key) (hnew : field.name ∉ found.seen)
    (hvalue : field.form value entry.value) :
    Takes found entry ⟨field.put value found.record, field.name :: found.seen⟩
  | foreign (h : layout.Foreign entry.key) (hvalue : WellFormed entry.value) :
    Takes found entry found

/-- An entry for the field with a number. -/
theorem takes_getElem (layout : Layout σ) {found : Partial σ} {entry : Entry} (i : Nat)
    (hi : i < layout.fields.length) (value : layout.fields[i].Value)
    (hname : layout.fields[i].Names entry.key)
    (hnew : layout.fields[i].name ∉ found.seen) (hvalue : layout.fields[i].form value entry.value) :
    layout.Takes found entry
      ⟨layout.fields[i].put value found.record, layout.fields[i].name :: found.seen⟩ :=
  .field (List.getElem_mem hi) hname hnew hvalue

variable (layout) in
/-- What entries do to a record in the making, one after another. -/
inductive TakesAll : Partial σ → List Entry → Partial σ → Prop where
  | nil {found : Partial σ} : TakesAll found [] found
  | cons {found found' found'' : Partial σ} {entry : Entry} {entries : List Entry}
    (h : layout.Takes found entry found') (hrest : TakesAll found' entries found'') :
    TakesAll found (entry :: entries) found''

/-! ### What entries give -/

/-- The entries of an object, in any order, that turn a record in the making into a record. -/
structure Gives (layout : Layout σ) (found : Partial σ) (entries : List Entry) (record : σ) :
    Prop where
  tells : ∀ entry ∈ entries, layout.Tells record entry
  once : entries.Pairwise layout.Apart
  new : ∀ entry ∈ entries, ∀ field ∈ layout.fields, field.Names entry.key →
    field.name ∉ found.seen
  kept : ∀ field ∈ layout.fields, (∀ entry ∈ entries, ¬ field.Names entry.key) →
    field.get record = field.get found.record

theorem gives_nil {found : Partial σ} {record : σ} :
    layout.Gives found [] record ↔ record = found.record := by
  constructor
  · intro h
    exact layout.ext _ _ fun field hfield => h.kept field hfield fun _ hentry =>
      absurd hentry List.not_mem_nil
  · rintro rfl
    exact ⟨by simp, .nil, by simp, fun _ _ _ => rfl⟩

section Cons

variable {found : Partial σ} {entry : Entry} {entries : List Entry} {record : σ}

theorem gives_cons_foreign (h : layout.Foreign entry.key) (hvalue : WellFormed entry.value) :
    layout.Gives found (entry :: entries) record ↔ layout.Gives found entries record := by
  constructor
  · intro hgives
    refine ⟨fun e he => hgives.tells e (List.mem_cons_of_mem _ he), hgives.once.of_cons,
      fun e he => hgives.new e (List.mem_cons_of_mem _ he), fun field hfield hnone => ?_⟩
    refine hgives.kept field hfield fun e he => ?_
    rcases List.mem_cons.mp he with rfl | he
    · exact h.not_names hfield
    · exact hnone e he
  · intro hgives
    refine ⟨fun e he => ?_, .cons (fun e _ field hfield hboth => ?_) hgives.once,
      fun e he field hfield hname => ?_, fun field hfield hnone => ?_⟩
    · rcases List.mem_cons.mp he with rfl | he
      · exact .foreign h hvalue
      · exact hgives.tells e he
    · exact h.not_names hfield hboth.1
    · rcases List.mem_cons.mp he with rfl | he
      · exact absurd hname (h.not_names hfield)
      · exact hgives.new e he field hfield hname
    · exact hgives.kept field hfield fun e he => hnone e (List.mem_cons_of_mem _ he)

theorem gives_cons_field {field : Field σ} (h : field ∈ layout.fields)
    (hname : field.Names entry.key) :
    layout.Gives found (entry :: entries) record ↔ field.name ∉ found.seen ∧
      ∃ value, field.form value entry.value ∧
        layout.Gives ⟨field.put value found.record, field.name :: found.seen⟩ entries record := by
  have hmem := List.mem_cons_self (a := entry) (l := entries)
  constructor
  · intro hgives
    have hform : field.form (field.get record) entry.value := by
      rcases hgives.tells entry hmem with ⟨h', hname', hvalue⟩ | ⟨hforeign, -⟩
      · obtain rfl := eq_of_names h h' hname hname'
        exact hvalue
      · exact absurd hname (hforeign.not_names h)
    have honce := List.pairwise_cons.mp hgives.once
    refine ⟨hgives.new entry hmem field h hname, field.get record, hform,
      fun e he => hgives.tells e (List.mem_cons_of_mem _ he), honce.2, ?_, ?_⟩
    · intro e he field' h' hname' hseen
      rcases List.mem_cons.mp hseen with heq | hseen
      · obtain rfl := eq_of_name h' h List.mem_cons_self (heq ▸ List.mem_cons_self)
        exact honce.1 e he field' h' ⟨hname, hname'⟩
      · exact hgives.new e (List.mem_cons_of_mem _ he) field' h' hname' hseen
    · intro field' h' hnone
      by_cases heq : field' = field
      · subst heq
        exact (layout.get_put field' h' _ _).symm
      · rw [get_put_ne h' h heq]
        refine hgives.kept field' h' fun e he hname' => ?_
        rcases List.mem_cons.mp he with rfl | he
        · exact heq (eq_of_names h' h hname' hname)
        · exact hnone e he hname'
  · rintro ⟨hnew, value, hform, hgives⟩
    -- no entry behind this one names the field, so its value stays
    have hnot : ∀ e ∈ entries, ¬ field.Names e.key := fun e he hname' =>
      hgives.new e he field h hname' List.mem_cons_self
    have hget : field.get record = value := by
      rw [hgives.kept field h hnot, layout.get_put field h]
    refine ⟨fun e he => ?_, .cons (fun e he field' h' hboth => ?_) hgives.once,
      fun e he field' h' hname' => ?_, fun field' h' hnone => ?_⟩
    · rcases List.mem_cons.mp he with rfl | he
      · exact .field h hname (hget ▸ hform)
      · exact hgives.tells e he
    · obtain rfl := eq_of_names h h' hname hboth.1
      exact hnot e he hboth.2
    · rcases List.mem_cons.mp he with rfl | he
      · obtain rfl := eq_of_names h h' hname hname'
        exact hnew
      · exact fun hseen => hgives.new e he field' h' hname' (List.mem_cons_of_mem _ hseen)
    · have hne : field' ≠ field := by
        rintro rfl
        exact hnone entry hmem hname
      rw [hgives.kept field' h' fun e he => hnone e (List.mem_cons_of_mem _ he)]
      exact get_put_ne h' h hne _ _

end Cons

/-- **A run of entries comes to a record just if they give it.** -/
theorem takesAll_iff_gives {entries : List Entry} {record : σ} : ∀ {found : Partial σ},
    (∃ seen, layout.TakesAll found entries ⟨record, seen⟩) ↔ layout.Gives found entries record := by
  induction entries with
  | nil =>
    intro found
    rw [gives_nil]
    constructor
    · rintro ⟨_, ⟨⟩⟩
      rfl
    · rintro rfl
      exact ⟨found.seen, .nil⟩
  | cons entry entries ih =>
    intro found
    constructor
    · rintro ⟨seen, _ | ⟨⟨hfield, hname, hnew, hform⟩ | ⟨hforeign, hvalue⟩, hall⟩⟩
      · exact (gives_cons_field hfield hname).mpr ⟨hnew, _, hform, ih.mp ⟨seen, hall⟩⟩
      · exact (gives_cons_foreign hforeign hvalue).mpr (ih.mp ⟨seen, hall⟩)
    · intro h
      rcases h.tells entry List.mem_cons_self with ⟨hfield, hname, -⟩ | ⟨hforeign, hvalue⟩
      · obtain ⟨hnew, value, hform, hgives⟩ := (gives_cons_field hfield hname).mp h
        obtain ⟨seen, hall⟩ := ih.mpr hgives
        exact ⟨seen, .cons (.field hfield hname hnew hform) hall⟩
      · obtain ⟨seen, hall⟩ := ih.mpr ((gives_cons_foreign hforeign hvalue).mp h)
        exact ⟨seen, .cons (.foreign hforeign hvalue) hall⟩

/-- The fields found are those found before and those that an entry names. -/
theorem TakesAll.mem_seen {found found' : Partial σ} {entries : List Entry}
    (h : layout.TakesAll found entries found') {field : Field σ} (hfield : field ∈ layout.fields) :
    field.name ∈ found'.seen ↔
      field.name ∈ found.seen ∨ ∃ entry ∈ entries, field.Names entry.key := by
  induction h with
  | nil => simp
  | @cons found found' found'' entry entries htakes hrest ih =>
    rw [ih, List.exists_mem_cons_iff, ← or_assoc]
    refine or_congr_left ?_
    rcases htakes with ⟨hfield', hname, -, -⟩ | ⟨hforeign, -⟩
    · rw [List.mem_cons, or_comm]
      refine or_congr_right ⟨fun heq => ?_, fun hname' => ?_⟩
      · obtain rfl := eq_of_name hfield hfield' List.mem_cons_self (heq ▸ List.mem_cons_self)
        exact hname
      · rw [eq_of_names hfield hfield' hname' hname]
    · exact (or_iff_left (hforeign.not_names hfield)).symm

theorem members_iff {record : σ} {entries : List Entry} : layout.Members record entries ↔
    layout.Gives ⟨layout.shape.blank, []⟩ entries record ∧ ∀ field ∈ layout.fields,
      field.isRequired = true → ∃ entry ∈ entries, field.Names entry.key := by
  constructor
  · intro h
    refine ⟨⟨h.tells, h.once, fun _ _ _ _ _ => List.not_mem_nil, fun field hfield hnone =>
      (h.absent field hfield hnone).2⟩, fun field hfield hrequired => ?_⟩
    by_contra hnone
    have := (h.absent field hfield fun entry hentry hname => hnone ⟨entry, hentry, hname⟩).1
    rw [hrequired] at this
    cases this
  · rintro ⟨h, hrequired⟩
    refine ⟨h.tells, h.once, fun field hfield hnone => ⟨?_, h.kept field hfield hnone⟩⟩
    rw [← Bool.not_eq_true]
    intro hr
    obtain ⟨entry, hentry, hname⟩ := hrequired field hfield hr
    exact hnone entry hentry hname

/-! ### Places, one after another -/

section Places

variable {record found : σ} {field : Field σ} {done fields : List (Field σ)}

/-- No value is left: the last fields have to be blank. -/
theorem places_nil (hfields : done ++ fields = layout.fields)
    (hblank : ∀ field ∈ fields, field.get found = field.get layout.shape.blank) :
    (fields = [] ∨ layout.shape.mayStop = true) ∧ record = found ↔
      layout.Places record fields [] ∧ ∀ field ∈ done, field.get record = field.get found := by
  constructor
  · rintro ⟨rfl | hstop, rfl⟩
    · exact ⟨.all, fun _ _ => rfl⟩
    · exact ⟨.stop hstop hblank, fun _ _ => rfl⟩
  · rintro ⟨hplaces, hdone⟩
    refine ⟨?_, layout.ext _ _ fun field hfield => ?_⟩
    · rcases hplaces with _ | ⟨hstop, -⟩
      · exact .inl rfl
      · exact .inr hstop
    · rw [← hfields, List.mem_append] at hfield
      rcases hfield with hfield | hfield
      · exact hdone field hfield
      · rcases hplaces with _ | ⟨-, h⟩
        · cases hfield
        · rw [h field hfield, hblank field hfield]

theorem apart_middle (hfields : done ++ field :: fields = layout.fields) :
    field ∈ layout.fields ∧ (∀ field' ∈ done, field'.Apart field) ∧
      ∀ field' ∈ fields, field.Apart field' := by
  have hapart := layout.apart
  rw [← hfields, List.pairwise_append, List.pairwise_cons] at hapart
  obtain ⟨-, ⟨hafter, -⟩, hbefore⟩ := hapart
  refine ⟨hfields ▸ by simp, fun field' h => hbefore field' h field List.mem_cons_self, hafter⟩

/-- A value is put into its field, and the fields before it are left alone. -/
theorem places_cons (hfields : done ++ field :: fields = layout.fields) (part : Octets)
    (parts : List Octets) :
    (∃ value, field.form value part ∧ layout.Places record fields parts ∧
        ∀ field' ∈ done ++ [field], field'.get record = field'.get (field.put value found)) ↔
      layout.Places record (field :: fields) (part :: parts) ∧
        ∀ field' ∈ done, field'.get record = field'.get found := by
  obtain ⟨hfield, hbefore, -⟩ := apart_middle hfields
  constructor
  · rintro ⟨value, hform, hplaces, hdone⟩
    have hget : field.get record = value := by
      rw [hdone field (by simp), layout.get_put field hfield]
    refine ⟨.place (hget ▸ hform) hplaces, fun field' h => ?_⟩
    rw [hdone field' (List.mem_append_left _ h), (hbefore field' h).get_put]
  · rintro ⟨_ | _ | ⟨hform, hplaces⟩, hdone⟩
    refine ⟨field.get record, hform, hplaces, fun field' h => ?_⟩
    rcases List.mem_append.mp h with h | h
    · rw [(hbefore field' h).get_put, hdone field' h]
    · rw [List.mem_singleton.mp h, layout.get_put field hfield]

end Places

end Layout

end ListingReview.Json
