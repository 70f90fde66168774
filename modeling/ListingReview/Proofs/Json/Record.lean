import ListingReview.Proofs.Json.Layout

/-! # JSON: records, against the grammar

The reader of a shape reads what its layout says is written for a record (`shape_reads`). An object
is read entry by entry (`readEntry_iff`, `behindEntry_iff`), whichever way its entries are told
apart (`object_read_iff`), and a list place by place (`places_read_iff`). Whatever has been read is
such an object (`readAll_sound`) or such a list (`readPlaces_holds`). -/

namespace ListingReview.Json.Layout

open Text (Octets octets)
open Shape (Partial)

variable {σ : Type} {layout : Layout σ}

/-! ### Looking up a key -/

theorem find?_name {field : Field σ} (h : field ∈ layout.fields) {name : String}
    (hname : name ∈ field.names) : layout.shape.find? name = some field.member := by
  have hmember : field.member ∈ layout.shape.members :=
    layout.members_eq ▸ List.mem_map_of_mem h
  cases hfind : layout.shape.find? name with
  | none =>
    have hnone := List.find?_eq_none.mp hfind _ hmember
    exact absurd ((field.answers_member name).mpr hname) hnone
  | some member =>
    have hmem := List.mem_of_find?_eq_some hfind
    rw [layout.members_eq] at hmem
    obtain ⟨field', hfield', rfl⟩ := List.mem_map.mp hmem
    unfold Shape.find? at hfind
    have hanswers := List.find?_some hfind
    have hname' := (field'.answers_member name).mp hanswers
    rw [eq_of_name h hfield' hname hname']

theorem find?_cases (layout : Layout σ) (name : String) :
    (∃ field ∈ layout.fields, name ∈ field.names ∧ layout.shape.find? name = some field.member) ∨
      ((∀ field ∈ layout.fields, name ∉ field.names) ∧ layout.shape.find? name = none) := by
  by_cases h : ∃ field ∈ layout.fields, name ∈ field.names
  · obtain ⟨field, hfield, hname⟩ := h
    exact .inl ⟨field, hfield, hname, find?_name hfield hname⟩
  · have hnone : ∀ field ∈ layout.fields, name ∉ field.names := fun field hfield hname =>
      h ⟨field, hfield, hname⟩
    refine .inr ⟨hnone, List.find?_eq_none.mpr fun member hmember => ?_⟩
    rw [layout.members_eq] at hmember
    obtain ⟨field, hfield, rfl⟩ := List.mem_map.mp hmember
    rw [field.answers_member]
    exact hnone field hfield

/-! ### One entry -/

theorem readColon_entry (entry : Entry) (rest : Octets) :
    readColon (entry.before ++ octet ':' :: (entry.after ++ (entry.value ++ rest))) =
      .ok (entry.after ++ (entry.value ++ rest)) :=
  readColon_iff.mpr (skipBlanks_mark entry.blanks_before (by decide) _)

theorem readText_entry {entry : Entry} {name : String} (h : Spells (octets name) entry.key)
    (rest : Octets) : readText (entry.body ++ rest) =
      .ok (name, entry.before ++ octet ':' :: (entry.after ++ (entry.value ++ rest))) :=
  readText_iff.mpr ⟨entry.key, h, by simp [Entry.body]⟩

theorem readText_entry_cases {entry : Entry} {name : String} {rest rest' : Octets}
    (hkey : Loose entry.key) (h : readText (entry.body ++ rest) = .ok (name, rest')) :
    Spells (octets name) entry.key ∧
      rest' = entry.before ++ octet ':' :: (entry.after ++ (entry.value ++ rest)) := by
  obtain ⟨spelling, hspells, heq⟩ := readText_iff.mp h
  have hbody : entry.body ++ rest = entry.key ++ octet '"' ::
      (entry.before ++ octet ':' :: (entry.after ++ (entry.value ++ rest))) := by
    simp [Entry.body]
  rw [hbody] at heq
  obtain ⟨rfl, rfl⟩ := Loose.unique hkey hspells.loose heq
  exact ⟨hspells, rfl⟩

/-- A member that has been found is not read again, whatever follows. -/
theorem readMember_seen {member : Member σ} {found : Partial σ} (h : member.name ∈ found.seen)
    (key : String) (bytes : Octets) : Shape.readMember member key found bytes =
      .error (Cause.duplicate member.name).here :=
  if_pos (List.contains_iff_mem.mpr h)

/-- A member that has not been found is read behind the colon. -/
theorem readMember_new {member : Member σ} {found : Partial σ} (h : member.name ∉ found.seen)
    (key : String) {bytes rest rest' : Octets} (hcolon : readColon bytes = .ok rest) {put : σ → σ}
    (hread : member.reader.read rest = .ok (put, rest')) :
    Shape.readMember member key found bytes =
      .ok (⟨put found.record, member.name :: found.seen⟩, rest') := by
  simp only [Shape.readMember, if_neg (fun hc => h (List.contains_iff_mem.mp hc)), hcolon, hread]

theorem readMember_error {member : Member σ} {found : Partial σ} (h : member.name ∉ found.seen)
    (key : String) {bytes rest : Octets} (hcolon : readColon bytes = .ok rest) {fault : Fault}
    (hread : member.reader.read rest = .error fault) :
    Shape.readMember member key found bytes = .error (fault.under (.key key)) := by
  simp only [Shape.readMember, if_neg (fun hc => h (List.contains_iff_mem.mp hc)), hcolon, hread]

section Entry

variable {entry : Entry} {rest rest' : Octets} {found found' : Partial σ}

/-- The value of a field. -/
theorem member_read_iff {field : Field σ} (h : field ∈ layout.fields) {blanks text : Octets}
    (hblanks : Blanks blanks) (htext : WellFormed text) (hrest : Ends rest) {put : σ → σ} :
    field.member.reader.read (blanks ++ (text ++ rest)) = .ok (put, rest') ↔
      (∃ value, field.form value text ∧ put = field.put value) ∧ rest' = rest := by
  rw [Field.member, map_read_iff]
  simp only [(layout.reads field h).blanks_iff hblanks htext hrest]
  constructor
  · rintro ⟨value, ⟨hform, rfl⟩, rfl⟩
    exact ⟨⟨value, hform, rfl⟩, rfl⟩
  · rintro ⟨⟨value, hform, rfl⟩, rfl⟩
    exact ⟨value, ⟨hform, rfl⟩, rfl⟩

/-- The value behind the key of a field. -/
theorem readMember_iff {field : Field σ} (h : field ∈ layout.fields) (name : String)
    (hvalue : WellFormed entry.value) (hrest : Ends rest) :
    Shape.readMember field.member name found
      (entry.before ++ octet ':' :: (entry.after ++ (entry.value ++ rest))) = .ok (found', rest') ↔
      field.name ∉ found.seen ∧ (∃ value, field.form value entry.value ∧
        found' = ⟨field.put value found.record, field.name :: found.seen⟩) ∧ rest' = rest := by
  have hread : ∀ {put rest'}, field.member.reader.read (entry.after ++ (entry.value ++ rest)) =
      .ok (put, rest') ↔ (∃ value, field.form value entry.value ∧ put = field.put value) ∧
        rest' = rest := member_read_iff h entry.blanks_after hvalue hrest
  by_cases hseen : field.name ∈ found.seen
  · rw [readMember_seen (show field.member.name ∈ found.seen from hseen)]
    simp [hseen]
  · have hnew : field.member.name ∉ found.seen := hseen
    have hcolon := readColon_entry entry rest
    constructor
    · intro hfound
      cases hput : field.member.reader.read (entry.after ++ (entry.value ++ rest)) with
      | error fault =>
        rw [readMember_error hnew name hcolon hput] at hfound
        cases hfound
      | ok next =>
        obtain ⟨⟨value, hform, hvalue⟩, hrest'⟩ := hread.mp hput
        rw [readMember_new hnew name hcolon hput] at hfound
        cases hfound
        exact ⟨hseen, ⟨value, hform, by rw [hvalue]; rfl⟩, hrest'⟩
    · rintro ⟨-, ⟨value, hform, rfl⟩, rfl⟩
      exact readMember_new hnew name hcolon (hread.mpr ⟨⟨value, hform, rfl⟩, rfl⟩)

/-- The value behind the key of no field. -/
theorem passMember_eq (name : String) (hvalue : WellFormed entry.value) (hrest : Ends rest) :
    Shape.passMember name found (entry.before ++ octet ':' ::
      (entry.after ++ (entry.value ++ rest))) = .ok (found, rest) := by
  have hskip := skipValue_wellFormed hvalue [] hrest
    (hvalue.starts.skipBlanks_append entry.blanks_after rest)
  rw [skipRest] at hskip
  simp only [Shape.passMember, readColon_entry, Reader.anything, hskip]

theorem passMember_sound {name : String} {bytes : Octets}
    (h : Shape.passMember name found bytes = .ok (found', rest)) :
    ∃ inside, readColon bytes = .ok inside ∧ Leading WellFormed inside rest := by
  unfold Shape.passMember at h
  split at h
  · cases h
  · next inside hcolon =>
    refine ⟨inside, hcolon, ?_⟩
    simp only [Reader.anything] at h
    cases hskip : skipValue [] inside with
    | error cause =>
      rw [hskip] at h
      cases h
    | ok rest' =>
      rw [hskip] at h
      cases h
      obtain ⟨middle, hvalue, hclosed⟩ := skipValue_sound [] inside hskip
      cases hclosed
      exact hvalue

theorem readMember_sound {field : Field σ} (hfield : field ∈ layout.fields) {name : String}
    {bytes : Octets} (h : Shape.readMember field.member name found bytes = .ok (found', rest)) :
    ∃ inside, readColon bytes = .ok inside ∧ Leading WellFormed inside rest := by
  unfold Shape.readMember at h
  split_ifs at h
  split at h
  · cases h
  · next inside hcolon =>
    refine ⟨inside, hcolon, ?_⟩
    split at h
    · cases h
    · next hread =>
      cases h
      obtain ⟨value, hvalue, -⟩ := map_read_iff.mp hread
      have hreads := layout.reads field hfield
      exact (hreads.sound hvalue).imp fun _ => hreads.wellFormed

/-- An entry behind the opening quote of its key. -/
theorem readEntry_sound {bytes bytes' : Octets} (hquote : skipBlanks bytes' = octet '"' :: bytes)
    (h : layout.shape.readEntry found bytes = .ok (found', rest)) :
    Leading Bracket.object.IsPart bytes' rest := by
  unfold Shape.readEntry at h
  split at h
  · cases h
  · next name behind htext =>
    obtain ⟨key, hspells, rfl⟩ := readText_iff.mp htext
    have hvalue : ∃ inside, readColon behind = .ok inside ∧ Leading WellFormed inside rest := by
      rcases layout.find?_cases name with ⟨field, hfield, -, hfind⟩ | ⟨-, hfind⟩
      · simp only [hfind] at h
        exact readMember_sound hfield h
      · simp only [hfind] at h
        exact passMember_sound h
    obtain ⟨inside, hcolon, hvalue⟩ := hvalue
    obtain ⟨before, hbefore, rfl⟩ := exists_blanks_mark (readColon_iff.mp hcolon)
    exact Bracket.part_object hquote hspells.loose hbefore hvalue

theorem readEntry_iff (hproper : entry.Proper) (hrest : Ends rest) :
    layout.shape.readEntry found (entry.body ++ rest) = .ok (found', rest') ↔
      layout.Takes found entry found' ∧ rest' = rest := by
  constructor
  · intro h
    unfold Shape.readEntry at h
    split at h
    · cases h
    · next name _ hread =>
      obtain ⟨hspells, rfl⟩ := readText_entry_cases hproper.key hread
      rcases layout.find?_cases name with ⟨field, hfield, hname, hfind⟩ | ⟨hnone, hfind⟩
      · simp only [hfind] at h
        obtain ⟨hnew, ⟨value, hform, rfl⟩, rfl⟩ :=
          (readMember_iff hfield name hproper.value hrest).mp h
        exact ⟨.field hfield ⟨name, hname, hspells⟩ hnew hform, rfl⟩
      · simp only [hfind, passMember_eq name hproper.value hrest] at h
        cases h
        exact ⟨.foreign ⟨name, hspells, hnone⟩ hproper.value, rfl⟩
  · rintro ⟨h, rfl⟩
    rcases h with ⟨hfield, ⟨name, hname, hspells⟩, hnew, hform⟩ | ⟨⟨name, hspells, hnone⟩, hvalue⟩
    · rw [Shape.readEntry, readText_entry hspells]
      simp only [find?_name hfield hname]
      exact (readMember_iff hfield name hproper.value hrest).mpr ⟨hnew, ⟨_, hform, rfl⟩, rfl⟩
    · rcases layout.find?_cases name with ⟨field, hfield, hname, -⟩ | ⟨-, hfind⟩
      · exact absurd hname (hnone field hfield)
      · rw [Shape.readEntry, readText_entry hspells]
        simp only [hfind, passMember_eq name hvalue hrest]

end Entry

/-! ### All entries -/

/-- What is done behind an entry. -/
def behindEntry (shape : Shape σ) (found : Partial σ) (bytes : Octets) :
    Except Fault (Partial σ × Octets) :=
  match nextMember bytes with
  | .error cause => .error cause.inKey
  | .ok (.closed rest) => .ok (found, rest)
  | .ok (.part rest) => shape.readEntries found rest

theorem readEntries_eq (shape : Shape σ) (found : Partial σ) (bytes : Octets) :
    shape.readEntries found bytes =
      match shape.readEntry found bytes with
      | .error fault => .error fault
      | .ok (found', rest) => behindEntry shape found' rest := by
  rw [Shape.readEntries]
  split
  · next h => simp only [h]
  · next h =>
    simp only [h, behindEntry]
    split <;> next h => simp only [h]

section Entries

variable {entry : Entry} {rest rest' : Octets} {found found' found'' : Partial σ}

theorem readEntries_takes (hproper : entry.Proper) (hrest : Ends rest)
    (h : layout.Takes found entry found') :
    layout.shape.readEntries found (entry.body ++ rest) = behindEntry layout.shape found' rest := by
  rw [readEntries_eq, (readEntry_iff hproper hrest).mpr ⟨h, rfl⟩]

theorem readEntries_refused (hproper : entry.Proper) (hrest : Ends rest)
    (h : ∀ found', ¬ layout.Takes found entry found') :
    ∃ fault, layout.shape.readEntries found (entry.body ++ rest) = .error fault := by
  rw [readEntries_eq]
  cases hread : layout.shape.readEntry found (entry.body ++ rest) with
  | error fault => exact ⟨fault, rfl⟩
  | ok next => exact absurd ((readEntry_iff hproper hrest).mp hread).1 (h next.1)

theorem behindEntry_close (shape : Shape σ) (h : skipBlanks rest = octet '\x7d' :: rest') :
    behindEntry shape found rest = .ok (found, rest') := by
  rw [behindEntry, nextMember_close h]

theorem behindEntry_comma (shape : Shape σ) {blanks blanks' : Octets} (h : Blanks blanks)
    (h' : Blanks blanks') (entry : Entry) (rest : Octets) :
    behindEntry shape found (blanks ++ octet ',' :: (blanks' ++ (entry.text ++ rest))) =
      shape.readEntries found (entry.body ++ rest) := by
  rw [behindEntry,
    nextMember_comma (skipBlanks_mark h (by decide) _) (skipBlanks_entry h' entry rest)]

/-- An entry and the entries behind it. -/
theorem readEntries_cons {entries : List Entry} (hproper : entry.Proper) {text : Octets}
    (hends : Ends (text ++ rest))
    (hmore : ∀ found, behindEntry layout.shape found (text ++ rest) = .ok (found', rest') ↔
      layout.TakesAll found entries found' ∧ rest' = rest) :
    layout.shape.readEntries found (entry.body ++ (text ++ rest)) = .ok (found', rest') ↔
      layout.TakesAll found (entry :: entries) found' ∧ rest' = rest := by
  constructor
  · intro h
    by_cases htakes : ∃ found', layout.Takes found entry found'
    · obtain ⟨found₁, htakes⟩ := htakes
      rw [readEntries_takes hproper hends htakes] at h
      obtain ⟨hall, rfl⟩ := (hmore found₁).mp h
      exact ⟨.cons htakes hall, rfl⟩
    · obtain ⟨fault, herror⟩ := readEntries_refused hproper hends (not_exists.mp htakes)
      rw [herror] at h
      cases h
  · rintro ⟨_ | ⟨htakes, hall⟩, rfl⟩
    rw [readEntries_takes hproper hends htakes]
    exact (hmore _).mpr ⟨hall, rfl⟩

/-- The entries behind one of them. -/
theorem behindEntry_iff {entries : List Entry} {text : Octets}
    (hbehind : Behind (octet '\x7d') (entries.map Entry.text) text)
    (hproper : ∀ entry ∈ entries, entry.Proper) (found : Partial σ) :
    behindEntry layout.shape found (text ++ rest) = .ok (found', rest') ↔
      layout.TakesAll found entries found' ∧ rest' = rest := by
  generalize hparts : entries.map Entry.text = parts at hbehind
  induction hbehind generalizing entries found with
  | @close blanks hblanks =>
    obtain rfl := List.map_eq_nil_iff.mp hparts
    have hclose : skipBlanks ((blanks ++ [octet '\x7d']) ++ rest) = octet '\x7d' :: rest :=
      skipBlanks_last hblanks (by decide) rest
    rw [behindEntry_close layout.shape hclose]
    constructor
    · intro h
      cases h
      exact ⟨.nil, rfl⟩
    · rintro ⟨⟨⟩, rfl⟩
      rfl
  | @comma blanks blanks' part text parts hblanks hblanks' hrest ih =>
    obtain ⟨next, entries', rfl, rfl, rfl⟩ := List.map_eq_cons_iff.mp hparts
    have hread : behindEntry layout.shape found
        ((blanks ++ octet ',' :: (blanks' ++ (next.text ++ text))) ++ rest) =
          layout.shape.readEntries found (next.body ++ (text ++ rest)) := by
      rw [← behindEntry_comma layout.shape hblanks hblanks']
      simp only [List.append_assoc, List.cons_append]
    rw [hread]
    exact readEntries_cons (hproper next List.mem_cons_self) (hrest.ends (by decide) rest)
      fun found => ih (fun entry he => hproper entry (List.mem_cons_of_mem next he)) found rfl

/-- The entries that have been taken stand in front of the rest. -/
theorem readEntries_sound {bytes bytes' : Octets} (hquote : skipBlanks bytes' = octet '"' :: bytes)
    (h : layout.shape.readEntries found bytes = .ok (found', rest)) :
    ∃ middle, Leading Bracket.object.IsPart bytes' middle ∧ Bracket.object.Closes middle rest := by
  fun_induction Shape.readEntries layout.shape found bytes generalizing bytes' with
  | case1 => cases h
  | case2 => cases h
  | case3 found bytes found₁ middle hentry behind hnext =>
    cases h
    rcases nextMember_cases hnext with ⟨_, hclosed, hclose⟩ | ⟨_, _, hpart, -⟩
    · cases hclosed
      exact ⟨middle, readEntry_sound hquote hentry, Bracket.closes_nil hclose⟩
    · cases hpart
  | case4 found bytes found₁ middle hentry behind hnext ih =>
    rcases nextMember_cases hnext with ⟨_, hclosed, -⟩ | ⟨inside, _, hpart, hcomma, hquote'⟩
    · cases hclosed
    · cases hpart
      obtain ⟨middle', hpart, hcloses⟩ := ih hquote' h
      exact ⟨middle, readEntry_sound hquote hentry, Bracket.closes_cons hcomma hpart hcloses⟩

end Entries

/-! ### Objects -/

theorem complete_iff {found : Partial σ} {record : σ} :
    layout.shape.complete found = .ok record ↔ record = found.record ∧
      ∀ field ∈ layout.fields, field.isRequired = true → field.name ∈ found.seen := by
  have hmissing : (∀ field ∈ layout.fields, field.isRequired = true → field.name ∈ found.seen) ↔
      (layout.shape.members.find? fun member =>
        member.isRequired && !found.seen.contains member.name) = none := by
    rw [layout.members_eq, List.find?_eq_none, List.forall_mem_map]
    refine forall₂_congr fun field _ => ?_
    simp [Field.member]
  rw [hmissing, Shape.complete]
  constructor
  · intro h
    split at h
    · cases h
    · next hnone =>
      cases h
      exact ⟨rfl, hnone⟩
  · rintro ⟨rfl, hnone⟩
    rw [hnone]

theorem members_iff_takesAll {record : σ} {entries : List Entry} : layout.Members record entries ↔
    ∃ found, layout.TakesAll ⟨layout.shape.blank, []⟩ entries found ∧
      layout.shape.complete found = .ok record := by
  have hseen : ∀ {found}, layout.TakesAll ⟨layout.shape.blank, []⟩ entries found →
      ∀ field ∈ layout.fields, field.name ∈ found.seen ↔
        ∃ entry ∈ entries, field.Names entry.key := fun hall field hfield => by
    rw [hall.mem_seen hfield, or_iff_right List.not_mem_nil]
  rw [members_iff, ← takesAll_iff_gives]
  constructor
  · rintro ⟨⟨seen, hall⟩, hrequired⟩
    exact ⟨_, hall, complete_iff.mpr ⟨rfl, fun field hfield hr =>
      (hseen hall field hfield).mpr (hrequired field hfield hr)⟩⟩
  · rintro ⟨⟨_, seen⟩, hall, hcomplete⟩
    obtain ⟨rfl, hrequired⟩ := complete_iff.mp hcomplete
    exact ⟨⟨seen, hall⟩, fun field hfield hr =>
      (hseen hall field hfield).mp (hrequired field hfield hr)⟩

section Object

variable {entries : List Entry} {text rest rest' : Octets}

/-- What has been found at the closing brace. -/
def readAll (shape : Shape σ) (bytes : Octets) : Except Fault (Partial σ × Octets) :=
  match firstMember bytes with
  | .error cause => .error cause.inKey
  | .ok (.closed rest) => .ok (⟨shape.blank, []⟩, rest)
  | .ok (.part rest) => shape.readEntries ⟨shape.blank, []⟩ rest

theorem readObject_eq (shape : Shape σ) (bytes : Octets) : shape.readObject bytes =
    match readAll shape bytes with
    | .error fault => .error fault
    | .ok (found, rest) =>
      match shape.complete found with
      | .error cause => .error cause.here
      | .ok record => .ok (record, rest) := rfl

theorem readObject_iff {shape : Shape σ} {bytes : Octets} {record : σ} :
    shape.readObject bytes = .ok (record, rest) ↔
      ∃ found, readAll shape bytes = .ok (found, rest) ∧ shape.complete found = .ok record := by
  rw [readObject_eq]
  rcases readAll shape bytes with fault | ⟨found, rest'⟩
  · simp
  · rcases hcomplete : shape.complete found with cause | record'
    · simp [hcomplete]
    · simp [hcomplete, and_comm]

theorem readAll_iff (h : HasEntries (octet '\x7b' :: text) entries) {found : Partial σ} :
    readAll layout.shape (text ++ rest) = .ok (found, rest') ↔
      layout.TakesAll ⟨layout.shape.blank, []⟩ entries found ∧ rest' = rest := by
  obtain ⟨h, hproper⟩ := h
  unfold IsObject at h
  generalize hparts : entries.map Entry.text = parts at h
  rcases h with @⟨blanks, hblanks⟩ | @⟨blanks, part, text, parts, hblanks, hbehind⟩
  · obtain rfl := List.map_eq_nil_iff.mp hparts
    have hclose : skipBlanks ((blanks ++ [octet '\x7d']) ++ rest) = octet '\x7d' :: rest :=
      skipBlanks_last hblanks (by decide) rest
    rw [readAll, firstMember_close hclose]
    constructor
    · intro h
      cases h
      exact ⟨.nil, rfl⟩
    · rintro ⟨⟨⟩, rfl⟩
      rfl
  · obtain ⟨entry, entries', rfl, rfl, rfl⟩ := List.map_eq_cons_iff.mp hparts
    have hquote : skipBlanks ((blanks ++ (entry.text ++ text)) ++ rest) =
        octet '"' :: (entry.body ++ (text ++ rest)) := by
      rw [List.append_assoc, List.append_assoc]
      exact skipBlanks_entry hblanks entry _
    rw [readAll, firstMember_quote hquote]
    exact readEntries_cons (hproper entry List.mem_cons_self) (hbehind.ends (by decide) rest)
      fun found => behindEntry_iff hbehind
        (fun e he => hproper e (List.mem_cons_of_mem entry he)) found

theorem readAll_sound {bytes : Octets} {found : Partial σ}
    (h : readAll layout.shape bytes = .ok (found, rest)) : Bracket.object.Holds bytes rest := by
  unfold readAll at h
  split at h
  · cases h
  · next hfirst =>
    cases h
    rcases firstMember_cases hfirst with ⟨_, hclosed, hclose⟩ | ⟨_, hpart, -⟩
    · cases hclosed
      exact Bracket.holds_nil hclose
    · cases hpart
  · next hfirst =>
    rcases firstMember_cases hfirst with ⟨_, hclosed, -⟩ | ⟨_, hpart, hquote⟩
    · cases hclosed
    · cases hpart
      obtain ⟨middle, hpart, hcloses⟩ := readEntries_sound hquote h
      exact Bracket.holds_cons hpart hcloses

theorem read_brace (shape : Shape σ) {bytes : Octets}
    (h : skipBlanks bytes = octet '\x7b' :: rest) :
    shape.reader.read bytes = shape.readObject rest := by
  simp only [Shape.reader, h, if_true]

/-- **A record from an object**, whichever way its entries are told apart. -/
theorem object_read_iff (h : HasEntries text entries) {record : σ} :
    layout.shape.reader.read (text ++ rest) = .ok (record, rest') ↔
      layout.Members record entries ∧ rest' = rest := by
  obtain ⟨text, rfl⟩ := Brackets.cons h.isObject
  rw [List.cons_append, read_brace layout.shape (skipBlanks_cons (by decide) _), readObject_iff,
    members_iff_takesAll]
  constructor
  · rintro ⟨found, hread, hcomplete⟩
    obtain ⟨hall, rfl⟩ := (readAll_iff h).mp hread
    exact ⟨⟨found, hall, hcomplete⟩, rfl⟩
  · rintro ⟨⟨found, hall, hcomplete⟩, rfl⟩
    exact ⟨found, (readAll_iff h).mpr ⟨hall, rfl⟩, hcomplete⟩

end Object

/-! ### Lists -/

section Places

variable {record found : σ} {field : Field σ} {done fields : List (Field σ)} {index : Nat}
  {bytes rest rest' : Octets}

theorem readPlaces_nil {shape : Shape σ} : shape.readPlaces index found bytes [] =
    .ok (record, rest) ↔ record = found ∧ skipBlanks bytes = octet ']' :: rest := by
  rw [Shape.readPlaces, ← closeList_iff]
  rcases closeList bytes with _ | _
  · simp
  · simp [eq_comm]

theorem readPlaces_closed (h : (if index = 0 then firstItem bytes else nextItem bytes) =
      .ok (.closed rest)) :
    layout.shape.readPlaces index found bytes ((field :: fields).map Field.member) =
        .ok (record, rest') ↔ (layout.shape.mayStop = true ∧ record = found) ∧ rest' = rest := by
  simp only [List.map_cons, Shape.readPlaces, h]
  split <;> next hstop => simp [hstop, eq_comm]

/-- What is done where a value stands. -/
def atPlace (shape : Shape σ) (index : Nat) (record : σ) (member : Member σ)
    (members : List (Member σ)) (bytes : Octets) : Except Fault (σ × Octets) :=
  match member.reader.read bytes with
  | .error fault => .error (fault.under (.index index))
  | .ok (put, rest) => shape.readPlaces (index + 1) (put record) rest members

theorem readPlaces_part {shape : Shape σ} {member : Member σ} {members : List (Member σ)}
    (h : (if index = 0 then firstItem bytes else nextItem bytes) = .ok (.part rest)) :
    shape.readPlaces index found bytes (member :: members) =
      atPlace shape index found member members rest := by
  rcases hread : member.reader.read rest with _ | _ <;>
    simp only [Shape.readPlaces, h, atPlace, hread]

theorem atPlace_iff (hfield : field ∈ layout.fields) {part : Octets} (hpart : WellFormed part)
    (hrest : Ends rest) {members : List (Member σ)} :
    atPlace layout.shape index found field.member members (part ++ rest) = .ok (record, rest') ↔
      ∃ value, field.form value part ∧
        layout.shape.readPlaces (index + 1) (field.put value found) rest members =
          .ok (record, rest') := by
  have hread : ∀ {put rest'}, field.member.reader.read (part ++ rest) = .ok (put, rest') ↔
      (∃ value, field.form value part ∧ put = field.put value) ∧ rest' = rest :=
    member_read_iff hfield .nil hpart hrest
  rw [atPlace]
  constructor
  · intro hfound
    split at hfound
    · cases hfound
    · next hput =>
      obtain ⟨⟨value, hform, rfl⟩, rfl⟩ := hread.mp hput
      exact ⟨value, hform, hfound⟩
  · rintro ⟨value, hform, hfound⟩
    rw [hread.mpr ⟨⟨value, hform, rfl⟩, rfl⟩]
    exact hfound

/-- The values behind one of them. -/
theorem readPlaces_behind {parts : List Octets} {text : Octets}
    (hbehind : Behind (octet ']') parts text) (hparts : ∀ part ∈ parts, WellFormed part)
    (hfields : done ++ fields = layout.fields) (hindex : index ≠ 0)
    (hblank : ∀ field ∈ fields, field.get found = field.get layout.shape.blank) :
    layout.shape.readPlaces index found (text ++ rest) (fields.map Field.member) =
        .ok (record, rest') ↔ (layout.Places record fields parts ∧
      ∀ field ∈ done, field.get record = field.get found) ∧ rest' = rest := by
  induction hbehind generalizing done fields found index with
  | @close blanks hblanks =>
    have hclose : skipBlanks ((blanks ++ [octet ']']) ++ rest) = octet ']' :: rest :=
      skipBlanks_last hblanks (by decide) rest
    rw [← places_nil hfields hblank]
    rcases fields with _ | ⟨field, fields⟩
    · rw [List.map_nil, readPlaces_nil, hclose, List.cons_inj_right, eq_comm (a := rest)]
      exact and_congr_left' (and_iff_right (.inl rfl)).symm
    · rw [readPlaces_closed (by rw [if_neg hindex, nextItem_close hclose])]
      simp
  | @comma blanks blanks' part text parts hblanks hblanks' hrest ih =>
    have hpart := hparts part List.mem_cons_self
    have hcomma : skipBlanks ((blanks ++ octet ',' :: (blanks' ++ (part ++ text))) ++ rest) =
        octet ',' :: (blanks' ++ (part ++ (text ++ rest))) := by
      simp only [List.append_assoc, List.cons_append]
      exact skipBlanks_mark hblanks (by decide) _
    rcases fields with _ | ⟨field, fields⟩
    · rw [List.map_nil, readPlaces_nil, hcomma]
      constructor
      · rintro ⟨-, ⟨⟩⟩
      · rintro ⟨⟨⟨⟩, -⟩, -⟩
    · obtain ⟨hfield, -, hafter⟩ := apart_middle hfields
      have hnext := nextItem_comma hcomma (hpart.starts.skipBlanks_append hblanks' _) hpart.starts
      rw [List.map_cons, readPlaces_part (by rw [if_neg hindex, hnext]),
        atPlace_iff hfield hpart (hrest.ends (by decide) rest), ← places_cons hfields,
        ← exists_and_right]
      refine exists_congr fun value => (and_congr_right fun _ => ?_).trans and_assoc.symm
      -- the fields behind this one are apart from it, so they are blank as before
      refine ih (fun p hp => hparts p (List.mem_cons_of_mem part hp)) (by simp [← hfields])
        (Nat.succ_ne_zero index) fun field' h => ?_
      rw [(hafter field' h).get_put', hblank field' (List.mem_cons_of_mem _ h)]

theorem atPlace_sound (hfield : field ∈ layout.fields) {members : List (Member σ)}
    (h : atPlace layout.shape index found field.member members bytes = .ok (record, rest)) :
    ∃ found' middle, Leading WellFormed bytes middle ∧
      layout.shape.readPlaces (index + 1) found' middle members = .ok (record, rest) := by
  unfold atPlace at h
  split at h
  · cases h
  · next put middle hread =>
    obtain ⟨value, hvalue, -⟩ := map_read_iff.mp hread
    have hreads := layout.reads field hfield
    exact ⟨put found, middle, (hreads.sound hvalue).imp fun _ => hreads.wellFormed, h⟩

/-- The values that have been taken behind another stand in front of the rest. -/
theorem readPlaces_closes (hfields : ∀ field ∈ fields, field ∈ layout.fields) (hindex : index ≠ 0)
    (h : layout.shape.readPlaces index found bytes (fields.map Field.member) =
      .ok (record, rest)) : Bracket.list.Closes bytes rest := by
  induction fields generalizing index found bytes with
  | nil => exact Bracket.closes_nil (readPlaces_nil.mp h).2
  | cons field fields ih =>
    obtain ⟨hfield, hfields⟩ := List.forall_mem_cons.mp hfields
    cases hnext : nextItem bytes with
    | error cause =>
      simp only [List.map_cons, Shape.readPlaces, if_neg hindex, hnext] at h
      cases h
    | ok next =>
      rcases nextItem_cases hnext with ⟨rest', rfl, hclose⟩ | ⟨inside, rfl, hcomma⟩
      · obtain ⟨-, rfl⟩ := (readPlaces_closed (by rw [if_neg hindex, hnext])).mp h
        exact Bracket.closes_nil hclose
      · rw [List.map_cons, readPlaces_part (by rw [if_neg hindex, hnext])] at h
        obtain ⟨found', middle, hvalue, hrest⟩ := atPlace_sound hfield h
        exact Bracket.closes_cons hcomma (Bracket.part_list hvalue.of_skipBlanks)
          (ih hfields (Nat.succ_ne_zero index) hrest)

theorem readPlaces_holds (hfields : ∀ field ∈ fields, field ∈ layout.fields)
    (h : layout.shape.readPlaces 0 found bytes (fields.map Field.member) = .ok (record, rest)) :
    Bracket.list.Holds bytes rest := by
  rcases fields with _ | ⟨field, fields⟩
  · exact Bracket.holds_nil (readPlaces_nil.mp h).2
  · obtain ⟨hfield, hfields⟩ := List.forall_mem_cons.mp hfields
    cases hfirst : firstItem bytes with
    | error cause =>
      simp only [List.map_cons, Shape.readPlaces, if_pos, hfirst] at h
      cases h
    | ok next =>
      rcases firstItem_cases hfirst with ⟨rest', rfl, hclose⟩ | rfl
      · obtain ⟨-, rfl⟩ := (readPlaces_closed (by rw [if_pos rfl, hfirst])).mp h
        exact Bracket.holds_nil hclose
      · rw [List.map_cons, readPlaces_part (by rw [if_pos rfl, hfirst])] at h
        obtain ⟨found', middle, hvalue, hrest⟩ := atPlace_sound hfield h
        exact Bracket.holds_cons (Bracket.part_list hvalue.of_skipBlanks)
          (readPlaces_closes hfields (Nat.succ_ne_zero 0) hrest)

theorem read_bracket (shape : Shape σ) (h : skipBlanks bytes = octet '[' :: rest) :
    shape.reader.read bytes = shape.readPlaces 0 shape.blank rest shape.members := by
  simp only [Shape.reader, h]
  exact if_neg (by decide)

/-- **A record from a list**, whichever way its parts are told apart. -/
theorem places_read_iff {parts : List Octets} {text : Octets} (h : HasItems text parts) :
    layout.shape.reader.read (text ++ rest) = .ok (record, rest') ↔
      layout.Places record layout.fields parts ∧ rest' = rest := by
  obtain ⟨fields, hfields⟩ : ∃ fields, [] ++ fields = layout.fields := ⟨_, rfl⟩
  have hread : ∀ {text}, layout.shape.reader.read (octet '[' :: text ++ rest) =
      layout.shape.readPlaces 0 layout.shape.blank (text ++ rest) (fields.map Field.member) := by
    intro text
    rw [List.cons_append, read_bracket layout.shape (skipBlanks_cons (by decide) _),
      layout.members_eq, ← hfields, List.nil_append]
  rw [← hfields, List.nil_append]
  obtain ⟨h, hparts⟩ := h
  rcases h with @⟨blanks, hblanks⟩ | @⟨blanks, part, text, parts, hblanks, hbehind⟩
  · have hclose : skipBlanks ((blanks ++ [octet ']']) ++ rest) = octet ']' :: rest :=
      skipBlanks_last hblanks (by decide) rest
    have hplaces : (fields = [] ∨ layout.shape.mayStop = true) ∧ record = layout.shape.blank ↔
        layout.Places record fields [] := by
      simpa using places_nil hfields fun _ _ => rfl
    rw [hread, ← hplaces]
    rcases fields with _ | ⟨field, fields⟩
    · rw [List.map_nil, readPlaces_nil, hclose, List.cons_inj_right, eq_comm (a := rest)]
      exact and_congr_left' (and_iff_right (.inl rfl)).symm
    · rw [readPlaces_closed (by rw [if_pos rfl, firstItem_close hclose])]
      simp
  · have hpart := hparts part List.mem_cons_self
    have hstart : skipBlanks ((blanks ++ (part ++ text)) ++ rest) = part ++ (text ++ rest) := by
      rw [List.append_assoc, List.append_assoc]
      exact hpart.starts.skipBlanks_append hblanks _
    rw [hread]
    rcases fields with _ | ⟨field, fields⟩
    · rw [List.map_nil, readPlaces_nil, hstart]
      constructor
      · rintro ⟨-, hclose⟩
        exact absurd (congrArg List.head? hclose) (hpart.starts.head_ne_close _)
      · rintro ⟨⟨⟩, -⟩
    · obtain ⟨hfield, -, hafter⟩ := apart_middle hfields
      have hplaces : (∃ value, field.form value part ∧ layout.Places record fields parts ∧
          ∀ field' ∈ [field], field'.get record =
            field'.get (field.put value layout.shape.blank)) ↔
          layout.Places record (field :: fields) (part :: parts) := by
        simpa using places_cons hfields part parts
      rw [List.map_cons, readPlaces_part (by rw [if_pos rfl, firstItem_part hstart hpart.starts]),
        atPlace_iff hfield hpart (hbehind.ends (by decide) rest), ← hplaces, ← exists_and_right]
      refine exists_congr fun value => (and_congr_right fun _ => ?_).trans and_assoc.symm
      exact readPlaces_behind hbehind (fun p hp => hparts p (List.mem_cons_of_mem part hp)) hfields
        (Nat.succ_ne_zero 0) fun field' h => (hafter field' h).get_put' value _

end Places

/-! ### Both -/

/-- A record from a value; as its brackets are closed, what follows it does not matter. -/
theorem read_iff {record : σ} {text rest rest' : Octets} (hwell : WellFormed text) :
    layout.shape.reader.read (text ++ rest) = .ok (record, rest') ↔
      layout.Written record text ∧ rest' = rest := by
  constructor
  · intro h
    obtain ⟨b, text', rfl, hb⟩ := hwell.starts
    have hskip : skipBlanks (b :: text' ++ rest) = b :: (text' ++ rest) :=
      hwell.starts.skipBlanks rest
    by_cases hbrace : b = octet '\x7b'
    · subst hbrace
      obtain ⟨entries, hentries⟩ := hwell.of_brace
      obtain ⟨hmembers, rfl⟩ := (object_read_iff hentries).mp h
      exact ⟨.object hentries.isObject hmembers, rfl⟩
    · by_cases hbracket : b = octet '['
      · subst hbracket
        obtain ⟨parts, hparts⟩ := hwell.of_bracket
        obtain ⟨hplaces, rfl⟩ := (places_read_iff hparts).mp h
        exact ⟨.list hparts.isList hplaces, rfl⟩
      · simp only [Shape.reader, hskip, if_neg hbrace, if_neg hbracket] at h
        cases h
  · rintro ⟨⟨hobject, hmembers⟩ | ⟨hlist, hplaces⟩, rfl⟩
    · exact (object_read_iff ⟨hobject, hmembers.proper⟩).mpr ⟨hmembers, rfl⟩
    · exact (places_read_iff ⟨hlist, hplaces.wellFormed fun _ hfield => hfield⟩).mpr
        ⟨hplaces, rfl⟩

/-- **The reader of a shape reads what is written for its records.** -/
theorem shape_reads (layout : Layout σ) : layout.shape.reader.Reads layout.Written where
  skips bytes := by simp only [Shape.reader, skipBlanks_skipBlanks]
  wellFormed := by
    rintro _ _ (⟨h, hmembers⟩ | ⟨h, hplaces⟩)
    · exact HasEntries.wellFormed ⟨h, hmembers.proper⟩
    · exact .list h (hplaces.wellFormed fun _ hfield => hfield)
  read_iff hwell _ := read_iff hwell
  sound {bytes record rest} h := by
    rcases hbytes : skipBlanks bytes with _ | ⟨b, inside⟩
    · simp only [Shape.reader, hbytes] at h
      cases h
    · by_cases hbrace : b = octet '\x7b'
      · subst hbrace
        rw [read_brace layout.shape hbytes] at h
        obtain ⟨found, hall, -⟩ := readObject_iff.mp h
        obtain ⟨entries, text, hentries, rfl⟩ := (readAll_sound hall).entries
        rw [← read_brace layout.shape (skipBlanks_cons (b := octet '\x7b') (by decide) _)] at h
        exact leading (.object hentries.isObject (object_read_iff hentries |>.mp h).1) hbytes
      · by_cases hbracket : b = octet '['
        · subst hbracket
          rw [read_bracket layout.shape hbytes] at h
          have hholds := h
          rw [layout.members_eq] at hholds
          have hall : ∀ field ∈ layout.fields, field ∈ layout.fields := fun _ hfield => hfield
          obtain ⟨parts, text, hparts, rfl⟩ := (readPlaces_holds hall hholds).items
          rw [← read_bracket layout.shape (skipBlanks_cons (b := octet '[') (by decide) _)] at h
          exact leading (.list hparts.isList (places_read_iff hparts |>.mp h).1) hbytes
        · simp only [Shape.reader, hbytes, if_neg hbrace, if_neg hbracket] at h
          cases h

/-- What is written for a record is read as it, behind blanks and whatever follows. -/
theorem read_of_written {record : σ} {blanks text : Octets} (hblanks : Blanks blanks)
    (h : layout.Written record text) (rest : Octets) :
    layout.shape.reader.read (blanks ++ (text ++ rest)) = .ok (record, rest) := by
  have hwell := layout.shape_reads.wellFormed h
  rw [← layout.shape_reads.skips, hwell.starts.skipBlanks_append hblanks]
  exact (read_iff hwell).mpr ⟨h, rfl⟩

/-! ### Lists of records -/

/-- A field for a list of records, which may be absent. -/
def listField {τ : Type} (item : Layout τ) (name : String) (get : σ → Option (List τ))
    (put : Option (List τ) → σ → σ) : Field σ :=
  .optional name [] (.list item.shape.format) (ListOf item.Written) get put

theorem listField_reads {τ : Type} (item : Layout τ) (name : String) (get : σ → Option (List τ))
    (put : Option (List τ) → σ → σ) :
    (item.listField name get put).format.reader.Reads (item.listField name get put).form :=
  optional_reads (list_reads item.shape_reads) fun _ => ListOf.ne_null

end ListingReview.Json.Layout
